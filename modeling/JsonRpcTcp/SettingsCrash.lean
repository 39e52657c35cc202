import JsonRpcTcp.SettingsSettled

namespace JsonRpcTcp

namespace Disk
variable {disk after : Disk} {target : FileName}

/-- While one file is written, the other one stands for all that a checksum covers. -/
def Fallback (disk : Disk) (target : FileName) : Prop :=
  (∀ file, (disk file).checksum = none) ∨ disk.verifyCheckSum target.other = true ∧ disk.Beats target.other

theorem Fallback.sound (fallback : disk.Fallback target) : disk.Sound := by
  rcases fallback with none | ⟨verified, beats⟩
  · exact .inl none
  · exact .inr ⟨target.other, verified, beats⟩

/-- A step that leaves the other file alone, and covers nothing new. -/
theorem Fallback.keep (fallback : disk.Fallback target) (other : after target.other = disk target.other)
    (checksum : ∀ covered, (after target).checksum = some covered → (disk target).checksum = some covered) :
    after.Fallback target := by
  rcases fallback with none | ⟨verified, beats⟩
  · refine .inl fun file => ?_
    rcases eq_or_ne file target with rfl | different
    · cases here : (after file).checksum with
      | none => rfl
      | some covered =>
        have before := checksum covered here
        rw [none file] at before
        cases before
    · rw [FileName.eq_other different, other]
      exact none target.other
  · refine .inr ⟨?_, fun covered here => ?_⟩
    · unfold verifyCheckSum at verified ⊢
      rw [other]
      exact verified
    · rw [FileName.other_other] at here
      rw [other]
      refine beats covered ?_
      rw [FileName.other_other]
      exact checksum covered here

theorem Fallback.write (fallback : disk.Fallback target) (content : List Byte) :
    (disk.write target content).Fallback target := by
  refine fallback.keep (write_other target.other_ne content) fun covered checksum => ?_
  rw [write_checksum] at checksum
  exact checksum

theorem Fallback.writeSum (fallback : disk.Fallback target) : (disk.writeSum target none).Fallback target := by
  refine fallback.keep (writeSum_other target.other_ne none) fun covered checksum => ?_
  rw [writeSum_checksum] at checksum
  cases checksum

theorem Fallback.beats (fallback : disk.Fallback target) (verified : disk.verifyCheckSum target.other = true) :
    disk.Beats target.other := by
  rcases fallback with none | ⟨_, beats⟩
  · obtain ⟨_, _, checksum⟩ := verifyCheckSum_iff.mp verified
    rw [none target.other] at checksum
    cases checksum
  · exact beats

theorem Sound.beats_selected (sound : disk.Sound) (verified : disk.verifyCheckSum disk.selected = true) :
    disk.Beats disk.selected := by
  rcases sound with none | ⟨file, verified', beats⟩
  · obtain ⟨_, _, checksum⟩ := verifyCheckSum_iff.mp verified
    rw [none disk.selected] at checksum
    cases checksum
  · rw [selected_of_beats verified' beats]
    exact beats

/-- Where some file verifies, the other file is the selected one. -/
theorem Fallback.selected (fallback : disk.Fallback target) {file : FileName}
    (verified : disk.verifyCheckSum file = true) :
    disk.selected = target.other ∧ disk.verifyCheckSum target.other = true := by
  rcases fallback with none | ⟨verified', beats⟩
  · obtain ⟨_, _, checksum⟩ := verifyCheckSum_iff.mp verified
    rw [none file] at checksum
    cases checksum
  · exact ⟨selected_of_beats verified' beats, verified'⟩

end Disk

namespace SettingsSystem
open ADSettings
variable {s t : SettingsSystem} {settings : Settings} {values : Snapshot}

/-- As `StoresSettled`, but a `Store` that has nothing to save moreover finds that the
checksum of its file verifies, no `Store` opens the only file that verifies, and the process
may be cut off. -/
def CrashSafe (s : SettingsSystem) : SettingsAction → Prop
  | .store => s.ads.settings.isSome = true →
      (s.ads.changed = true → s.ads.values.Storable) ∧
        (s.ads.changed = false → s.settled = true ∧ ∃ file ∈ s.ads.file, s.disk.verifyCheckSum file = true)
  | .openFile =>
    match s.pc with
    | .opening target _ => s.disk.verifyCheckSum target = true → s.disk.verifyCheckSum target.other = true
    | _ => True
  | _ => True

/-- The file that `Save` opens in this step. -/
def opens (s : SettingsSystem) : SettingsAction → Option FileName
  | .openFile =>
    match s.pc with
    | .opening target _ => some target
    | _ => none
  | _ => none

theorem crashSafe_iff (s : SettingsSystem) (action : SettingsAction) :
    (storing action = true → s.CrashSafe .store) ∧
        (∀ target ∈ s.opens action, s.disk.verifyCheckSum target = true → s.disk.verifyCheckSum target.other = true) ↔
      s.CrashSafe action := by
  cases action with
  | store => exact ⟨fun both => both.1 rfl, fun safe => ⟨fun _ => safe, fun _ none => absurd none (Option.not_mem_none _)⟩⟩
  | openFile =>
    unfold CrashSafe opens
    cases s.pc with
    | opening target text =>
      refine ⟨fun both => both.2 target rfl, fun safe => ⟨fun store => absurd store Bool.false_ne_true, fun file same => ?_⟩⟩
      cases same
      exact safe
    | _ =>
      exact ⟨fun _ => trivial, fun _ => ⟨fun store => absurd store Bool.false_ne_true,
        fun _ none => absurd none (Option.not_mem_none _)⟩⟩
  | _ =>
    exact ⟨fun _ => trivial, fun _ => ⟨fun store => absurd store Bool.false_ne_true,
      fun _ none => absurd none (Option.not_mem_none _)⟩⟩

instance (s : SettingsSystem) (action : SettingsAction) : Decidable (s.CrashSafe action) :=
  have : Decidable (s.CrashSafe .store) := inferInstanceAs (Decidable (_ → (_ → _) ∧ (_ → _ ∧ _)))
  decidable_of_iff _ (crashSafe_iff s action)

/-- `MetaData.file` outdoes the other file, if its checksum verifies. -/
def Best (s : SettingsSystem) : Prop :=
  ∀ file, s.ads.file = some file → s.disk.verifyCheckSum file = true → s.disk.Beats file

/-- What the files guarantee at each point of `Store`. -/
def Guarded (s : SettingsSystem) : Prop :=
  match s.pc with
  | .idle => s.disk.Sound ∧ (s.ads.settings.isSome = true → s.Best)
  | .opening target _ => s.disk.Sound ∧ s.ads.file = some target.other ∧ s.Best
  | .writing target _ => s.ads.file = some target.other ∧ s.disk.Fallback target
  | .summing target | .hashing target => s.ads.file = some target ∧ s.disk.Fallback target
  | .returning => s.disk.Sound ∧ s.Best

theorem Guarded.sound (guarded : s.Guarded) : s.disk.Sound := by
  unfold Guarded at guarded
  cases here : s.pc with
  | idle =>
    simp only [here] at guarded
    exact guarded.1
  | opening target text =>
    simp only [here] at guarded
    exact guarded.1
  | writing target rest =>
    simp only [here] at guarded
    exact guarded.2.sound
  | summing target =>
    simp only [here] at guarded
    exact guarded.2.sound
  | hashing target =>
    simp only [here] at guarded
    exact guarded.2.sound
  | returning =>
    simp only [here] at guarded
    exact guarded.1

theorem Guarded.of_idle (pc : s.pc = .idle) (sound : s.disk.Sound) (best : s.ads.settings.isSome = true → s.Best) :
    s.Guarded := by
  unfold Guarded
  simp only [pc]
  exact ⟨sound, best⟩

/-- A file is opened for writing only while the other one verifies, or none does. -/
theorem Guarded.fallback (guarded : s.Guarded) {target : FileName} {text : List Byte}
    (pc : s.pc = .opening target text) (safe : s.CrashSafe .openFile) : s.disk.Fallback target := by
  unfold Guarded at guarded
  unfold CrashSafe at safe
  simp only [pc] at guarded safe
  obtain ⟨sound, filed, best⟩ := guarded
  have stands : s.disk.verifyCheckSum target.other = true → s.disk.Fallback target :=
    fun verified => .inr ⟨verified, best target.other filed verified⟩
  rcases sound with none | ⟨file, verified, _⟩
  · exact .inl none
  · rcases eq_or_ne file target with rfl | different
    · exact stands (safe verified)
    · rw [FileName.eq_other different] at verified
      exact stands verified

theorem Guarded.idle_step (guarded : s.Guarded) (pc : s.pc = .idle) (base : s.Base) {action : SettingsAction}
    (step : IdleStep s action t) : t.Guarded := by
  have idle := base.idle pc
  unfold Guarded at guarded
  simp only [pc] at guarded
  obtain ⟨sound, best⟩ := guarded
  cases step with
  | load input =>
    obtain ⟨touched, spec⟩ := s.ads.load_cases input s.disk
    have after := sound.touched touched
    refine .of_idle pc after fun present => ?_
    rcases spec with ⟨_, same, _, failed⟩ | ⟨_, _, check, settings, loaded, _⟩
    · obtain ⟨settings, opened⟩ := Option.isSome_iff_exists.mp present
      have before : s.ads.settings = some settings := same.symm.trans opened
      rw [idle.closed_of_failed failed] at before
      cases before
    · have keeps := s.ads.attached_keeps input check (s.ads.load input s.disk).disk.selected
      have selected : (s.ads.load input s.disk).ads.file = some (s.ads.load input s.disk).disk.selected := by
        rw [loaded]
        exact keeps.2.2.1
      intro file filed verified
      have same : file = (s.ads.load input s.disk).disk.selected := Option.some.inj (filed.symm.trans selected)
      subst same
      exact after.beats_selected verified
  | change user version accepts => exact .of_idle pc sound best
  | closed none => exact .of_idle rfl sound best
  | store settings file current filed fits =>
    have opened := idle.opened settings current
    have present := Option.isSome_of_eq_some current
    cases changed : s.ads.changed with
    | true =>
      obtain ⟨after, _, opening, _, _, filed', _, disk, _⟩ :=
        opened.beginStore_changed base.distinct file filed fits changed
      unfold Guarded
      simp only [opening]
      refine ⟨?_, ?_, ?_⟩
      · rw [disk]
        exact sound
      · rw [filed', FileName.other_other]
      · intro file' same verified
        rw [disk] at verified ⊢
        rw [filed'] at same
        exact best present file' (filed.trans same) verified
    | false =>
      rw [(opened.beginStore_unchanged base.distinct file changed).1]
      exact .of_idle pc sound fun _ => best present
  | unfiled settings t' current unfiled => exact absurd (idle.opened settings current).filed unfiled
  | crash fresh same =>
    refine .of_idle rfl sound fun present => ?_
    have fresh' : fresh.settings.isSome = true := present
    rw [same.1] at fresh'
    cases fresh'

/-- The new file does not verify before its checksum is made. -/
theorem Busy.best (busy : s.Busy settings) (storable : s.ads.values.Storable) (behind : s.Behind) {target : FileName}
    (filed : s.ads.file = some target) (saved : (s.disk target).content = some settings.save) : s.Best := by
  intro file same verified
  have here : target = file := Option.some.inj (filed.symm.trans same)
  subst here
  obtain ⟨content, inside, checksum⟩ := Disk.verifyCheckSum_iff.mp verified
  rw [saved] at inside
  cases inside
  have less := behind target settings.save checksum
  have count := busy.contentSeq_save storable
  omega

theorem Guarded.store_step (guarded : s.Guarded) (busy : s.Busy settings) (storable : s.ads.values.Storable)
    {action : SettingsAction} (safe : s.CrashSafe action) (step : StoreStep s action t) : t.Guarded := by
  have files := guarded
  have phase := busy.phase
  unfold Guarded at files
  unfold Phase at phase
  cases step with
  | openFails target text pc =>
    simp only [pc] at files
    exact .of_idle rfl files.1 fun _ => files.2.2
  | openFile target text pc =>
    have fallback := guarded.fallback pc safe
    simp only [pc] at files
    exact ⟨files.2.1, fallback.write []⟩
  | write target rest count pc =>
    simp only [pc] at files
    exact ⟨files.1, files.2.write _⟩
  | writeFails target rest pc =>
    simp only [pc] at files
    obtain ⟨filed, fallback⟩ := files
    refine .of_idle rfl fallback.sound fun _ file same verified => ?_
    have here : target.other = file := Option.some.inj (filed.symm.trans same)
    subst here
    exact fallback.beats verified
  | written target pc =>
    simp only [pc] at files
    obtain ⟨filed, fallback⟩ := files
    refine ⟨?_, fallback⟩
    dsimp only
    rw [filed, Option.map_some, FileName.other_other]
  | sumFails target status pc failed =>
    simp only [pc] at files phase
    exact .of_idle rfl files.2.sound fun _ => busy.best storable phase.1 files.1 phase.2
  | openSum target pc =>
    simp only [pc] at files
    exact ⟨files.1, files.2.writeSum⟩
  | hashFails target status pc failed =>
    simp only [pc] at files phase
    exact .of_idle rfl files.2.sound fun _ => busy.best storable phase.1 files.1 phase.2
  | hash target pc =>
    simp only [pc] at files phase
    have count := busy.contentSeq_save storable
    have content : (s.disk.writeSum target (s.disk target).content target).content = some settings.save := by
      rw [Disk.writeSum_content]
      exact phase.2
    have verified : (s.disk.writeSum target (s.disk target).content).verifyCheckSum target = true := by
      refine Disk.verifyCheckSum_iff.mpr ⟨settings.save, content, ?_⟩
      rw [Disk.writeSum_checksum]
      exact phase.2
    have beats : (s.disk.writeSum target (s.disk target).content).Beats target := by
      intro covered checksum
      rw [Disk.writeSum_other target.other_ne] at checksum
      have less := phase.1 target.other covered checksum
      rw [content, count]
      exact ⟨le_of_lt less, fun _ => less⟩
    refine ⟨.inr ⟨target, verified, beats⟩, fun file same _ => ?_⟩
    have here : target = file := Option.some.inj (files.1.symm.trans same)
    subst here
    exact beats
  | returns pc =>
    simp only [pc] at files
    exact .of_idle rfl files.1 fun _ => files.2
  | crash fresh same =>
    refine .of_idle rfl guarded.sound fun present => ?_
    have fresh' : fresh.settings.isSome = true := present
    rw [same.1] at fresh'
    cases fresh'

/-- The selected file verifies and holds one of these values. -/
def Holds (s : SettingsSystem) (candidates : List Snapshot) : Prop :=
  s.disk.Exists ∧ s.disk.verifyCheckSum s.disk.selected = true ∧ ∃ values ∈ candidates,
    values.user.map SettingEntry.declares = s.ads.declares ∧ SelectedHolds s.disk values

/-- The other file is not touched and stays the selected one. -/
theorem Holds.fallback {candidates : List Snapshot} (holds : s.Holds candidates) {target : FileName}
    (before : s.disk.Fallback target) (after : t.disk.Fallback target) (there : t.disk.Exists)
    (other : t.disk target.other = s.disk target.other) (ads : t.ads.declares = s.ads.declares) :
      t.Holds candidates := by
  obtain ⟨_, verified, values, member, declared, content, settings, inside, opens, reads⟩ := holds
  obtain ⟨selected, verified'⟩ := before.selected verified
  have verified'' : t.disk.verifyCheckSum target.other = true := by
    unfold Disk.verifyCheckSum at verified' ⊢
    rw [other]
    exact verified'
  have selected' := (after.selected verified'').1
  refine ⟨there, ?_, values, member, declared.trans ads.symm, content, settings, ?_, opens, reads⟩
  · rw [selected']
    exact verified''
  · rw [selected', other, ← selected]
    exact inside

theorem Holds.keep {candidates more : List Snapshot} (holds : s.Holds candidates) (disk : t.disk = s.disk)
    (ads : t.ads.declares = s.ads.declares) (kept : ∀ values ∈ candidates, values ∈ more) : t.Holds more := by
  obtain ⟨there, verified, values, member, declared, inside⟩ := holds
  refine ⟨?_, ?_, values, kept values member, declared.trans ads.symm, ?_⟩
  · rw [disk]
    exact there
  · rw [disk]
    exact verified
  · rw [disk]
    exact inside

/-- What holds in every state, also behind a cut. -/
structure Survives (s : SettingsSystem) : Prop where
  base : s.Base
  settled : s.settled = true → ∃ settings values, s.Settled settings values
  guarded : s.Guarded
  pending : s.pc ≠ .idle → s.ads.values ∈ s.begun
  holds : ∀ values, s.returned = some values → s.Holds (values :: s.begun)

theorem CrashSafe.settled {action : SettingsAction} (safe : s.CrashSafe action)
    (stays : ∀ fresh, action ≠ .crash fresh) :
    s.StoresSettled action := by
  cases action with
  | store => exact fun opened => ⟨(safe opened).1, fun unchanged => ((safe opened).2 unchanged).1⟩
  | crash fresh => exact stays fresh rfl
  | _ => exact trivial

/-- A `Store` that saved and is about to return, or has just returned. -/
theorem Busy.holds (busy : s.Busy settings) (returning : s.pc = .returning) (storable : s.ads.values.Storable)
    (ads : t.ads = s.ads) (disk : t.disk = s.disk) {candidates : List Snapshot} (member : s.ads.values ∈ candidates) :
    t.Holds candidates := by
  obtain ⟨⟨target, verified, _⟩, _⟩ := busy.returned returning storable
  have settled := busy.settled returning storable t ads disk
  refine ⟨?_, ?_, s.ads.values, member, settled.declared.symm, settled.holds⟩
  · rw [disk]
    exact busy.there
  · rw [disk]
    exact Disk.selected_verifies verified

/-- Between two calls nothing is written. -/
theorem Survives.idle_step (survives : s.Survives) (pc : s.pc = .idle) {action : SettingsAction}
    (safe : s.CrashSafe action) (step : IdleStep s action t) :
    (t.pc ≠ .idle → t.ads.values ∈ t.begun) ∧ ∀ values, t.returned = some values → t.Holds (values :: t.begun) := by
  have idle := survives.base.idle pc
  cases step with
  | load input =>
    refine ⟨fun running => absurd pc running, fun values returned => ?_⟩
    have holds := survives.holds values returned
    have disk := (s.ads.load_cases input s.disk).1.of_exists holds.1
    exact holds.keep disk (s.ads.load_declares input s.disk) fun _ member => member
  | change user version accepts =>
    refine ⟨fun running => absurd pc running, fun values returned => ?_⟩
    exact (survives.holds values returned).keep rfl (ADSettings.change_declares accepts) fun _ member => member
  | closed none =>
    refine ⟨fun running => absurd rfl running, fun values returned => ?_⟩
    exact (survives.holds values returned).keep rfl rfl fun _ member => member
  | store settings file current filed fits =>
    have opened := idle.opened settings current
    have present := Option.isSome_of_eq_some current
    cases changed : s.ads.changed with
    | true =>
      obtain ⟨after, _, _, _, declares, _, begun, disk, same⟩ :=
        opened.beginStore_changed survives.base.distinct file filed fits changed
      refine ⟨fun _ => ?_, fun values returned => ?_⟩
      · rw [begun]
        exact List.mem_append_right _ List.mem_cons_self
      · rw [same] at returned
        refine (survives.holds values returned).keep disk declares fun candidate member => ?_
        rw [begun]
        rcases List.mem_cons.mp member with rfl | earlier
        · exact List.mem_cons_self
        · exact List.mem_cons_of_mem _ (List.mem_append_left _ earlier)
    | false =>
      obtain ⟨whole, best, _, verified⟩ := (safe present).2 changed
      obtain ⟨settings', values, settled⟩ := survives.settled whole
      have same := settled.current
      rw [current] at same
      cases same
      have after := (settled.unchanged opened survives.base.distinct file changed).1
      have equation := (opened.beginStore_unchanged survives.base.distinct file changed).1
      rw [equation] at after ⊢
      refine ⟨fun running => absurd pc running, fun values' returned => ?_⟩
      cases returned
      exact ⟨opened.there, Disk.selected_verifies verified, s.ads.values, List.mem_cons_self, after.declared.symm,
        after.holds⟩
  | unfiled settings t' current unfiled => exact absurd (idle.opened settings current).filed unfiled
  | crash fresh same =>
    refine ⟨fun running => absurd rfl running, fun values returned => ?_⟩
    exact (survives.holds values returned).keep rfl same.2.2 fun _ member => member

/-- While `Store` runs, the file that it does not write keeps what it holds. -/
theorem Survives.store_step (survives : s.Survives) (running : s.pc ≠ .idle) {action : SettingsAction}
    (safe : s.CrashSafe action) (after : t.pc ≠ .idle → (∃ settings, t.Busy settings) ∧ t.ads.values.Storable)
    (step : StoreStep s action t) :
    (t.pc ≠ .idle → t.ads.values ∈ t.begun) ∧ ∀ values, t.returned = some values → t.Holds (values :: t.begun) := by
  have pending := survives.pending running
  obtain ⟨⟨settings, busy⟩, storable⟩ := survives.base.busy running
  have files := survives.guarded
  unfold Guarded at files
  cases step with
  | openFile target text pc =>
    have fallback := survives.guarded.fallback pc safe
    refine ⟨fun _ => pending, fun values returned => ?_⟩
    exact (survives.holds values returned).fallback fallback (fallback.write []) (busy.there.write [])
      (Disk.write_other target.other_ne []) rfl
  | write target rest count pc =>
    simp only [pc] at files
    refine ⟨fun _ => pending, fun values returned => ?_⟩
    exact (survives.holds values returned).fallback files.2 (files.2.write _) (busy.there.write _)
      (Disk.write_other target.other_ne _) rfl
  | written target pc =>
    refine ⟨fun _ => pending, fun values returned => ?_⟩
    exact (survives.holds values returned).keep rfl rfl fun _ member => member
  | openSum target pc =>
    simp only [pc] at files
    refine ⟨fun _ => pending, fun values returned => ?_⟩
    exact (survives.holds values returned).fallback files.2 files.2.writeSum (busy.there.writeSum none)
      (Disk.writeSum_other target.other_ne none) rfl
  | hash target pc =>
    refine ⟨fun _ => pending, fun values _ => ?_⟩
    have still : StorePc.returning ≠ .idle := by decide
    obtain ⟨⟨settings', busy'⟩, storable'⟩ := after still
    exact busy'.holds rfl storable' rfl rfl (List.mem_cons_of_mem _ pending)
  | returns pc =>
    refine ⟨fun running => absurd rfl running, fun values returned => ?_⟩
    cases returned
    exact busy.holds pc storable rfl rfl List.mem_cons_self
  | openFails target text pc =>
    refine ⟨fun running => absurd rfl running, fun values returned => ?_⟩
    exact (survives.holds values returned).keep rfl rfl fun _ member => member
  | writeFails target rest pc =>
    refine ⟨fun running => absurd rfl running, fun values returned => ?_⟩
    exact (survives.holds values returned).keep rfl rfl fun _ member => member
  | sumFails target status pc failed =>
    refine ⟨fun running => absurd rfl running, fun values returned => ?_⟩
    exact (survives.holds values returned).keep rfl rfl fun _ member => member
  | hashFails target status pc failed =>
    refine ⟨fun running => absurd rfl running, fun values returned => ?_⟩
    exact (survives.holds values returned).keep rfl rfl fun _ member => member
  | crash fresh same =>
    refine ⟨fun running => absurd rfl running, fun values returned => ?_⟩
    exact (survives.holds values returned).keep rfl same.2.2 fun _ member => member

/-- A process that is cut off leaves the files to the next one. -/
theorem Survives.base_crash (survives : s.Survives) {fresh : ADSettings} (same : s.ads.Fresh fresh) :
    Base { s with ads := fresh, pc := .idle, storeResult := none, settled := false } := by
  have addresses := ADSettings.addresses_of_declares same.2.2
  refine .of_idle ?_ rfl ⟨fun _ => survives.guarded.sound, fun settings opened => ?_⟩
  · dsimp only
    rw [addresses]
    exact survives.base.distinct
  · have current : fresh.settings = some settings := opened
    rw [same.1] at current
    cases current

theorem Survives.step (survives : s.Survives) {action : SettingsAction} (safe : s.CrashSafe action)
    (next : s.step action = some t) : t.Survives := by
  have both : t.Base ∧ (t.settled = true → ∃ settings values, t.Settled settings values) := by
    by_cases cut : ∃ fresh, action = .crash fresh
    · obtain ⟨fresh, rfl⟩ := cut
      obtain ⟨same, rfl⟩ := onlyIf_eq_some.mp next
      exact ⟨survives.base_crash same, fun whole => by cases whole⟩
    · have stays : ∀ fresh, action ≠ .crash fresh := fun fresh here => cut ⟨fresh, here⟩
      have allowed := safe.settled stays
      exact ⟨survives.base.step allowed.storable next, survives.base.settled_step survives.settled allowed next⟩
  obtain ⟨base, settled⟩ := both
  by_cases pc : s.pc = .idle
  · have step := idleStep_of_step pc next
    obtain ⟨pending, holds⟩ := survives.idle_step pc safe step
    exact ⟨base, settled, survives.guarded.idle_step pc survives.base step, pending, holds⟩
  · have step := storeStep_of_step pc next
    obtain ⟨pending, holds⟩ := survives.store_step pc safe base.busy step
    obtain ⟨⟨settings, busy⟩, storable⟩ := survives.base.busy pc
    exact ⟨base, settled, survives.guarded.store_step busy storable safe step, pending, holds⟩

theorem survives_start {ads : ADSettings} {disk : Disk} (distinct : ads.values.addresses.Nodup)
    (new : ads.settings = none) (sound : disk.Sound) : (start ads disk).Survives := by
  refine ⟨base_start distinct new sound, fun whole => ?_, .of_idle rfl sound fun present => ?_,
    fun running => absurd rfl running, fun values returned => ?_⟩
  · cases whole
  · have some : ads.settings.isSome = true := present
    rw [new] at some
    cases some
  · cases returned

end SettingsSystem
end JsonRpcTcp
