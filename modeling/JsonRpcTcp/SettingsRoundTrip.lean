import JsonRpcTcp.SettingsStores

namespace JsonRpcTcp

/-- Where a file verifies, the selected one does. -/
theorem Disk.selected_verifies {disk : Disk} {file : FileName} (verified : disk.verifyCheckSum file = true) :
    disk.verifyCheckSum disk.selected = true := by
  unfold selected
  split_ifs with main
  · exact (Bool.and_eq_true_iff.mp main).1
  · cases file with
    | bkup => exact verified
    | main =>
      rw [verified, Bool.true_and] at main
      cases bkup : disk.verifyCheckSum .bkup with
      | true => rfl
      | false =>
        rw [bkup] at main
        exact absurd rfl main

namespace SettingsSystem
variable {s t : SettingsSystem} {settings : Settings}

/-- A step between two calls of `Store`. -/
inductive IdleStep (s : SettingsSystem) : SettingsAction → SettingsSystem → Prop
  | load (input : LoadInput) : IdleStep s (.load input) (s.load input)
  | change (user : List SettingValue) (version : Int32) (accepts : s.ads.accepts user) :
      IdleStep s (.change user version) { s with ads := s.ads.change user version, storeResult := none }
  | closed (none : s.ads.settings = none) : IdleStep s .store (s.fail (-1))
  | store (settings : Settings) (file : FileName) (opened : s.ads.settings = some settings)
      (filed : s.ads.file = some file) (fits : s.ads.storeFits) : IdleStep s .store (s.beginStore settings file)
  | unfiled (settings : Settings) (t : SettingsSystem) (opened : s.ads.settings = some settings)
      (unfiled : ¬ (s.ads.file.isSome = true ∧ s.ads.filepath.isSome = true)) : IdleStep s .store t
  | crash (fresh : ADSettings) (same : s.ads.Fresh fresh) : IdleStep s (.crash fresh)
      { s with ads := fresh, pc := .idle, storeResult := none, settled := false }

theorem idleStep_of_step {action : SettingsAction} (idle : s.pc = .idle) (next : s.step action = some t) :
    IdleStep s action t := by
  unfold SettingsSystem.step at next
  cases action with
  | load input =>
    obtain ⟨_, rfl⟩ := onlyIf_eq_some.mp next
    exact .load input
  | change user version =>
    obtain ⟨⟨_, accepts⟩, rfl⟩ := onlyIf_eq_some.mp next
    exact .change user version accepts
  | crash fresh =>
    obtain ⟨same, rfl⟩ := onlyIf_eq_some.mp next
    exact .crash fresh same
  | store =>
    simp only [idle] at next
    cases opened : s.ads.settings with
    | none =>
      simp only [opened] at next
      cases next
      exact .closed opened
    | some settings =>
      cases filepath : s.ads.filepath with
      | none => exact .unfiled settings t opened fun both => by simp [filepath] at both
      | some name =>
        cases filed : s.ads.file with
        | none => exact .unfiled settings t opened fun both => by simp [filed] at both
        | some file =>
          simp only [opened, filepath, filed] at next
          obtain ⟨fits, rfl⟩ := onlyIf_eq_some.mp next
          exact .store settings file opened filed fits
  | returns =>
    have returning := (onlyIf_eq_some.mp next).1
    rw [idle] at returning
    cases returning
  | _ =>
    simp only [idle] at next
    cases next

/-- Every `Store` that saves has values that lines of the file can hold, and the process is
not cut off. -/
def StoresStorable (s : SettingsSystem) : SettingsAction → Prop
  | .store => s.ads.settings.isSome = true → s.ads.changed = true → s.ads.values.Storable
  | .crash _ => False
  | _ => True

instance (s : SettingsSystem) (action : SettingsAction) : Decidable (s.StoresStorable action) := by
  cases action with
  | store => exact inferInstanceAs (Decidable (_ → _ → _))
  | crash fresh => exact instDecidableFalse
  | _ => exact instDecidableTrue

/-- `Store` is not called. -/
def NoStore (_ : SettingsSystem) : SettingsAction → Prop
  | .store => False
  | _ => True

instance (s : SettingsSystem) (action : SettingsAction) : Decidable (s.NoStore action) := by
  cases action with
  | store => exact instDecidableFalse
  | _ => exact instDecidableTrue

/-- What holds while every `Store` that saves has storable values. -/
structure Base (s : SettingsSystem) : Prop where
  distinct : s.ads.values.addresses.Nodup
  idle : s.pc = .idle → s.Idle
  busy : s.pc ≠ .idle → (∃ settings, s.Busy settings) ∧ s.ads.values.Storable

theorem Base.of_idle (distinct : s.ads.values.addresses.Nodup) (pc : s.pc = .idle) (idle : s.Idle) : s.Base :=
  ⟨distinct, fun _ => idle, fun running => absurd pc running⟩

theorem Idle.of_opened {settings : Settings} (current : s.ads.settings = some settings) (opened : s.Opened settings) :
    s.Idle := by
  refine ⟨fun closed => ?_, fun other same => ?_⟩
  · rw [current] at closed
    cases closed
  · rw [current] at same
    cases same
    exact opened

theorem beginStore_pc (opened : s.Opened settings) (distinct : s.ads.values.addresses.Nodup) (file : FileName)
    (idle : s.pc = .idle) (unchanged : s.ads.changed = false) : (s.beginStore settings file).pc = .idle := by
  rw [(opened.beginStore_unchanged distinct file unchanged).1]
  exact idle

theorem Base.step (base : s.Base) {action : SettingsAction} (storable : s.StoresStorable action)
    (next : s.step action = some t) : t.Base := by
  by_cases pc : s.pc = .idle
  · have idle := base.idle pc
    cases idleStep_of_step pc next with
    | load input =>
      have same := ADSettings.addresses_of_declares (s.ads.load_declares input s.disk)
      exact .of_idle (Eq.subst (motive := List.Nodup) same.symm base.distinct) pc (idle.load input)
    | change user version accepts =>
      have declares : (s.ads.change user version).declares = s.ads.declares := ADSettings.change_declares accepts
      have same := ADSettings.addresses_of_declares declares
      refine .of_idle (Eq.subst (motive := List.Nodup) same.symm base.distinct) pc ⟨idle.closed, ?_⟩
      intro settings opened
      exact (idle.opened settings opened).change accepts version none
    | closed none =>
      refine .of_idle base.distinct rfl ⟨idle.closed, fun settings opened => ?_⟩
      have some : s.ads.settings = some settings := opened
      rw [none] at some
      cases some
    | store settings file current filed fits =>
      have opened := idle.opened settings current
      cases changed : s.ads.changed with
      | true =>
        obtain ⟨after, busy, opening, values, declares, _⟩ :=
          opened.beginStore_changed base.distinct file filed fits changed
        have same := ADSettings.addresses_of_declares declares
        have present := Option.isSome_of_eq_some current
        have fine := (storable present changed).bump (s.ads.seqCount.value + 1)
        refine ⟨Eq.subst (motive := List.Nodup) same.symm base.distinct, fun idle => ?_, fun _ => ⟨⟨after, busy⟩, ?_⟩⟩
        · exact absurd idle busy.pc_ne
        · exact Eq.subst (motive := Snapshot.Storable) values.symm fine
      | false =>
        obtain ⟨equation, after⟩ := opened.beginStore_unchanged base.distinct file changed
        have idle' := beginStore_pc opened base.distinct file pc changed
        have current' : (s.beginStore settings file).ads.settings = some (settings.putAll s.ads.values.texts) := by
          rw [equation]
          rfl
        refine .of_idle ?_ idle' (.of_opened current' after)
        rw [equation]
        dsimp only
        rw [ADSettings.storeEntries_values]
        exact base.distinct
    | unfiled settings t' current unfiled => exact absurd (idle.opened settings current).filed unfiled
    | crash fresh same => exact storable.elim
  · obtain ⟨⟨settings, busy⟩, fine⟩ := base.busy pc
    rcases busy.step next with ⟨busy', ⟨file, ads⟩, _⟩ | ⟨behind, result, _, rfl⟩ | ⟨returning, rfl⟩ | ⟨fresh, rfl⟩
    · have values : t.ads.values = s.ads.values := by
        rw [ads]
        rfl
      refine ⟨?_, fun idle => absurd idle busy'.pc_ne, fun _ => ⟨⟨settings, busy'⟩, ?_⟩⟩
      · rw [values]
        exact base.distinct
      · rw [values]
        exact fine
    · exact .of_idle base.distinct rfl (.of_opened busy.opened (busy.fail behind result))
    · have opened : Opened { s with pc := .idle, storeResult := some 0, returned := some s.ads.values, begun := []
                                    settled := true } settings :=
        ⟨busy.there, busy.held, by rw [busy.written.metaInt.2.1]; rfl, (busy.returned returning fine).2, busy.filed,
          busy.copied.hasCopies⟩
      exact .of_idle base.distinct rfl (.of_opened busy.opened opened)
    · exact storable.elim

/-- A `Store` that saved: what a fresh object loads is what was stored exactly when all values are storable. -/
theorem Busy.freshLoadGives_iff (busy : s.Busy settings) (returning : s.pc = .returning) :
    s.ads.FreshLoadGives s.disk s.ads.values ↔ s.ads.values.Storable := by
  obtain ⟨target, content, verified, behind⟩ := busy.returning returning
  constructor
  · intro gives
    obtain ⟨found, after, inside, opens, loads⟩ := ADSettings.loads_of_freshLoadGives busy.there gives
    rcases eq_or_ne s.disk.selected target with here | different
    · rw [here, content] at inside
      cases inside
      exact busy.written.storable_of_loads busy.held opens loads
    · -- the other file would have the new sequence count
      obtain ⟨old, counter⟩ := loads ⟨.metaData, seqCountKey, .int s.ads.seqCount.value⟩
        (List.mem_append_right _ (List.mem_cons_of_mem _ List.mem_cons_self))
      have count := contentSeq_of_open opens (Settings.metaInt_of_load counter)
      obtain ⟨content', inside', covered⟩ := Disk.verifyCheckSum_iff.mp (Disk.selected_verifies verified)
      rw [inside] at inside'
      cases inside'
      rw [FileName.eq_other different] at covered
      have order := behind found covered
      omega
  · intro storable
    obtain ⟨⟨best, verified', beats, saved⟩, _⟩ := busy.returned returning storable
    obtain ⟨after, opens, reads⟩ := busy.reads_save storable
    refine ADSettings.freshLoadGives_of_holds busy.there (ADSettings.declares_values s.ads).symm ?_
    refine ⟨settings.save, after, ?_, opens, reads⟩
    rw [Disk.selected_of_beats verified' beats]
    exact saved

theorem base_start {ads : ADSettings} {disk : Disk} (distinct : ads.values.addresses.Nodup)
    (new : ads.settings = none) (sound : disk.Sound) : (start ads disk).Base := by
  refine .of_idle distinct rfl ⟨fun _ => sound, fun settings opened => ?_⟩
  have some : ads.settings = some settings := opened
  rw [new] at some
  cases some

/-- A call of `Store`, storable or not. -/
theorem Base.store (base : s.Base) (next : s.step .store = some t) : t.pc = .idle ∨ ∃ settings, t.Busy settings := by
  by_cases pc : s.pc = .idle
  · have idle := base.idle pc
    cases idleStep_of_step pc next with
    | closed none => exact .inl rfl
    | store settings file current filed fits =>
      have opened := idle.opened settings current
      cases changed : s.ads.changed with
      | true =>
        obtain ⟨after, busy, _⟩ := opened.beginStore_changed base.distinct file filed fits changed
        exact .inr ⟨after, busy⟩
      | false => exact .inl (beginStore_pc opened base.distinct file pc changed)
    | unfiled settings t' current unfiled => exact absurd (idle.opened settings current).filed unfiled
  · obtain ⟨⟨settings, busy⟩, _⟩ := base.busy pc
    rcases busy.step next with ⟨busy', _⟩ | ⟨_, _, _, rfl⟩ | ⟨_, rfl⟩ | ⟨_, impossible⟩
    · exact .inr ⟨settings, busy'⟩
    · exact .inl rfl
    · exact .inl rfl
    · cases impossible

theorem busy_step (before : s.pc = .idle ∨ ∃ settings, s.Busy settings) {action : SettingsAction}
    (other : s.NoStore action) (next : s.step action = some t) : t.pc = .idle ∨ ∃ settings, t.Busy settings := by
  rcases before with idle | ⟨settings, busy⟩
  · cases idleStep_of_step idle next with
    | load input => exact .inl idle
    | change user version accepts => exact .inl idle
    | closed _ => exact other.elim
    | store _ _ _ _ _ => exact other.elim
    | unfiled _ _ _ _ => exact other.elim
    | crash fresh same => exact .inl rfl
  · rcases busy.step next with ⟨busy', _⟩ | ⟨_, _, _, rfl⟩ | ⟨_, rfl⟩ | ⟨fresh, rfl⟩
    · exact .inr ⟨settings, busy'⟩
    · exact .inl rfl
    · exact .inl rfl
    · obtain ⟨_, rfl⟩ := onlyIf_eq_some.mp next
      exact .inl rfl

end SettingsSystem
end JsonRpcTcp
