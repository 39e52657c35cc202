import JsonRpcTcp.SettingsFresh

namespace JsonRpcTcp
open Function

namespace Disk
variable (disk : Disk) (file other : FileName)

@[simp] theorem write_checksum (content : List Byte) :
    (disk.write file content other).checksum = (disk other).checksum := by
  unfold write
  rcases eq_or_ne other file with rfl | different
  · rw [update_self]
  · rw [update_of_ne different]

@[simp] theorem write_content (content : List Byte) : (disk.write file content file).content = some content := by
  unfold write
  rw [update_self]

@[simp] theorem writeSum_content (checksum : Option (List Byte)) :
    (disk.writeSum file checksum other).content = (disk other).content := by
  unfold writeSum
  rcases eq_or_ne other file with rfl | different
  · rw [update_self]
  · rw [update_of_ne different]

@[simp] theorem writeSum_checksum (checksum : Option (List Byte)) :
    (disk.writeSum file checksum file).checksum = checksum := by
  unfold writeSum
  rw [update_self]

variable {disk file other}

theorem write_other (different : other ≠ file) (content : List Byte) : disk.write file content other = disk other :=
  update_of_ne different _ _

theorem writeSum_other (different : other ≠ file) (checksum : Option (List Byte)) :
    disk.writeSum file checksum other = disk other :=
  update_of_ne different _ _

theorem Exists.write (there : disk.Exists) (content : List Byte) : (disk.write file content).Exists := by
  intro another
  rcases eq_or_ne another file with rfl | different
  · rw [write_content]
    rfl
  · rw [write_other different]
    exact there another

theorem Exists.writeSum (there : disk.Exists) (checksum : Option (List Byte)) :
    (disk.writeSum file checksum).Exists := by
  intro another
  rw [writeSum_content]
  exact there another

end Disk

theorem Settings.metaInt_of_lookup {settings : Settings} {key : List Byte} {value : Int32}
    (found : settings.lookup SettingsPart.metaData.name key = some (decimal value.toInt)) :
    settings.metaInt key = some value := by
  have length := decimal_int32_length value
  have short : (decimal value.toInt).length < maxValueChars := by
    unfold maxValueChars
    omega
  unfold metaInt
  rw [SettingValue.get_of_lookup found short, Option.map_some, atoi_decimal]

namespace Snapshot
variable {values : Snapshot} {settings : Settings}

theorem Written.metaInt (written : values.Written settings) :
    settings.metaInt versionKey = some values.version ∧ settings.metaInt seqCountKey = some values.seqCount ∧
      settings.metaInt sizeKey = some values.size := by
  obtain ⟨version, seqCount, size⟩ := values.meta_mem
  exact ⟨Settings.metaInt_of_lookup (written _ version), Settings.metaInt_of_lookup (written _ seqCount),
    Settings.metaInt_of_lookup (written _ size)⟩

/-- A new sequence count is as storable as the old one. -/
theorem Storable.bump (storable : values.Storable) (next : Int32) : { values with seqCount := next }.Storable := by
  have counter : SettingEntry.Storable ⟨.metaData, seqCountKey, .int next⟩ := by
    have before := storable ⟨.metaData, seqCountKey, .int values.seqCount⟩
      (List.mem_append_right _ (List.mem_cons_of_mem _ List.mem_cons_self))
    have length := decimal_int32_length next
    refine ⟨?_, before.shortKey, ?_, rfl⟩
    · rcases (SettingValue.int next).text_number with ⟨_, _, impossible⟩ | ⟨plain, unbracketed⟩
      · cases impossible
      · exact before.carried.replace plain fun _ => unbracketed
    · show (decimal next.toInt).length < maxValueChars
      unfold maxValueChars
      omega
  intro entry member
  rcases List.mem_append.mp member with user | rest
  · exact storable entry (List.mem_append_left _ user)
  · simp only [List.mem_cons, List.not_mem_nil, or_false] at rest
    rcases rest with rfl | rfl | rfl
    · exact storable _ (List.mem_append_right _ List.mem_cons_self)
    · exact counter
    · exact storable _ (List.mem_append_right _ (List.mem_cons_of_mem _ (List.mem_cons_of_mem _ List.mem_cons_self)))

end Snapshot

namespace SettingsSystem
variable {s t : SettingsSystem} {settings : Settings}

/-- The copies that `UpdateSequenceCount` knows. -/
structure Copied (ads : ADSettings) (values : Snapshot) : Prop where
  user : ads.user.map Setting.shadow = values.user.map SettingEntry.value
  version : ads.version.shadows.head? = some values.version
  seqCount : ads.seqCount.shadows.head? = some values.seqCount
  size : ads.size.shadows.head? = some values.size

/-- Each int of the meta data has a copy. -/
structure HasCopies (ads : ADSettings) : Prop where
  version : ads.version.shadows ≠ []
  seqCount : ads.seqCount.shadows ≠ []
  size : ads.size.shadows ≠ []

/-- Between two calls, with settings that are open. -/
structure Opened (s : SettingsSystem) (settings : Settings) : Prop where
  there : s.disk.Exists
  held : settings.Held s.ads.values.addresses
  counted : (settings.metaInt seqCountKey).getD 0 = s.ads.seqCount.value
  covered : ∀ file covered, (s.disk file).checksum = some covered →
    contentSeq (some covered) ≤ s.ads.seqCount.value.toInt
  filed : s.ads.file.isSome = true ∧ s.ads.filepath.isSome = true
  copies : HasCopies s.ads

/-- No checksum was made of a content with the new sequence count. -/
def Behind (s : SettingsSystem) : Prop :=
  ∀ file covered, (s.disk file).checksum = some covered → contentSeq (some covered) < s.ads.seqCount.value.toInt

/-- What the files hold while `Store` runs. -/
def Phase (s : SettingsSystem) (settings : Settings) : Prop :=
  match s.pc with
  | .idle => False
  | .opening _ text => s.Behind ∧ text = settings.save
  | .writing target rest =>
    s.Behind ∧ ∃ written, (s.disk target).content = some written ∧ written ++ rest = settings.save
  | .summing target | .hashing target => s.Behind ∧ (s.disk target).content = some settings.save
  | .returning => ∃ target, (s.disk target).content = some settings.save ∧
      (s.disk target).checksum = some settings.save ∧ ∀ covered, (s.disk target.other).checksum = some covered →
        contentSeq (some covered) < s.ads.seqCount.value.toInt

/-- While `Store` runs, with the settings that it saves. -/
structure Busy (s : SettingsSystem) (settings : Settings) : Prop where
  opened : s.ads.settings = some settings
  there : s.disk.Exists
  held : settings.Held s.ads.values.addresses
  written : s.ads.values.Written settings
  filed : s.ads.file.isSome = true ∧ s.ads.filepath.isSome = true
  copied : Copied s.ads s.ads.values
  quiet : s.storeResult = none
  unsettled : s.settled = false
  phase : s.Phase settings

theorem Copied.hasCopies {ads : ADSettings} {values : Snapshot} (copied : Copied ads values) : HasCopies ads := by
  have nonempty : ∀ {shadows : List Int32} {value : Int32}, shadows.head? = some value → shadows ≠ [] := by
    intro shadows value first empty
    rw [empty] at first
    cases first
  exact ⟨nonempty copied.version, nonempty copied.seqCount, nonempty copied.size⟩

theorem Busy.pc_ne (busy : s.Busy settings) : s.pc ≠ .idle := by
  intro idle
  have phase := busy.phase
  unfold Phase at phase
  rw [idle] at phase
  exact phase

theorem Behind.of_checksums (behind : s.Behind) (ads : t.ads.seqCount.value = s.ads.seqCount.value)
    (checksums : ∀ file covered, (t.disk file).checksum = some covered → (s.disk file).checksum = some covered) :
    t.Behind := by
  intro file covered checksum
  rw [ads]
  exact behind file covered (checksums file covered checksum)

/-- The next phase of a `Store` that runs. -/
theorem Busy.advance (busy : s.Busy settings) {file : Option FileName} (filed : file.isSome = true)
    (there : t.disk.Exists) (ads : t.ads = { s.ads with file := file }) (storeResult : t.storeResult = s.storeResult)
    (settled : t.settled = s.settled) (phase : t.Phase settings) : t.Busy settings where
  opened := by
    rw [ads]
    exact busy.opened
  there := there
  held := by
    rw [ads]
    exact busy.held
  written := by
    rw [ads]
    exact busy.written
  filed := by
    rw [ads]
    exact ⟨filed, busy.filed.2⟩
  copied := by
    rw [ads]
    exact ⟨busy.copied.user, busy.copied.version, busy.copied.seqCount, busy.copied.size⟩
  quiet := storeResult.trans busy.quiet
  unsettled := settled.trans busy.unsettled
  phase := phase

/-- The steps of `Store` behind its first one. -/
inductive StoreStep (s : SettingsSystem) : SettingsAction → SettingsSystem → Prop
  | openFails (target : FileName) (text : List Byte) (pc : s.pc = .opening target text) :
      StoreStep s .openFails (s.fail (-1))
  | openFile (target : FileName) (text : List Byte) (pc : s.pc = .opening target text) :
      StoreStep s .openFile { s with disk := s.disk.write target [], pc := .writing target text }
  | write (target : FileName) (rest : List Byte) (count : Nat) (pc : s.pc = .writing target rest) :
      StoreStep s (.write count)
        { s with disk := s.disk.write target (((s.disk target).content.getD []) ++ rest.take count)
                 pc := .writing target (rest.drop count) }
  | writeFails (target : FileName) (rest : List Byte) (pc : s.pc = .writing target rest) :
      StoreStep s .writeFails (s.fail (-1))
  | written (target : FileName) (pc : s.pc = .writing target []) :
      StoreStep s .written { s with ads := { s.ads with file := s.ads.file.map FileName.other }, pc := .summing target }
  | sumFails (target : FileName) (status : Int) (pc : s.pc = .summing target) (failed : status ≠ 0) :
      StoreStep s (.sumFails status) (s.fail status)
  | openSum (target : FileName) (pc : s.pc = .summing target) :
      StoreStep s .openSum { s with disk := s.disk.writeSum target none, pc := .hashing target }
  | hashFails (target : FileName) (status : Int) (pc : s.pc = .hashing target) (failed : status ≠ 0) :
      StoreStep s (.hashFails status) (s.fail status)
  | hash (target : FileName) (pc : s.pc = .hashing target) :
      StoreStep s .hash { s with disk := s.disk.writeSum target (s.disk target).content, pc := .returning }
  | returns (pc : s.pc = .returning) :
      StoreStep s .returns { s with pc := .idle, storeResult := some 0, returned := some s.ads.values, begun := []
                                    settled := true }
  | crash (fresh : ADSettings) (same : s.ads.Fresh fresh) : StoreStep s (.crash fresh)
      { s with ads := fresh, pc := .idle, storeResult := none, settled := false }

theorem storeStep_of_step {action : SettingsAction} (running : s.pc ≠ .idle) (next : s.step action = some t) :
    StoreStep s action t := by
  unfold SettingsSystem.step at next
  cases action with
  | load input => exact absurd (onlyIf_eq_some.mp next).1 running
  | change user version => exact absurd (onlyIf_eq_some.mp next).1.1 running
  | crash fresh =>
    obtain ⟨same, rfl⟩ := onlyIf_eq_some.mp next
    exact .crash fresh same
  | returns =>
    obtain ⟨returning, rfl⟩ := onlyIf_eq_some.mp next
    exact .returns returning
  | store =>
    cases here : s.pc with
    | idle => exact absurd here running
    | _ =>
      simp only [here] at next
      cases next
  | openFails =>
    cases here : s.pc with
    | opening target text =>
      simp only [here] at next
      cases next
      exact .openFails target text here
    | _ =>
      simp only [here] at next
      cases next
  | openFile =>
    cases here : s.pc with
    | opening target text =>
      simp only [here] at next
      cases next
      exact .openFile target text here
    | _ =>
      simp only [here] at next
      cases next
  | write count =>
    cases here : s.pc with
    | writing target rest =>
      simp only [here] at next
      cases next
      exact .write target rest count here
    | _ =>
      simp only [here] at next
      cases next
  | writeFails =>
    cases here : s.pc with
    | writing target rest =>
      simp only [here] at next
      cases next
      exact .writeFails target rest here
    | _ =>
      simp only [here] at next
      cases next
  | written =>
    cases here : s.pc with
    | writing target rest =>
      cases rest with
      | nil =>
        simp only [here] at next
        cases next
        exact .written target here
      | cons c rest =>
        simp only [here] at next
        cases next
    | _ =>
      simp only [here] at next
      cases next
  | sumFails status =>
    cases here : s.pc with
    | summing target =>
      simp only [here] at next
      obtain ⟨failed, rfl⟩ := onlyIf_eq_some.mp next
      exact .sumFails target status here failed
    | _ =>
      simp only [here] at next
      cases next
  | openSum =>
    cases here : s.pc with
    | summing target =>
      simp only [here] at next
      cases next
      exact .openSum target here
    | _ =>
      simp only [here] at next
      cases next
  | hashFails status =>
    cases here : s.pc with
    | hashing target =>
      simp only [here] at next
      obtain ⟨failed, rfl⟩ := onlyIf_eq_some.mp next
      exact .hashFails target status here failed
    | _ =>
      simp only [here] at next
      cases next
  | hash =>
    cases here : s.pc with
    | hashing target =>
      simp only [here] at next
      cases next
      exact .hash target here
    | _ =>
      simp only [here] at next
      cases next

/-- What a step of a running `Store` is: to its next phase, to an error, or to the return
with 0. -/
theorem Busy.step (busy : s.Busy settings) {action : SettingsAction} (next : s.step action = some t) :
    (t.Busy settings ∧ (∃ file, t.ads = { s.ads with file := file }) ∧ t.returned = s.returned ∧ t.begun = s.begun) ∨
      (s.Behind ∧ ∃ result, result ≠ 0 ∧ t = s.fail result) ∨
      (s.pc = .returning ∧ t = { s with pc := .idle, storeResult := some 0, returned := some s.ads.values, begun := []
                                        settled := true }) ∨
      ∃ fresh, action = .crash fresh := by
  have phase := busy.phase
  unfold Phase at phase
  cases storeStep_of_step busy.pc_ne next with
  | crash fresh same => exact .inr (.inr (.inr ⟨fresh, rfl⟩))
  | returns pc => exact .inr (.inr (.inl ⟨pc, rfl⟩))
  | openFails target text pc =>
    simp only [pc] at phase
    exact .inr (.inl ⟨phase.1, -1, by omega, rfl⟩)
  | writeFails target rest pc =>
    simp only [pc] at phase
    exact .inr (.inl ⟨phase.1, -1, by omega, rfl⟩)
  | sumFails target status pc failed =>
    simp only [pc] at phase
    exact .inr (.inl ⟨phase.1, status, failed, rfl⟩)
  | hashFails target status pc failed =>
    simp only [pc] at phase
    exact .inr (.inl ⟨phase.1, status, failed, rfl⟩)
  | openFile target text pc =>
    simp only [pc] at phase
    have behind : SettingsSystem.Behind { s with disk := s.disk.write target [], pc := .writing target text } := by
      refine phase.1.of_checksums rfl fun file covered checksum => ?_
      rw [Disk.write_checksum] at checksum
      exact checksum
    refine .inl ⟨busy.advance busy.filed.1 (busy.there.write []) rfl rfl rfl ⟨behind, [], ?_, phase.2⟩,
      ⟨_, rfl⟩, rfl, rfl⟩
    exact Disk.write_content _ _ _
  | write target rest count pc =>
    simp only [pc] at phase
    obtain ⟨behind, written, content, whole⟩ := phase
    rw [content, Option.getD_some]
    have after : SettingsSystem.Behind
        { s with disk := s.disk.write target (written ++ rest.take count), pc := .writing target (rest.drop count) } := by
      refine behind.of_checksums rfl fun file covered checksum => ?_
      rw [Disk.write_checksum] at checksum
      exact checksum
    refine .inl ⟨busy.advance busy.filed.1 (busy.there.write _) rfl rfl rfl ⟨after, _, Disk.write_content _ _ _, ?_⟩,
      ⟨_, rfl⟩, rfl, rfl⟩
    rw [List.append_assoc, List.take_append_drop]
    exact whole
  | written target pc =>
    simp only [pc] at phase
    obtain ⟨behind, written, content, whole⟩ := phase
    have filed : (s.ads.file.map FileName.other).isSome = true := by
      rw [Option.isSome_map]
      exact busy.filed.1
    rw [List.append_nil] at whole
    rw [whole] at content
    exact .inl ⟨busy.advance filed busy.there rfl rfl rfl ⟨behind, content⟩, ⟨_, rfl⟩, rfl, rfl⟩
  | openSum target pc =>
    simp only [pc] at phase
    have behind : SettingsSystem.Behind { s with disk := s.disk.writeSum target none, pc := .hashing target } := by
      refine phase.1.of_checksums rfl fun file covered checksum => ?_
      dsimp only at checksum
      rcases eq_or_ne file target with rfl | different
      · rw [Disk.writeSum_checksum] at checksum
        cases checksum
      · rw [Disk.writeSum_other different] at checksum
        exact checksum
    refine .inl ⟨busy.advance busy.filed.1 (busy.there.writeSum none) rfl rfl rfl ⟨behind, ?_⟩, ⟨_, rfl⟩, rfl, rfl⟩
    dsimp only
    rw [Disk.writeSum_content]
    exact phase.2
  | hash target pc =>
    simp only [pc] at phase
    refine .inl ⟨busy.advance busy.filed.1 (busy.there.writeSum _) rfl rfl rfl ⟨target, ?_, ?_, ?_⟩, ⟨_, rfl⟩, rfl, rfl⟩
    · dsimp only
      rw [Disk.writeSum_content]
      exact phase.2
    · dsimp only
      rw [Disk.writeSum_checksum]
      exact phase.2
    · intro covered checksum
      dsimp only at checksum
      rw [Disk.writeSum_other target.other_ne] at checksum
      exact phase.1 target.other covered checksum

end SettingsSystem
end JsonRpcTcp
