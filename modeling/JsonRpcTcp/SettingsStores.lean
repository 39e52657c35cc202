import JsonRpcTcp.SettingsRuns

namespace JsonRpcTcp

theorem MetaSetting.load_value (setting : MetaSetting) (settings : Settings) (key : List Byte) :
    (setting.load settings key).value = (settings.metaInt key).getD 0 := by
  unfold MetaSetting.load
  cases settings.metaInt key with
  | none => rfl
  | some value => rfl

theorem MetaSetting.load_shadows (setting : MetaSetting) (settings : Settings) (key : List Byte)
    (some : setting.shadows ≠ []) : (setting.load settings key).shadows ≠ [] := by
  unfold MetaSetting.load
  cases settings.metaInt key with
  | none => exact some
  | some value => exact fun empty => some (List.map_eq_nil_iff.mp empty)

namespace ADSettings
variable {ads other : ADSettings}

theorem addresses_of_declares (same : ads.declares = other.declares) :
    ads.values.addresses = other.values.addresses :=
  Snapshot.addresses_of_declares ((declares_values ads).trans (same.trans (declares_values other).symm))

/-- What a change of each single setting keeps, a change of all of them keeps. -/
theorem map_zipWith_change {β : Type} {user : List SettingValue} (accepts : ads.accepts user) {part : Setting → β}
    (one : ∀ (setting : Setting) (value : SettingValue), part (setting.change value) = part setting) :
    (ads.user.zipWith Setting.change user).map part = ads.user.map part := by
  have length : user.length = ads.user.length := by
    have shapes := congrArg List.length accepts.1
    rw [List.length_map, List.length_map] at shapes
    exact shapes
  refine List.ext_getElem ?_ ?_
  · rw [List.length_map, List.length_map, List.length_zipWith, length, Nat.min_self]
  · intro i _ _
    rw [List.getElem_map, List.getElem_map, List.getElem_zipWith]
    exact one _ _

theorem change_declares {user : List SettingValue} {version : Int32} (accepts : ads.accepts user) :
    (ads.change user version).declares = ads.declares := by
  have one : ∀ (setting : Setting) (value : SettingValue), (setting.change value).declares = setting.declares := by
    intro setting value
    unfold Setting.change
    split_ifs with fitting
    · unfold SettingEntry.declares
      dsimp only
      rw [fitting.1]
    · rfl
  exact map_zipWith_change accepts one

theorem hasCopies_attached (ads : ADSettings) (input : LoadInput) (check : Consistency) (file : FileName) :
    SettingsSystem.HasCopies (ads.attached input check file) := by
  have some : ∀ (shadows : List Int32) (garbage : Int32), shadows ++ [garbage] ≠ [] :=
    fun shadows garbage empty => List.cons_ne_nil _ _ (List.append_eq_nil_iff.mp empty).2
  exact ⟨some _ _, some _ _, some _ _⟩

theorem hasCopies_loadEntries (copies : SettingsSystem.HasCopies ads) (settings : Settings) :
    SettingsSystem.HasCopies (ads.loadEntries settings) :=
  ⟨ads.version.load_shadows settings _ copies.version, ads.seqCount.load_shadows settings _ copies.seqCount,
    ads.size.load_shadows settings _ copies.size⟩

theorem storeEntries_values (ads : ADSettings) (settings : Settings) :
    (ads.storeEntries settings).values = ads.values := by
  have user : (ads.user.map Setting.sync).map Setting.toSettingEntry = ads.user.map Setting.toSettingEntry := by
    rw [List.map_map]
    rfl
  unfold ADSettings.values storeEntries
  dsimp only
  rw [user]
  rfl

theorem head_sync {setting : MetaSetting} (copied : setting.shadows ≠ []) :
    setting.sync.shadows.head? = some setting.value := by
  obtain ⟨first, rest, same⟩ := List.exists_cons_of_ne_nil copied
  unfold MetaSetting.sync
  dsimp only
  rw [same]
  rfl

theorem copied_storeEntries (copies : SettingsSystem.HasCopies ads) (settings : Settings) :
    SettingsSystem.Copied (ads.storeEntries settings) ads.values where
  user := by
    unfold storeEntries ADSettings.values
    dsimp only
    rw [List.map_map, List.map_map]
    rfl
  version := head_sync copies.version
  seqCount := head_sync copies.seqCount
  size := head_sync copies.size

end ADSettings

namespace SettingsSystem
variable {s t : SettingsSystem} {settings : Settings}

/-- Between two calls. -/
structure Idle (s : SettingsSystem) : Prop where
  closed : s.ads.settings = none → s.disk.Sound
  opened : ∀ settings, s.ads.settings = some settings → s.Opened settings

/-- A `Load` only fails without settings: while they are open, their file is there. -/
theorem Idle.closed_of_failed (idle : s.Idle) {read : Option Settings}
    (failed : s.disk.Exists → s.ads.settings.or read = none) : s.ads.settings = none := by
  cases before : s.ads.settings with
  | none => rfl
  | some settings =>
    have none := failed (idle.opened settings before).there
    rw [before, Option.some_or] at none
    cases none

theorem Idle.load (idle : s.Idle) (input : LoadInput) : (s.load input).Idle := by
  unfold SettingsSystem.load
  obtain ⟨touched, spec⟩ := s.ads.load_cases input s.disk
  have declares := s.ads.load_declares input s.disk
  rcases spec with ⟨_, same, _, failed⟩ | ⟨_, there, check, settings, loaded, opened⟩
  · refine ⟨fun closed => ?_, fun settings opened => ?_⟩
    · exact (idle.closed (same.symm.trans closed)).touched touched
    · have before : s.ads.settings = some settings := same.symm.trans opened
      rw [idle.closed_of_failed failed] at before
      cases before
  · have current : (s.ads.load input s.disk).ads.settings = some settings := by
      rw [loaded]
      rfl
    have count : (s.ads.load input s.disk).ads.seqCount.value = (settings.metaInt seqCountKey).getD 0 := by
      rw [loaded]
      exact MetaSetting.load_value _ _ _
    have keeps := s.ads.attached_keeps input check (s.ads.load input s.disk).disk.selected
    have filed : (s.ads.load input s.disk).ads.file.isSome = true ∧
        (s.ads.load input s.disk).ads.filepath.isSome = true := by
      rw [loaded]
      have file := congrArg Option.isSome keeps.2.2.1
      have filepath := congrArg Option.isSome keeps.2.2.2
      exact ⟨file, filepath⟩
    have copies : HasCopies (s.ads.load input s.disk).ads := by
      rw [loaded]
      exact ADSettings.hasCopies_loadEntries (s.ads.hasCopies_attached input check _) settings
    refine ⟨fun closed => ?_, fun settings' opened' => ?_⟩
    · have none : (s.ads.load input s.disk).ads.settings = none := closed
      rw [current] at none
      cases none
    · have same : (s.ads.load input s.disk).ads.settings = some settings' := opened'
      rw [current] at same
      cases same
      cases before : s.ads.settings with
      | some old =>
        rw [before, Option.some_or] at opened
        cases opened
        have was := idle.opened settings before
        refine ⟨there, ?_, count.symm, ?_, filed, copies⟩
        · have equal := ADSettings.addresses_of_declares declares
          dsimp only
          rw [equal]
          exact was.held
        · intro file covered checksum
          have kept : (s.disk file).checksum = some covered := (touched.checksum file).symm.trans checksum
          have order := was.covered file covered kept
          dsimp only
          rw [count, was.counted]
          exact order
      | none =>
        rw [before, Option.none_or] at opened
        obtain ⟨content, inside, opens⟩ := Option.bind_eq_some_iff.mp opened
        refine ⟨there, Settings.held_of_open opens, count.symm, ?_, filed, copies⟩
        intro file covered checksum
        have sound := (idle.closed before).touched touched
        have order := sound.covered_le checksum
        rw [inside] at order
        have memory := contentSeq_le opens
        dsimp only
        rw [count]
        omega

theorem Opened.change (opened : s.Opened settings) {user : List SettingValue} (accepts : s.ads.accepts user)
    (version : Int32) (storeResult : Option Int) :
    Opened { s with ads := s.ads.change user version, storeResult := storeResult } settings where
  there := opened.there
  held := by
    have declares : (s.ads.change user version).declares = s.ads.declares := ADSettings.change_declares accepts
    have same := ADSettings.addresses_of_declares declares
    dsimp only
    rw [same]
    exact opened.held
  counted := opened.counted
  covered := opened.covered
  filed := opened.filed
  copies := ⟨opened.copies.version, opened.copies.seqCount, opened.copies.size⟩

/-- The loop of `Store` over settings that are open. -/
theorem Opened.stored (opened : s.Opened settings) (distinct : s.ads.values.addresses.Nodup) :
    (settings.putAll s.ads.values.texts).Held s.ads.values.addresses ∧
      s.ads.values.Written (settings.putAll s.ads.values.texts) :=
  ⟨Snapshot.putAll_held opened.held, Snapshot.putAll_written distinct⟩

theorem int32_succ {n : Int32} (room : n.toInt < 2 ^ 31 - 1) : (n + 1).toInt = n.toInt + 1 := by
  have low := n.le_toInt
  have one : (1 : Int32).toInt = 1 := rfl
  rw [Int32.toInt_add, one]
  exact Int.bmod_eq_of_le_mul_two (by omega) (by omega)

/-- A `Store` that saves goes on with a higher sequence count. -/
theorem Opened.beginStore_changed (opened : s.Opened settings) (distinct : s.ads.values.addresses.Nodup)
    (file : FileName) (filed : s.ads.file = some file) (fits : s.ads.storeFits) (changed : s.ads.changed = true) :
    ∃ after, (s.beginStore settings file).Busy after ∧
      (s.beginStore settings file).pc = .opening file.other after.save ∧
      (s.beginStore settings file).ads.values = { s.ads.values with seqCount := s.ads.seqCount.value + 1 } ∧
      (s.beginStore settings file).ads.declares = s.ads.declares ∧ (s.beginStore settings file).ads.file = some file ∧
      (s.beginStore settings file).begun = s.begun ++ [(s.beginStore settings file).ads.values] ∧
      (s.beginStore settings file).disk = s.disk ∧ (s.beginStore settings file).returned = s.returned := by
  obtain ⟨held, written⟩ := opened.stored distinct
  have copied := ADSettings.copied_storeEntries opened.copies settings
  have kept := s.ads.storeEntries_values settings
  have values : (s.ads.storeEntries settings).updateSequenceCount.values =
      { s.ads.values with seqCount := s.ads.seqCount.value + 1 } := by
    rw [← kept]
    rfl
  have count := int32_succ (fits.2 changed)
  unfold beginStore
  dsimp only
  rw [if_pos changed]
  refine ⟨(settings.putAll s.ads.values.texts).put SettingsPart.metaData.name seqCountKey
    (decimal (s.ads.seqCount.value + 1).toInt), ?_, rfl, values, ?_, filed, rfl, rfl, rfl⟩
  · refine ⟨rfl, opened.there, ?_, ?_, ⟨?_, rfl⟩, ?_, rfl, rfl, ⟨?_, rfl⟩⟩
    · have same : ({ s.ads.values with seqCount := s.ads.seqCount.value + 1 } : Snapshot).addresses =
          s.ads.values.addresses := Snapshot.addresses_of_declares rfl
      have equal := congrArg Snapshot.addresses values
      refine Eq.subst (motive := Settings.Held _) (same.symm.trans equal.symm) ?_
      exact held.put (SettingsPart.name_carried _) (Snapshot.seqCount_address _) _
    · exact Eq.subst (motive := fun values => Snapshot.Written values _) values.symm (written.bump distinct _)
    · exact congrArg Option.isSome filed
    · refine Eq.subst (motive := Copied _) values.symm ?_
      obtain ⟨first, rest, here⟩ := List.exists_cons_of_ne_nil copied.hasCopies.seqCount
      refine ⟨copied.user, copied.version, ?_, copied.size⟩
      have new : ((s.ads.storeEntries settings).seqCount.shadows.set 0 (s.ads.seqCount.value + 1)).head? =
          some (s.ads.seqCount.value + 1) := by
        rw [here]
        rfl
      exact new
    · intro file' covered checksum
      have order := opened.covered file' covered checksum
      have next : (s.ads.seqCount.value + 1).toInt = s.ads.seqCount.value.toInt + 1 := count
      show contentSeq (some covered) < (s.ads.seqCount.value + 1).toInt
      omega
  · have same := congrArg (fun values : Snapshot => values.user.map SettingEntry.declares) values
    have left := ADSettings.declares_values (s.ads.storeEntries settings).updateSequenceCount
    have right := ADSettings.declares_values s.ads
    exact left.symm.trans (same.trans right)

/-- A `Store` without changes sets the texts in memory only. -/
theorem Opened.beginStore_unchanged (opened : s.Opened settings) (distinct : s.ads.values.addresses.Nodup)
    (file : FileName) (unchanged : s.ads.changed = false) :
    s.beginStore settings file =
        { s with ads := s.ads.storeEntries settings, storeResult := some 0, returned := some s.ads.values, begun := [] } ∧
      (s.beginStore settings file).Opened (settings.putAll s.ads.values.texts) := by
  obtain ⟨held, written⟩ := opened.stored distinct
  have kept := s.ads.storeEntries_values settings
  have equation : s.beginStore settings file =
      { s with ads := s.ads.storeEntries settings, storeResult := some 0, returned := some s.ads.values, begun := [] } := by
    unfold beginStore
    dsimp only
    rw [unchanged, if_neg Bool.false_ne_true, kept]
  refine ⟨equation, ?_⟩
  rw [equation]
  refine ⟨opened.there, ?_, ?_, opened.covered, opened.filed,
    (ADSettings.copied_storeEntries opened.copies settings).hasCopies⟩
  · dsimp only
    rw [kept]
    exact held
  · rw [written.metaInt.2.1]
    rfl

/-- A `Store` that fails leaves settings that are open. -/
theorem Busy.fail (busy : s.Busy settings) (behind : s.Behind) (result : Int) : (s.fail result).Opened settings where
  there := busy.there
  held := busy.held
  counted := by
    rw [busy.written.metaInt.2.1]
    rfl
  covered := fun file covered checksum => le_of_lt (behind file covered checksum)
  filed := busy.filed
  copies := busy.copied.hasCopies

/-- The saved content reads back as the values. -/
theorem Busy.reads_save (busy : s.Busy settings) (storable : s.ads.values.Storable) :
    ∃ after, settingsOpen settings.save = some after ∧ s.ads.values.Reads after :=
  busy.written.reads_save busy.held storable (ADSettings.fits_values s.ads)

/-- Its sequence count is the one in memory. -/
theorem Busy.contentSeq_save (busy : s.Busy settings) (storable : s.ads.values.Storable) :
    contentSeq (some settings.save) = s.ads.seqCount.value.toInt := by
  obtain ⟨after, opens, reads⟩ := busy.reads_save storable
  exact contentSeq_of_open opens reads.metaInt.2.1

/-- Before `Store` returns 0, the saved file verifies and is selected. -/
theorem Busy.returning (busy : s.Busy settings) (returning : s.pc = .returning) :
    ∃ target, (s.disk target).content = some settings.save ∧ s.disk.verifyCheckSum target = true ∧
      ∀ covered, (s.disk target.other).checksum = some covered →
        contentSeq (some covered) < s.ads.seqCount.value.toInt := by
  have phase := busy.phase
  unfold Phase at phase
  rw [returning] at phase
  obtain ⟨target, content, checksum, behind⟩ := phase
  exact ⟨target, content, Disk.verifyCheckSum_iff.mpr ⟨_, content, checksum⟩, behind⟩

theorem Busy.returned (busy : s.Busy settings) (returning : s.pc = .returning) (storable : s.ads.values.Storable) :
    (∃ target, s.disk.verifyCheckSum target = true ∧ s.disk.Beats target ∧
      (s.disk target).content = some settings.save) ∧
      ∀ file covered, (s.disk file).checksum = some covered → contentSeq (some covered) ≤ s.ads.seqCount.value.toInt := by
  obtain ⟨target, content, verified, behind⟩ := busy.returning returning
  have count := busy.contentSeq_save storable
  refine ⟨⟨target, verified, fun covered checksum => ?_, content⟩, fun file covered checksum => ?_⟩
  · have order := behind covered checksum
    rw [content, count]
    exact ⟨le_of_lt order, fun _ => order⟩
  · rcases eq_or_ne file target with rfl | different
    · obtain ⟨content', inside, made⟩ := Disk.verifyCheckSum_iff.mp verified
      rw [content] at inside
      rw [checksum] at made
      cases inside
      cases made
      exact le_of_eq count
    · rw [FileName.eq_other different] at checksum
      exact le_of_lt (behind covered checksum)

end SettingsSystem
end JsonRpcTcp
