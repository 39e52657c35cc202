import JsonRpcTcp.SettingsRoundTrip

namespace JsonRpcTcp

theorem SettingValue.assign_of_le {α : Type} {old new : List α} (enough : old.length ≤ new.length) :
    assign old new = new.take old.length := by
  rw [assign, List.drop_of_length_le enough, List.append_nil]

/-- A text that gives all elements is read into every buffer of the shape alike. -/
theorem SettingValue.load_of_whole {value old : SettingValue} {settings : Settings} {name key : List Byte}
    (whole : value.readsWhole settings name key = true) (same : old.shape = value.shape) :
    ∃ read, old.load settings name key = some read ∧ value.load settings name key = some read := by
  cases value with
  | string size text =>
    cases old with
    | string size' text' =>
      cases same
      obtain ⟨found, got⟩ := Option.isSome_iff_exists.mp whole
      refine ⟨.string size found, ?_, ?_⟩ <;> (unfold load; dsimp only; rw [got]; rfl)
    | _ => cases same
  | int n =>
    cases old with
    | int _ =>
      obtain ⟨found, got⟩ := Option.isSome_iff_exists.mp whole
      refine ⟨.int (atoi found), ?_, ?_⟩ <;> (unfold load; dsimp only; rw [got]; rfl)
    | _ => cases same
  | long n =>
    cases old with
    | long _ =>
      obtain ⟨found, got⟩ := Option.isSome_iff_exists.mp whole
      refine ⟨.long (atol found), ?_, ?_⟩ <;> (unfold load; dsimp only; rw [got]; rfl)
    | _ => cases same
  | intArr values =>
    cases old with
    | intArr values' =>
      have length : values'.length = values.length := Shape.intArr.inj same
      obtain ⟨nonempty, enough⟩ := Bool.and_eq_true_iff.mp whole
      obtain ⟨found, got, tokens⟩ := (Option.any_eq_true _ _).mp enough
      have some : values ≠ [] := fun empty => by simp [empty] at nonempty
      have some' : values' ≠ [] := fun empty => by
        rw [empty] at length
        exact some (List.length_eq_zero_iff.mp length.symm)
      have long : values.length ≤ ((getTokens comma [] found).map atoi).length := by
        rw [List.length_map]
        exact of_decide_eq_true tokens
      refine ⟨.intArr (((getTokens comma [] found).map atoi).take values.length), ?_, ?_⟩
      · rw [load, if_neg some', got, Option.map_some, assign_of_le (length ▸ long), length]
      · rw [load, if_neg some, got, Option.map_some, assign_of_le long]
    | _ => cases same
  | longArr values =>
    cases old with
    | longArr values' =>
      have length : values'.length = values.length := Shape.longArr.inj same
      obtain ⟨nonempty, enough⟩ := Bool.and_eq_true_iff.mp whole
      obtain ⟨found, got, tokens⟩ := (Option.any_eq_true _ _).mp enough
      have some : values ≠ [] := fun empty => by simp [empty] at nonempty
      have some' : values' ≠ [] := fun empty => by
        rw [empty] at length
        exact some (List.length_eq_zero_iff.mp length.symm)
      have long : values.length ≤ ((getTokens comma [] found).map atol).length := by
        rw [List.length_map]
        exact of_decide_eq_true tokens
      refine ⟨.longArr (((getTokens comma [] found).map atol).take values.length), ?_, ?_⟩
      · rw [load, if_neg some', got, Option.map_some, assign_of_le (length ▸ long), length]
      · rw [load, if_neg some, got, Option.map_some, assign_of_le long]
    | _ => cases same

/-- A value that was read from such a text is read again. -/
theorem SettingEntry.reads_of_whole {entry : SettingEntry} {settings : Settings} {old : SettingValue}
    (whole : entry.value.readsWhole settings entry.part.name entry.key = true) (same : old.shape = entry.value.shape)
    (read : old.loaded settings entry.part.name entry.key = entry.value) : entry.Reads settings := by
  have found : ∀ other : SettingValue, other.shape = entry.value.shape →
      entry.value.load settings entry.part.name entry.key = other.load settings entry.part.name entry.key := by
    intro other shape
    obtain ⟨value, loads, again⟩ := SettingValue.load_of_whole whole shape
    rw [loads, again]
  have own : entry.value.load settings entry.part.name entry.key = some entry.value := by
    obtain ⟨value, loads, again⟩ := SettingValue.load_of_whole whole same
    rw [SettingValue.loaded_of_load loads] at read
    rw [again, read]
  intro other shape
  rw [← found other shape]
  exact own

namespace ADSettings
variable {ads : ADSettings} {settings : Settings}

/-- After a `Load` that found everything, the settings give the values. -/
theorem reads_of_readsWhole (whole : (ads.loadEntries settings).readsWhole = true) :
    (ads.loadEntries settings).values.Reads settings := by
  have entries : ∀ entry ∈ (ads.loadEntries settings).values.entries,
      entry.value.readsWhole settings entry.part.name entry.key = true := List.all_eq_true.mp whole
  have number : ∀ (setting : MetaSetting) (key : List Byte),
      (⟨.metaData, key, .int (setting.load settings key).value⟩ : SettingEntry) ∈
        (ads.loadEntries settings).values.entries →
      (⟨.metaData, key, .int (setting.load settings key).value⟩ : SettingEntry).Reads settings := by
    intro setting key member
    have here := entries _ member
    obtain ⟨text, got⟩ := Option.isSome_iff_exists.mp here
    have found : settings.metaInt key = some (atoi text) := by
      unfold Settings.metaInt
      rw [got]
      rfl
    have value : (setting.load settings key).value = atoi text := by
      rw [MetaSetting.load_found found]
    have read : (SettingValue.int 0).loaded settings SettingsPart.metaData.name key =
        .int (setting.load settings key).value := by
      unfold SettingValue.loaded SettingValue.load
      dsimp only
      rw [got, value]
      rfl
    have shape : (SettingValue.int 0).shape = (SettingValue.int (setting.load settings key).value).shape := rfl
    exact SettingEntry.reads_of_whole here shape read
  intro entry member
  rcases List.mem_append.mp member with user | rest
  · obtain ⟨after, inside, rfl⟩ := List.mem_map.mp user
    obtain ⟨setting, _, rfl⟩ := List.mem_map.mp inside
    have read : setting.value.loaded settings setting.part.name setting.key = (setting.load settings).value := rfl
    exact SettingEntry.reads_of_whole (entries _ member) (SettingValue.loaded_shape _ _ _ _).symm read
  · simp only [List.mem_cons, List.not_mem_nil, or_false] at rest
    rcases rest with rfl | rfl | rfl
    · exact number _ _ member
    · exact number _ _ member
    · exact number _ _ member

/-- The settings in memory give these values or nothing. -/
structure Agrees (settings : Settings) (values : Snapshot) : Prop where
  user : ∀ entry ∈ values.user, ∀ old read : SettingValue, old.shape = entry.value.shape →
    old.load settings entry.part.name entry.key = some read → read = entry.value
  version : settings.metaInt versionKey = some values.version
  seqCount : settings.metaInt seqCountKey = some values.seqCount
  size : settings.metaInt sizeKey = some values.size

theorem agrees_of_reads {values : Snapshot} (reads : values.Reads settings) : Agrees settings values where
  user := by
    intro entry member old read shape loads
    rw [reads entry (List.mem_append_left _ member) old shape] at loads
    exact (Option.some.inj loads).symm
  version := reads.metaInt.1
  seqCount := reads.metaInt.2.1
  size := reads.metaInt.2.2

theorem agrees_of_written {values : Snapshot} (written : values.Written settings) : Agrees settings values where
  user := by
    intro entry member old read shape loads
    exact SettingValue.load_of_text shape (written entry (List.mem_append_left _ member)) loads
  version := written.metaInt.1
  seqCount := written.metaInt.2.1
  size := written.metaInt.2.2

/-- Loading from such settings leaves the copies as they are. -/
theorem shadows_load (entries : List SettingEntry) (user : List Setting)
    (same : user.map (fun setting => setting.declares) = entries.map SettingEntry.declares)
    (shadows : user.map Setting.shadow = entries.map SettingEntry.value)
    (agrees : ∀ entry ∈ entries, ∀ old read : SettingValue, old.shape = entry.value.shape →
      old.load settings entry.part.name entry.key = some read → read = entry.value) :
    (user.map (Setting.load settings)).map Setting.shadow = entries.map SettingEntry.value := by
  induction entries generalizing user with
  | nil =>
    have empty := List.map_eq_nil_iff.mp same
    rw [empty]
    rfl
  | cons entry entries ih =>
    obtain ⟨setting, rest, rfl, first, later⟩ := List.map_eq_cons_iff.mp same
    obtain ⟨shadow, shadows⟩ := List.cons_eq_cons.mp shadows
    have tail := ih rest later shadows fun other member => agrees other (List.mem_cons_of_mem _ member)
    obtain ⟨part, rest'⟩ := Prod.mk.inj first
    obtain ⟨key, shape⟩ := Prod.mk.inj rest'
    have head : (setting.load settings).shadow = entry.value := by
      have copy : (setting.load settings).shadow = setting.shadow.loaded settings setting.part.name setting.key := rfl
      have sized : setting.shadow.shape = entry.value.shape := setting.sized.trans shape
      rw [copy]
      cases loads : setting.shadow.load settings setting.part.name setting.key with
      | none =>
        unfold SettingValue.loaded
        rw [loads]
        exact shadow
      | some read =>
        rw [SettingValue.loaded_of_load loads]
        have part' : setting.part = entry.part := part
        have key' : setting.key = entry.key := key
        rw [part', key'] at loads
        exact agrees entry List.mem_cons_self _ _ sized loads
    rw [List.map_cons, List.map_cons, List.map_cons, head, tail]

/-- Settings with the same declarations and the same values. -/
theorem entries_eq (entries : List SettingEntry) (user : List Setting)
    (same : user.map (fun setting => setting.declares) = entries.map SettingEntry.declares)
    (values : user.map (fun setting => setting.value) = entries.map SettingEntry.value) :
    user.map Setting.toSettingEntry = entries := by
  induction entries generalizing user with
  | nil => exact List.map_eq_nil_iff.mpr (List.map_eq_nil_iff.mp same)
  | cons entry entries ih =>
    obtain ⟨setting, rest, rfl, first, later⟩ := List.map_eq_cons_iff.mp same
    obtain ⟨value, values⟩ := List.cons_eq_cons.mp values
    obtain ⟨part, rest'⟩ := Prod.mk.inj first
    have part' : setting.part = entry.part := part
    have key : setting.key = entry.key := (Prod.mk.inj rest').1
    have value' : setting.value = entry.value := value
    have head : setting.toSettingEntry = entry := by
      show (⟨setting.part, setting.key, setting.value⟩ : SettingEntry) = ⟨entry.part, entry.key, entry.value⟩
      rw [part', key, value']
    rw [List.map_cons, head, ih rest later values]

end ADSettings

namespace SettingsSystem
open ADSettings
variable {s t : SettingsSystem} {settings : Settings} {values : Snapshot}

/-- The selected file and the memory hold the values of the copies. -/
structure Settled (s : SettingsSystem) (settings : Settings) (values : Snapshot) : Prop where
  current : s.ads.settings = some settings
  declared : s.ads.declares = values.user.map SettingEntry.declares
  holds : SelectedHolds s.disk values
  agrees : Agrees settings values
  copied : Copied s.ads values

/-- A `Store` saves storable values, and one that has nothing to save finds the values of
the copies in the selected file. The process is not cut off. -/
def StoresSettled (s : SettingsSystem) : SettingsAction → Prop
  | .store => s.ads.settings.isSome = true →
      (s.ads.changed = true → s.ads.values.Storable) ∧ (s.ads.changed = false → s.settled = true)
  | .crash _ => False
  | _ => True

/-- Whether the call of `Store` is begun, and whether the process is cut off. -/
def storing : SettingsAction → Bool
  | .store => true
  | _ => false

def crashing : SettingsAction → Bool
  | .crash _ => true
  | _ => false

theorem storesSettled_iff (s : SettingsSystem) (action : SettingsAction) :
    (storing action = true → s.StoresSettled .store) ∧ crashing action = false ↔ s.StoresSettled action := by
  cases action with
  | store => exact ⟨fun both => both.1 rfl, fun allowed => ⟨fun _ => allowed, rfl⟩⟩
  | crash fresh =>
    refine ⟨fun both => ?_, fun impossible => impossible.elim⟩
    cases both.2
  | _ => exact ⟨fun _ => trivial, fun _ => ⟨fun impossible => absurd impossible Bool.false_ne_true, rfl⟩⟩

instance (s : SettingsSystem) (action : SettingsAction) : Decidable (s.StoresSettled action) :=
  have : Decidable (s.StoresSettled .store) := inferInstanceAs (Decidable (_ → (_ → _) ∧ (_ → _)))
  decidable_of_iff _ (storesSettled_iff s action)

theorem Settled.load (settled : s.Settled settings values) (opened : s.Opened settings) (input : LoadInput) :
    (s.load input).Settled settings values := by
  unfold SettingsSystem.load
  obtain ⟨touched, spec⟩ := s.ads.load_cases input s.disk
  have declares := s.ads.load_declares input s.disk
  have disk := touched.of_exists opened.there
  rw [settled.current, Option.some_or] at spec
  rcases spec with ⟨_, _, _, failed⟩ | ⟨_, _, check, settings', loaded, same⟩
  · cases failed opened.there
  · cases same
    have keeps := s.ads.attached_keeps input check (s.ads.load input s.disk).disk.selected
    refine ⟨?_, declares.trans settled.declared, ?_, settled.agrees, ?_⟩
    · dsimp only
      rw [loaded]
      rfl
    · dsimp only
      rw [disk]
      exact settled.holds
    · dsimp only
      rw [loaded]
      have head : ∀ (setting : MetaSetting) (garbage : Int32) (key : List Byte) (value : Int32),
          settings.metaInt key = some value →
          ((setting.attach garbage).load settings key).shadows.head? = some value := by
        intro setting garbage key value found
        rw [MetaSetting.load_found found]
        unfold MetaSetting.attach
        dsimp only
        rw [List.map_append]
        cases setting.shadows <;> rfl
      refine ⟨?_, ?_, ?_, ?_⟩
      · unfold loadEntries
        dsimp only
        rw [keeps.1]
        exact shadows_load values.user s.ads.user settled.declared settled.copied.user settled.agrees.user
      · exact head _ _ _ _ settled.agrees.version
      · exact head _ _ _ _ settled.agrees.seqCount
      · exact head _ _ _ _ settled.agrees.size

/-- A first `Load` that finds everything. -/
theorem settled_firstLoad (closed : s.ads.settings = none) (input : LoadInput)
    (whole : (s.load input).settled = true) : ∃ settings values, (s.load input).Settled settings values := by
  unfold SettingsSystem.load at whole ⊢
  dsimp only at whole
  rw [closed, Option.isSome_none, if_neg Bool.false_ne_true] at whole
  obtain ⟨success, reads⟩ := Bool.and_eq_true_iff.mp whole
  obtain ⟨_, spec⟩ := s.ads.load_cases input s.disk
  rw [closed, Option.none_or] at spec
  rcases spec with ⟨failed, _⟩ | ⟨_, there, check, settings, loaded, opened⟩
  · exact absurd (of_decide_eq_true success) failed
  · obtain ⟨content, inside, opens⟩ := Option.bind_eq_some_iff.mp opened
    rw [loaded] at reads
    have gives := reads_of_readsWhole reads
    have declared := declares_values ((s.ads.attached input check
      (s.ads.load input s.disk).disk.selected).loadEntries settings)
    rw [loadEntries_declares] at declared
    obtain ⟨_, _, synced⟩ := loadEntries_reads declared.symm gives
    have copies := hasCopies_loadEntries
      (s.ads.hasCopies_attached input check (s.ads.load input s.disk).disk.selected) settings
    have head : ∀ {shadows : List Int32} {value : Int32}, (∀ shadow ∈ shadows, shadow = value) → shadows ≠ [] →
        shadows.head? = some value := by
      intro shadows value all nonempty
      obtain ⟨first, rest, rfl⟩ := List.exists_cons_of_ne_nil nonempty
      exact congrArg some (all first List.mem_cons_self)
    refine ⟨settings, ((s.ads.attached input check (s.ads.load input s.disk).disk.selected).loadEntries settings).values,
      ?_, ?_, ⟨content, settings, inside, opens, gives⟩, agrees_of_reads gives, ?_⟩
    · dsimp only
      rw [loaded]
      rfl
    · dsimp only
      rw [loaded, declares_values]
    · dsimp only
      rw [loaded]
      exact ⟨synced.user, head synced.version copies.version, head synced.seqCount copies.seqCount,
        head synced.size copies.size⟩

theorem Settled.change (settled : s.Settled settings values) {user : List SettingValue} (accepts : s.ads.accepts user)
    (version : Int32) (storeResult : Option Int) :
    Settled { s with ads := s.ads.change user version, storeResult := storeResult } settings values where
  current := settled.current
  declared := (change_declares accepts).trans settled.declared
  holds := settled.holds
  agrees := settled.agrees
  copied := by
    have one : ∀ (setting : Setting) (value : SettingValue), (setting.change value).shadow = setting.shadow := by
      intro setting value
      unfold Setting.change
      split_ifs <;> rfl
    have shadows := map_zipWith_change accepts one
    exact ⟨shadows.trans settled.copied.user, settled.copied.version, settled.copied.seqCount, settled.copied.size⟩

/-- Values that no copy differs from are those of the copies. -/
theorem Settled.values_of_unchanged (settled : s.Settled settings values) (unchanged : s.ads.changed = false) :
    s.ads.values = values := by
  unfold ADSettings.changed at unchanged
  rw [Bool.or_eq_false_iff, Bool.or_eq_false_iff, Bool.or_eq_false_iff] at unchanged
  obtain ⟨⟨⟨user, version⟩, seqCount⟩, size⟩ := unchanged
  have number : ∀ {setting : MetaSetting} {value : Int32}, setting.changed = false →
      setting.shadows.head? = some value → setting.value = value := by
    intro setting value same first
    have member := List.mem_of_head? first
    have equal := List.any_eq_false.mp same value member
    by_contra different
    exact equal (decide_eq_true different)
  have shadows : s.ads.user.map (fun setting => setting.value) = s.ads.user.map Setting.shadow := by
    refine List.map_congr_left fun setting member => ?_
    have equal := List.any_eq_false.mp user setting member
    by_contra different
    exact equal (decide_eq_true different)
  have entries := entries_eq values.user s.ads.user settled.declared (shadows.trans settled.copied.user)
  unfold ADSettings.values
  rw [entries, number version settled.copied.version, number seqCount settled.copied.seqCount,
    number size settled.copied.size]

/-- A `Store` without changes keeps the file, which holds the values. -/
theorem Settled.unchanged (settled : s.Settled settings values) (opened : s.Opened settings)
    (distinct : s.ads.values.addresses.Nodup) (file : FileName) (unchanged : s.ads.changed = false) :
    (s.beginStore settings file).Settled (settings.putAll s.ads.values.texts) s.ads.values ∧
      (s.beginStore settings file).ads.FreshLoadGives (s.beginStore settings file).disk
        (s.beginStore settings file).ads.values := by
  have equal := settled.values_of_unchanged unchanged
  obtain ⟨_, written⟩ := opened.stored distinct
  have kept := s.ads.storeEntries_values settings
  have declares : (s.ads.storeEntries settings).declares = s.ads.values.user.map SettingEntry.declares := by
    have same := declares_values (s.ads.storeEntries settings)
    rw [kept] at same
    exact same.symm
  rw [(opened.beginStore_unchanged distinct file unchanged).1]
  refine ⟨⟨rfl, declares, ?_, agrees_of_written written, ?_⟩, ?_⟩
  · dsimp only
    rw [equal]
    exact settled.holds
  · exact copied_storeEntries opened.copies settings
  · dsimp only
    rw [kept]
    refine freshLoadGives_of_holds opened.there declares ?_
    rw [equal]
    exact settled.holds

/-- A `Store` that saved leaves its values in the selected file. -/
theorem Busy.settled (busy : s.Busy settings) (returning : s.pc = .returning) (storable : s.ads.values.Storable)
    (t : SettingsSystem) (ads : t.ads = s.ads) (disk : t.disk = s.disk) : t.Settled settings s.ads.values := by
  obtain ⟨⟨target, verified, beats, saved⟩, _⟩ := busy.returned returning storable
  obtain ⟨after, opens, reads⟩ := busy.reads_save storable
  refine ⟨?_, ?_, ⟨settings.save, after, ?_, opens, reads⟩, agrees_of_written busy.written, ?_⟩
  · rw [ads]
    exact busy.opened
  · rw [ads]
    exact (declares_values s.ads).symm
  · rw [disk, Disk.selected_of_beats verified beats]
    exact saved
  · rw [ads]
    exact busy.copied

theorem StoresSettled.storable {action : SettingsAction} (allowed : s.StoresSettled action) :
    s.StoresStorable action := by
  cases action with
  | store => exact fun opened => (allowed opened).1
  | crash fresh => exact allowed
  | _ => exact trivial

/-- The file and the memory go on to hold the values of the copies. -/
theorem Base.settled_step (base : s.Base) (before : s.settled = true → ∃ settings values, s.Settled settings values)
    {action : SettingsAction} (allowed : s.StoresSettled action) (next : s.step action = some t)
    (whole : t.settled = true) : ∃ settings values, t.Settled settings values := by
  by_cases pc : s.pc = .idle
  · have idle := base.idle pc
    cases idleStep_of_step pc next with
    | load input =>
      cases current : s.ads.settings with
      | none => exact settled_firstLoad current input whole
      | some settings =>
        have was : s.settled = true := by
          unfold SettingsSystem.load at whole
          dsimp only at whole
          rw [current, Option.isSome_some, if_pos rfl] at whole
          exact whole
        obtain ⟨settings', values, settled⟩ := before was
        exact ⟨settings', values, settled.load (idle.opened settings' settled.current) input⟩
    | change user version accepts =>
      obtain ⟨settings, values, settled⟩ := before whole
      exact ⟨settings, values, settled.change accepts version none⟩
    | closed none =>
      obtain ⟨settings, values, settled⟩ := before whole
      have some := settled.current
      rw [none] at some
      cases some
    | store settings file current filed fits =>
      have opened := idle.opened settings current
      have present := Option.isSome_of_eq_some current
      cases changed : s.ads.changed with
      | true =>
        obtain ⟨after, busy, _⟩ := opened.beginStore_changed base.distinct file filed fits changed
        rw [busy.unsettled] at whole
        cases whole
      | false =>
        obtain ⟨settings', values, settled⟩ := before ((allowed present).2 changed)
        have same := settled.current
        rw [current] at same
        cases same
        exact ⟨_, _, (settled.unchanged opened base.distinct file changed).1⟩
    | unfiled settings t' current unfiled => exact absurd (idle.opened settings current).filed unfiled
    | crash fresh same => exact allowed.elim
  · obtain ⟨⟨settings, busy⟩, fine⟩ := base.busy pc
    rcases busy.step next with ⟨busy', _⟩ | ⟨_, result, failed, rfl⟩ | ⟨returning, rfl⟩ | ⟨fresh, rfl⟩
    · rw [busy'.unsettled] at whole
      cases whole
    · have settled : s.settled = true := whole
      rw [busy.unsettled] at settled
      cases settled
    · exact ⟨settings, _, busy.settled returning fine _ rfl rfl⟩
    · exact allowed.elim

/-- What holds while moreover a `Store` with nothing to save finds its values in the file. -/
structure Kept (s : SettingsSystem) : Prop where
  base : s.Base
  settled : s.settled = true → ∃ settings values, s.Settled settings values
  result : s.storeResult = some 0 → s.ads.FreshLoadGives s.disk s.ads.values

theorem Kept.step (kept : s.Kept) {action : SettingsAction} (allowed : s.StoresSettled action)
    (next : s.step action = some t) : t.Kept := by
  refine ⟨kept.base.step allowed.storable next, kept.base.settled_step kept.settled allowed next, fun zero => ?_⟩
  by_cases pc : s.pc = .idle
  · have idle := kept.base.idle pc
    cases idleStep_of_step pc next with
    | load input => cases zero
    | change user version accepts => cases zero
    | closed none =>
      have failed : (-1 : Int) = 0 := Option.some.inj zero
      omega
    | store settings file current filed fits =>
      have opened := idle.opened settings current
      have present := Option.isSome_of_eq_some current
      cases changed : s.ads.changed with
      | true =>
        obtain ⟨after, busy, _⟩ := opened.beginStore_changed kept.base.distinct file filed fits changed
        rw [busy.quiet] at zero
        cases zero
      | false =>
        obtain ⟨settings', values, settled⟩ := kept.settled ((allowed present).2 changed)
        have same := settled.current
        rw [current] at same
        cases same
        exact (settled.unchanged opened kept.base.distinct file changed).2
    | unfiled settings t' current unfiled => exact absurd (idle.opened settings current).filed unfiled
    | crash fresh same => exact allowed.elim
  · obtain ⟨⟨settings, busy⟩, fine⟩ := kept.base.busy pc
    rcases busy.step next with ⟨busy', _⟩ | ⟨_, result, failed, rfl⟩ | ⟨returning, rfl⟩ | ⟨fresh, rfl⟩
    · rw [busy'.quiet] at zero
      cases zero
    · exact absurd (Option.some.inj zero) failed
    · exact (busy.freshLoadGives_iff returning).mpr fine
    · exact allowed.elim

end SettingsSystem
end JsonRpcTcp
