import JsonRpcTcp.SettingsReads

namespace JsonRpcTcp
open Function

/-- The section and key of a setting. -/
def SettingEntry.address (entry : SettingEntry) : List Byte × List Byte := (entry.part.name, entry.key)

/-- A setting without its value. -/
def SettingEntry.declares (entry : SettingEntry) : SettingsPart × List Byte × SettingValue.Shape :=
  (entry.part, entry.key, entry.value.shape)

theorem Settings.metaInt_of_load {settings : Settings} {key : List Byte} {old : SettingValue} {value : Int32}
    (loads : old.load settings SettingsPart.metaData.name key = some (.int value)) :
    settings.metaInt key = some value := by
  have shape := SettingValue.load_shape loads
  cases old with
  | int n =>
    obtain ⟨text, got, here⟩ := Option.map_eq_some_iff.mp loads
    unfold metaInt
    rw [got]
    exact congrArg some (SettingValue.int.inj here)
  | _ => cases shape

namespace Snapshot
variable {values : Snapshot} {settings : Settings}

/-- The entries of the meta data. -/
theorem meta_mem (values : Snapshot) : ⟨.metaData, versionKey, .int values.version⟩ ∈ values.entries ∧
    ⟨.metaData, seqCountKey, .int values.seqCount⟩ ∈ values.entries ∧
    ⟨.metaData, sizeKey, .int values.size⟩ ∈ values.entries :=
  ⟨List.mem_append_right _ List.mem_cons_self,
    List.mem_append_right _ (List.mem_cons_of_mem _ List.mem_cons_self),
    List.mem_append_right _ (List.mem_cons_of_mem _ (List.mem_cons_of_mem _ List.mem_cons_self))⟩

def addresses (values : Snapshot) : List (List Byte × List Byte) := values.entries.map SettingEntry.address

theorem addresses_of_declares {other : Snapshot}
    (same : values.user.map SettingEntry.declares = other.user.map SettingEntry.declares) :
    values.addresses = other.addresses := by
  have front := congrArg (List.map fun d : SettingsPart × List Byte × SettingValue.Shape => (d.1.name, d.2.1)) same
  rw [List.map_map, List.map_map] at front
  have user : values.user.map SettingEntry.address = other.user.map SettingEntry.address := front
  unfold addresses entries
  rw [List.map_append, List.map_append, user]
  rfl

/-- Every setting has the text of its value. -/
def Written (values : Snapshot) (settings : Settings) : Prop :=
  ∀ entry ∈ values.entries, settings.lookup entry.part.name entry.key = some entry.value.text

/-- Every value is read, whatever the buffers held before. -/
def Reads (values : Snapshot) (settings : Settings) : Prop := ∀ entry ∈ values.entries, entry.Reads settings

def Storable (values : Snapshot) : Prop := ∀ entry ∈ values.entries, entry.Storable

instance (values : Snapshot) : Decidable values.Storable :=
  inferInstanceAs (Decidable (∀ entry ∈ values.entries, entry.Storable))

def Fits (values : Snapshot) : Prop := ∀ entry ∈ values.entries, entry.value.fits = true

theorem putAll_written (distinct : values.addresses.Nodup) : values.Written (settings.putAll values.texts) := by
  intro entry member
  refine Settings.lookup_putAll_of_mem ?_ (.inl (List.mem_map.mpr ⟨entry, member, rfl⟩))
  intro pair inside name key
  obtain ⟨other, member', rfl⟩ := List.mem_map.mp inside
  have same : other.address = entry.address := Prod.ext name key
  rw [List.inj_on_of_nodup_map distinct member' member same]

theorem putAll_held (held : settings.Held values.addresses) : (settings.putAll values.texts).Held values.addresses := by
  refine held.putAll fun pair inside => ?_
  obtain ⟨entry, member, rfl⟩ := List.mem_map.mp inside
  exact ⟨entry.part.name_carried, List.mem_map.mpr ⟨entry, member, rfl⟩⟩

theorem seqCount_address (values : Snapshot) :
    (SettingsPart.metaData.name, seqCountKey) ∈ values.addresses :=
  List.mem_map.mpr ⟨⟨.metaData, seqCountKey, .int values.seqCount⟩, List.mem_append_right _
    (List.mem_cons_of_mem _ List.mem_cons_self), rfl⟩

/-- The text of a new sequence count takes the place of the old one. -/
theorem Written.bump (written : values.Written settings) (distinct : values.addresses.Nodup) (next : Int32) :
    { values with seqCount := next }.Written
      (settings.put SettingsPart.metaData.name seqCountKey (decimal next.toInt)) := by
  intro entry member
  have same : ({ values with seqCount := next } : Snapshot).addresses = values.addresses :=
    addresses_of_declares rfl
  rw [Settings.lookup_put]
  split_ifs with here
  · have counter : (⟨.metaData, seqCountKey, .int next⟩ : SettingEntry) ∈
        ({ values with seqCount := next } : Snapshot).entries :=
      List.mem_append_right _ (List.mem_cons_of_mem _ List.mem_cons_self)
    have equal := List.inj_on_of_nodup_map (same ▸ distinct) member counter (Prod.ext here.1 here.2)
    rw [equal]
    rfl
  · refine written entry ?_
    rcases List.mem_append.mp member with user | rest
    · exact List.mem_append_left _ user
    · refine List.mem_append_right _ ?_
      simp only [List.mem_cons, List.not_mem_nil, or_false] at rest ⊢
      rcases rest with version | rfl | size
      · exact .inl version
      · exact absurd ⟨rfl, rfl⟩ here
      · exact .inr (.inr size)

/-- A saved file with texts that its lines can hold gives the values back. -/
theorem Written.reads_save (written : values.Written settings) (held : settings.Held values.addresses)
    (storable : values.Storable) (fits : values.Fits) :
    ∃ after, settingsOpen settings.save = some after ∧ values.Reads after := by
  have printable : settings.Printable := by
    refine held.printable fun name key attached value found => ?_
    obtain ⟨entry, member, here⟩ := List.mem_map.mp attached
    obtain ⟨rfl, rfl⟩ := Prod.mk.inj here
    rw [written entry member] at found
    exact Option.some.inj found ▸ (storable entry member).carried
  obtain ⟨after, opens, lookups⟩ := Settings.settingsOpen_save held.distinct printable
  refine ⟨after, opens, fun entry member => ?_⟩
  have short : Settings.isShort (entry.key, entry.value.text) = true :=
    Bool.and_eq_true_iff.mpr ⟨decide_eq_true (storable entry member).shortKey,
      decide_eq_true (storable entry member).shortText⟩
  refine (storable entry member).reads (fits entry member) ?_
  rw [lookups, written entry member, Option.filter_some, if_pos short]

/-- If a saved file gives the values back, its lines can hold them. -/
theorem Written.storable_of_loads (written : values.Written settings) (held : settings.Held values.addresses)
    {after : Settings} (opens : settingsOpen settings.save = some after)
    (loads : ∀ entry ∈ values.entries, ∃ old : SettingValue,
      old.load after entry.part.name entry.key = some entry.value) : values.Storable := by
  obtain ⟨distinct, readable⟩ := settingsOpen_sane opens
  have carried : ∀ entry ∈ values.entries, Carried entry.key entry.value.text ∧
      SettingValue.hasElements entry.value.shape = true := by
    intro entry member
    obtain ⟨old, read⟩ := loads entry member
    exact SettingEntry.carried_of_load readable distinct read
  have printable : settings.Printable := by
    refine held.printable fun name key attached value found => ?_
    obtain ⟨entry, member, here⟩ := List.mem_map.mp attached
    obtain ⟨rfl, rfl⟩ := Prod.mk.inj here
    rw [written entry member] at found
    exact Option.some.inj found ▸ (carried entry member).1
  obtain ⟨after', opens', lookups⟩ := Settings.settingsOpen_save held.distinct printable
  rw [opens] at opens'
  cases opens'
  intro entry member
  obtain ⟨old, read⟩ := loads entry member
  obtain ⟨found, there, _⟩ := SettingValue.lookup_of_load read
  rw [lookups, written entry member] at there
  have short := (Option.filter_eq_some_iff.mp there).2
  have same := Option.some.inj (Option.filter_eq_some_iff.mp there).1
  rw [← same] at short
  have both := Bool.and_eq_true_iff.mp short
  exact ⟨(carried entry member).1, of_decide_eq_true both.1, of_decide_eq_true both.2, (carried entry member).2⟩

/-- The numbers of the meta data are read. -/
theorem Reads.metaInt (reads : values.Reads settings) :
    settings.metaInt versionKey = some values.version ∧ settings.metaInt seqCountKey = some values.seqCount ∧
      settings.metaInt sizeKey = some values.size := by
  obtain ⟨version, seqCount, size⟩ := values.meta_mem
  have read : ∀ entry ∈ values.entries, (SettingValue.int 0).shape = entry.value.shape →
      (SettingValue.int 0).load settings entry.part.name entry.key = some entry.value := fun entry member same =>
    reads entry member (.int 0) same
  exact ⟨Settings.metaInt_of_load (read _ version rfl), Settings.metaInt_of_load (read _ seqCount rfl),
    Settings.metaInt_of_load (read _ size rfl)⟩

end Snapshot

theorem Setting.load_reads {setting : Setting} {entry : SettingEntry} {settings : Settings}
    (same : setting.declares = entry.declares) (reads : entry.Reads settings) :
    (setting.load settings).toSettingEntry = entry ∧ (setting.load settings).keyState = .loaded ∧
      (setting.load settings).shadow = entry.value := by
  obtain ⟨part, rest⟩ := Prod.mk.inj same
  obtain ⟨key, shape⟩ := Prod.mk.inj rest
  have value := reads setting.value shape
  have shadow := reads setting.shadow (setting.sized.trans shape)
  rw [← part, ← key] at value shadow
  have entries : (setting.load settings).toSettingEntry =
      ⟨setting.part, setting.key, setting.value.loaded settings setting.part.name setting.key⟩ := rfl
  have copy : (setting.load settings).shadow = setting.shadow.loaded settings setting.part.name setting.key := rfl
  refine ⟨?_, ?_, ?_⟩
  · rw [entries, SettingValue.loaded_of_load value, part, key]
  · unfold Setting.load
    dsimp only
    rw [value, shadow]
    rfl
  · rw [copy, SettingValue.loaded_of_load shadow]

/-- A setting that is loaded has a value that was read. -/
theorem Setting.load_of_loaded {setting : Setting} {settings : Settings}
    (loaded : (setting.load settings).keyState = .loaded) :
    setting.value.load settings setting.part.name setting.key = some (setting.load settings).value := by
  unfold Setting.load at loaded
  dsimp only at loaded
  split_ifs at loaded with found
  obtain ⟨value, here⟩ := Option.isSome_iff_exists.mp (Bool.and_eq_true_iff.mp found).1
  have read : (setting.load settings).value = setting.value.loaded settings setting.part.name setting.key := rfl
  rw [read, SettingValue.loaded_of_load here, here]

theorem MetaSetting.load_found {setting : MetaSetting} {settings : Settings} {key : List Byte} {value : Int32}
    (found : settings.metaInt key = some value) :
    setting.load settings key = ⟨value, setting.shadows.map fun _ => value, .loaded⟩ := by
  unfold MetaSetting.load
  rw [found]

theorem MetaSetting.load_of_loaded {setting : MetaSetting} {settings : Settings} {key : List Byte}
    (loaded : (setting.load settings key).keyState = .loaded) :
    settings.metaInt key = some (setting.load settings key).value := by
  unfold MetaSetting.load at loaded ⊢
  cases here : settings.metaInt key with
  | none =>
    rw [here] at loaded
    cases loaded
  | some value => rfl

namespace ADSettings
variable {ads : ADSettings} {values : Snapshot} {settings : Settings}

/-- Every setting is in the state `LOADED`. -/
structure AllLoaded (ads : ADSettings) : Prop where
  user : ∀ setting ∈ ads.user, setting.keyState = .loaded
  version : ads.version.keyState = .loaded
  seqCount : ads.seqCount.keyState = .loaded
  size : ads.size.keyState = .loaded

/-- Every copy agrees with a value. -/
structure Synced (ads : ADSettings) (values : Snapshot) : Prop where
  user : ads.user.map Setting.shadow = values.user.map SettingEntry.value
  version : ∀ shadow ∈ ads.version.shadows, shadow = values.version
  seqCount : ∀ shadow ∈ ads.seqCount.shadows, shadow = values.seqCount
  size : ∀ shadow ∈ ads.size.shadows, shadow = values.size

theorem declares_values (ads : ADSettings) : ads.values.user.map SettingEntry.declares = ads.declares := by
  unfold declares ADSettings.values
  rw [List.map_map]
  rfl

theorem fits_values (ads : ADSettings) : ads.values.Fits := by
  intro entry member
  rcases List.mem_append.mp member with user | rest
  · obtain ⟨setting, _, rfl⟩ := List.mem_map.mp user
    exact setting.fits
  · simp only [List.mem_cons, List.not_mem_nil, or_false] at rest
    rcases rest with rfl | rfl | rfl <;> rfl

theorem user_load_reads (entries : List SettingEntry) (user : List Setting)
    (same : user.map (fun setting => setting.declares) = entries.map SettingEntry.declares)
    (reads : ∀ entry ∈ entries, entry.Reads settings) :
    (user.map (Setting.load settings)).map Setting.toSettingEntry = entries ∧
      (∀ setting ∈ user.map (Setting.load settings), setting.keyState = .loaded) ∧
      (user.map (Setting.load settings)).map Setting.shadow = entries.map SettingEntry.value := by
  induction entries generalizing user with
  | nil =>
    have empty := List.map_eq_nil_iff.mp same
    rw [empty]
    exact ⟨rfl, fun _ member => absurd member List.not_mem_nil, rfl⟩
  | cons entry entries ih =>
    obtain ⟨setting, rest, rfl, first, later⟩ := List.map_eq_cons_iff.mp same
    obtain ⟨values, loaded, shadows⟩ := ih rest later fun other member => reads other (List.mem_cons_of_mem _ member)
    obtain ⟨value, state, shadow⟩ := Setting.load_reads first (reads entry List.mem_cons_self)
    refine ⟨?_, ?_, ?_⟩
    · rw [List.map_cons, List.map_cons, value, values]
    · intro other member
      rcases List.mem_cons.mp member with rfl | inside
      · exact state
      · exact loaded other inside
    · rw [List.map_cons, List.map_cons, List.map_cons, shadow, shadows]

/-- Settings that give all values are loaded with these values, and so are the copies. -/
theorem loadEntries_reads (declared : ads.declares = values.user.map SettingEntry.declares)
    (reads : values.Reads settings) :
    (ads.loadEntries settings).values = values ∧ (ads.loadEntries settings).AllLoaded ∧
      (ads.loadEntries settings).Synced values := by
  obtain ⟨version, seqCount, size⟩ := reads.metaInt
  have inside : ∀ entry ∈ values.user, entry.Reads settings :=
    fun entry member => reads entry (List.mem_append_left _ member)
  obtain ⟨user, loaded, shadows⟩ := user_load_reads values.user ads.user declared inside
  have copies : ∀ (old : List Int32) (value : Int32), ∀ shadow ∈ old.map fun _ => value, shadow = value := by
    intro old value shadow member
    obtain ⟨_, _, rfl⟩ := List.mem_map.mp member
    rfl
  unfold loadEntries
  rw [MetaSetting.load_found version, MetaSetting.load_found seqCount, MetaSetting.load_found size]
  refine ⟨?_, ⟨loaded, rfl, rfl, rfl⟩, ⟨shadows, copies _ _, copies _ _, copies _ _⟩⟩
  unfold ADSettings.values
  dsimp only
  rw [user]

/-- What is loaded was read. -/
theorem load_of_allLoaded (loaded : (ads.loadEntries settings).AllLoaded)
    (same : (ads.loadEntries settings).values = values) :
    ∀ entry ∈ values.entries, ∃ old : SettingValue,
      old.load settings entry.part.name entry.key = some entry.value := by
  subst same
  intro entry member
  have number : ∀ (key : List Byte) (value : Int32), settings.metaInt key = some value →
      ∃ old : SettingValue, old.load settings SettingsPart.metaData.name key = some (.int value) := by
    intro key value found
    obtain ⟨text, got, rfl⟩ := Option.map_eq_some_iff.mp found
    refine ⟨.int 0, ?_⟩
    unfold SettingValue.load
    dsimp only
    rw [got]
    rfl
  rcases List.mem_append.mp member with user | rest
  · obtain ⟨after, inside, rfl⟩ := List.mem_map.mp user
    have state := loaded.user after inside
    obtain ⟨setting, _, rfl⟩ := List.mem_map.mp inside
    exact ⟨setting.value, Setting.load_of_loaded state⟩
  · simp only [List.mem_cons, List.not_mem_nil, or_false] at rest
    rcases rest with rfl | rfl | rfl
    · exact number _ _ (MetaSetting.load_of_loaded loaded.version)
    · exact number _ _ (MetaSetting.load_of_loaded loaded.seqCount)
    · exact number _ _ (MetaSetting.load_of_loaded loaded.size)

end ADSettings
end JsonRpcTcp
