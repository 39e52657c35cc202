import JsonRpcTcp.SettingsStep

namespace JsonRpcTcp

theorem SettingsPart.name_carried (part : SettingsPart) : part.name ≠ [] ∧ CarriedName part.name := by
  have nonempty : part.name ≠ [] := by cases part <;> decide
  have bytes : ∀ c ∈ part.name, c ≠ 0 ∧ c ≠ newline ∧ c ≠ sectionEndChar := by
    cases part <;> decide +kernel
  have short : part.name.length ≤ 8 := by cases part <;> decide
  refine ⟨nonempty, bytes, ?_⟩
  unfold maxLineChars maxKeyChars maxValueChars
  omega

theorem Carried.replace {key value text : List Byte} (carried : Carried key value) (plain : PlainText text)
    (unbracketed : key.head? = some sectionStartChar → sectionEndChar ∉ text) : Carried key text where
  nonempty := carried.nonempty
  keyBytes := carried.keyBytes
  keyTrimmed := carried.keyTrimmed
  uncommented := carried.uncommented
  unbracketed := fun bracket => ⟨(carried.unbracketed bracket).1, unbracketed bracket⟩
  valueBytes := plain.bytes
  valueTrimmed := plain.trimmed

namespace Settings

/-- What a key holds after setting a list of pairs in which it has one value. -/
theorem lookup_putAll_of_mem {pairs : List (List Byte × List Byte × List Byte)} {settings : Settings}
    {name key value : List Byte} (single : ∀ pair ∈ pairs, pair.1 = name → pair.2.1 = key → pair.2.2 = value)
    (present : (name, key, value) ∈ pairs ∨ settings.lookup name key = some value) :
    (settings.putAll pairs).lookup name key = some value := by
  induction pairs generalizing settings with
  | nil => exact present.resolve_left List.not_mem_nil
  | cons pair pairs ih =>
    refine ih (fun other later => single other (List.mem_cons_of_mem _ later)) ?_
    by_cases here : name = pair.1 ∧ key = pair.2.1
    · have same := single pair List.mem_cons_self here.1.symm here.2.symm
      right
      rw [lookup_put, if_pos here, same]
    · rw [lookup_put, if_neg here]
      rcases present with member | before
      · rcases List.mem_cons.mp member with rfl | later
        · exact absurd ⟨rfl, rfl⟩ here
        · exact .inl later
      · exact .inr before

/-- All pairs but those under certain keys can stand in a line. -/
structure Held (settings : Settings) (keys : List (List Byte × List Byte)) : Prop where
  distinct : settings.Distinct
  named : ∀ sec ∈ settings, sec.name ≠ [] ∧ CarriedName sec.name
  carried : ∀ sec ∈ settings, ∀ pair ∈ sec.pairs, (sec.name, pair.1) ∈ keys ∨ Carried pair.1 pair.2

variable {settings : Settings} {keys : List (List Byte × List Byte)}

theorem held_of_open {content : List Byte} (opens : settingsOpen content = some settings) : settings.Held keys := by
  obtain ⟨distinct, printable⟩ := settingsOpen_sane opens
  exact ⟨distinct, printable.named, fun sec inside pair member => .inr (printable.carried sec inside pair member)⟩

theorem Held.put (held : settings.Held keys) {name key : List Byte} (named : name ≠ [] ∧ CarriedName name)
    (attached : (name, key) ∈ keys) (value : List Byte) : (settings.put name key value).Held keys where
  distinct := held.distinct.put name key value
  named := forall_mem_upsert held.named (fun sec member _ => held.named sec member) named
  carried := by
    have puts : ∀ pairs : StrMap, (∀ pair ∈ pairs, (name, pair.1) ∈ keys ∨ Carried pair.1 pair.2) →
        ∀ pair ∈ pairs.put key value, (name, pair.1) ∈ keys ∨ Carried pair.1 pair.2 := by
      intro pairs before
      exact forall_mem_upsert before (fun _ _ _ => .inl attached) (.inl attached)
    refine forall_mem_upsert held.carried ?_ ?_
    · intro sec member here
      have before := held.carried sec member
      rw [here] at before
      have after := puts sec.pairs before
      rw [← here] at after
      exact after
    · exact puts [] fun _ member => absurd member List.not_mem_nil

theorem Held.putAll (held : settings.Held keys) {pairs : List (List Byte × List Byte × List Byte)}
    (attached : ∀ pair ∈ pairs, (pair.1 ≠ [] ∧ CarriedName pair.1) ∧ (pair.1, pair.2.1) ∈ keys) :
    (settings.putAll pairs).Held keys := by
  induction pairs generalizing settings with
  | nil => exact held
  | cons pair pairs ih =>
    obtain ⟨named, inside⟩ := attached pair List.mem_cons_self
    exact ih (held.put named inside _) fun other later => attached other (List.mem_cons_of_mem _ later)

/-- With texts under these keys that can stand in a line, all pairs can. -/
theorem Held.printable (held : settings.Held keys)
    (texts : ∀ name key, (name, key) ∈ keys → ∀ value, settings.lookup name key = some value → Carried key value) :
    settings.Printable where
  named := held.named
  carried := by
    intro sec member pair inside
    rcases held.carried sec member pair inside with attached | carried
    · have has : settings.Has sec.name pair.1 pair.2 := ⟨sec, member, rfl, inside⟩
      exact texts sec.name pair.1 attached pair.2 (held.distinct.has_iff.mp has)
    · exact carried

end Settings

namespace SettingValue

/-- What is read from the text of a value is this value. -/
theorem load_of_text {settings : Settings} {name key : List Byte} {old value read : SettingValue}
    (same : old.shape = value.shape) (found : settings.lookup name key = some value.text)
    (loads : old.load settings name key = some read) : read = value := by
  cases value with
  | string size text =>
    cases old with
    | string size' text' =>
      cases same
      obtain ⟨got, here, rfl⟩ := Option.map_eq_some_iff.mp loads
      rw [(lookup_of_get here).1] at found
      exact congrArg (string size) (Option.some.inj found)
    | _ => cases same
  | int n =>
    cases old with
    | int _ =>
      obtain ⟨got, here, rfl⟩ := Option.map_eq_some_iff.mp loads
      rw [(lookup_of_get here).1] at found
      rw [Option.some.inj found, text, atoi_decimal]
    | _ => cases same
  | long n =>
    cases old with
    | long _ =>
      obtain ⟨got, here, rfl⟩ := Option.map_eq_some_iff.mp loads
      rw [(lookup_of_get here).1] at found
      rw [Option.some.inj found, text, atol_decimal]
    | _ => cases same
  | intArr values =>
    cases old with
    | intArr values' =>
      have length : values'.length = values.length := Shape.intArr.inj same
      simp only [load] at loads
      split_ifs at loads with empty
      obtain ⟨got, here, rfl⟩ := Option.map_eq_some_iff.mp loads
      rw [(lookup_of_get here).1] at found
      rw [Option.some.inj found, text, read_ints, assign_of_length length]
    | _ => cases same
  | longArr values =>
    cases old with
    | longArr values' =>
      have length : values'.length = values.length := Shape.longArr.inj same
      simp only [load] at loads
      split_ifs at loads with empty
      obtain ⟨got, here, rfl⟩ := Option.map_eq_some_iff.mp loads
      rw [(lookup_of_get here).1] at found
      rw [Option.some.inj found, text, read_longs, assign_of_length length]
    | _ => cases same

end SettingValue

namespace SettingEntry

/-- The line of the setting in the file can be written and read. -/
structure Storable (entry : SettingEntry) : Prop where
  carried : Carried entry.key entry.value.text
  shortKey : entry.key.length < maxKeyChars
  shortText : entry.value.text.length < maxValueChars
  elements : SettingValue.hasElements entry.value.shape = true

instance (entry : SettingEntry) : Decidable entry.Storable :=
  decidable_of_iff (Carried entry.key entry.value.text ∧ entry.key.length < maxKeyChars ∧
      entry.value.text.length < maxValueChars ∧ SettingValue.hasElements entry.value.shape = true)
    ⟨fun all => ⟨all.1, all.2.1, all.2.2.1, all.2.2.2⟩,
      fun storable => ⟨storable.carried, storable.shortKey, storable.shortText, storable.elements⟩⟩

/-- Whatever a buffer of its shape held before, the value is read into it. -/
def Reads (entry : SettingEntry) (settings : Settings) : Prop :=
  ∀ old : SettingValue, old.shape = entry.value.shape →
    old.load settings entry.part.name entry.key = some entry.value

theorem Storable.reads {entry : SettingEntry} (storable : entry.Storable) (fits : entry.value.fits = true)
    {settings : Settings} (found : settings.lookup entry.part.name entry.key = some entry.value.text) :
    entry.Reads settings := by
  intro old same
  have inside : entry.value.inBuffer = true := by
    have bytes := storable.carried.valueBytes
    cases here : entry.value with
    | string size text =>
      rw [here] at fits bytes
      have noZero : (0 : Byte) ∉ text := fun member => (bytes 0 member).1 rfl
      have small : text.length < size := of_decide_eq_true fits
      simp [SettingValue.inBuffer, noZero, small]
    | _ => rfl
  exact SettingValue.load_text same inside storable.elements found storable.shortText

/-- A value that was read into a buffer of its shape makes the text that was found one that
a line can carry. -/
theorem carried_of_load {entry : SettingEntry} {settings : Settings} (printable : settings.Printable)
    (distinct : settings.Distinct) {old : SettingValue}
    (loads : old.load settings entry.part.name entry.key = some entry.value) :
    Carried entry.key entry.value.text ∧ SettingValue.hasElements entry.value.shape = true := by
  obtain ⟨found, there, same, elements, texts⟩ := SettingValue.lookup_of_load loads
  obtain ⟨sec, member, -, inside⟩ := distinct.has_iff.mpr there
  have carried : Carried entry.key found := printable.carried sec member _ inside
  refine ⟨?_, same ▸ elements⟩
  rcases entry.value.text_number with ⟨size, text, here⟩ | ⟨plain, unbracketed⟩
  · have equal := texts size text here
    rw [here]
    exact equal ▸ carried
  · exact carried.replace plain fun _ => unbracketed

end SettingEntry
end JsonRpcTcp
