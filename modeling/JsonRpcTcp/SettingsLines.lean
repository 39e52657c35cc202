import JsonRpcTcp.SettingsText

namespace JsonRpcTcp

theorem StrMap.getPair_put (pairs : StrMap) (key value other : List Byte) :
    (pairs.put key value).getPair other = if other = key then some (key, value) else pairs.getPair other := by
  unfold StrMap.put StrMap.getPair
  rw [find_upsert Prod.fst key (fun _ => (key, value)) (key, value) pairs (fun _ _ => rfl) rfl]
  by_cases same : other = key
  · rw [if_pos same, if_pos same]
    cases pairs.find? fun pair => pair.1 = key <;> rfl
  · rw [if_neg same, if_neg same]

namespace Settings

/-- What a key holds after `settings_set`. -/
theorem lookup_put (settings : Settings) (name key value other otherKey : List Byte) :
    (settings.put name key value).lookup other otherKey =
      if other = name ∧ otherKey = key then some value else settings.lookup other otherKey := by
  unfold put lookup getSection
  rw [find_upsert SettingsSection.name name (fun sec => { sec with pairs := sec.pairs.put key value }) _ settings
    (fun _ here => here) rfl]
  by_cases same : other = name
  · subst same
    rw [if_pos rfl, Option.bind_some]
    cases settings.find? fun sec => sec.name = other with
    | none =>
      rw [Option.map_none, Option.getD_none, StrMap.getPair_put]
      by_cases sameKey : otherKey = key
      · rw [if_pos sameKey, if_pos ⟨rfl, sameKey⟩, Option.map_some]
      · rw [if_neg sameKey, if_neg fun both => sameKey both.2]
        rfl
    | some sec =>
      rw [Option.map_some, Option.getD_some, StrMap.getPair_put]
      by_cases sameKey : otherKey = key
      · rw [if_pos sameKey, if_pos ⟨rfl, sameKey⟩, Option.map_some]
      · rw [if_neg sameKey, if_neg fun both => sameKey both.2]
        rfl
  · rw [if_neg same, if_neg fun both => same both.1]

/-- Sections have different names, and the keys of a section are different. -/
structure Distinct (settings : Settings) : Prop where
  names : Keyed SettingsSection.name settings
  keys : ∀ sec ∈ settings, Keyed Prod.fst sec.pairs

theorem distinct_nil : Distinct [] := ⟨Keyed.nil, fun _ member => absurd member List.not_mem_nil⟩

theorem Distinct.put {settings : Settings} (distinct : Distinct settings) (name key value : List Byte) :
    Distinct (settings.put name key value) := by
  refine ⟨keyed_upsert distinct.names (fun _ here => here) rfl, forall_mem_upsert distinct.keys ?_ ?_⟩
  · intro sec member _
    exact keyed_upsert (distinct.keys sec member) (fun _ _ => rfl) rfl
  · exact keyed_upsert Keyed.nil (fun _ _ => rfl) rfl

/-- The section, key and value of every pair. -/
def Has (settings : Settings) (name key value : List Byte) : Prop :=
  ∃ sec ∈ settings, sec.name = name ∧ (key, value) ∈ sec.pairs

theorem Distinct.has_iff {settings : Settings} (distinct : Distinct settings) {name key value : List Byte} :
    settings.Has name key value ↔ settings.lookup name key = some value := by
  constructor
  · rintro ⟨sec, member, rfl, pair⟩
    have found : settings.getSection sec.name = some sec := distinct.names.find_iff.mpr member
    have there : sec.pairs.getPair key = some (key, value) :=
      (distinct.keys sec member).find_iff (a := (key, value)).mpr pair
    rw [lookup, found, Option.bind_some, there, Option.map_some]
  · intro found
    obtain ⟨pair, there, rfl⟩ := Option.map_eq_some_iff.mp found
    obtain ⟨sec, here, inside⟩ := Option.bind_eq_some_iff.mp there
    refine ⟨sec, List.mem_of_find?_eq_some here, key_of_find here, ?_⟩
    rw [← key_of_find inside]
    exact List.mem_of_find?_eq_some inside

end Settings

/-- A key and a value that one line of the file can carry. -/
structure Carried (key value : List Byte) : Prop where
  nonempty : key ≠ []
  keyBytes : ∀ c ∈ key, c ≠ 0 ∧ c ≠ newline ∧ c ≠ keyValueSeparatorChar
  keyTrimmed : Trimmed isBlankChar key
  uncommented : key.head? ≠ some commentChar
  unbracketed : key.head? = some sectionStartChar → sectionEndChar ∉ key ∧ sectionEndChar ∉ value
  valueBytes : ∀ c ∈ value, c ≠ 0 ∧ c ≠ newline
  valueTrimmed : Trimmed isBlankChar value

instance (key value : List Byte) : Decidable (Carried key value) :=
  decidable_of_iff (key ≠ [] ∧ (∀ c ∈ key, c ≠ 0 ∧ c ≠ newline ∧ c ≠ keyValueSeparatorChar) ∧
      Trimmed isBlankChar key ∧ key.head? ≠ some commentChar ∧
      (key.head? = some sectionStartChar → sectionEndChar ∉ key ∧ sectionEndChar ∉ value) ∧
      (∀ c ∈ value, c ≠ 0 ∧ c ≠ newline) ∧ Trimmed isBlankChar value)
    ⟨fun all => ⟨all.1, all.2.1, all.2.2.1, all.2.2.2.1, all.2.2.2.2.1, all.2.2.2.2.2.1, all.2.2.2.2.2.2⟩,
      fun carried => ⟨carried.nonempty, carried.keyBytes, carried.keyTrimmed, carried.uncommented, carried.unbracketed,
        carried.valueBytes, carried.valueTrimmed⟩⟩

/-- A section name that a line of the file can carry. -/
structure CarriedName (name : List Byte) : Prop where
  bytes : ∀ c ∈ name, c ≠ 0 ∧ c ≠ newline ∧ c ≠ sectionEndChar
  length : name.length + 3 ≤ maxLineChars

namespace ParseState

/-- The line of a pair, from its key to behind the separator, sets the pair. -/
theorem parseStr_pair (state : ParseState) {key value rest : List Byte} (carried : Carried key value)
    (reads : rest.dropWhile isBlankChar = value) (unbracketed : key.head? = some sectionStartChar → sectionEndChar ∉ rest) :
    state.parseStr (key ++ space :: keyValueSeparatorChar :: rest) = state.set key value := by
  obtain ⟨c, tail, rfl⟩ := List.exists_cons_of_ne_nil carried.nonempty
  have first : isBlankChar c = false := carried.keyTrimmed.head_not rfl
  have noSeparator : c ≠ keyValueSeparatorChar := (carried.keyBytes c List.mem_cons_self).2.2
  have noComment : isCommentStr ((c :: tail) ++ space :: keyValueSeparatorChar :: rest) = false := by
    have other : c ≠ commentChar := fun same => carried.uncommented (congrArg some same)
    simp [isCommentStr, other]
  have noSection : isSectionStr ((c :: tail) ++ space :: keyValueSeparatorChar :: rest) = false := by
    by_cases opens : c = sectionStartChar
    · have inKey := (carried.unbracketed (congrArg some opens)).1
      have inRest := unbracketed (congrArg some opens)
      simp only [isSectionStr, Bool.and_eq_false_imp]
      intro _
      simp only [List.contains_eq_mem, decide_eq_false_iff_not, List.mem_append, List.mem_cons, not_or] at inKey ⊢
      exact ⟨inKey, by decide, by decide, inRest⟩
    · simp [isSectionStr, opens]
  have isPair : isKeyValueStr ((c :: tail) ++ space :: keyValueSeparatorChar :: rest) = true := by
    simp [isKeyValueStr, noSeparator]
  have before : ((c :: tail) ++ space :: keyValueSeparatorChar :: rest).takeWhile (· != keyValueSeparatorChar) =
      (c :: tail) ++ [space] := by
    rw [List.takeWhile_append_of_pos fun d member => bne_iff_ne.mpr (carried.keyBytes d member).2.2]
    rfl
  have behind : ((c :: tail) ++ space :: keyValueSeparatorChar :: rest).dropWhile (· != keyValueSeparatorChar) =
      keyValueSeparatorChar :: rest := by
    rw [List.dropWhile_append_of_pos fun d member => bne_iff_ne.mpr (carried.keyBytes d member).2.2]
    rfl
  have keyPart : ((c :: tail) ++ [space]).rdropWhile isBlankChar = c :: tail := by
    rw [List.rdropWhile_concat_pos isBlankChar (c :: tail) space rfl]
    exact rdropWhile_of_last carried.keyTrimmed.last
  unfold parseStr
  rw [if_neg (by simp), if_neg (by simp [first]), if_neg (Bool.not_eq_true _ ▸ noComment),
    if_neg (Bool.not_eq_true _ ▸ noSection), if_pos isPair, getKeyValueFromStr, before, behind, keyPart, List.tail_cons, reads]

/-- The line that `enum_map` writes for a pair sets this pair. -/
theorem parseStr_line (state : ParseState) {key value : List Byte} (carried : Carried key value) :
    state.parseStr (trimStr (key ++ [space, keyValueSeparatorChar, space] ++ value)) = state.set key value := by
  have keyHead : ∀ rest : List Byte, (key ++ rest).head?.all (fun c => !isBlankChar c) = true := by
    intro rest
    obtain ⟨c, tail, rfl⟩ := List.exists_cons_of_ne_nil carried.nonempty
    exact carried.keyTrimmed.head
  by_cases empty : value = []
  · subst empty
    have cut : trimStr (key ++ [space, keyValueSeparatorChar, space] ++ []) = key ++ [space, keyValueSeparatorChar] := by
      have split : key ++ [space, keyValueSeparatorChar, space] ++ [] = (key ++ [space, keyValueSeparatorChar]) ++ [space] := by
        simp
      rw [split, trimStr, trim_concat rfl]
      exact trim_of_trimmed ⟨keyHead _, by simp; decide⟩
    rw [cut]
    exact state.parseStr_pair carried rfl fun _ => List.not_mem_nil
  · have whole : trimStr (key ++ [space, keyValueSeparatorChar, space] ++ value) =
        key ++ [space, keyValueSeparatorChar, space] ++ value := by
      refine trim_of_trimmed ⟨?_, ?_⟩
      · rw [List.append_assoc]
        exact keyHead _
      · rw [List.getLast?_append_of_ne_nil _ empty]
        exact carried.valueTrimmed.last
    have spaced : key ++ [space, keyValueSeparatorChar, space] ++ value =
        key ++ space :: keyValueSeparatorChar :: (space :: value) := by simp
    rw [whole, spaced]
    refine state.parseStr_pair carried ?_ ?_
    · rw [List.dropWhile_cons_of_pos (by decide)]
      exact dropWhile_of_head carried.valueTrimmed.head
    · intro opens inside
      rcases List.mem_cons.mp inside with same | later
      · exact absurd same (by decide)
      · exact (carried.unbracketed opens).2 later

/-- The header of a section makes it the current one. -/
theorem parseStr_header (state : ParseState) {name : List Byte} (carried : CarriedName name) :
    state.parseStr (trimStr ([sectionStartChar] ++ name ++ [sectionEndChar])) =
      some { state with currentSection := some name } := by
  have whole : trimStr ([sectionStartChar] ++ name ++ [sectionEndChar]) = sectionStartChar :: (name ++ [sectionEndChar]) :=
    trim_of_trimmed ⟨rfl, by rw [List.getLast?_concat]; rfl⟩
  have isHeader : isSectionStr (sectionStartChar :: (name ++ [sectionEndChar])) = true := by simp [isSectionStr]
  have reads : getSectionFromStr (sectionStartChar :: (name ++ [sectionEndChar])) = name := by
    rw [getSectionFromStr, List.tail_cons,
      List.takeWhile_append_of_pos fun c member => bne_iff_ne.mpr (carried.bytes c member).2.2]
    simp
  unfold parseStr
  have noComment : isCommentStr (sectionStartChar :: (name ++ [sectionEndChar])) = false := rfl
  have noBlank : (sectionStartChar :: (name ++ [sectionEndChar])).all isBlankChar = false := rfl
  rw [whole, if_neg (by simp), noBlank, noComment, isHeader, reads]
  rfl

end ParseState

/-- `fgets` returns a short line with its newline. -/
theorem fgetsLines_line (line rest : List Byte) (before : List Byte) (single : newline ∉ line)
    (short : before.length + line.length + 2 ≤ maxLineChars) :
    fgetsLines before (line ++ newline :: rest) = (before ++ line ++ [newline]) :: fgetsLines [] rest := by
  induction line generalizing before with
  | nil => simp [fgetsLines]
  | cons c line ih =>
    have other : c ≠ newline := fun same => single (same ▸ List.mem_cons_self)
    have room : ¬ before.length + 2 = maxLineChars := by
      simp only [List.length_cons] at short
      omega
    rw [List.cons_append, fgetsLines, if_neg (not_or.mpr ⟨other, room⟩),
      ih (before ++ [c]) (fun member => single (List.mem_cons_of_mem _ member))
        (by simp only [List.length_append, List.length_cons, List.length_nil] at short ⊢; omega)]
    simp

/-- A line that fills the buffer comes without its newline, which then is a line of its own. -/
theorem fgetsLines_full (line rest : List Byte) (before : List Byte) (single : newline ∉ line) (nonempty : line ≠ [])
    (full : before.length + line.length + 1 = maxLineChars) :
    fgetsLines before (line ++ newline :: rest) = (before ++ line) :: [newline] :: fgetsLines [] rest := by
  induction line generalizing before with
  | nil => exact absurd rfl nonempty
  | cons c line ih =>
    have other : c ≠ newline := fun same => single (same ▸ List.mem_cons_self)
    simp only [List.length_cons] at full
    rw [List.cons_append, fgetsLines]
    by_cases last : line = []
    · subst last
      rw [if_pos (.inr (by simp only [List.length_nil] at full; omega))]
      simp [fgetsLines]
    · have more : 0 < line.length := List.length_pos_iff.mpr last
      rw [if_neg (not_or.mpr ⟨other, by omega⟩), ih (before ++ [c])
        (fun member => single (List.mem_cons_of_mem _ member)) last
        (by simp only [List.length_append, List.length_cons, List.length_nil]; omega)]
      simp

theorem parseLines_cons (state : ParseState) (line : List Byte) (lines : List (List Byte)) :
    parseLines state (line :: lines) =
      (state.parseStr (trimStr (cString line))).bind fun next => parseLines next lines :=
  List.foldlM_cons

/-- A line of the file is parsed as a whole. -/
theorem parseLines_line (state : ParseState) {line : List Byte} (rest : List Byte)
    (bytes : ∀ c ∈ line, c ≠ 0 ∧ c ≠ newline) (short : line.length + 1 ≤ maxLineChars) :
    parseLines state (fgetsLines [] (line ++ newline :: rest)) =
      (state.parseStr (trimStr line)).bind fun next => parseLines next (fgetsLines [] rest) := by
  have single : newline ∉ line := fun member => (bytes newline member).2 rfl
  have noZero : (0 : Byte) ∉ line := fun member => (bytes 0 member).1 rfl
  by_cases fits : line.length + 2 ≤ maxLineChars
  · have noZero' : (0 : Byte) ∉ line ++ [newline] := by
      simp only [List.mem_append, List.mem_singleton, not_or]
      exact ⟨noZero, by decide⟩
    rw [fgetsLines_line line rest [] single (by simpa using fits), parseLines_cons, List.nil_append,
      cString_of_no_zero noZero', trimStr, trim_concat rfl]
    rfl
  · have nonempty : line ≠ [] := by
      intro empty
      rw [empty] at fits
      exact fits (by decide)
    have blank : ∀ next : ParseState, parseLines next ([newline] :: fgetsLines [] rest) =
        parseLines next (fgetsLines [] rest) := by
      intro next
      rw [parseLines_cons, show trimStr (cString [newline]) = [] from by decide]
      rfl
    rw [fgetsLines_full line rest [] single nonempty (by simp only [List.length_nil]; omega), parseLines_cons,
      List.nil_append, cString_of_no_zero noZero]
    simp only [blank]

namespace Settings

/-- A pair short enough to be written. -/
def isShort (pair : List Byte × List Byte) : Bool :=
  pair.1.length < maxKeyChars && pair.2.length < maxValueChars

/-- The pairs of a section are set one after the other. -/
theorem parseLines_pairs (pairs : StrMap) (settings : Settings) {name : List Byte} (named : name ≠ [])
    (rest : List Byte) (carried : ∀ pair ∈ pairs, Carried pair.1 pair.2) :
    parseLines { settings := settings, currentSection := some name } (fgetsLines [] (pairs.flatMap enumMap ++ rest)) =
      parseLines
        { settings := (pairs.filter isShort).foldl (fun settings pair => settings.put name pair.1 pair.2) settings
          currentSection := some name } (fgetsLines [] rest) := by
  induction pairs generalizing settings with
  | nil => rfl
  | cons pair pairs ih =>
    have here := carried pair List.mem_cons_self
    have later := fun settings => ih settings fun p member => carried p (List.mem_cons_of_mem _ member)
    rw [List.flatMap_cons, List.append_assoc]
    by_cases short : pair.1.length < maxKeyChars ∧ pair.2.length < maxValueChars
    · have line : enumMap pair = (pair.1 ++ [space, keyValueSeparatorChar, space] ++ pair.2) ++ [newline] := by
        rw [enumMap, if_pos short]
      have separators : ∀ d ∈ [space, keyValueSeparatorChar, space], d ≠ 0 ∧ d ≠ newline := by
        intro d member
        simp only [List.mem_cons, List.not_mem_nil, or_false] at member
        rcases member with rfl | rfl | rfl <;> decide
      have bytes : ∀ c ∈ pair.1 ++ [space, keyValueSeparatorChar, space] ++ pair.2, c ≠ 0 ∧ c ≠ newline := by
        intro c member
        rcases List.mem_append.mp member with front | inValue
        · rcases List.mem_append.mp front with inKey | between
          · exact ⟨(here.keyBytes c inKey).1, (here.keyBytes c inKey).2.1⟩
          · exact separators c between
        · exact here.valueBytes c inValue
      have fits : (pair.1 ++ [space, keyValueSeparatorChar, space] ++ pair.2).length + 1 ≤ maxLineChars := by
        simp only [List.length_append, List.length_cons, List.length_nil, maxLineChars]
        omega
      have kept : isShort pair = true := by simpa [isShort] using short
      rw [line, List.append_assoc _ [newline], List.singleton_append, parseLines_line _ _ bytes fits,
        ParseState.parseStr_line _ here, List.filter_cons_of_pos kept, List.foldl_cons, ← later]
      simp [ParseState.set, Settings.set, named]
    · have dropped : isShort pair = false := by
        by_contra kept
        exact short (by simpa [isShort] using kept)
      have noLine : enumMap pair = [] := by rw [enumMap, if_neg short]
      rw [noLine, List.nil_append, List.filter_cons_of_neg (by rw [dropped]; decide)]
      exact later settings

/-- Settings whose names, keys and values lines of a file can carry. -/
structure Printable (settings : Settings) : Prop where
  named : ∀ sec ∈ settings, sec.name ≠ [] ∧ CarriedName sec.name
  carried : ∀ sec ∈ settings, ∀ pair ∈ sec.pairs, Carried pair.1 pair.2

theorem printable_nil : Printable [] :=
  ⟨fun _ member => absurd member List.not_mem_nil, fun _ member => absurd member List.not_mem_nil⟩

theorem Printable.put {settings : Settings} (printable : Printable settings) {name key value : List Byte}
    (named : name ≠ [] ∧ CarriedName name) (carried : Carried key value) : Printable (settings.put name key value) where
  named := forall_mem_upsert printable.named (fun sec member _ => printable.named sec member) named
  carried := by
    have puts : ∀ pairs : StrMap, (∀ pair ∈ pairs, Carried pair.1 pair.2) →
        ∀ pair ∈ pairs.put key value, Carried pair.1 pair.2 := by
      intro pairs before
      exact forall_mem_upsert before (fun _ _ _ => carried) carried
    refine forall_mem_upsert printable.carried ?_ ?_
    · intro sec member _
      exact puts sec.pairs (printable.carried sec member)
    · exact puts [] fun _ member => absurd member List.not_mem_nil

theorem mem_enum {pairs : StrMap} {pair : List Byte × List Byte} :
    pair ∈ pairs.enum ↔ pair ∈ pairs := by
  simp only [StrMap.enum, List.mem_flatMap, List.mem_range, List.mem_filter, beq_iff_eq]
  constructor
  · rintro ⟨_, _, member, _⟩
    exact member
  · intro member
    exact ⟨_, Nat.mod_lt _ (by decide), member, rfl⟩

/-- Everything that `settings_save` writes, in its order: sections, keys and values. -/
def printed (settings : Settings) : List (List Byte × List Byte × List Byte) :=
  settings.flatMap fun sec => (sec.pairs.enum.filter isShort).map fun pair => (sec.name, pair)

theorem mem_printed {settings : Settings} {name key value : List Byte} :
    (name, key, value) ∈ settings.printed ↔ settings.Has name key value ∧ isShort (key, value) = true := by
  simp only [printed, Has, List.mem_flatMap, List.mem_map, List.mem_filter, mem_enum, Prod.mk.injEq]
  constructor
  · rintro ⟨sec, member, pair, ⟨inside, short⟩, rfl, rfl⟩
    exact ⟨⟨sec, member, rfl, inside⟩, short⟩
  · rintro ⟨⟨sec, member, rfl, inside⟩, short⟩
    exact ⟨sec, member, (key, value), ⟨inside, short⟩, rfl, rfl⟩

/-- Setting a list of pairs, one after the other. -/
def putAll (settings : Settings) (pairs : List (List Byte × List Byte × List Byte)) : Settings :=
  pairs.foldl (fun settings pair => settings.put pair.1 pair.2.1 pair.2.2) settings

/-- Reading a saved file sets what was printed. -/
theorem parseLines_save (settings : Settings) (state : ParseState) (printable : Printable settings) :
    (parseLines state (fgetsLines [] settings.save)).map ParseState.settings = some (state.settings.putAll settings.printed) := by
  induction settings generalizing state with
  | nil => rfl
  | cons sec settings ih =>
    obtain ⟨named, name⟩ := printable.named sec List.mem_cons_self
    have rest : Printable settings :=
      ⟨fun s member => printable.named s (List.mem_cons_of_mem _ member),
        fun s member => printable.carried s (List.mem_cons_of_mem _ member)⟩
    have headerBytes : ∀ c ∈ [sectionStartChar] ++ sec.name ++ [sectionEndChar], c ≠ 0 ∧ c ≠ newline := by
      intro c member
      simp only [List.mem_append, List.mem_singleton] at member
      rcases member with (rfl | inside) | rfl
      · decide
      · exact ⟨(name.bytes c inside).1, (name.bytes c inside).2.1⟩
      · decide
    have headerFits : ([sectionStartChar] ++ sec.name ++ [sectionEndChar]).length + 1 ≤ maxLineChars := by
      have bound := name.length
      simp only [List.length_append, List.length_cons, List.length_nil]
      omega
    have carried : ∀ pair ∈ sec.pairs.enum, Carried pair.1 pair.2 :=
      fun pair member => printable.carried sec List.mem_cons_self pair (mem_enum.mp member)
    have text : save (sec :: settings) = ([sectionStartChar] ++ sec.name ++ [sectionEndChar]) ++ newline ::
        (sec.pairs.enum.flatMap enumMap ++ ([] ++ newline :: save settings)) := by
      simp [save, saveSection]
    have blank : ∀ next : ParseState, next.parseStr (trimStr []) = some next := fun _ => rfl
    rw [text, parseLines_line _ _ headerBytes headerFits, ParseState.parseStr_header _ name, Option.bind_some,
      parseLines_pairs _ _ named _ carried,
      parseLines_line _ _ (fun _ member => absurd member List.not_mem_nil) (by decide), blank, Option.bind_some, ih _ rest]
    simp [putAll, printed, List.foldl_map]

/-- What is found after setting a list of pairs was there before or is one of them. -/
theorem lookup_putAll (pairs : List (List Byte × List Byte × List Byte)) (settings : Settings)
    {name key value : List Byte} (found : (settings.putAll pairs).lookup name key = some value) :
    settings.lookup name key = some value ∨ (name, key, value) ∈ pairs := by
  induction pairs generalizing settings with
  | nil => exact .inl found
  | cons pair pairs ih =>
    rcases ih (settings.put pair.1 pair.2.1 pair.2.2) found with here | later
    · rw [lookup_put] at here
      split_ifs at here with same
      · obtain ⟨rfl, rfl⟩ := same
        cases here
        exact .inr List.mem_cons_self
      · exact .inl here
    · exact .inr (List.mem_cons_of_mem _ later)

theorem lookup_putAll_kept (pairs : List (List Byte × List Byte × List Byte)) (settings : Settings)
    {name key : List Byte} (present : (settings.lookup name key).isSome = true) :
    ((settings.putAll pairs).lookup name key).isSome = true := by
  induction pairs generalizing settings with
  | nil => exact present
  | cons pair pairs ih =>
    refine ih (settings.put pair.1 pair.2.1 pair.2.2) ?_
    rw [lookup_put]
    split_ifs
    · rfl
    · exact present

theorem lookup_putAll_mem (pairs : List (List Byte × List Byte × List Byte)) (settings : Settings)
    {name key value : List Byte} (member : (name, key, value) ∈ pairs) :
    ((settings.putAll pairs).lookup name key).isSome = true := by
  induction pairs generalizing settings with
  | nil => exact absurd member List.not_mem_nil
  | cons pair pairs ih =>
    rcases List.mem_cons.mp member with rfl | later
    · refine lookup_putAll_kept pairs _ ?_
      rw [lookup_put, if_pos ⟨rfl, rfl⟩]
      rfl
    · exact ih _ later

/-- Saving and reading loses exactly the pairs that are too long for a line. -/
theorem settingsOpen_save {settings : Settings} (distinct : Distinct settings) (printable : Printable settings) :
    ∃ after, settingsOpen settings.save = some after ∧ ∀ name key,
      after.lookup name key = (settings.lookup name key).filter fun value => isShort (key, value) := by
  refine ⟨putAll [] settings.printed, parseLines_save settings _ printable, ?_⟩
  intro name key
  have back : ∀ value, (putAll [] settings.printed).lookup name key = some value →
      settings.lookup name key = some value ∧ isShort (key, value) = true := by
    intro value found
    rcases lookup_putAll settings.printed [] found with before | printed
    · cases before
    · obtain ⟨has, short⟩ := mem_printed.mp printed
      exact ⟨distinct.has_iff.mp has, short⟩
  cases found : (putAll [] settings.printed).lookup name key with
  | some value =>
    obtain ⟨same, short⟩ := back value found
    rw [same, Option.filter_some, if_pos short]
  | none =>
    cases there : settings.lookup name key with
    | none => rfl
    | some value =>
      rw [Option.filter_some, if_neg]
      intro short
      have member := mem_printed.mpr ⟨distinct.has_iff.mpr there, short⟩
      have present := lookup_putAll_mem settings.printed [] member
      rw [found] at present
      exact Bool.noConfusion present

end Settings

namespace ParseState

/-- What parsing keeps: the settings are those that lines of a file can carry. -/
structure Sane (state : ParseState) : Prop where
  distinct : state.settings.Distinct
  printable : state.settings.Printable
  current : ∀ name, state.currentSection = some name → CarriedName name

theorem Sane.set {state after : ParseState} (sane : state.Sane) {key value : List Byte} (carried : Carried key value)
    (sets : state.set key value = some after) : after.Sane := by
  unfold ParseState.set at sets
  obtain ⟨name, current, sets⟩ := Option.bind_eq_some_iff.mp sets
  obtain ⟨settings, changed, result⟩ := Option.bind_eq_some_iff.mp sets
  cases Option.some.inj result
  unfold Settings.set at changed
  split_ifs at changed with empty
  cases Option.some.inj changed
  exact ⟨sane.distinct.put name key value, sane.printable.put ⟨empty, sane.current name current⟩ carried, sane.current⟩

/-- A line as `settings_open` parses it: trimmed, in one piece and no longer than the buffer. -/
structure IsLine (str : List Byte) : Prop where
  trimmed : Trimmed isBlankChar str
  bytes : ∀ c ∈ str, c ≠ 0 ∧ c ≠ newline
  short : str.length + 1 ≤ maxLineChars

/-- The key and the value of a line can be carried by one. -/
theorem carried_of_pair {str : List Byte} (line : IsLine str) (nonempty : str ≠ []) (plain : isCommentStr str = false)
    (unheaded : isSectionStr str = false) (pair : isKeyValueStr str = true) :
    Carried (getKeyValueFromStr str).1 (getKeyValueFromStr str).2 := by
  obtain ⟨c, tail, rfl⟩ := List.exists_cons_of_ne_nil nonempty
  have first : isBlankChar c = false := line.trimmed.head_not rfl
  have noSeparator : c ≠ keyValueSeparatorChar := by
    intro same
    rw [same] at pair
    simp [isKeyValueStr] at pair
  have starts : (c :: tail).takeWhile (· != keyValueSeparatorChar) =
      c :: tail.takeWhile (· != keyValueSeparatorChar) :=
    List.takeWhile_cons_of_pos (bne_iff_ne.mpr noSeparator)
  have keyFront : (getKeyValueFromStr (c :: tail)).1 <+: (c :: tail).takeWhile (· != keyValueSeparatorChar) :=
    List.rdropWhile_prefix _ _
  have keyPrefix : (getKeyValueFromStr (c :: tail)).1 <+: c :: tail := keyFront.trans (List.takeWhile_prefix _)
  have valueSuffix : (getKeyValueFromStr (c :: tail)).2 <:+ c :: tail :=
    (List.dropWhile_suffix _).trans ((List.tail_suffix _).trans (List.dropWhile_suffix _))
  have keyNonempty : (getKeyValueFromStr (c :: tail)).1 ≠ [] := by
    intro empty
    have blanks := (List.rdropWhile_eq_nil_iff).mp empty c (by rw [starts]; exact List.mem_cons_self)
    rw [first] at blanks
    exact Bool.noConfusion blanks
  have keyHead : (getKeyValueFromStr (c :: tail)).1.head? = some c := by
    obtain ⟨rest, whole⟩ := keyPrefix
    obtain ⟨d, key, same⟩ := List.exists_cons_of_ne_nil keyNonempty
    rw [same] at whole ⊢
    rw [List.cons_append] at whole
    rw [(List.cons.inj whole).1]
    rfl
  refine ⟨keyNonempty, ?_, ⟨?_, ?_⟩, ?_, ?_, ?_, ⟨?_, ?_⟩⟩
  · intro d member
    have bytes := line.bytes d (keyPrefix.mem member)
    have other := List.mem_takeWhile_imp (keyFront.mem member)
    exact ⟨bytes.1, bytes.2, bne_iff_ne.mp other⟩
  · exact head_all_of_prefix keyPrefix line.trimmed.head
  · exact rdropWhile_last _ _
  · rw [keyHead]
    intro same
    rw [Option.some.inj same] at plain
    exact Bool.noConfusion plain
  · rw [keyHead]
    intro same
    have absent : sectionEndChar ∉ c :: tail := by
      intro inside
      have found : isSectionStr (c :: tail) = true := by
        simp only [isSectionStr, List.head?_cons, same, List.contains_eq_mem, inside, decide_true, Bool.and_true]
        rfl
      rw [found] at unheaded
      exact Bool.noConfusion unheaded
    exact ⟨fun inside => absent (keyPrefix.mem inside), fun inside => absent (valueSuffix.mem inside)⟩
  · intro d member
    exact line.bytes d (valueSuffix.mem member)
  · exact dropWhile_head _ _
  · exact last_all_of_suffix valueSuffix line.trimmed.last

/-- A line without a separator is a key that can be carried. -/
theorem carried_of_key {str : List Byte} (line : IsLine str) (nonempty : str ≠ []) (plain : isCommentStr str = false)
    (unheaded : isSectionStr str = false) (alone : isKeyWithoutValueStr str = true) : Carried str [] := by
  have noSeparator : keyValueSeparatorChar ∉ str := by
    intro inside
    simp [isKeyWithoutValueStr, inside] at alone
  refine ⟨nonempty, ?_, line.trimmed, ?_, ?_, fun _ member => absurd member List.not_mem_nil, trimmed_nil⟩
  · intro c member
    exact ⟨(line.bytes c member).1, (line.bytes c member).2, fun same => noSeparator (same ▸ member)⟩
  · intro comment
    rw [isCommentStr, comment] at plain
    exact Bool.noConfusion plain
  · intro opens
    refine ⟨?_, List.not_mem_nil⟩
    intro inside
    simp [isSectionStr, opens, inside] at unheaded

theorem carriedName_of_header {str : List Byte} (line : IsLine str) (header : isSectionStr str = true) :
    CarriedName (getSectionFromStr str) := by
  refine ⟨?_, ?_⟩
  · intro c member
    have inside : c ∈ str := List.mem_of_mem_tail ((List.takeWhile_prefix _).mem member)
    have other : (c != sectionEndChar) = true := List.mem_takeWhile_imp (p := (· != sectionEndChar)) member
    exact ⟨(line.bytes c inside).1, (line.bytes c inside).2, bne_iff_ne.mp other⟩
  · -- the two brackets are not part of the name
    obtain ⟨opens, closes⟩ := Bool.and_eq_true_iff.mp header
    obtain ⟨tail, rfl⟩ : ∃ tail, str = sectionStartChar :: tail := by
      cases str with
      | nil => exact absurd opens Bool.noConfusion
      | cons c tail => exact ⟨tail, by simpa using opens⟩
    have closing : sectionEndChar ∈ tail := by
      rcases List.mem_cons.mp (List.contains_iff_mem.mp closes) with same | inside
      · exact absurd same (by decide)
      · exact inside
    have split := List.takeWhile_append_dropWhile (p := (· != sectionEndChar)) (l := tail)
    have rest : tail.dropWhile (· != sectionEndChar) ≠ [] := by
      intro empty
      rw [empty, List.append_nil] at split
      rw [← split] at closing
      have other : (sectionEndChar != sectionEndChar) = true :=
        List.mem_takeWhile_imp (p := (· != sectionEndChar)) closing
      exact bne_iff_ne.mp other rfl
    have lengths := congrArg List.length split
    have positive := List.length_pos_iff.mpr rest
    have short := line.short
    simp only [List.length_append, List.length_cons] at lengths short
    simp only [getSectionFromStr, List.tail_cons]
    omega

theorem parseStr_sane {state after : ParseState} (sane : state.Sane) {str : List Byte} (line : IsLine str)
    (parses : state.parseStr str = some after) : after.Sane := by
  unfold parseStr at parses
  split_ifs at parses with empty blank comment header pair alone
  · cases Option.some.inj parses
    exact sane
  · cases Option.some.inj parses
    exact sane
  · cases Option.some.inj parses
    exact sane
  · cases Option.some.inj parses
    refine ⟨sane.distinct, sane.printable, ?_⟩
    intro name same
    cases Option.some.inj same
    exact carriedName_of_header line header
  · exact sane.set (carried_of_pair line empty (Bool.eq_false_of_not_eq_true comment)
      (Bool.eq_false_of_not_eq_true header) pair) parses
  · exact sane.set (carried_of_key line empty (Bool.eq_false_of_not_eq_true comment)
      (Bool.eq_false_of_not_eq_true header) alone) parses

end ParseState

/-- `fgets` returns no more than its buffer holds, and a newline only at the end. -/
theorem fgetsLines_bounds (content : List Byte) (before : List Byte) (open' : newline ∉ before)
    (room : before.length + 2 ≤ maxLineChars) :
    ∀ line ∈ fgetsLines before content, line.length + 1 ≤ maxLineChars ∧ newline ∉ line.dropLast := by
  induction content generalizing before with
  | nil =>
    intro line member
    unfold fgetsLines at member
    split_ifs at member
    · exact absurd member List.not_mem_nil
    · rw [List.mem_singleton.mp member]
      exact ⟨by omega, fun inside => open' (List.dropLast_subset _ inside)⟩
  | cons c rest ih =>
    intro line member
    unfold fgetsLines at member
    split_ifs at member with ends
    · rcases List.mem_cons.mp member with rfl | later
      · rw [List.length_append, List.length_singleton, List.dropLast_concat]
        exact ⟨by omega, open'⟩
      · exact ih [] List.not_mem_nil (by decide) line later
    · obtain ⟨other, more⟩ := not_or.mp ends
      refine ih (before ++ [c]) ?_ ?_ line member
      · simp only [List.mem_append, List.mem_singleton, not_or]
        exact ⟨open', fun same => other same.symm⟩
      · rw [List.length_append, List.length_singleton]
        omega

/-- What `parse_str` is given is a line. -/
theorem isLine_trimStr {line : List Byte} (short : line.length + 1 ≤ maxLineChars) (single : newline ∉ line.dropLast) :
    ParseState.IsLine (trimStr (cString line)) := by
  have sublist := trim_sublist isBlankChar (cString line)
  have prefixed : cString line <+: line := List.takeWhile_prefix _
  refine ⟨trimmed_trim _ _, ?_, ?_⟩
  · intro c member
    refine ⟨bne_iff_ne.mp (List.mem_takeWhile_imp (p := (· != 0)) (sublist.mem member)), ?_⟩
    intro same
    subst same
    exact single (mem_dropLast_of_initial prefixed (mem_dropLast_of_trim rfl member))
  · have shorter : (trimStr (cString line)).length ≤ (cString line).length := sublist.length_le
    have cut := prefixed.length_le
    omega

/-- Whatever `settings_open` reads, the result is one that lines of a file can carry. -/
theorem settingsOpen_sane {content : List Byte} {settings : Settings} (opens : settingsOpen content = some settings) :
    settings.Distinct ∧ settings.Printable := by
  have runs : ∀ (lines : List (List Byte)) (state after : ParseState),
      (∀ line ∈ lines, line.length + 1 ≤ maxLineChars ∧ newline ∉ line.dropLast) → state.Sane →
      parseLines state lines = some after → after.Sane := by
    intro lines
    induction lines with
    | nil =>
      intro state after _ sane parses
      cases Option.some.inj parses
      exact sane
    | cons line lines ih =>
      intro state after bounds sane parses
      rw [parseLines_cons] at parses
      obtain ⟨next, first, rest⟩ := Option.bind_eq_some_iff.mp parses
      obtain ⟨short, single⟩ := bounds line List.mem_cons_self
      refine ih next after (fun other member => bounds other (List.mem_cons_of_mem _ member)) ?_ rest
      exact ParseState.parseStr_sane sane (isLine_trimStr short single) first
  obtain ⟨after, parses, rfl⟩ := Option.map_eq_some_iff.mp opens
  have sane := runs _ _ after (fgetsLines_bounds content [] List.not_mem_nil (by decide))
    ⟨Settings.distinct_nil, Settings.printable_nil, fun _ impossible => by cases impossible⟩ parses
  exact ⟨sane.distinct, sane.printable⟩

end JsonRpcTcp
