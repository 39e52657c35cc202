import JsonRpcTcp.Lib.Decimal
import JsonRpcTcp.SettingsLines

namespace JsonRpcTcp

abbrev comma : Byte := 0x2c

/-- The tokens that repeated calls of `get_token` return, with the part `token` of the
next one already read. -/
def getTokens (delim : Byte) : List Byte → List Byte → List (List Byte)
  | token, [] => if token = [] then [] else [token]
  | token, c :: rest =>
    if c = delim then token :: getTokens delim [] rest else getTokens delim (token ++ [c]) rest

/-- What the loops of `Store` over an array print into `value`. -/
def tupleText : List (List Byte) → List Byte
  | [] => []
  | [last] => last
  | first :: second :: rest => first ++ [comma, space] ++ tupleText (second :: rest)

/-- The value of a `SETTINGS_ENTRY` by its `key_type`. `size` is the `value_size` of a
string; an array has its fixed number of elements. -/
inductive SettingValue where
  | string (size : Nat) (text : List Byte)
  | int (value : Int32)
  | intArr (values : List Int32)
  | long (value : Int64)
  | longArr (values : List Int64)
  deriving DecidableEq, Repr

namespace SettingValue

/-- What `Store` prints into `value`. -/
def text : SettingValue → List Byte
  | .string _ text => text
  | .int value => decimal value.toInt
  | .intArr values => tupleText (values.map fun value => decimal value.toInt)
  | .long value => decimal value.toInt
  | .longArr values => tupleText (values.map fun value => decimal value.toInt)

/-- The loop of `get_converted_tuple` over the elements of an array. -/
def assign {α : Type} (old new : List α) : List α := new.take old.length ++ old.drop new.length

/-- How `Load` reads a setting into a value: `settings_get`, `settings_get_int` and the
like. `none` is their result 0. -/
def load (old : SettingValue) (settings : Settings) (name key : List Byte) : Option SettingValue :=
  match old with
  | .string size _ => (settings.get name key size).map (.string size)
  | .int _ => (settings.get name key maxValueChars).map fun text => .int (atoi text)
  | .intArr values =>
    if values = [] then none
    else (settings.get name key maxValueChars).map fun text =>
      .intArr (assign values ((getTokens comma [] text).map atoi))
  | .long _ => (settings.get name key maxValueChars).map fun text => .long (atol text)
  | .longArr values =>
    if values = [] then none
    else (settings.get name key maxValueChars).map fun text =>
      .longArr (assign values ((getTokens comma [] text).map atol))

/-- The `key_type` and the `value_size` of an entry. -/
inductive Shape where
  | string (size : Nat)
  | int
  | intArr (count : Nat)
  | long
  | longArr (count : Nat)
  deriving DecidableEq, Repr

def shape : SettingValue → Shape
  | .string size _ => .string size
  | .int _ => .int
  | .intArr values => .intArr values.length
  | .long _ => .long
  | .longArr values => .longArr values.length

/-- A C string lies in its buffer. -/
def inBuffer : SettingValue → Bool
  | .string size text => text.length < size && !text.contains 0
  | _ => true

/-- An array has elements. -/
def hasElements : Shape → Bool
  | .intArr count => count != 0
  | .longArr count => count != 0
  | _ => true

end SettingValue

/-- The tokens of a text start with its part before the first delimiter. -/
theorem getTokens_append {delim : Byte} (front : List Byte) (token rest : List Byte) (plain : delim ∉ front) :
    getTokens delim token (front ++ rest) = getTokens delim (token ++ front) rest := by
  induction front generalizing token with
  | nil => rw [List.nil_append, List.append_nil]
  | cons c front ih =>
    have other : c ≠ delim := fun same => plain (same ▸ List.mem_cons_self)
    rw [List.cons_append, getTokens, if_neg other, ih _ fun member => plain (List.mem_cons_of_mem _ member),
      List.append_assoc, List.singleton_append]

/-- The printed elements are the tokens, all but the first one behind a space. -/
theorem getTokens_tupleText (texts : List (List Byte)) (token text : List Byte)
    (plain : ∀ t ∈ text :: texts, comma ∉ t) (nonempty : ∀ t ∈ text :: texts, t ≠ []) :
    getTokens comma token (tupleText (text :: texts)) = (token ++ text) :: texts.map (space :: ·) := by
  induction texts generalizing token text with
  | nil =>
    have last : token ++ text ≠ [] := fun empty => nonempty text List.mem_cons_self (List.append_eq_nil_iff.mp empty).2
    have ends := getTokens_append text token [] (plain text List.mem_cons_self)
    rw [List.append_nil] at ends
    rw [tupleText, ends, getTokens, if_neg last]
    rfl
  | cons second texts ih =>
    have rest := ih [space] second (fun t member => plain t (List.mem_cons_of_mem _ member))
      fun t member => nonempty t (List.mem_cons_of_mem _ member)
    have spaced : getTokens comma [] (space :: tupleText (second :: texts)) =
        getTokens comma [space] (tupleText (second :: texts)) := by
      rw [getTokens, if_neg (by decide)]
      rfl
    rw [tupleText, List.append_assoc, getTokens_append text token _ (plain text List.mem_cons_self),
      List.cons_append, getTokens, if_pos rfl, List.singleton_append, spaced, rest]
    rfl

namespace SettingValue

theorem comma_not_mem_decimal (n : Int) : comma ∉ decimal n := by
  intro member
  rcases decimal_bytes n comma member with digit | sign
  · exact absurd digit (by decide)
  · exact absurd sign (by decide)

/-- Reading the tokens of a printed array, with a conversion that skips a leading space. -/
theorem read_tuple {α : Type} (print : α → List Byte) (read : List Byte → α) (plain : ∀ a, comma ∉ print a)
    (nonempty : ∀ a, print a ≠ []) (reads : ∀ a, read (print a) = a) (skips : ∀ a, read (space :: print a) = a)
    (values : List α) : (getTokens comma [] (tupleText (values.map print))).map read = values := by
  cases values with
  | nil => rfl
  | cons first rest =>
    rw [List.map_cons, getTokens_tupleText (rest.map print) [] (print first)]
    · rw [List.nil_append, List.map_cons, reads, List.map_map, List.map_map]
      refine congrArg (first :: ·) ?_
      exact List.map_id'' (fun a => skips a) rest
    · intro t member
      rcases List.mem_cons.mp member with rfl | later
      · exact plain first
      · obtain ⟨a, _, rfl⟩ := List.mem_map.mp later
        exact plain a
    · intro t member
      rcases List.mem_cons.mp member with rfl | later
      · exact nonempty first
      · obtain ⟨a, _, rfl⟩ := List.mem_map.mp later
        exact nonempty a

theorem atoi_space (n : Int32) : atoi (space :: decimal n.toInt) = n := by
  have reads := strtol_int32 [space] (fun c member => by rw [List.mem_singleton.mp member]; rfl) n
  rw [List.singleton_append] at reads
  rw [atoi, reads, Int32.ofInt_toInt]

theorem atol_space (n : Int64) : atol (space :: decimal n.toInt) = n := by
  have reads := strtol_int64 [space] (fun c member => by rw [List.mem_singleton.mp member]; rfl) n
  rw [List.singleton_append] at reads
  rw [atol, reads, Int64.ofInt_toInt]

theorem read_ints (values : List Int32) :
    (getTokens comma [] (tupleText (values.map fun value => decimal value.toInt))).map atoi = values :=
  read_tuple (fun n : Int32 => decimal n.toInt) atoi (fun n => comma_not_mem_decimal n.toInt)
    (fun n => decimal_ne_nil n.toInt) atoi_decimal atoi_space values

theorem read_longs (values : List Int64) :
    (getTokens comma [] (tupleText (values.map fun value => decimal value.toInt))).map atol = values :=
  read_tuple (fun n : Int64 => decimal n.toInt) atol (fun n => comma_not_mem_decimal n.toInt)
    (fun n => decimal_ne_nil n.toInt) atol_decimal atol_space values

theorem assign_of_length {α : Type} {old new : List α} (same : old.length = new.length) : assign old new = new := by
  rw [assign, same, List.take_length, ← same, List.drop_length, List.append_nil]

theorem get_of_lookup {settings : Settings} {name key text : List Byte} (found : settings.lookup name key = some text)
    {size : Nat} (fits : text.length < size) : settings.get name key size = some text := by
  rw [Settings.get, found, Option.filter_some, if_pos (decide_eq_true fits)]

theorem lookup_of_get {settings : Settings} {name key text : List Byte} {size : Nat}
    (found : settings.get name key size = some text) : settings.lookup name key = some text ∧ text.length < size := by
  obtain ⟨there, fits⟩ := Option.filter_eq_some_iff.mp found
  exact ⟨there, of_decide_eq_true fits⟩

/-- A value is read back from its text, whatever the buffer held before. -/
theorem load_text {settings : Settings} {name key : List Byte} {old value : SettingValue}
    (same : old.shape = value.shape) (stored : value.inBuffer = true) (elements : hasElements value.shape = true)
    (found : settings.lookup name key = some value.text) (short : value.text.length < maxValueChars) :
    old.load settings name key = some value := by
  have got := get_of_lookup found short
  cases value with
  | string size text =>
    cases old with
    | string size' text' =>
      cases same
      have fits : text.length < size := by
        simp only [inBuffer, Bool.and_eq_true, decide_eq_true_eq] at stored
        exact stored.1
      rw [load, get_of_lookup found fits]
      rfl
    | _ => cases same
  | int n =>
    cases old with
    | int _ =>
      rw [load, got, Option.map_some, text, atoi_decimal]
    | _ => cases same
  | long n =>
    cases old with
    | long _ =>
      rw [load, got, Option.map_some, text, atol_decimal]
    | _ => cases same
  | intArr values =>
    cases old with
    | intArr values' =>
      have length : values'.length = values.length := Shape.intArr.inj same
      have nonempty : values' ≠ [] := by
        intro empty
        rw [empty, List.length_nil] at length
        simp [hasElements, shape, ← length] at elements
      rw [load, if_neg nonempty, got, Option.map_some, text, read_ints, assign_of_length length]
    | _ => cases same
  | longArr values =>
    cases old with
    | longArr values' =>
      have length : values'.length = values.length := Shape.longArr.inj same
      have nonempty : values' ≠ [] := by
        intro empty
        rw [empty, List.length_nil] at length
        simp [hasElements, shape, ← length] at elements
      rw [load, if_neg nonempty, got, Option.map_some, text, read_longs, assign_of_length length]
    | _ => cases same

/-- What a value that was read tells about the settings. -/
theorem lookup_of_load {settings : Settings} {name key : List Byte} {old value : SettingValue}
    (loads : old.load settings name key = some value) :
    ∃ found, settings.lookup name key = some found ∧ value.shape = old.shape ∧ hasElements old.shape = true ∧
      ∀ size text, value = .string size text → found = text := by
  cases old with
  | string size text =>
    obtain ⟨found, got, rfl⟩ := Option.map_eq_some_iff.mp loads
    refine ⟨found, (lookup_of_get got).1, rfl, rfl, ?_⟩
    intro size' text' same
    exact (SettingValue.string.inj same).2
  | int n =>
    obtain ⟨found, got, rfl⟩ := Option.map_eq_some_iff.mp loads
    exact ⟨found, (lookup_of_get got).1, rfl, rfl, fun _ _ impossible => by cases impossible⟩
  | long n =>
    obtain ⟨found, got, rfl⟩ := Option.map_eq_some_iff.mp loads
    exact ⟨found, (lookup_of_get got).1, rfl, rfl, fun _ _ impossible => by cases impossible⟩
  | intArr values =>
    simp only [load] at loads
    split_ifs at loads with empty
    obtain ⟨found, got, rfl⟩ := Option.map_eq_some_iff.mp loads
    refine ⟨found, (lookup_of_get got).1, ?_, ?_, fun _ _ impossible => by cases impossible⟩
    · simp [shape, assign]
      omega
    · simpa [hasElements, shape] using empty
  | longArr values =>
    simp only [load] at loads
    split_ifs at loads with empty
    obtain ⟨found, got, rfl⟩ := Option.map_eq_some_iff.mp loads
    refine ⟨found, (lookup_of_get got).1, ?_, ?_, fun _ _ impossible => by cases impossible⟩
    · simp [shape, assign]
      omega
    · simpa [hasElements, shape] using empty

end SettingValue

/-- A text that can stand behind the separator of a line. -/
structure PlainText (text : List Byte) : Prop where
  bytes : ∀ c ∈ text, c ≠ 0 ∧ c ≠ newline
  trimmed : Trimmed isBlankChar text

namespace SettingValue

/-- The bytes of printed numbers and arrays. -/
def isNumberByte (c : Byte) : Bool := isDigitByte c || c == 45 || c == comma || c == space

theorem isNumberByte_facts {c : Byte} (number : isNumberByte c = true) : c ≠ 0 ∧ c ≠ newline ∧ c ≠ sectionEndChar := by
  refine ⟨?_, ?_, ?_⟩ <;> (intro same; rw [same] at number; exact absurd number (by decide))

theorem isBlankChar_of_decimal {c : Byte} (printed : isDigitByte c = true ∨ c = 45) : isBlankChar c = false := by
  have noSpace := isSpaceByte_of_decimal printed
  by_contra blank
  have four : c = space ∨ c = 0x09 ∨ c = 0x0d ∨ c = newline := by
    simpa only [isBlankChar, Bool.or_eq_true, beq_iff_eq, or_assoc] using Bool.eq_true_of_not_eq_false blank
  rcases four with rfl | rfl | rfl | rfl <;> exact absurd noSpace (by decide)

theorem decimal_number (n : Int) : ∀ c ∈ decimal n, isNumberByte c = true := by
  intro c member
  rcases decimal_bytes n c member with digit | sign
  · simp [isNumberByte, digit]
  · simp [isNumberByte, sign]

theorem decimal_trimmed (n : Int) : Trimmed isBlankChar (decimal n) where
  head := by
    obtain ⟨c, rest, same, printed⟩ := decimal_head n
    rw [same, List.head?_cons, Option.all_some, isBlankChar_of_decimal printed]
    rfl
  last := by
    rw [List.getLast?_eq_getLast_of_ne_nil (decimal_ne_nil n), Option.all_some,
      isBlankChar_of_decimal (decimal_bytes n _ (List.getLast_mem (decimal_ne_nil n)))]
    rfl

/-- An array of printed numbers is made of their bytes and ends with numbers. -/
theorem tupleText_numbers (texts : List (List Byte)) (numbers : ∀ t ∈ texts, ∀ c ∈ t, isNumberByte c = true)
    (trimmed : ∀ t ∈ texts, Trimmed isBlankChar t) (nonempty : ∀ t ∈ texts, t ≠ []) :
    (∀ c ∈ tupleText texts, isNumberByte c = true) ∧ Trimmed isBlankChar (tupleText texts) ∧
      (texts ≠ [] → tupleText texts ≠ []) := by
  induction texts with
  | nil => exact ⟨fun _ member => absurd member List.not_mem_nil, trimmed_nil, fun some => absurd rfl some⟩
  | cons first rest ih =>
    cases rest with
    | nil => exact ⟨numbers first List.mem_cons_self, trimmed first List.mem_cons_self,
        fun _ => nonempty first List.mem_cons_self⟩
    | cons second rest =>
      obtain ⟨later, ends, more⟩ := ih (fun t member => numbers t (List.mem_cons_of_mem _ member))
        (fun t member => trimmed t (List.mem_cons_of_mem _ member))
        (fun t member => nonempty t (List.mem_cons_of_mem _ member))
      have filled := more (List.cons_ne_nil _ _)
      obtain ⟨c, tail, here⟩ := List.exists_cons_of_ne_nil (nonempty first List.mem_cons_self)
      have starts := (trimmed first List.mem_cons_self).head
      refine ⟨?_, ⟨?_, ?_⟩, ?_⟩
      · intro d member
        simp only [tupleText, List.mem_append, List.mem_cons, List.not_mem_nil, or_false] at member
        rcases member with (inFirst | rfl | rfl) | inRest
        · exact numbers first List.mem_cons_self d inFirst
        · rfl
        · rfl
        · exact later d inRest
      · rw [here] at starts
        rw [tupleText, here]
        exact starts
      · rw [tupleText, List.getLast?_append_of_ne_nil _ filled]
        exact ends.last
      · intro _
        rw [tupleText, here]
        exact List.cons_ne_nil _ _

theorem decimals_plain {α : Type} (number : α → Int) (values : List α) :
    (∀ c ∈ tupleText (values.map fun value => decimal (number value)), isNumberByte c = true) ∧
      Trimmed isBlankChar (tupleText (values.map fun value => decimal (number value))) := by
  have texts := tupleText_numbers (values.map fun value => decimal (number value)) ?_ ?_ ?_
  · exact ⟨texts.1, texts.2.1⟩
  · intro t member
    obtain ⟨value, _, rfl⟩ := List.mem_map.mp member
    exact decimal_number (number value)
  · intro t member
    obtain ⟨value, _, rfl⟩ := List.mem_map.mp member
    exact decimal_trimmed (number value)
  · intro t member
    obtain ⟨value, _, rfl⟩ := List.mem_map.mp member
    exact decimal_ne_nil (number value)

/-- What is printed for a number or an array can stand in a line. -/
theorem text_number (value : SettingValue) :
    (∃ size text, value = .string size text) ∨ PlainText value.text ∧ sectionEndChar ∉ value.text := by
  have plain : ∀ text : List Byte, (∀ c ∈ text, isNumberByte c = true) ∧ Trimmed isBlankChar text →
      PlainText text ∧ sectionEndChar ∉ text := by
    intro text numbers
    refine ⟨⟨?_, numbers.2⟩, ?_⟩
    · intro c member
      obtain ⟨noZero, noNewline, _⟩ := isNumberByte_facts (numbers.1 c member)
      exact ⟨noZero, noNewline⟩
    · intro member
      exact (isNumberByte_facts (numbers.1 _ member)).2.2 rfl
  cases value with
  | string size text => exact .inl ⟨size, text, rfl⟩
  | int n => exact .inr (plain _ ⟨decimal_number n.toInt, decimal_trimmed n.toInt⟩)
  | long n => exact .inr (plain _ ⟨decimal_number n.toInt, decimal_trimmed n.toInt⟩)
  | intArr values => exact .inr (plain _ (decimals_plain Int32.toInt values))
  | longArr values => exact .inr (plain _ (decimals_plain Int64.toInt values))

end SettingValue
end JsonRpcTcp
