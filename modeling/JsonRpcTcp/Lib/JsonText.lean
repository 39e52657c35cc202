import JsonRpcTcp.Lib.Decimal

/-! The grammar of JSON texts. A relation holds between a text and what is left of it
behind the part that it names. What is a number is a parameter. -/

namespace JsonText

def isBlank (c : UInt8) : Bool := c == 0x20 || c == 0x09 || c == 0x0a || c == 0x0d

def isHex (c : UInt8) : Bool := isDigitByte c || (0x41 ≤ c && c ≤ 0x46) || (0x61 ≤ c && c ≤ 0x66)

/-- The bytes that stand for themselves in a string. -/
def isPlain (c : UInt8) : Bool := 0x20 ≤ c && c != 0x22 && c != 0x5c

/-- The bytes behind a backslash, other than `u`. -/
def isEscape (c : UInt8) : Bool :=
  c == 0x22 || c == 0x5c || c == 0x2f || c == 0x62 || c == 0x66 || c == 0x6e || c == 0x72 || c == 0x74

/-- Any number of bytes of a kind. -/
inductive Many (kind : UInt8 → Bool) : List UInt8 → List UInt8 → Prop
  | none (text : List UInt8) : Many kind text text
  | more {c : UInt8} {text rest : List UInt8} (here : kind c = true) (next : Many kind text rest) :
      Many kind (c :: text) rest

abbrev Blanks : List UInt8 → List UInt8 → Prop := Many isBlank

/-- The characters of a string, with its closing quote. -/
inductive Chars : List UInt8 → List UInt8 → Prop
  | close (rest : List UInt8) : Chars (0x22 :: rest) rest
  | plain {c : UInt8} {text rest : List UInt8} (here : isPlain c = true) (next : Chars text rest) :
      Chars (c :: text) rest
  | escape {c : UInt8} {text rest : List UInt8} (here : isEscape c = true) (next : Chars text rest) :
      Chars (0x5c :: c :: text) rest
  | unicode {a b c d : UInt8} {text rest : List UInt8} (first : isHex a = true) (second : isHex b = true)
      (third : isHex c = true) (fourth : isHex d = true) (next : Chars text rest) :
      Chars (0x5c :: 0x75 :: a :: b :: c :: d :: text) rest

inductive Symbol where
  | value | container | elements | member | members
  deriving DecidableEq, Repr

/-- The elements and members include the bracket that closes them. The number bounds
how deep containers are nested. -/
inductive Derives (Number : List UInt8 → List UInt8 → Prop) : Symbol → Nat → List UInt8 → List UInt8 → Prop
  | string {depth : Nat} {text rest : List UInt8} (chars : Chars text rest) :
      Derives Number .value depth (0x22 :: text) rest
  | number {depth : Nat} {text rest : List UInt8} (number : Number text rest) : Derives Number .value depth text rest
  | trueLiteral {depth : Nat} (rest : List UInt8) :
      Derives Number .value depth (0x74 :: 0x72 :: 0x75 :: 0x65 :: rest) rest
  | falseLiteral {depth : Nat} (rest : List UInt8) :
      Derives Number .value depth (0x66 :: 0x61 :: 0x6c :: 0x73 :: 0x65 :: rest) rest
  | nullLiteral {depth : Nat} (rest : List UInt8) :
      Derives Number .value depth (0x6e :: 0x75 :: 0x6c :: 0x6c :: rest) rest
  | nested {depth : Nat} {text rest : List UInt8} (container : Derives Number .container depth text rest) :
      Derives Number .value depth text rest
  | emptyArray {depth : Nat} {text rest : List UInt8} (close : Blanks text (0x5d :: rest)) :
      Derives Number .container (depth + 1) (0x5b :: text) rest
  | array {depth : Nat} {text rest : List UInt8} (elements : Derives Number .elements depth text rest) :
      Derives Number .container (depth + 1) (0x5b :: text) rest
  | emptyObject {depth : Nat} {text rest : List UInt8} (close : Blanks text (0x7d :: rest)) :
      Derives Number .container (depth + 1) (0x7b :: text) rest
  | object {depth : Nat} {text rest : List UInt8} (members : Derives Number .members depth text rest) :
      Derives Number .container (depth + 1) (0x7b :: text) rest
  | lastElement {depth : Nat} {text a b rest : List UInt8} (blanks : Blanks text a)
      (value : Derives Number .value depth a b) (close : Blanks b (0x5d :: rest)) :
      Derives Number .elements depth text rest
  | element {depth : Nat} {text a b c rest : List UInt8} (blanks : Blanks text a)
      (value : Derives Number .value depth a b) (comma : Blanks b (0x2c :: c))
      (elements : Derives Number .elements depth c rest) : Derives Number .elements depth text rest
  | member {depth : Nat} {text a b c d rest : List UInt8} (quote : Blanks text (0x22 :: a)) (name : Chars a b)
      (colon : Blanks b (0x3a :: c)) (blanks : Blanks c d) (value : Derives Number .value depth d rest) :
      Derives Number .member depth text rest
  | lastMember {depth : Nat} {text a rest : List UInt8} (member : Derives Number .member depth text a)
      (close : Blanks a (0x7d :: rest)) : Derives Number .members depth text rest
  | members {depth : Nat} {text a b rest : List UInt8} (member : Derives Number .member depth text a)
      (comma : Blanks a (0x2c :: b)) (members : Derives Number .members depth b rest) :
      Derives Number .members depth text rest

/-- A whole text: an array or object with blanks around it. -/
def IsText (Number : List UInt8 → List UInt8 → Prop) (depth : Nat) (text : List UInt8) : Prop :=
  ∃ a b, Blanks text a ∧ Derives Number .container depth a b ∧ Blanks b []

/-- An integer without its sign. -/
inductive Natural : List UInt8 → List UInt8 → Prop
  | zero (rest : List UInt8) : Natural (0x30 :: rest) rest
  | positive {c : UInt8} {text rest : List UInt8} (first : isDigitByte c = true) (nonzero : c ≠ 0x30)
      (digits : Many isDigitByte text rest) : Natural (c :: text) rest

inductive Integer : List UInt8 → List UInt8 → Prop
  | natural {text rest : List UInt8} (natural : Natural text rest) : Integer text rest
  | negative {text rest : List UInt8} (natural : Natural text rest) : Integer (0x2d :: text) rest

variable {kind : UInt8 → Bool} {Number Other : List UInt8 → List UInt8 → Prop} {symbol : Symbol}
  {depth larger : Nat} {text rest : List UInt8}

theorem Many.suffix (many : Many kind text rest) : rest <:+ text := by
  induction many with
  | none text => exact List.suffix_rfl
  | more here next ih => exact ih.trans (List.suffix_cons _ _)

/-- As many bytes of the kind as there are in front. -/
theorem many_split (kind : UInt8 → Bool) (text : List UInt8) :
    Many kind text [] ∨ ∃ c rest, kind c = false ∧ Many kind text (c :: rest) := by
  induction text with
  | nil => exact Or.inl (.none [])
  | cons c text ih =>
    by_cases here : kind c = true
    · rcases ih with all | ⟨d, rest, other, some⟩
      · exact Or.inl (.more here all)
      · exact Or.inr ⟨d, rest, other, .more here some⟩
    · exact Or.inr ⟨c, text, Bool.eq_false_iff.mpr here, .none _⟩

theorem Chars.shorter (chars : Chars text rest) : rest.length < text.length := by
  induction chars with
  | close rest => exact Nat.lt_succ_self _
  | plain here next ih => exact Nat.lt_succ_of_lt ih
  | escape here next ih =>
    simp only [List.length_cons]
    omega
  | unicode first second third fourth next ih =>
    simp only [List.length_cons]
    omega

theorem Derives.shorter (derives : Derives Number symbol depth text rest)
    (numbers : ∀ text rest, Number text rest → rest.length < text.length) : rest.length < text.length := by
  induction derives with
  | string chars => exact Nat.lt_succ_of_lt chars.shorter
  | number number => exact numbers _ _ number
  | trueLiteral rest | falseLiteral rest | nullLiteral rest =>
    simp only [List.length_cons]
    omega
  | nested _ ih => exact ih
  | emptyArray close | emptyObject close =>
    have behind := close.suffix.length_le
    simp only [List.length_cons] at behind ⊢
    omega
  | array _ ih | object _ ih => exact Nat.lt_succ_of_lt ih
  | lastElement blanks _ close ih =>
    have before := blanks.suffix.length_le
    have behind := close.suffix.length_le
    simp only [List.length_cons] at behind
    omega
  | element blanks _ comma _ ihValue ih =>
    have before := blanks.suffix.length_le
    have behind := comma.suffix.length_le
    simp only [List.length_cons] at behind
    omega
  | member quote name colon blanks _ ih =>
    have first := quote.suffix.length_le
    have second := name.shorter
    have third := colon.suffix.length_le
    have fourth := blanks.suffix.length_le
    simp only [List.length_cons] at first third
    omega
  | lastMember _ close ih =>
    have behind := close.suffix.length_le
    simp only [List.length_cons] at behind
    omega
  | members _ comma _ ihMember ih =>
    have behind := comma.suffix.length_le
    simp only [List.length_cons] at behind
    omega

/-- A string without escapes. -/
theorem chars_append (part : List UInt8) (all : ∀ c ∈ part, isPlain c = true) (rest : List UInt8) :
    Chars (part ++ 0x22 :: rest) rest := by
  induction part with
  | nil => exact .close rest
  | cons c part ih =>
    exact .plain (all c List.mem_cons_self) (ih fun d member => all d (List.mem_cons_of_mem _ member))

/-- More numbers and a larger bound derive no less. -/
theorem Derives.mono (derives : Derives Number symbol depth text rest)
    (more : ∀ text rest, Number text rest → Other text rest) (bound : depth ≤ larger) :
    Derives Other symbol larger text rest := by
  induction derives generalizing larger with
  | string chars => exact .string chars
  | number number => exact .number (more _ _ number)
  | trueLiteral rest => exact .trueLiteral rest
  | falseLiteral rest => exact .falseLiteral rest
  | nullLiteral rest => exact .nullLiteral rest
  | nested _ ih => exact .nested (ih bound)
  | emptyArray close =>
    obtain ⟨n, rfl⟩ : ∃ n, larger = n + 1 := ⟨larger - 1, by omega⟩
    exact .emptyArray close
  | array _ ih =>
    obtain ⟨n, rfl⟩ : ∃ n, larger = n + 1 := ⟨larger - 1, by omega⟩
    exact .array (ih (by omega))
  | emptyObject close =>
    obtain ⟨n, rfl⟩ : ∃ n, larger = n + 1 := ⟨larger - 1, by omega⟩
    exact .emptyObject close
  | object _ ih =>
    obtain ⟨n, rfl⟩ : ∃ n, larger = n + 1 := ⟨larger - 1, by omega⟩
    exact .object (ih (by omega))
  | lastElement blanks _ close ih => exact .lastElement blanks (ih bound) close
  | element blanks _ comma _ ihValue ih => exact .element blanks (ihValue bound) comma (ih bound)
  | member quote name colon blanks _ ih => exact .member quote name colon blanks (ih bound)
  | lastMember _ close ih => exact .lastMember (ih bound) close
  | members _ comma _ ihMember ih => exact .members (ihMember bound) comma (ih bound)

theorem IsText.mono (isText : IsText Number depth text) (more : ∀ text rest, Number text rest → Other text rest)
    (bound : depth ≤ larger) : IsText Other larger text := by
  obtain ⟨a, b, blanks, derives, ends⟩ := isText
  exact ⟨a, b, blanks, derives.mono more bound, ends⟩

end JsonText
