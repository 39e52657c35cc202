import JsonRpcTcp.Lib.Decimal

/-! Decimal numerals, and how `sscanf` reads them with `%lu` and `std::stoi`. -/

/-- A text of digits alone. -/
def Numeral (text : List UInt8) : Prop := text ≠ [] ∧ ∀ c ∈ text, isDigitByte c = true

instance (text : List UInt8) : Decidable (Numeral text) := inferInstanceAs (Decidable (_ ∧ _))

/-- Whether a number begins with a minus sign, and its digits. -/
def splitSign : List UInt8 → Bool × List UInt8
  | 45 :: rest => (true, rest)
  | 43 :: rest => (false, rest)
  | rest => (false, rest)

/-- `sscanf` with `%lu`, which reads nothing where no digit is found. A number out of range is read as
the largest one, and one with a minus sign as its complement. -/
def scanUlong (text : List UInt8) : Option Nat :=
  let (negative, digits) := splitSign (text.dropWhile isSpaceByte)
  if digits.head?.any isDigitByte then
    if 2 ^ 64 ≤ readNat digits then some (2 ^ 64 - 1)
    else if negative then some ((2 ^ 64 - readNat digits) % 2 ^ 64)
    else some (readNat digits)
  else none

inductive StoiException where
  | invalidArgument | outOfRange
  deriving DecidableEq, Repr

/-- `std::stoi`. -/
def stoi (text : List UInt8) : Except StoiException Int :=
  let (negative, digits) := splitSign (text.dropWhile isSpaceByte)
  let value : Int := if negative then -(readNat digits : Int) else readNat digits
  if digits.head?.any isDigitByte then
    if -2 ^ 31 ≤ value ∧ value < 2 ^ 31 then .ok value else .error .outOfRange
  else .error .invalidArgument

theorem digit_no_sign {c : UInt8} (digit : isDigitByte c = true) : c ≠ 45 ∧ c ≠ 43 := by
  refine ⟨?_, ?_⟩ <;>
  · intro sign
    rw [sign] at digit
    exact absurd digit (by decide)

theorem splitSign_digit {c : UInt8} {rest : List UInt8} (digit : isDigitByte c = true) :
    splitSign (c :: rest) = (false, c :: rest) := by
  obtain ⟨noMinus, noPlus⟩ := digit_no_sign digit
  unfold splitSign
  split
  · rename_i other
    exact absurd (List.cons.inj other).1 noMinus
  · rename_i other
    exact absurd (List.cons.inj other).1 noPlus
  · rfl

/-- A numeral has no white space and no sign in front. -/
theorem Numeral.split {text : List UInt8} (numeral : Numeral text) :
    splitSign (text.dropWhile isSpaceByte) = (false, text) ∧ text.head?.any isDigitByte = true := by
  obtain ⟨nonempty, digits⟩ := numeral
  obtain ⟨c, rest, same⟩ := List.exists_cons_of_ne_nil nonempty
  subst same
  have digit := digits c List.mem_cons_self
  have noSpace : isSpaceByte c = false := isSpaceByte_of_decimal (.inl digit)
  have kept : (c :: rest).dropWhile isSpaceByte = c :: rest := by
    rw [List.dropWhile_cons, noSpace]
    rfl
  rw [kept, splitSign_digit digit, List.head?_cons, Option.any_some]
  exact ⟨rfl, digit⟩

/-- A numeral in range is read as its value. -/
theorem scanUlong_numeral {text : List UInt8} (numeral : Numeral text) (small : readNat text < 2 ^ 64) :
    scanUlong text = some (readNat text) := by
  obtain ⟨split, first⟩ := numeral.split
  unfold scanUlong
  rw [split]
  dsimp only
  rw [if_pos first, if_neg (by omega), if_neg (by decide)]

theorem stoi_numeral {text : List UInt8} (numeral : Numeral text) (small : readNat text < 2 ^ 31) :
    stoi text = .ok (readNat text) := by
  obtain ⟨split, first⟩ := numeral.split
  unfold stoi
  rw [split]
  dsimp only
  rw [if_pos first]
  simp only [Bool.false_eq_true, if_false]
  exact if_pos (by omega)

theorem numeral_decimalNat (n : Nat) : Numeral (decimalNat n) := ⟨decimalNat_ne_nil n, decimalNat_digits n⟩

/-- Digits that follow make a number no smaller. -/
theorem foldl_digits_le (digits : List UInt8) (value : Nat) :
    value ≤ digits.foldl (fun value c => 10 * value + (c.toNat - 48)) value := by
  induction digits generalizing value with
  | nil => exact Nat.le_refl value
  | cons c digits ih =>
    have next := ih (10 * value + (c.toNat - 48))
    rw [List.foldl_cons]
    omega

theorem readNat_digits {text : List UInt8} (digits : ∀ c ∈ text, isDigitByte c = true) :
    readNat text = text.foldl (fun value c => 10 * value + (c.toNat - 48)) 0 := by
  rw [readNat, List.takeWhile_eq_self_iff.mpr digits]

theorem readNat_prefix_le {text kept : List UInt8} (digits : ∀ c ∈ text, isDigitByte c = true)
    (starts : kept <+: text) :
    readNat kept ≤ readNat text := by
  obtain ⟨rest, same⟩ := starts
  subst same
  have keptDigits : ∀ c ∈ kept, isDigitByte c = true := fun c member => digits c (List.mem_append_left rest member)
  rw [readNat_digits digits, readNat_digits keptDigits, List.foldl_append]
  exact foldl_digits_le rest _

theorem Numeral.of_prefix {text kept : List UInt8} (numeral : Numeral text) (starts : kept <+: text)
    (nonempty : kept ≠ []) :
    Numeral kept :=
  ⟨nonempty, fun c member => numeral.2 c (starts.subset member)⟩
