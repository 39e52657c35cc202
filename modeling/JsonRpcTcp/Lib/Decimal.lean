import Mathlib

/-! Decimal numbers as C prints them with `%d` or `%ld` and reads them with `strtol`. -/

def digitByte (d : Nat) : UInt8 := UInt8.ofNat (48 + d)

def isDigitByte (c : UInt8) : Bool := 48 ≤ c && c ≤ 57

/-- `isspace` of the C locale. -/
def isSpaceByte (c : UInt8) : Bool := c == 32 || (9 ≤ c && c ≤ 13)

def decimalNat (n : Nat) : List UInt8 := if n = 0 then [48] else ((Nat.digits 10 n).map digitByte).reverse

/-- `sprintf` with `%ld`. -/
def decimal (n : Int) : List UInt8 := if n < 0 then 45 :: decimalNat n.natAbs else decimalNat n.natAbs

/-- The number that a text starts with. -/
def readNat (text : List UInt8) : Nat :=
  (text.takeWhile isDigitByte).foldl (fun value c => 10 * value + (c.toNat - 48)) 0

/-- A number beyond the range of a long is read as the end of this range. -/
def clampLong (n : Int) : Int := max (-2 ^ 63) (min n (2 ^ 63 - 1))

/-- `strtol` with base 10. -/
def strtol (text : List UInt8) : Int :=
  match text.dropWhile isSpaceByte with
  | 45 :: rest => clampLong (-(readNat rest : Int))
  | 43 :: rest => clampLong (readNat rest)
  | rest => clampLong (readNat rest)

/-- `atoi`, which casts a long. -/
def atoi (text : List UInt8) : Int32 := Int32.ofInt (strtol text)

/-- `atol`. -/
def atol (text : List UInt8) : Int64 := Int64.ofInt (strtol text)

theorem digitByte_toNat {d : Nat} (small : d < 10) : (digitByte d).toNat = 48 + d := by
  unfold digitByte
  rw [UInt8.toNat_ofNat']
  omega

theorem isDigitByte_iff {c : UInt8} : isDigitByte c = true ↔ 48 ≤ c.toNat ∧ c.toNat ≤ 57 := by
  simp only [isDigitByte, Bool.and_eq_true, decide_eq_true_eq, UInt8.le_iff_toNat_le]
  rfl

theorem decimalNat_digits (n : Nat) : ∀ c ∈ decimalNat n, isDigitByte c = true := by
  intro c member
  unfold decimalNat at member
  split_ifs at member
  · rw [List.mem_singleton.mp member]
    rfl
  · obtain ⟨d, inside, rfl⟩ := List.mem_map.mp (List.mem_reverse.mp member)
    have small := Nat.digits_lt_base (by decide) inside
    rw [isDigitByte_iff, digitByte_toNat small]
    omega

theorem decimalNat_head {n : Nat} (nonzero : n ≠ 0) : (decimalNat n).head? ≠ some 48 := by
  unfold decimalNat
  rw [if_neg nonzero, List.head?_reverse, List.getLast?_map]
  intro front
  obtain ⟨d, last, zero⟩ := Option.map_eq_some_iff.mp front
  have nonempty : Nat.digits 10 n ≠ [] := Nat.digits_ne_nil_iff_ne_zero.mpr nonzero
  have top : (Nat.digits 10 n).getLast nonempty = d := by
    rw [List.getLast?_eq_getLast_of_ne_nil nonempty] at last
    exact Option.some.inj last
  have small := Nat.digits_lt_base (by decide) (top ▸ List.getLast_mem nonempty)
  have value := congrArg UInt8.toNat zero
  rw [digitByte_toNat small] at value
  exact Nat.getLast_digit_ne_zero 10 nonzero (top.trans (by simpa using value))

theorem decimalNat_ne_nil (n : Nat) : decimalNat n ≠ [] := by
  unfold decimalNat
  split_ifs with zero
  · exact List.cons_ne_nil _ _
  · intro empty
    have nothing := List.map_eq_nil_iff.mp (List.reverse_eq_nil_iff.mp empty)
    exact zero (Nat.digits_eq_nil_iff_eq_zero.mp nothing)

theorem foldr_digits (digits : List Nat) (small : ∀ d ∈ digits, d < 10) :
    (digits.map digitByte).foldr (fun c value => 10 * value + (c.toNat - 48)) 0 = Nat.ofDigits 10 digits := by
  induction digits with
  | nil => rfl
  | cons d digits ih =>
    rw [List.map_cons, List.foldr_cons, ih fun e member => small e (List.mem_cons_of_mem _ member), Nat.ofDigits_cons,
      digitByte_toNat (small d List.mem_cons_self)]
    omega

/-- Reading what was printed. -/
theorem readNat_decimalNat (n : Nat) : readNat (decimalNat n) = n := by
  have whole : (decimalNat n).takeWhile isDigitByte = decimalNat n :=
    List.takeWhile_eq_self_iff.mpr (decimalNat_digits n)
  rw [readNat, whole]
  unfold decimalNat
  split_ifs with zero
  · rw [zero]
    rfl
  · rw [List.foldl_reverse, foldr_digits _ fun d member => Nat.digits_lt_base (by decide) member]
    exact Nat.ofDigits_digits 10 n

/-- The first byte of a printed number: a digit or the sign. -/
theorem decimal_head (n : Int) : ∃ c rest, decimal n = c :: rest ∧ (isDigitByte c = true ∨ c = 45) := by
  obtain ⟨c, rest, same⟩ := List.exists_cons_of_ne_nil (decimalNat_ne_nil n.natAbs)
  unfold decimal
  split_ifs
  · exact ⟨45, _, rfl, .inr rfl⟩
  · exact ⟨c, rest, same, .inl (decimalNat_digits n.natAbs c (same ▸ List.mem_cons_self))⟩

theorem decimal_ne_nil (n : Int) : decimal n ≠ [] := by
  obtain ⟨c, rest, same, _⟩ := decimal_head n
  rw [same]
  exact List.cons_ne_nil c rest

theorem decimal_bytes (n : Int) : ∀ c ∈ decimal n, isDigitByte c = true ∨ c = 45 := by
  intro c member
  unfold decimal at member
  split_ifs at member
  · rcases List.mem_cons.mp member with same | digit
    · exact .inr same
    · exact .inl (decimalNat_digits _ c digit)
  · exact .inl (decimalNat_digits _ c member)

theorem isSpaceByte_of_decimal {c : UInt8} (printed : isDigitByte c = true ∨ c = 45) : isSpaceByte c = false := by
  rcases printed with digit | rfl
  · rw [isDigitByte_iff] at digit
    simp only [isSpaceByte, Bool.or_eq_false_iff, beq_eq_false_iff_ne, Bool.and_eq_false_imp, decide_eq_true_eq,
      decide_eq_false_iff_not, UInt8.le_iff_toNat_le, ne_eq, ← UInt8.toNat_inj]
    refine ⟨?_, ?_⟩
    · rw [show (32 : UInt8).toNat = 32 from rfl]
      omega
    · intro _
      rw [show (13 : UInt8).toNat = 13 from rfl]
      omega
  · rfl

/-- `strtol` reads what `%ld` has printed, also behind white space. -/
theorem strtol_decimal {n : Int} (low : -2 ^ 63 ≤ n) (high : n < 2 ^ 63) (spaces : List UInt8)
    (blank : ∀ c ∈ spaces, isSpaceByte c = true) : strtol (spaces ++ decimal n) = n := by
  obtain ⟨c, rest, same, printed⟩ := decimal_head n
  have kept : (spaces ++ decimal n).dropWhile isSpaceByte = decimal n := by
    rw [List.dropWhile_append_of_pos blank, same, List.dropWhile_cons, isSpaceByte_of_decimal printed]
    rfl
  have inRange : clampLong n = n := by
    unfold clampLong
    omega
  have sized : (n.natAbs : Int) = if n < 0 then -n else n := by
    split_ifs <;> omega
  unfold strtol
  rw [kept]
  by_cases negative : n < 0
  · rw [if_pos negative] at sized
    simp only [decimal, negative, if_true, readNat_decimalNat, sized, neg_neg, inRange]
  · rw [if_neg negative] at sized
    obtain ⟨d, digits, first⟩ := List.exists_cons_of_ne_nil (decimalNat_ne_nil n.natAbs)
    have digit := decimalNat_digits n.natAbs d (first ▸ List.mem_cons_self)
    have noMinus : d ≠ 45 := by
      intro sign
      rw [sign] at digit
      exact absurd digit (by decide)
    have noPlus : d ≠ 43 := by
      intro sign
      rw [sign] at digit
      exact absurd digit (by decide)
    have text : decimal n = d :: digits := by rw [decimal, if_neg negative, first]
    rw [text]
    split
    · rename_i other
      exact absurd (List.cons.inj other).1 noMinus
    · rename_i other
      exact absurd (List.cons.inj other).1 noPlus
    · rw [← first, readNat_decimalNat, sized, inRange]

theorem strtol_int32 (spaces : List UInt8) (blank : ∀ c ∈ spaces, isSpaceByte c = true) (n : Int32) :
    strtol (spaces ++ decimal n.toInt) = n.toInt := by
  have low := n.le_toInt
  have high := n.toInt_lt
  exact strtol_decimal (by omega) (by omega) spaces blank

theorem strtol_int64 (spaces : List UInt8) (blank : ∀ c ∈ spaces, isSpaceByte c = true) (n : Int64) :
    strtol (spaces ++ decimal n.toInt) = n.toInt :=
  strtol_decimal n.le_toInt n.toInt_lt spaces blank

theorem atoi_decimal (n : Int32) : atoi (decimal n.toInt) = n := by
  have reads := strtol_int32 [] (fun _ member => absurd member List.not_mem_nil) n
  rw [List.nil_append] at reads
  rw [atoi, reads, Int32.ofInt_toInt]

theorem atol_decimal (n : Int64) : atol (decimal n.toInt) = n := by
  have reads := strtol_int64 [] (fun _ member => absurd member List.not_mem_nil) n
  rw [List.nil_append] at reads
  rw [atol, reads, Int64.ofInt_toInt]

theorem decimal_int32_length (n : Int32) : (decimal n.toInt).length ≤ 11 := by
  have low := n.le_toInt
  have high := n.toInt_lt
  have digits : ∀ m : Nat, m < 10 ^ 10 → (decimalNat m).length ≤ 10 := by
    intro m small
    unfold decimalNat
    split_ifs
    · decide
    · rw [List.length_reverse, List.length_map]
      exact (Nat.digits_length_le_iff (by decide) m).mpr small
  have short := digits n.toInt.natAbs (by omega)
  unfold decimal
  split_ifs
  · rw [List.length_cons]
    omega
  · omega
