import JsonRpcTcp.JsonChecker
import JsonRpcTcp.Lib.JsonText

namespace JsonRpcTcp
open JsonText

def isExponentSign (c : Byte) : Bool := c == 0x65 || c == 0x45

def isSign (c : Byte) : Bool := c == 0x2b || c == 0x2d

/-- The exponent of a number, which may be missing. -/
inductive ExponentPart : List Byte → List Byte → Prop
  | none (text : List Byte) : ExponentPart text text
  | plain {e digit : Byte} {text rest : List Byte} (here : isExponentSign e = true) (first : isDigitByte digit = true)
      (digits : Many isDigitByte text rest) : ExponentPart (e :: digit :: text) rest
  | signed {e sign digit : Byte} {text rest : List Byte} (here : isExponentSign e = true) (signed : isSign sign = true)
      (first : isDigitByte digit = true) (digits : Many isDigitByte text rest) :
      ExponentPart (e :: sign :: digit :: text) rest

/-- The part of a number behind its integer. Other than in JSON the digits behind the
point may be missing. -/
inductive FractionPart : List Byte → List Byte → Prop
  | none {text rest : List Byte} (exponent : ExponentPart text rest) : FractionPart text rest
  | point {text a rest : List Byte} (digits : Many isDigitByte text a) (exponent : ExponentPart a rest) :
      FractionPart (0x2e :: text) rest

/-- A number without its sign. Other than in JSON a lone zero has no exponent. -/
inductive Unsigned : List Byte → List Byte → Prop
  | zero (rest : List Byte) : Unsigned (0x30 :: rest) rest
  | zeroPoint {text a rest : List Byte} (digits : Many isDigitByte text a) (exponent : ExponentPart a rest) :
      Unsigned (0x30 :: 0x2e :: text) rest
  | whole {c : Byte} {text a rest : List Byte} (first : isDigitByte c = true) (positive : c ≠ 0x30)
      (digits : Many isDigitByte text a) (fraction : FractionPart a rest) : Unsigned (c :: text) rest

/-- The numbers of the checker. -/
inductive CheckerNumber : List Byte → List Byte → Prop
  | positive {text rest : List Byte} (number : Unsigned text rest) : CheckerNumber text rest
  | negative {text rest : List Byte} (number : Unsigned text rest) : CheckerNumber (0x2d :: text) rest

namespace JsonChecker
variable {state next : CheckerState} {depth : Nat} {stack : List CheckerMode} {c : Byte} {text rest : List Byte}

/-- The rest of a text takes the checker to its end. -/
def Finishes (jc : JsonChecker) (text : List Byte) : Prop :=
  ∃ final, text.foldlM char jc = some final ∧ final.done = true

theorem finishes_nil {jc : JsonChecker} : jc.Finishes [] ↔ jc.done = true := by
  constructor
  · rintro ⟨final, same, done⟩
    cases Option.some.inj same
    exact done
  · exact fun done => ⟨jc, rfl, done⟩

theorem finishes_cons {jc : JsonChecker} :
    jc.Finishes (c :: text) ↔ ∃ read, jc.char c = some read ∧ read.Finishes text := by
  constructor
  · rintro ⟨final, goes, done⟩
    rw [List.foldlM_cons] at goes
    obtain ⟨read, here, goes⟩ := Option.bind_eq_some_iff.mp goes
    exact ⟨read, here, final, goes, done⟩
  · rintro ⟨read, here, final, goes, done⟩
    refine ⟨final, ?_, done⟩
    rw [List.foldlM_cons]
    exact Option.bind_eq_some_iff.mpr ⟨read, here, goes⟩

/-- The entry of the table at a byte. -/
def entry (state : CheckerState) (c : Byte) : CheckerMove := ((charClass c).map (stateTransition state)).getD .bad


/-- Where the checker goes at the closing quote of a string. -/
def afterQuote : List CheckerMode → Option CheckerState
  | .key :: _ => some .co
  | .array :: _ | .object :: _ => some .ok
  | _ => none

/-- Where the checker goes at a comma. -/
def afterComma : List CheckerMode → Option (CheckerState × List CheckerMode)
  | .object :: rest => some (.ke, .key :: rest)
  | .array :: rest => some (.va, .array :: rest)
  | _ => none

/-- What an entry of the table makes of the checker. -/
def turn (depth : Nat) (stack : List CheckerMode) : CheckerMove → Option JsonChecker
  | .enter next => some ⟨next, depth, stack⟩
  | .bad => none
  | .openObject => if stack.length < depth then some ⟨.ob, depth, .key :: stack⟩ else none
  | .openArray => if stack.length < depth then some ⟨.ar, depth, .array :: stack⟩ else none
  | .closeEmpty => if stack.head? = some .key then some ⟨.ok, depth, stack.tail⟩ else none
  | .closeObject => if stack.head? = some .object then some ⟨.ok, depth, stack.tail⟩ else none
  | .closeArray => if stack.head? = some .array then some ⟨.ok, depth, stack.tail⟩ else none
  | .quote => (afterQuote stack).map fun next => ⟨next, depth, stack⟩
  | .comma => (afterComma stack).bind fun next =>
      if stack.head? = some .object ∧ depth ≤ stack.tail.length then none else some ⟨next.1, depth, next.2⟩
  | .colon => if stack.head? = some .key ∧ stack.tail.length < depth
      then some ⟨.va, depth, .object :: stack.tail⟩ else none

theorem push_eq (mode : CheckerMode) : push ⟨state, depth, stack⟩ mode =
    if stack.length < depth then some ⟨state, depth, mode :: stack⟩ else none := by
  by_cases room : stack.length < depth
  · exact (if_neg (Nat.not_le.mpr room)).trans (if_pos room).symm
  · exact (if_pos (Nat.not_lt.mp room)).trans (if_neg room).symm

theorem pop_eq (mode : CheckerMode) : pop ⟨state, depth, stack⟩ mode =
    if stack.head? = some mode then some ⟨state, depth, stack.tail⟩ else none := by
  cases stack with
  | nil => rfl
  | cons top rest => simp [pop]

/-- The checker looks at its state for the entry only. -/
theorem char_eq : char ⟨state, depth, stack⟩ c = turn depth stack (entry state c) := by
  unfold entry char
  cases charClass c with
  | none => rfl
  | some cls =>
    simp only [Option.bind_eq_bind, Option.bind_some, Option.map_some, Option.getD_some]
    cases stateTransition state cls with
    | enter | bad => rfl
    | openObject | openArray =>
      simp only [push_eq, turn]
      split_ifs <;> rfl
    | closeArray | closeObject | closeEmpty =>
      simp only [pop_eq, turn]
      split_ifs <;> rfl
    | quote => rcases stack with _ | ⟨_ | _ | _ | _, rest⟩ <;> rfl
    | comma =>
      rcases stack with _ | ⟨_ | _ | _ | _, rest⟩
      case cons.object =>
        by_cases room : rest.length < depth
        · simp [pop_eq, push_eq, turn, afterComma, enter, room]
        · simp [pop_eq, push_eq, turn, afterComma, room, Nat.not_lt.mp room]
      all_goals rfl
    | colon =>
      by_cases key : stack.head? = some .key
      · by_cases room : stack.tail.length < depth
        · simp only [pop_eq, if_pos key, Option.bind_some, push_eq, if_pos room, turn, if_pos (And.intro key room)]
          rfl
        · simp only [pop_eq, if_pos key, Option.bind_some, push_eq, if_neg room, turn,
            if_neg (not_and_of_not_right _ room)]
          rfl
      · simp only [pop_eq, if_neg key, turn, if_neg (not_and_of_not_left _ key)]
        rfl

theorem finishes_turn_iff : Finishes ⟨state, depth, stack⟩ (c :: text) ↔
    ∃ read, turn depth stack (entry state c) = some read ∧ read.Finishes text := by
  rw [finishes_cons, char_eq]

theorem finishes_bad (bad : entry state c = .bad) : ¬ Finishes ⟨state, depth, stack⟩ (c :: text) := by
  rw [finishes_turn_iff, bad]
  simp [turn]

theorem finishes_enter (here : entry state c = .enter next) :
    Finishes ⟨state, depth, stack⟩ (c :: text) ↔ Finishes ⟨next, depth, stack⟩ text := by
  rw [finishes_turn_iff, here]
  simp [turn]

theorem finishes_congr (same : entry state c = entry next c) :
    Finishes ⟨state, depth, stack⟩ (c :: text) ↔ Finishes ⟨next, depth, stack⟩ (c :: text) := by
  rw [finishes_turn_iff, finishes_turn_iff, same]

/-- The end of the text is accepted between values only. -/
theorem not_finishes_nil (inside : state ≠ .ok) : ¬ Finishes ⟨state, depth, stack⟩ [] := by
  rw [finishes_nil]
  simp [done, inside]

/-- The classes of the bytes of each kind. -/
def blankClass (cls : CharClass) : Bool := cls ∈ [.space, .white]
def digitClass (cls : CharClass) : Bool := cls ∈ [.zero, .digit]
def hexClass (cls : CharClass) : Bool :=
  cls ∈ [.zero, .digit, .lowA, .lowB, .lowC, .lowD, .lowE, .lowF, .abcdf, .e]
def plainClass (cls : CharClass) : Bool := cls ∉ [.white, .quote, .backs]
def escapeClass (cls : CharClass) : Bool := cls ∈ [.quote, .backs, .slash, .lowB, .lowF, .lowN, .lowR, .lowT]
def exponentClass (cls : CharClass) : Bool := cls ∈ [.lowE, .e]
def signClass (cls : CharClass) : Bool := cls ∈ [.plus, .minus]

/-- The byte of a class that has one only. -/
def classByte : CharClass → Option Byte
  | .lcurb => some 0x7b
  | .rcurb => some 0x7d
  | .lsqrb => some 0x5b
  | .rsqrb => some 0x5d
  | .colon => some 0x3a
  | .comma => some 0x2c
  | .quote => some 0x22
  | .backs => some 0x5c
  | .minus => some 0x2d
  | .point => some 0x2e
  | .zero => some 0x30
  | .lowA => some 0x61
  | .lowE => some 0x65
  | .lowF => some 0x66
  | .lowL => some 0x6c
  | .lowN => some 0x6e
  | .lowR => some 0x72
  | .lowS => some 0x73
  | .lowT => some 0x74
  | .lowU => some 0x75
  | _ => none

/-- What a byte is can be told from its class. -/
structure OfClass (c : Byte) : Prop where
  blank : isBlank c = (charClass c).any blankClass
  digit : isDigitByte c = (charClass c).any digitClass
  hex : isHex c = (charClass c).any hexClass
  plain : isPlain c = (charClass c).any plainClass
  escape : isEscape c = (charClass c).any escapeClass
  exponent : isExponentSign c = (charClass c).any exponentClass
  sign : isSign c = (charClass c).any signClass
  byte : ((charClass c).bind classByte).all fun b => b == c

theorem ofClass (c : Byte) : OfClass c := by
  have all : ∀ n : Fin 256, isBlank (UInt8.ofNat n) = (charClass (UInt8.ofNat n)).any blankClass ∧
      isDigitByte (UInt8.ofNat n) = (charClass (UInt8.ofNat n)).any digitClass ∧
      isHex (UInt8.ofNat n) = (charClass (UInt8.ofNat n)).any hexClass ∧
      isPlain (UInt8.ofNat n) = (charClass (UInt8.ofNat n)).any plainClass ∧
      isEscape (UInt8.ofNat n) = (charClass (UInt8.ofNat n)).any escapeClass ∧
      isExponentSign (UInt8.ofNat n) = (charClass (UInt8.ofNat n)).any exponentClass ∧
      isSign (UInt8.ofNat n) = (charClass (UInt8.ofNat n)).any signClass ∧
      ((charClass (UInt8.ofNat n)).bind classByte).all (fun b => b == UInt8.ofNat n) = true := by decide +kernel
  have here := all ⟨c.toNat, c.toNat_lt⟩
  rw [UInt8.ofNat_toNat] at here
  obtain ⟨blank, digit, hex, plain, escape, exponent, sign, byte⟩ := here
  exact ⟨blank, digit, hex, plain, escape, exponent, sign, byte⟩

theorem byte_iff {b : Byte} {cls : CharClass} (known : charClass b = some cls) (single : classByte cls = some b) :
    c = b ↔ charClass c = some cls := by
  constructor
  · rintro rfl
    exact known
  · intro same
    have byte := (ofClass c).byte
    rw [same, Option.bind_some, single] at byte
    exact (beq_iff_eq.mp byte).symm

/-- The kinds of bytes, all by their classes. -/
theorem is_quote : c = 0x22 ↔ charClass c = some .quote := byte_iff rfl rfl
theorem is_backs : c = 0x5c ↔ charClass c = some .backs := byte_iff rfl rfl
theorem is_comma : c = 0x2c ↔ charClass c = some .comma := byte_iff rfl rfl
theorem is_colon : c = 0x3a ↔ charClass c = some .colon := byte_iff rfl rfl
theorem is_lcurb : c = 0x7b ↔ charClass c = some .lcurb := byte_iff rfl rfl
theorem is_rcurb : c = 0x7d ↔ charClass c = some .rcurb := byte_iff rfl rfl
theorem is_lsqrb : c = 0x5b ↔ charClass c = some .lsqrb := byte_iff rfl rfl
theorem is_rsqrb : c = 0x5d ↔ charClass c = some .rsqrb := byte_iff rfl rfl
theorem is_minus : c = 0x2d ↔ charClass c = some .minus := byte_iff rfl rfl
theorem is_point : c = 0x2e ↔ charClass c = some .point := byte_iff rfl rfl
theorem is_zero : c = 0x30 ↔ charClass c = some .zero := byte_iff rfl rfl
theorem is_lowT : c = 0x74 ↔ charClass c = some .lowT := byte_iff rfl rfl
theorem is_lowF : c = 0x66 ↔ charClass c = some .lowF := byte_iff rfl rfl
theorem is_lowN : c = 0x6e ↔ charClass c = some .lowN := byte_iff rfl rfl
theorem is_lowU : c = 0x75 ↔ charClass c = some .lowU := byte_iff rfl rfl

theorem entry_st (c : Byte) : entry .st c = if c = 0x22 then .quote else if c = 0x5c then .enter .es
    else if isPlain c then .enter .st else .bad := by
  simp only [entry, is_quote, is_backs, (ofClass c).plain]
  rcases charClass c with _ | cls
  · rfl
  · cases cls <;> rfl

theorem entry_es (c : Byte) :
    entry .es c = if c = 0x75 then .enter .u1 else if isEscape c then .enter .st else .bad := by
  simp only [entry, is_lowU, (ofClass c).escape]
  rcases charClass c with _ | cls
  · rfl
  · cases cls <;> rfl

theorem entry_hex (row : stateTransition state = hexDigit next) (c : Byte) :
    entry state c = if isHex c then .enter next else .bad := by
  simp only [entry, row, (ofClass c).hex]
  rcases charClass c with _ | cls
  · rfl
  · cases cls <;> rfl

theorem entry_ok (c : Byte) : entry .ok c = if isBlank c then .enter .ok else if c = 0x7d then .closeObject
    else if c = 0x5d then .closeArray else if c = 0x2c then .comma else .bad := by
  simp only [entry, is_rcurb, is_rsqrb, is_comma, (ofClass c).blank]
  rcases charClass c with _ | cls
  · rfl
  · cases cls <;> rfl

theorem entry_go (c : Byte) : entry .go c = if isBlank c then .enter .go else if c = 0x7b then .openObject
    else if c = 0x5b then .openArray else .bad := by
  simp only [entry, is_lcurb, is_lsqrb, (ofClass c).blank]
  rcases charClass c with _ | cls
  · rfl
  · cases cls <;> rfl

theorem entry_ob (c : Byte) : entry .ob c = if isBlank c then .enter .ob else if c = 0x7d then .closeEmpty
    else if c = 0x22 then .enter .st else .bad := by
  simp only [entry, is_rcurb, is_quote, (ofClass c).blank]
  rcases charClass c with _ | cls
  · rfl
  · cases cls <;> rfl

theorem entry_ke (c : Byte) :
    entry .ke c = if isBlank c then .enter .ke else if c = 0x22 then .enter .st else .bad := by
  simp only [entry, is_quote, (ofClass c).blank]
  rcases charClass c with _ | cls
  · rfl
  · cases cls <;> rfl

theorem entry_co (c : Byte) : entry .co c = if isBlank c then .enter .co else if c = 0x3a then .colon else .bad := by
  simp only [entry, is_colon, (ofClass c).blank]
  rcases charClass c with _ | cls
  · rfl
  · cases cls <;> rfl

theorem entry_va (c : Byte) : entry .va c = if isBlank c then .enter .va else if c = 0x7b then .openObject
    else if c = 0x5b then .openArray else if c = 0x22 then .enter .st else if c = 0x2d then .enter .mi
    else if c = 0x30 then .enter .ze else if isDigitByte c then .enter .int else if c = 0x74 then .enter .t1
    else if c = 0x66 then .enter .f1 else if c = 0x6e then .enter .n1 else .bad := by
  simp only [entry, is_lcurb, is_lsqrb, is_quote, is_minus, is_zero, is_lowT, is_lowF, is_lowN, (ofClass c).blank,
    (ofClass c).digit]
  rcases charClass c with _ | cls
  · rfl
  · cases cls <;> rfl

theorem entry_ar (c : Byte) : entry .ar c = if isBlank c then .enter .ar else if c = 0x5d then .closeArray
    else entry .va c := by
  simp only [entry, is_rsqrb, (ofClass c).blank]
  rcases charClass c with _ | cls
  · rfl
  · cases cls <;> rfl

theorem entry_mi (c : Byte) :
    entry .mi c = if c = 0x30 then .enter .ze else if isDigitByte c then .enter .int else .bad := by
  simp only [entry, is_zero, (ofClass c).digit]
  rcases charClass c with _ | cls
  · rfl
  · cases cls <;> rfl

theorem entry_ze (c : Byte) : entry .ze c = if c = 0x2e then .enter .fr else entry .ok c := by
  simp only [entry, is_point]
  rcases charClass c with _ | cls
  · rfl
  · cases cls <;> rfl

theorem entry_int (c : Byte) : entry .int c = if isDigitByte c then .enter .int else if c = 0x2e then .enter .fr
    else if isExponentSign c then .enter .e1 else entry .ok c := by
  simp only [entry, is_point, (ofClass c).digit, (ofClass c).exponent]
  rcases charClass c with _ | cls
  · rfl
  · cases cls <;> rfl

theorem entry_fr (c : Byte) : entry .fr c = if isDigitByte c then .enter .fr else if isExponentSign c then .enter .e1
    else entry .ok c := by
  simp only [entry, (ofClass c).digit, (ofClass c).exponent]
  rcases charClass c with _ | cls
  · rfl
  · cases cls <;> rfl

theorem entry_e1 (c : Byte) :
    entry .e1 c = if isSign c then .enter .e2 else if isDigitByte c then .enter .e3 else .bad := by
  simp only [entry, (ofClass c).digit, (ofClass c).sign]
  rcases charClass c with _ | cls
  · rfl
  · cases cls <;> rfl

theorem entry_e2 (c : Byte) : entry .e2 c = if isDigitByte c then .enter .e3 else .bad := by
  simp only [entry, (ofClass c).digit]
  rcases charClass c with _ | cls
  · rfl
  · cases cls <;> rfl

theorem entry_e3 (c : Byte) : entry .e3 c = if isDigitByte c then .enter .e3 else entry .ok c := by
  simp only [entry, (ofClass c).digit]
  rcases charClass c with _ | cls
  · rfl
  · cases cls <;> rfl

/-- The rows of the letters of `true`, `false` and `null`. -/
theorem entry_letter {cls : CharClass} {b : Byte} (row : stateTransition state = oneLetter cls next)
    (known : charClass b = some cls) (single : classByte cls = some b) (c : Byte) :
    entry state c = if c = b then .enter next else .bad := by
  have same : c = b ↔ charClass c = some cls := byte_iff known single
  simp only [entry, row, same]
  rcases charClass c with _ | other
  · rfl
  · simp [oneLetter]

/-- A row with entries to one state only. -/
theorem finishes_one {kind : Byte → Prop} [DecidablePred kind]
    (row : ∀ c, entry state c = if kind c then .enter next else .bad) (inside : state ≠ .ok) :
    Finishes ⟨state, depth, stack⟩ text ↔
      ∃ c rest, text = c :: rest ∧ kind c ∧ Finishes ⟨next, depth, stack⟩ rest := by
  constructor
  · intro finishes
    cases text with
    | nil => exact absurd finishes (not_finishes_nil inside)
    | cons c rest =>
      have here := row c
      split_ifs at here with known
      · exact ⟨c, rest, rfl, known, (finishes_enter here).mp finishes⟩
      · exact absurd finishes (finishes_bad here)
  · rintro ⟨c, rest, rfl, known, finishes⟩
    have here := row c
    rw [if_pos known] at here
    exact (finishes_enter here).mpr finishes

theorem finishes_hex (state next : CheckerState) (row : stateTransition state = hexDigit next)
    (inside : state ≠ .ok) : Finishes ⟨state, depth, stack⟩ text ↔
      ∃ c rest, text = c :: rest ∧ isHex c = true ∧ Finishes ⟨next, depth, stack⟩ rest :=
  finishes_one (entry_hex row) inside

theorem finishes_letter (state next : CheckerState) (cls : CharClass) (b : Byte)
    (row : stateTransition state = oneLetter cls next) (known : charClass b = some cls)
    (single : classByte cls = some b) (inside : state ≠ .ok) :
    Finishes ⟨state, depth, stack⟩ text ↔
      ∃ rest, text = b :: rest ∧ Finishes ⟨next, depth, stack⟩ rest := by
  rw [finishes_one (entry_letter row known single) inside]
  constructor
  · rintro ⟨c, rest, rfl, rfl, finishes⟩
    exact ⟨rest, rfl, finishes⟩
  · rintro ⟨rest, rfl, finishes⟩
    exact ⟨b, rest, rfl, rfl, finishes⟩

/-- A row that stays at bytes of a kind. -/
theorem finishes_many {kind : Byte → Bool} (row : ∀ c, kind c = true → entry state c = .enter state)
    (many : Many kind text rest) :
    Finishes ⟨state, depth, stack⟩ text ↔ Finishes ⟨state, depth, stack⟩ rest := by
  induction many with
  | none text => exact Iff.rfl
  | more here _ ih => exact (finishes_enter (row _ here)).trans ih

/-- `true`, `false` and `null` behind their first letter. -/
theorem finishes_t1 : Finishes ⟨.t1, depth, stack⟩ text ↔
    ∃ rest, text = 0x72 :: 0x75 :: 0x65 :: rest ∧ Finishes ⟨.ok, depth, stack⟩ rest := by
  simp only [finishes_letter .t1 .t2 .lowR 0x72 rfl rfl rfl (by simp),
    finishes_letter .t2 .t3 .lowU 0x75 rfl rfl rfl (by simp), finishes_letter .t3 .ok .lowE 0x65 rfl rfl rfl (by simp)]
  constructor
  · rintro ⟨_, rfl, _, rfl, rest, rfl, finishes⟩
    exact ⟨rest, rfl, finishes⟩
  · rintro ⟨rest, rfl, finishes⟩
    exact ⟨_, rfl, _, rfl, rest, rfl, finishes⟩

theorem finishes_f1 : Finishes ⟨.f1, depth, stack⟩ text ↔
    ∃ rest, text = 0x61 :: 0x6c :: 0x73 :: 0x65 :: rest ∧ Finishes ⟨.ok, depth, stack⟩ rest := by
  simp only [finishes_letter .f1 .f2 .lowA 0x61 rfl rfl rfl (by simp),
    finishes_letter .f2 .f3 .lowL 0x6c rfl rfl rfl (by simp), finishes_letter .f3 .f4 .lowS 0x73 rfl rfl rfl (by simp),
    finishes_letter .f4 .ok .lowE 0x65 rfl rfl rfl (by simp)]
  constructor
  · rintro ⟨_, rfl, _, rfl, _, rfl, rest, rfl, finishes⟩
    exact ⟨rest, rfl, finishes⟩
  · rintro ⟨rest, rfl, finishes⟩
    exact ⟨_, rfl, _, rfl, _, rfl, rest, rfl, finishes⟩

theorem finishes_n1 : Finishes ⟨.n1, depth, stack⟩ text ↔
    ∃ rest, text = 0x75 :: 0x6c :: 0x6c :: rest ∧ Finishes ⟨.ok, depth, stack⟩ rest := by
  simp only [finishes_letter .n1 .n2 .lowU 0x75 rfl rfl rfl (by simp),
    finishes_letter .n2 .n3 .lowL 0x6c rfl rfl rfl (by simp), finishes_letter .n3 .ok .lowL 0x6c rfl rfl rfl (by simp)]
  constructor
  · rintro ⟨_, rfl, _, rfl, rest, rfl, finishes⟩
    exact ⟨rest, rfl, finishes⟩
  · rintro ⟨rest, rfl, finishes⟩
    exact ⟨_, rfl, _, rfl, rest, rfl, finishes⟩

theorem finishes_quote (here : entry state c = .quote) : Finishes ⟨state, depth, stack⟩ (c :: text) ↔
    ∃ next, afterQuote stack = some next ∧ Finishes ⟨next, depth, stack⟩ text := by
  rw [finishes_turn_iff, here]
  simp only [turn, Option.map_eq_some_iff]
  constructor
  · rintro ⟨_, ⟨next, same, rfl⟩, finishes⟩
    exact ⟨next, same, finishes⟩
  · rintro ⟨next, same, finishes⟩
    exact ⟨_, ⟨next, same, rfl⟩, finishes⟩

theorem string_complete (chars : Chars text rest) (finishes : ∃ next, afterQuote stack = some next ∧
    Finishes ⟨next, depth, stack⟩ rest) : Finishes ⟨.st, depth, stack⟩ text := by
  induction chars with
  | close rest => exact (finishes_quote (entry_st 0x22)).mpr finishes
  | @plain c text rest here next ih =>
    refine (finishes_enter ?_).mpr (ih finishes)
    have row := entry_st c
    simp only [isPlain, Bool.and_eq_true, bne_iff_ne] at here
    rwa [if_neg here.1.2, if_neg here.2, if_pos (by simp [isPlain, here])] at row
  | @escape c text rest here next ih =>
    have row := entry_es c
    have other : c ≠ 0x75 := by
      rintro rfl
      exact absurd here (by decide)
    rw [if_neg other, if_pos here] at row
    exact (finishes_enter (entry_st 0x5c)).mpr ((finishes_enter row).mpr (ih finishes))
  | unicode first second third fourth next ih =>
    refine (finishes_enter (entry_st 0x5c)).mpr ((finishes_enter (entry_es 0x75)).mpr ?_)
    refine (finishes_hex .u1 .u2 rfl (by simp)).mpr ⟨_, _, rfl, first, ?_⟩
    refine (finishes_hex .u2 .u3 rfl (by simp)).mpr ⟨_, _, rfl, second, ?_⟩
    refine (finishes_hex .u3 .u4 rfl (by simp)).mpr ⟨_, _, rfl, third, ?_⟩
    exact (finishes_hex .u4 .st rfl (by simp)).mpr ⟨_, _, rfl, fourth, ih finishes⟩

/-- By induction on the length: an escape takes several bytes at once. -/
theorem string_sound (finishes : Finishes ⟨.st, depth, stack⟩ text) :
    ∃ rest next, Chars text rest ∧ afterQuote stack = some next ∧ Finishes ⟨next, depth, stack⟩ rest := by
  induction size : text.length using Nat.strong_induction_on generalizing text with
  | _ n ih =>
    cases text with
    | nil => exact absurd finishes (not_finishes_nil (by simp))
    | cons c text =>
      subst size
      have row := entry_st c
      split_ifs at row with quote backslash plain
      · obtain ⟨next, same, finishes⟩ := (finishes_quote row).mp finishes
        exact ⟨text, next, quote ▸ .close text, same, finishes⟩
      · subst backslash
        have escaped := (finishes_enter row).mp finishes
        cases text with
        | nil => exact absurd escaped (not_finishes_nil (by simp))
        | cons d text =>
          have second := entry_es d
          split_ifs at second with unicode escape
          · subst unicode
            have hex := (finishes_enter second).mp escaped
            obtain ⟨a, _, rfl, first, hex⟩ := (finishes_hex .u1 .u2 rfl (by simp)).mp hex
            obtain ⟨b, _, rfl, second, hex⟩ := (finishes_hex .u2 .u3 rfl (by simp)).mp hex
            obtain ⟨c, _, rfl, third, hex⟩ := (finishes_hex .u3 .u4 rfl (by simp)).mp hex
            obtain ⟨d, text, rfl, fourth, hex⟩ := (finishes_hex .u4 .st rfl (by simp)).mp hex
            obtain ⟨rest, next, chars, same, finishes⟩ := ih text.length (by simp; omega) hex rfl
            exact ⟨rest, next, .unicode first second third fourth chars, same, finishes⟩
          · obtain ⟨rest, next, chars, same, finishes⟩ :=
              ih text.length (by simp) ((finishes_enter second).mp escaped) rfl
            exact ⟨rest, next, .escape escape chars, same, finishes⟩
          · exact absurd escaped (finishes_bad second)
      · obtain ⟨rest, next, chars, same, finishes⟩ :=
          ih text.length (by simp) ((finishes_enter row).mp finishes) rfl
        exact ⟨rest, next, .plain plain chars, same, finishes⟩
      · exact absurd finishes (finishes_bad row)

/-- A container is open. -/
abbrev Open (stack : List CheckerMode) : Prop := stack.head? ≠ some .done

theorem not_finishes_end (isOpen : Open stack) : ¬ Finishes ⟨state, depth, stack⟩ [] := by
  rw [finishes_nil]
  cases stack with
  | nil => simp [done, pop]
  | cons top rest =>
    have other : top ≠ .done := fun same => isOpen (congrArg some same)
    simp [done, pop, other]

/-- Behind a value comes no byte of a number. -/
theorem entry_ok_number (c : Byte) :
    entry .ok c ≠ .bad → isDigitByte c = false ∧ c ≠ 0x2e ∧ isExponentSign c = false := by
  simp only [entry, ne_eq, is_point, (ofClass c).digit, (ofClass c).exponent]
  rcases charClass c with _ | cls
  · decide
  · cases cls <;> decide

theorem exponent_no_digit (c : Byte) : isExponentSign c = true → isDigitByte c = false ∧ c ≠ 0x2e := by
  simp only [ne_eq, is_point, (ofClass c).digit, (ofClass c).exponent]
  rcases charClass c with _ | cls
  · decide
  · cases cls <;> decide

theorem digit_no_sign (c : Byte) : isDigitByte c = true → isSign c = false := by
  simp only [(ofClass c).digit, (ofClass c).sign]
  rcases charClass c with _ | cls
  · decide
  · cases cls <;> decide

/-- The rows at which a number may end are that of `OK` at the bytes behind a value. -/
theorem finishes_delimited (row : ∀ c, entry .ok c ≠ .bad → entry state c = entry .ok c) (isOpen : Open stack)
    (finishes : Finishes ⟨.ok, depth, stack⟩ text) : Finishes ⟨state, depth, stack⟩ text := by
  cases text with
  | nil => exact absurd finishes (not_finishes_end isOpen)
  | cons c text =>
    have good : entry .ok c ≠ .bad := fun bad => finishes_bad bad finishes
    exact (finishes_congr (row c good)).mpr finishes

theorem delimited_ze : ∀ c, entry .ok c ≠ .bad → entry .ze c = entry .ok c := by
  intro c good
  rw [entry_ze, if_neg (entry_ok_number c good).2.1]

theorem delimited_int : ∀ c, entry .ok c ≠ .bad → entry .int c = entry .ok c := by
  intro c good
  obtain ⟨digit, point, exponent⟩ := entry_ok_number c good
  simp [entry_int, digit, point, exponent]

theorem delimited_fr : ∀ c, entry .ok c ≠ .bad → entry .fr c = entry .ok c := by
  intro c good
  obtain ⟨digit, point, exponent⟩ := entry_ok_number c good
  simp [entry_fr, digit, exponent]

theorem delimited_e3 : ∀ c, entry .ok c ≠ .bad → entry .e3 c = entry .ok c := by
  intro c good
  simp [entry_e3, (entry_ok_number c good).1]

theorem digit_int (c : Byte) (digit : isDigitByte c = true) : entry .int c = .enter .int := by
  rw [entry_int, if_pos digit]
theorem digit_fr (c : Byte) (digit : isDigitByte c = true) : entry .fr c = .enter .fr := by
  rw [entry_fr, if_pos digit]
theorem digit_e3 (c : Byte) (digit : isDigitByte c = true) : entry .e3 c = .enter .e3 := by
  rw [entry_e3, if_pos digit]

section
variable (isOpen : Open stack)
include isOpen

theorem exponent_complete (sign : ∀ c, isExponentSign c = true → entry state c = .enter .e1)
    (row : ∀ c, entry .ok c ≠ .bad → entry state c = entry .ok c) (exponent : ExponentPart text rest)
    (finishes : Finishes ⟨.ok, depth, stack⟩ rest) : Finishes ⟨state, depth, stack⟩ text := by
  cases exponent with
  | none => exact finishes_delimited row isOpen finishes
  | @plain e digit text rest here first digits =>
    have second := entry_e1 digit
    rw [if_neg (by simp [digit_no_sign digit first]), if_pos first] at second
    refine (finishes_enter (sign e here)).mpr ((finishes_enter second).mpr ?_)
    exact (finishes_many digit_e3 digits).mpr (finishes_delimited delimited_e3 isOpen finishes)
  | @signed e s digit text rest here signed first digits =>
    have second := entry_e1 s
    have third := entry_e2 digit
    rw [if_pos signed] at second
    rw [if_pos first] at third
    refine (finishes_enter (sign e here)).mpr ((finishes_enter second).mpr ((finishes_enter third).mpr ?_))
    exact (finishes_many digit_e3 digits).mpr (finishes_delimited delimited_e3 isOpen finishes)

/-- The digits of an exponent, and the value ends. -/
theorem digits_sound (finishes : Finishes ⟨.e3, depth, stack⟩ text) :
    ∃ rest, Many isDigitByte text rest ∧ Finishes ⟨.ok, depth, stack⟩ rest := by
  rcases many_split isDigitByte text with all | ⟨c, rest, other, digits⟩
  · exact absurd ((finishes_many digit_e3 all).mp finishes) (not_finishes_end isOpen)
  · have behind := (finishes_many digit_e3 digits).mp finishes
    have row := entry_e3 c
    rw [if_neg (by simp [other])] at row
    exact ⟨c :: rest, digits, (finishes_congr row).mp behind⟩

theorem exponent_sound {e : Byte} (here : isExponentSign e = true) (finishes : Finishes ⟨.e1, depth, stack⟩ text) :
    ∃ rest, ExponentPart (e :: text) rest ∧ Finishes ⟨.ok, depth, stack⟩ rest := by
  cases text with
  | nil => exact absurd finishes (not_finishes_end isOpen)
  | cons c text =>
    have row := entry_e1 c
    split_ifs at row with sign digit
    · obtain ⟨d, text, rfl, digit, behind⟩ :=
        (finishes_one entry_e2 (by simp)).mp ((finishes_enter row).mp finishes)
      obtain ⟨rest, digits, ends⟩ := digits_sound isOpen behind
      exact ⟨rest, .signed here sign digit digits, ends⟩
    · obtain ⟨rest, digits, ends⟩ := digits_sound isOpen ((finishes_enter row).mp finishes)
      exact ⟨rest, .plain here digit digits, ends⟩
    · exact absurd finishes (finishes_bad row)

/-- Behind the point of a number. -/
theorem point_complete {a : List Byte} (digits : Many isDigitByte text a) (exponent : ExponentPart a rest)
    (finishes : Finishes ⟨.ok, depth, stack⟩ rest) : Finishes ⟨.fr, depth, stack⟩ text := by
  refine (finishes_many digit_fr digits).mpr (exponent_complete isOpen ?_ delimited_fr exponent finishes)
  intro c sign
  simp [entry_fr, exponent_no_digit c sign, sign]

theorem point_sound (finishes : Finishes ⟨.fr, depth, stack⟩ text) :
    ∃ a rest, Many isDigitByte text a ∧ ExponentPart a rest ∧ Finishes ⟨.ok, depth, stack⟩ rest := by
  rcases many_split isDigitByte text with all | ⟨c, a, other, digits⟩
  · exact absurd ((finishes_many digit_fr all).mp finishes) (not_finishes_end isOpen)
  · have behind := (finishes_many digit_fr digits).mp finishes
    have row := entry_fr c
    rw [if_neg (by simp [other])] at row
    split_ifs at row with sign
    · obtain ⟨rest, exponent, ends⟩ := exponent_sound isOpen sign ((finishes_enter row).mp behind)
      exact ⟨c :: a, rest, digits, exponent, ends⟩
    · exact ⟨c :: a, c :: a, digits, .none _, (finishes_congr row).mp behind⟩

theorem fraction_complete {a : List Byte} (digits : Many isDigitByte text a) (fraction : FractionPart a rest)
    (finishes : Finishes ⟨.ok, depth, stack⟩ rest) : Finishes ⟨.int, depth, stack⟩ text := by
  refine (finishes_many digit_int digits).mpr ?_
  cases fraction with
  | none exponent =>
    refine exponent_complete isOpen ?_ delimited_int exponent finishes
    intro c sign
    simp [entry_int, exponent_no_digit c sign, sign]
  | point more exponent => exact (finishes_enter (entry_int 0x2e)).mpr (point_complete isOpen more exponent finishes)

theorem fraction_sound (finishes : Finishes ⟨.int, depth, stack⟩ text) :
    ∃ a rest, Many isDigitByte text a ∧ FractionPart a rest ∧ Finishes ⟨.ok, depth, stack⟩ rest := by
  rcases many_split isDigitByte text with all | ⟨c, a, other, digits⟩
  · exact absurd ((finishes_many digit_int all).mp finishes) (not_finishes_end isOpen)
  · have behind := (finishes_many digit_int digits).mp finishes
    have row := entry_int c
    rw [if_neg (by simp [other])] at row
    split_ifs at row with point sign
    · obtain ⟨b, rest, more, exponent, ends⟩ := point_sound isOpen ((finishes_enter row).mp behind)
      exact ⟨c :: a, rest, digits, point ▸ .point more exponent, ends⟩
    · obtain ⟨rest, exponent, ends⟩ := exponent_sound isOpen sign ((finishes_enter row).mp behind)
      exact ⟨c :: a, rest, digits, .none exponent, ends⟩
    · exact ⟨c :: a, c :: a, digits, .none (.none _), (finishes_congr row).mp behind⟩

/-- A number without sign, from a state with the entries of its first byte. -/
theorem unsigned_complete (zero : entry state 0x30 = .enter .ze)
    (digit : ∀ c, isDigitByte c = true → c ≠ 0x30 → entry state c = .enter .int) (number : Unsigned text rest)
    (finishes : Finishes ⟨.ok, depth, stack⟩ rest) : Finishes ⟨state, depth, stack⟩ text := by
  cases number with
  | zero => exact (finishes_enter zero).mpr (finishes_delimited delimited_ze isOpen finishes)
  | zeroPoint digits exponent =>
    refine (finishes_enter zero).mpr ((finishes_enter (entry_ze 0x2e)).mpr ?_)
    exact point_complete isOpen digits exponent finishes
  | whole first positive digits fraction =>
    exact (finishes_enter (digit _ first positive)).mpr (fraction_complete isOpen digits fraction finishes)

theorem zero_sound (finishes : Finishes ⟨.ze, depth, stack⟩ text) :
    ∃ rest, Unsigned (0x30 :: text) rest ∧ Finishes ⟨.ok, depth, stack⟩ rest := by
  cases text with
  | nil => exact absurd finishes (not_finishes_end isOpen)
  | cons c text =>
    have row := entry_ze c
    split_ifs at row with point
    · subst point
      obtain ⟨a, rest, digits, exponent, ends⟩ := point_sound isOpen ((finishes_enter row).mp finishes)
      exact ⟨rest, .zeroPoint digits exponent, ends⟩
    · exact ⟨c :: text, .zero _, (finishes_congr row).mp finishes⟩

theorem whole_sound (first : isDigitByte c = true) (positive : c ≠ 0x30)
    (finishes : Finishes ⟨.int, depth, stack⟩ text) :
    ∃ rest, Unsigned (c :: text) rest ∧ Finishes ⟨.ok, depth, stack⟩ rest := by
  obtain ⟨a, rest, digits, fraction, ends⟩ := fraction_sound isOpen finishes
  exact ⟨rest, .whole first positive digits fraction, ends⟩

theorem minus_sound (finishes : Finishes ⟨.mi, depth, stack⟩ text) :
    ∃ rest, Unsigned text rest ∧ Finishes ⟨.ok, depth, stack⟩ rest := by
  cases text with
  | nil => exact absurd finishes (not_finishes_end isOpen)
  | cons c text =>
    have row := entry_mi c
    split_ifs at row with zero digit
    · exact zero ▸ zero_sound isOpen ((finishes_enter row).mp finishes)
    · exact whole_sound isOpen digit zero ((finishes_enter row).mp finishes)
    · exact absurd finishes (finishes_bad row)

end

end JsonChecker
end JsonRpcTcp
