import JsonRpcTcp.CheckerGrammar

namespace JsonRpcTcp
open JsonText

namespace JsonChecker
variable {state : CheckerState} {depth : Nat} {stack : List CheckerMode} {c : Byte} {text rest : List Byte}

theorem finishes_openArray (here : entry state c = .openArray) : Finishes ⟨state, depth, stack⟩ (c :: text) ↔
    stack.length < depth ∧ Finishes ⟨.ar, depth, .array :: stack⟩ text := by
  rw [finishes_turn_iff, here]
  by_cases room : stack.length < depth <;> simp [turn, room]

theorem finishes_openObject (here : entry state c = .openObject) : Finishes ⟨state, depth, stack⟩ (c :: text) ↔
    stack.length < depth ∧ Finishes ⟨.ob, depth, .key :: stack⟩ text := by
  rw [finishes_turn_iff, here]
  by_cases room : stack.length < depth <;> simp [turn, room]

/-- A row that stays at blanks. -/
theorem finishes_blanks (row : ∀ c, isBlank c = true → entry state c = .enter state)
    (inside : ¬ Finishes ⟨state, depth, stack⟩ []) (finishes : Finishes ⟨state, depth, stack⟩ text) :
    ∃ c rest, isBlank c = false ∧ Blanks text (c :: rest) ∧ Finishes ⟨state, depth, stack⟩ (c :: rest) := by
  rcases many_split isBlank text with all | ⟨c, rest, other, blanks⟩
  · exact absurd ((finishes_many row all).mp finishes) inside
  · exact ⟨c, rest, other, blanks, (finishes_many row blanks).mp finishes⟩

theorem blank_ok (c : Byte) (blank : isBlank c = true) : entry .ok c = .enter .ok := by rw [entry_ok, if_pos blank]
theorem blank_go (c : Byte) (blank : isBlank c = true) : entry .go c = .enter .go := by rw [entry_go, if_pos blank]
theorem blank_ob (c : Byte) (blank : isBlank c = true) : entry .ob c = .enter .ob := by rw [entry_ob, if_pos blank]
theorem blank_ke (c : Byte) (blank : isBlank c = true) : entry .ke c = .enter .ke := by rw [entry_ke, if_pos blank]
theorem blank_co (c : Byte) (blank : isBlank c = true) : entry .co c = .enter .co := by rw [entry_co, if_pos blank]
theorem blank_va (c : Byte) (blank : isBlank c = true) : entry .va c = .enter .va := by rw [entry_va, if_pos blank]
theorem blank_ar (c : Byte) (blank : isBlank c = true) : entry .ar c = .enter .ar := by rw [entry_ar, if_pos blank]

/-- Behind the value of an array. -/
theorem finishes_ok_array : Finishes ⟨.ok, depth, .array :: stack⟩ text ↔
    (∃ rest, Blanks text (0x5d :: rest) ∧ Finishes ⟨.ok, depth, stack⟩ rest) ∨
    ∃ rest, Blanks text (0x2c :: rest) ∧ Finishes ⟨.va, depth, .array :: stack⟩ rest := by
  constructor
  · intro finishes
    obtain ⟨c, rest, other, blanks, finishes⟩ := finishes_blanks blank_ok (not_finishes_end (by simp)) finishes
    have row := entry_ok c
    rw [if_neg (by simp [other])] at row
    obtain ⟨read, turns, behind⟩ := finishes_turn_iff.mp finishes
    rw [row] at turns
    split_ifs at turns with brace bracket comma
    · simp [turn] at turns
    · subst bracket
      cases Option.some.inj turns
      exact Or.inl ⟨rest, blanks, behind⟩
    · subst comma
      cases Option.some.inj turns
      exact Or.inr ⟨rest, blanks, behind⟩
    · simp [turn] at turns
  · rintro (⟨rest, blanks, behind⟩ | ⟨rest, blanks, behind⟩)
    · exact (finishes_many blank_ok blanks).mpr (finishes_turn_iff.mpr ⟨_, rfl, behind⟩)
    · exact (finishes_many blank_ok blanks).mpr (finishes_turn_iff.mpr ⟨_, rfl, behind⟩)

/-- Behind the value of a member. -/
theorem finishes_ok_object : Finishes ⟨.ok, depth, .object :: stack⟩ text ↔
    (∃ rest, Blanks text (0x7d :: rest) ∧ Finishes ⟨.ok, depth, stack⟩ rest) ∨
    ∃ rest, Blanks text (0x2c :: rest) ∧ stack.length < depth ∧ Finishes ⟨.ke, depth, .key :: stack⟩ rest := by
  constructor
  · intro finishes
    obtain ⟨c, rest, other, blanks, finishes⟩ := finishes_blanks blank_ok (not_finishes_end (by simp)) finishes
    have row := entry_ok c
    rw [if_neg (by simp [other])] at row
    obtain ⟨read, turns, behind⟩ := finishes_turn_iff.mp finishes
    rw [row] at turns
    split_ifs at turns with brace bracket comma
    · subst brace
      cases Option.some.inj turns
      exact Or.inl ⟨rest, blanks, behind⟩
    · simp [turn] at turns
    · subst comma
      by_cases room : stack.length < depth
      · simp only [turn, afterComma, Option.bind_some, List.head?_cons, List.tail_cons, true_and,
          if_neg (Nat.not_le.mpr room)] at turns
        cases Option.some.inj turns
        exact Or.inr ⟨rest, blanks, room, behind⟩
      · simp [turn, afterComma, Nat.not_lt.mp room] at turns
    · simp [turn] at turns
  · rintro (⟨rest, blanks, behind⟩ | ⟨rest, blanks, room, behind⟩)
    · exact (finishes_many blank_ok blanks).mpr (finishes_turn_iff.mpr ⟨_, rfl, behind⟩)
    · refine (finishes_many blank_ok blanks).mpr (finishes_turn_iff.mpr ⟨_, ?_, behind⟩)
      simp [entry_ok, turn, afterComma, isBlank, room]

/-- Behind the whole text. -/
theorem finishes_ok_done : Finishes ⟨.ok, depth, [.done]⟩ text ↔ Blanks text [] := by
  constructor
  · intro finishes
    rcases many_split isBlank text with all | ⟨c, rest, other, blanks⟩
    · exact all
    · have row := entry_ok c
      rw [if_neg (by simp [other])] at row
      obtain ⟨read, turns, behind⟩ := finishes_turn_iff.mp ((finishes_many blank_ok blanks).mp finishes)
      rw [row] at turns
      split_ifs at turns <;> simp [turn, afterComma] at turns
  · intro blanks
    exact (finishes_many blank_ok blanks).mpr (finishes_nil.mpr rfl)

/-- Between the name of a member and its value. -/
theorem finishes_co : Finishes ⟨.co, depth, .key :: stack⟩ text ↔
    ∃ rest, Blanks text (0x3a :: rest) ∧ stack.length < depth ∧ Finishes ⟨.va, depth, .object :: stack⟩ rest := by
  constructor
  · intro finishes
    obtain ⟨c, rest, other, blanks, finishes⟩ := finishes_blanks blank_co (not_finishes_end (by simp)) finishes
    have row := entry_co c
    rw [if_neg (by simp [other])] at row
    obtain ⟨read, turns, behind⟩ := finishes_turn_iff.mp finishes
    rw [row] at turns
    split_ifs at turns with colon
    · subst colon
      by_cases room : stack.length < depth
      · simp only [turn, List.head?_cons, List.tail_cons, true_and, if_pos room] at turns
        cases Option.some.inj turns
        exact ⟨rest, blanks, room, behind⟩
      · simp [turn, room] at turns
    · simp [turn] at turns
  · rintro ⟨rest, blanks, room, behind⟩
    refine (finishes_many blank_co blanks).mpr (finishes_turn_iff.mpr ⟨_, ?_, behind⟩)
    simp [entry_co, turn, isBlank, room]

/-- Before the name of a member. -/
theorem finishes_ke : Finishes ⟨.ke, depth, stack⟩ text ↔
    ∃ rest, Blanks text (0x22 :: rest) ∧ Finishes ⟨.st, depth, stack⟩ rest := by
  constructor
  · intro finishes
    obtain ⟨c, rest, other, blanks, finishes⟩ := finishes_blanks blank_ke (not_finishes_nil (by simp)) finishes
    have row := entry_ke c
    rw [if_neg (by simp [other])] at row
    split_ifs at row with quote
    · subst quote
      exact ⟨rest, blanks, (finishes_enter row).mp finishes⟩
    · exact absurd finishes (finishes_bad row)
  · rintro ⟨rest, blanks, behind⟩
    exact (finishes_many blank_ke blanks).mpr ((finishes_enter (entry_ke 0x22)).mpr behind)

/-- Behind an opening brace. -/
theorem finishes_ob : Finishes ⟨.ob, depth, .key :: stack⟩ text ↔
    (∃ rest, Blanks text (0x7d :: rest) ∧ Finishes ⟨.ok, depth, stack⟩ rest) ∨
    Finishes ⟨.ke, depth, .key :: stack⟩ text := by
  constructor
  · intro finishes
    obtain ⟨c, rest, other, blanks, finishes⟩ := finishes_blanks blank_ob (not_finishes_nil (by simp)) finishes
    have row := entry_ob c
    rw [if_neg (by simp [other])] at row
    split_ifs at row with brace quote
    · subst brace
      obtain ⟨read, turns, behind⟩ := finishes_turn_iff.mp finishes
      rw [row] at turns
      cases Option.some.inj turns
      exact Or.inl ⟨rest, blanks, behind⟩
    · subst quote
      exact Or.inr (finishes_ke.mpr ⟨rest, blanks, (finishes_enter row).mp finishes⟩)
    · exact absurd finishes (finishes_bad row)
  · rintro (⟨rest, blanks, behind⟩ | finishes)
    · exact (finishes_many blank_ob blanks).mpr (finishes_turn_iff.mpr ⟨_, rfl, behind⟩)
    · obtain ⟨rest, blanks, behind⟩ := finishes_ke.mp finishes
      exact (finishes_many blank_ob blanks).mpr ((finishes_enter (entry_ob 0x22)).mpr behind)

/-- Behind an opening bracket. -/
theorem finishes_ar : Finishes ⟨.ar, depth, .array :: stack⟩ text ↔
    (∃ rest, Blanks text (0x5d :: rest) ∧ Finishes ⟨.ok, depth, stack⟩ rest) ∨
    Finishes ⟨.va, depth, .array :: stack⟩ text := by
  constructor
  · intro finishes
    obtain ⟨c, rest, other, blanks, finishes⟩ := finishes_blanks blank_ar (not_finishes_nil (by simp)) finishes
    have row := entry_ar c
    rw [if_neg (by simp [other])] at row
    split_ifs at row with bracket
    · subst bracket
      obtain ⟨read, turns, behind⟩ := finishes_turn_iff.mp finishes
      rw [row] at turns
      cases Option.some.inj turns
      exact Or.inl ⟨rest, blanks, behind⟩
    · exact Or.inr ((finishes_many blank_va blanks).mpr ((finishes_congr row).mp finishes))
  · rintro (⟨rest, blanks, behind⟩ | finishes)
    · exact (finishes_many blank_ar blanks).mpr (finishes_turn_iff.mpr ⟨_, rfl, behind⟩)
    · obtain ⟨c, rest, other, blanks, finishes⟩ := finishes_blanks blank_va (not_finishes_nil (by simp)) finishes
      have row := entry_ar c
      rw [if_neg (by simp [other])] at row
      have noBracket : c ≠ 0x5d := by
        rintro rfl
        exact finishes_bad (by decide) finishes
      rw [if_neg noBracket] at row
      exact (finishes_many blank_ar blanks).mpr ((finishes_congr row).mpr finishes)

/-- A value may stand here. -/
def Expects (stack : List CheckerMode) : Prop := ∃ rest, stack = .array :: rest ∨ stack = .object :: rest

theorem Expects.isOpen (expects : Expects stack) : Open stack := by
  obtain ⟨rest, rfl | rfl⟩ := expects <;> simp

theorem Expects.afterQuote (expects : Expects stack) : afterQuote stack = some .ok := by
  obtain ⟨rest, rfl | rfl⟩ := expects <;> rfl

/-- What a text begins with, when it takes the checker from the state before a value
to its end. -/
def ValueSound (depth : Nat) (text : List Byte) : Prop :=
  ∀ stack, Expects stack → Finishes ⟨.va, depth, stack⟩ text →
    ∃ a rest, Blanks text a ∧ Derives CheckerNumber .value (depth - stack.length) a rest ∧
      Finishes ⟨.ok, depth, stack⟩ rest

def ElementsSound (depth : Nat) (text : List Byte) : Prop :=
  ∀ stack, Finishes ⟨.va, depth, .array :: stack⟩ text →
    ∃ rest, Derives CheckerNumber .elements (depth - (stack.length + 1)) text rest ∧ Finishes ⟨.ok, depth, stack⟩ rest

def MembersSound (depth : Nat) (text : List Byte) : Prop :=
  ∀ stack, Finishes ⟨.ke, depth, .key :: stack⟩ text →
    ∃ rest, Derives CheckerNumber .members (depth - (stack.length + 1)) text rest ∧ Finishes ⟨.ok, depth, stack⟩ rest

theorem array_sound (elements : ElementsSound depth text) (room : stack.length < depth)
    (finishes : Finishes ⟨.ar, depth, .array :: stack⟩ text) :
    ∃ rest, Derives CheckerNumber .container (depth - stack.length) (0x5b :: text) rest ∧
      Finishes ⟨.ok, depth, stack⟩ rest := by
  have inner : depth - stack.length = depth - (stack.length + 1) + 1 := by omega
  rw [inner]
  rcases finishes_ar.mp finishes with ⟨rest, close, ends⟩ | inside
  · exact ⟨rest, .emptyArray close, ends⟩
  · obtain ⟨rest, derives, ends⟩ := elements stack inside
    exact ⟨rest, .array derives, ends⟩

theorem object_sound (members : MembersSound depth text) (room : stack.length < depth)
    (finishes : Finishes ⟨.ob, depth, .key :: stack⟩ text) :
    ∃ rest, Derives CheckerNumber .container (depth - stack.length) (0x7b :: text) rest ∧
      Finishes ⟨.ok, depth, stack⟩ rest := by
  have inner : depth - stack.length = depth - (stack.length + 1) + 1 := by omega
  rw [inner]
  rcases finishes_ob.mp finishes with ⟨rest, close, ends⟩ | inside
  · exact ⟨rest, .emptyObject close, ends⟩
  · obtain ⟨rest, derives, ends⟩ := members stack inside
    exact ⟨rest, .object derives, ends⟩

/-- A value whose containers are shorter texts. -/
theorem value_sound (elements : ∀ shorter : List Byte, shorter.length < text.length → ElementsSound depth shorter)
    (members : ∀ shorter : List Byte, shorter.length < text.length → MembersSound depth shorter) :
    ValueSound depth text := by
  intro stack expects finishes
  have isOpen := expects.isOpen
  obtain ⟨c, rest, other, blanks, finishes⟩ := finishes_blanks blank_va (not_finishes_nil (by simp)) finishes
  have shorter : rest.length < text.length := blanks.suffix.length_le
  have row := entry_va c
  rw [if_neg (by simp [other])] at row
  split_ifs at row with brace bracket quote minus zero digit t f n
  · obtain ⟨room, inside⟩ := (finishes_openObject row).mp finishes
    obtain ⟨last, derives, ends⟩ := object_sound (members rest shorter) room inside
    exact ⟨c :: rest, last, blanks, .nested (brace ▸ derives), ends⟩
  · obtain ⟨room, inside⟩ := (finishes_openArray row).mp finishes
    obtain ⟨last, derives, ends⟩ := array_sound (elements rest shorter) room inside
    exact ⟨c :: rest, last, blanks, .nested (bracket ▸ derives), ends⟩
  · obtain ⟨last, next, chars, same, ends⟩ := string_sound ((finishes_enter row).mp finishes)
    rw [expects.afterQuote] at same
    cases Option.some.inj same
    exact ⟨c :: rest, last, blanks, quote ▸ .string chars, ends⟩
  · obtain ⟨last, number, ends⟩ := minus_sound isOpen ((finishes_enter row).mp finishes)
    exact ⟨c :: rest, last, blanks, .number (minus ▸ .negative number), ends⟩
  · obtain ⟨last, number, ends⟩ := zero_sound isOpen ((finishes_enter row).mp finishes)
    exact ⟨c :: rest, last, blanks, .number (zero ▸ .positive number), ends⟩
  · obtain ⟨last, number, ends⟩ := whole_sound isOpen digit zero ((finishes_enter row).mp finishes)
    exact ⟨c :: rest, last, blanks, .number (.positive number), ends⟩
  · obtain ⟨last, rfl, ends⟩ := finishes_t1.mp ((finishes_enter row).mp finishes)
    exact ⟨_, last, blanks, t ▸ .trueLiteral last, ends⟩
  · obtain ⟨last, rfl, ends⟩ := finishes_f1.mp ((finishes_enter row).mp finishes)
    exact ⟨_, last, blanks, f ▸ .falseLiteral last, ends⟩
  · obtain ⟨last, rfl, ends⟩ := finishes_n1.mp ((finishes_enter row).mp finishes)
    exact ⟨_, last, blanks, n ▸ .nullLiteral last, ends⟩
  · exact absurd finishes (finishes_bad row)

theorem exponent_le (exponent : ExponentPart text rest) : rest.length ≤ text.length := by
  cases exponent with
  | none => exact le_rfl
  | plain here first digits =>
    have behind := digits.suffix.length_le
    simp only [List.length_cons]
    omega
  | signed here signed first digits =>
    have behind := digits.suffix.length_le
    simp only [List.length_cons]
    omega

theorem unsigned_shorter (number : Unsigned text rest) : rest.length < text.length := by
  cases number with
  | zero => exact Nat.lt_succ_self _
  | zeroPoint digits exponent =>
    have first := digits.suffix.length_le
    have second := exponent_le exponent
    simp only [List.length_cons]
    omega
  | whole _ _ digits fraction =>
    have first := digits.suffix.length_le
    cases fraction with
    | none exponent =>
      have second := exponent_le exponent
      simp only [List.length_cons]
      omega
    | point more exponent =>
      have second := more.suffix.length_le
      have third := exponent_le exponent
      simp only [List.length_cons] at first ⊢
      omega

theorem checkerNumber_shorter (text rest : List Byte) (number : CheckerNumber text rest) :
    rest.length < text.length := by
  cases number with
  | positive number => exact unsigned_shorter number
  | negative number => exact Nat.lt_succ_of_lt (unsigned_shorter number)

/-- The elements begin with a value, and what is left behind its comma is shorter. -/
theorem elements_sound (value : ValueSound depth text)
    (elements : ∀ shorter : List Byte, shorter.length < text.length → ElementsSound depth shorter) :
    ElementsSound depth text := by
  intro stack finishes
  obtain ⟨a, b, blanks, derives, behind⟩ := value (.array :: stack) ⟨stack, Or.inl rfl⟩ finishes
  rcases finishes_ok_array.mp behind with ⟨rest, close, ends⟩ | ⟨c, comma, more⟩
  · exact ⟨rest, .lastElement blanks derives close, ends⟩
  · have first := blanks.suffix.length_le
    have second := derives.shorter checkerNumber_shorter
    have third := comma.suffix.length_le
    simp only [List.length_cons] at third
    obtain ⟨rest, others, ends⟩ := elements c (by omega) stack more
    exact ⟨rest, .element blanks derives comma others, ends⟩

/-- The members begin with a name and a value, both shorter. -/
theorem members_sound (value : ∀ shorter : List Byte, shorter.length < text.length → ValueSound depth shorter)
    (members : ∀ shorter : List Byte, shorter.length < text.length → MembersSound depth shorter) :
    MembersSound depth text := by
  intro stack finishes
  obtain ⟨a, quote, inString⟩ := finishes_ke.mp finishes
  obtain ⟨b, next, name, same, behindName⟩ := string_sound inString
  cases Option.some.inj same
  obtain ⟨c, colon, room, before⟩ := finishes_co.mp behindName
  have first := quote.suffix.length_le
  have second := name.shorter
  have third := colon.suffix.length_le
  simp only [List.length_cons] at first third
  obtain ⟨d, e, blanks, derives, behind⟩ := value c (by omega) (.object :: stack) ⟨stack, Or.inr rfl⟩ before
  have member : Derives CheckerNumber .member (depth - (stack.length + 1)) text e :=
    .member quote name colon blanks derives
  rcases finishes_ok_object.mp behind with ⟨rest, close, ends⟩ | ⟨f, comma, _, more⟩
  · exact ⟨rest, .lastMember member close, ends⟩
  · have fourth := member.shorter checkerNumber_shorter
    have fifth := comma.suffix.length_le
    simp only [List.length_cons] at fifth
    obtain ⟨rest, others, ends⟩ := members f (by omega) stack more
    exact ⟨rest, .members member comma others, ends⟩

/-- By induction on the length, for all three at once. -/
theorem all_sound (depth : Nat) (text : List Byte) :
    ValueSound depth text ∧ ElementsSound depth text ∧ MembersSound depth text := by
  induction size : text.length using Nat.strong_induction_on generalizing text with
  | _ n ih =>
    subst size
    have value : ValueSound depth text :=
      value_sound (fun shorter less => (ih _ less shorter rfl).2.1) (fun shorter less => (ih _ less shorter rfl).2.2)
    exact ⟨value, elements_sound value fun shorter less => (ih _ less shorter rfl).2.1,
      members_sound (fun shorter less => (ih _ less shorter rfl).1) fun shorter less => (ih _ less shorter rfl).2.2⟩

/-- The other direction: where the checker may stand before a part of the grammar when
it can go on behind it. -/
def Complete (depth : Nat) : Symbol → Nat → List Byte → List Byte → Prop
  | .value, n, text, rest => ∀ stack, Expects stack → stack.length + n ≤ depth →
      Finishes ⟨.ok, depth, stack⟩ rest → Finishes ⟨.va, depth, stack⟩ text
  | .container, n, text, rest => ∀ stack state, state = .go ∨ state = .va → stack.length + n ≤ depth →
      Finishes ⟨.ok, depth, stack⟩ rest → Finishes ⟨state, depth, stack⟩ text
  | .elements, n, text, rest => ∀ stack, stack.length + 1 + n ≤ depth →
      Finishes ⟨.ok, depth, stack⟩ rest → Finishes ⟨.va, depth, .array :: stack⟩ text
  | .member, n, text, rest => ∀ stack, stack.length + 1 + n ≤ depth →
      Finishes ⟨.ok, depth, .object :: stack⟩ rest → Finishes ⟨.ke, depth, .key :: stack⟩ text
  | .members, n, text, rest => ∀ stack, stack.length + 1 + n ≤ depth →
      Finishes ⟨.ok, depth, stack⟩ rest → Finishes ⟨.ke, depth, .key :: stack⟩ text

theorem entry_bracket (before : state = .go ∨ state = .va) : entry state 0x5b = .openArray := by
  rcases before with rfl | rfl <;> rfl

theorem entry_brace (before : state = .go ∨ state = .va) : entry state 0x7b = .openObject := by
  rcases before with rfl | rfl <;> rfl

theorem digit_va (c : Byte) : isDigitByte c = true → c ≠ 0x30 → entry .va c = .enter .int := by
  simp only [entry, ne_eq, is_zero, (ofClass c).digit]
  rcases charClass c with _ | cls
  · decide
  · cases cls <;> decide

theorem number_complete (isOpen : Open stack) (number : CheckerNumber text rest)
    (ends : Finishes ⟨.ok, depth, stack⟩ rest) : Finishes ⟨.va, depth, stack⟩ text := by
  cases number with
  | positive number => exact unsigned_complete isOpen rfl digit_va number ends
  | negative number =>
    refine (finishes_enter rfl).mpr (unsigned_complete isOpen rfl ?_ number ends)
    intro c digit positive
    rw [entry_mi, if_neg positive, if_pos digit]

theorem complete {symbol : Symbol} {n : Nat} (derives : Derives CheckerNumber symbol n text rest) :
    Complete depth symbol n text rest := by
  induction derives with
  | string chars =>
    intro stack expects _ ends
    exact (finishes_enter rfl).mpr (string_complete chars ⟨.ok, expects.afterQuote, ends⟩)
  | number number =>
    intro stack expects _ ends
    exact number_complete expects.isOpen number ends
  | trueLiteral rest =>
    intro stack _ _ ends
    exact (finishes_enter rfl).mpr (finishes_t1.mpr ⟨rest, rfl, ends⟩)
  | falseLiteral rest =>
    intro stack _ _ ends
    exact (finishes_enter rfl).mpr (finishes_f1.mpr ⟨rest, rfl, ends⟩)
  | nullLiteral rest =>
    intro stack _ _ ends
    exact (finishes_enter rfl).mpr (finishes_n1.mpr ⟨rest, rfl, ends⟩)
  | nested _ ih =>
    intro stack _ room ends
    exact ih stack .va (Or.inr rfl) room ends
  | emptyArray close =>
    intro stack state before room ends
    exact (finishes_openArray (entry_bracket before)).mpr ⟨by omega, finishes_ar.mpr (Or.inl ⟨_, close, ends⟩)⟩
  | array _ ih =>
    intro stack state before room ends
    exact (finishes_openArray (entry_bracket before)).mpr
      ⟨by omega, finishes_ar.mpr (Or.inr (ih stack (by omega) ends))⟩
  | emptyObject close =>
    intro stack state before room ends
    exact (finishes_openObject (entry_brace before)).mpr ⟨by omega, finishes_ob.mpr (Or.inl ⟨_, close, ends⟩)⟩
  | object _ ih =>
    intro stack state before room ends
    exact (finishes_openObject (entry_brace before)).mpr
      ⟨by omega, finishes_ob.mpr (Or.inr (ih stack (by omega) ends))⟩
  | lastElement blanks _ close ih =>
    intro stack room ends
    have behind := finishes_ok_array.mpr (Or.inl ⟨_, close, ends⟩)
    exact (finishes_many blank_va blanks).mpr (ih (.array :: stack) ⟨stack, Or.inl rfl⟩ room behind)
  | element blanks _ comma _ ihValue ih =>
    intro stack room ends
    have behind := finishes_ok_array.mpr (Or.inr ⟨_, comma, ih stack room ends⟩)
    exact (finishes_many blank_va blanks).mpr (ihValue (.array :: stack) ⟨stack, Or.inl rfl⟩ room behind)
  | member quote name colon blanks _ ih =>
    intro stack room ends
    have value := (finishes_many blank_va blanks).mpr (ih (.object :: stack) ⟨stack, Or.inr rfl⟩ room ends)
    have behindName := finishes_co.mpr ⟨_, colon, by omega, value⟩
    exact finishes_ke.mpr ⟨_, quote, string_complete name ⟨.co, rfl, behindName⟩⟩
  | lastMember _ close ih =>
    intro stack room ends
    exact ih stack room (finishes_ok_object.mpr (Or.inl ⟨_, close, ends⟩))
  | members _ comma _ ihMember ih =>
    intro stack room ends
    exact ihMember stack room (finishes_ok_object.mpr (Or.inr ⟨_, comma, by omega, ih stack room ends⟩))

/-- From the first state the checker finishes at the texts of the grammar only. -/
theorem finishes_go (room : 0 < depth) :
    Finishes ⟨.go, depth, [.done]⟩ text ↔ IsText CheckerNumber (depth - 1) text := by
  constructor
  · intro finishes
    obtain ⟨c, rest, other, blanks, finishes⟩ := finishes_blanks blank_go (not_finishes_nil (by simp)) finishes
    have row := entry_go c
    rw [if_neg (by simp [other])] at row
    split_ifs at row with brace bracket
    · obtain ⟨room, inside⟩ := (finishes_openObject row).mp finishes
      obtain ⟨last, derives, ends⟩ := object_sound (all_sound depth rest).2.2 room inside
      exact ⟨c :: rest, last, blanks, brace ▸ derives, finishes_ok_done.mp ends⟩
    · obtain ⟨room, inside⟩ := (finishes_openArray row).mp finishes
      obtain ⟨last, derives, ends⟩ := array_sound (all_sound depth rest).2.1 room inside
      exact ⟨c :: rest, last, blanks, bracket ▸ derives, finishes_ok_done.mp ends⟩
    · exact absurd finishes (finishes_bad row)
  · rintro ⟨a, b, blanks, derives, ends⟩
    have bound : [CheckerMode.done].length + (depth - 1) ≤ depth := by
      simp only [List.length_cons, List.length_nil]
      omega
    exact (finishes_many blank_go blanks).mpr
      (complete derives [.done] .go (Or.inl rfl) bound (finishes_ok_done.mpr ends))

end JsonChecker

theorem jsonCheckerFunction_eq_zero {data : List Byte} :
    jsonCheckerFunction data = 0 ↔ (JsonChecker.new 20).Finishes (cString data) := by
  unfold jsonCheckerFunction JsonChecker.Finishes
  cases (cString data).foldlM JsonChecker.char (JsonChecker.new 20) with
  | none => simp
  | some jc => by_cases done : jc.done = true <;> simp [done]

/-- The checker before the parser decides a grammar: JSON texts that are an array or an
object nested at most 19 deep, with the numbers of `CheckerNumber`. -/
theorem checker_decides_grammar (data : List Byte) :
    jsonCheckerFunction data = 0 ↔ IsText CheckerNumber 19 (cString data) :=
  jsonCheckerFunction_eq_zero.trans (JsonChecker.finishes_go (by decide : 0 < 20))

end JsonRpcTcp
