import JsonRpcTcp.ClientFraming
import JsonRpcTcp.JsonChecker
import JsonRpcTcp.Lib.JsonText
import JsonRpcTcp.Lib.Trim

namespace JsonRpcTcp
open Framer FramerCall
open JsonText (isBlank)

theorem blank_separator {c : Byte} (space : isBlank c = true) : isSeparator c = true := by
  simp only [isBlank, Bool.or_eq_true, beq_iff_eq] at space
  rcases space with ((same | same) | same) | same <;> subst same <;> rfl

/-- The class of a byte tells all that the framer looks at. -/
structure CharClass.Describes (cls : CharClass) (c : Byte) : Prop where
  quote : isQuote c = decide (cls = .quote)
  backslash : isBackslash c = decide (cls = .backs)
  opening : isOpening c = decide (cls = .lcurb ∨ cls = .lsqrb)
  closing : isClosing c = decide (cls = .rcurb ∨ cls = .rsqrb)
  space : isBlank c = decide (cls = .space ∨ cls = .white)

theorem charClass_describes {c : Byte} {cls : CharClass} (known : charClass c = some cls) : cls.Describes c := by
  have all : ∀ n : Fin 256, ∀ cls ∈ charClass (UInt8.ofNat n), isQuote (UInt8.ofNat n) = decide (cls = .quote) ∧
      isBackslash (UInt8.ofNat n) = decide (cls = .backs) ∧
      isOpening (UInt8.ofNat n) = decide (cls = .lcurb ∨ cls = .lsqrb) ∧
      isClosing (UInt8.ofNat n) = decide (cls = .rcurb ∨ cls = .rsqrb) ∧
      isBlank (UInt8.ofNat n) = decide (cls = .space ∨ cls = .white) := by decide +kernel
  have here := all ⟨c.toNat, c.toNat_lt⟩ cls
  rw [UInt8.ofNat_toNat] at here
  obtain ⟨quote, backslash, opening, closing, space⟩ := here known
  exact ⟨quote, backslash, opening, closing, space⟩

namespace CheckerState

/-- Inside a string. -/
def inString : CheckerState → Bool
  | .st | .es | .u1 | .u2 | .u3 | .u4 => true
  | _ => false

/-- After a backslash. -/
def escape : CheckerState → Bool
  | .es => true
  | _ => false

end CheckerState

/-- What a byte of a class does to the depth counter: the change of the depth, and
whether a string and an escape are open afterwards. -/
def CharClass.effect (cls : CharClass) (inString escape : Bool) : Int × Bool × Bool :=
  if inString then
    if escape then (0, true, false)
    else if cls = .backs then (0, true, true)
    else if cls = .quote then (0, false, escape)
    else (0, true, escape)
  else if cls = .quote then (0, true, escape)
  else if cls = .lcurb ∨ cls = .lsqrb then (1, false, escape)
  else if cls = .rcurb ∨ cls = .rsqrb then (-1, false, escape)
  else (0, false, escape)

/-- The same of an entry of the table. -/
def CheckerMove.effect : CheckerMove → Option (Int × Bool × Bool)
  | .enter state => some (0, state.inString, state.escape)
  | .colon | .comma | .quote => some (0, false, false)
  | .openArray | .openObject => some (1, false, false)
  | .closeArray | .closeObject | .closeEmpty => some (-1, false, false)
  | .bad => none

theorem BracketDepth.read_effect {c : Byte} {cls : CharClass} (describes : cls.Describes c) (b : BracketDepth) :
    b.read c = { depth := b.depth + (cls.effect b.inString b.escape).1
                 inString := (cls.effect b.inString b.escape).2.1
                 escape := (cls.effect b.inString b.escape).2.2 } := by
  obtain ⟨depth, inString, escape⟩ := b
  unfold read CharClass.effect
  simp only [describes.quote, describes.backslash, describes.opening, describes.closing, decide_eq_true_eq]
  split_ifs <;> simp_all
  all_goals rfl

/-- The table never disagrees with the depth counter: every entry that is not a
rejection does to strings and depth what the framer does at such a byte. -/
theorem stateTransition_effect (state : CheckerState) (cls : CharClass) {effect : Int × Bool × Bool}
    (goes : (stateTransition state cls).effect = some effect) : cls.effect state.inString state.escape = effect := by
  have all : ∀ given ∈ (stateTransition state cls).effect, cls.effect state.inString state.escape = given := by
    cases state <;> cases cls <;> decide
  exact all effect goes

/-- What an accepted byte does to the stack of the checker. -/
inductive StackShift : List CheckerMode → List CheckerMode → Int → Prop
  | same (stack : List CheckerMode) : StackShift stack stack 0
  | turned {mode mode' : CheckerMode} (open_ : mode ≠ .done) (open_' : mode' ≠ .done) (rest : List CheckerMode) :
      StackShift (mode :: rest) (mode' :: rest) 0
  | pushed {mode : CheckerMode} (open_ : mode ≠ .done) (stack : List CheckerMode) : StackShift stack (mode :: stack) 1
  | popped {mode : CheckerMode} (open_ : mode ≠ .done) (rest : List CheckerMode) : StackShift (mode :: rest) rest (-1)

namespace JsonChecker

theorem push_eq_some {jc pushed : JsonChecker} {mode : CheckerMode} (push : jc.push mode = some pushed) :
    pushed = { jc with stack := mode :: jc.stack } := by
  unfold JsonChecker.push at push
  split_ifs at push
  exact (Option.some.inj push).symm

theorem pop_eq_some {jc popped : JsonChecker} {mode : CheckerMode} (pop : jc.pop mode = some popped) :
    ∃ rest, jc.stack = mode :: rest ∧ popped = { jc with stack := rest } := by
  unfold JsonChecker.pop at pop
  split at pop
  case h_1 => cases pop
  case h_2 top rest stack =>
    split_ifs at pop with same
    subst same
    exact ⟨rest, stack, (Option.some.inj pop).symm⟩

/-- An accepted byte: what its entry of the table does, and what becomes of the
state and of the stack. -/
structure Accepts (jc : JsonChecker) (cls : CharClass) (effect : Int × Bool × Bool) (read : JsonChecker) : Prop where
  entry : (stateTransition jc.state cls).effect = some effect
  inString : read.state.inString = effect.2.1
  escape : read.state.escape = effect.2.2
  stack : StackShift jc.stack read.stack effect.1
  enters : ∀ state, stateTransition jc.state cls = .enter state → read = jc.enter state
  closes : effect.1 = -1 → read.state = .ok
  comma : stateTransition jc.state cls = .comma → jc.stack.head? ≠ some .done

/-- An entry that opens a bracket. -/
theorem accepts_push {jc pushed : JsonChecker} {cls : CharClass} {mode : CheckerMode} {state : CheckerState}
    (entry : (stateTransition jc.state cls).effect = some (1, false, false)) (open_ : mode ≠ .done)
    (outside : state.inString = false ∧ state.escape = false) (push : jc.push mode = some pushed) :
    jc.Accepts cls (1, false, false) (pushed.enter state) where
  entry := entry
  inString := outside.1
  escape := outside.2
  stack := by
    rw [push_eq_some push]
    exact .pushed open_ jc.stack
  enters := by
    intro other same
    rw [same] at entry
    cases entry
  closes := fun impossible => by cases impossible
  comma := by
    intro same
    rw [same] at entry
    cases entry

/-- An entry that closes a bracket. -/
theorem accepts_pop {jc popped : JsonChecker} {cls : CharClass} {mode : CheckerMode}
    (entry : (stateTransition jc.state cls).effect = some (-1, false, false)) (open_ : mode ≠ .done)
    (pop : jc.pop mode = some popped) : jc.Accepts cls (-1, false, false) (popped.enter .ok) where
  entry := entry
  inString := rfl
  escape := rfl
  stack := by
    obtain ⟨rest, stack, rfl⟩ := pop_eq_some pop
    rw [stack]
    exact .popped open_ rest
  enters := by
    intro other same
    rw [same] at entry
    cases entry
  closes := fun _ => rfl
  comma := by
    intro same
    rw [same] at entry
    cases entry

/-- An entry between two parts of an object or array, which may turn its top mode. -/
theorem accepts_turn {jc read : JsonChecker} {cls : CharClass}
    (entry : (stateTransition jc.state cls).effect = some (0, false, false))
    (fixed : ∀ state, stateTransition jc.state cls ≠ .enter state)
    (outside : read.state.inString = false ∧ read.state.escape = false) (stack : StackShift jc.stack read.stack 0)
    (comma : stateTransition jc.state cls = .comma → jc.stack.head? ≠ some .done) :
    jc.Accepts cls (0, false, false) read where
  entry := entry
  inString := outside.1
  escape := outside.2
  stack := stack
  enters := fun state same => absurd same (fixed state)
  closes := fun impossible => by cases impossible
  comma := comma

theorem char_accepts {jc read : JsonChecker} {c : Byte} (accepted : jc.char c = some read) :
    ∃ cls effect, charClass c = some cls ∧ jc.Accepts cls effect read := by
  obtain ⟨cls, known, moves⟩ := Option.bind_eq_some_iff.mp accepted
  have entry : ∀ move effect, stateTransition jc.state cls = move → move.effect = some effect →
      (stateTransition jc.state cls).effect = some effect := fun move effect same goes => by rw [same, goes]
  cases move : stateTransition jc.state cls with
  | enter state =>
    rw [move] at moves
    cases Option.some.inj moves
    refine ⟨cls, (0, state.inString, state.escape), known, entry _ _ move rfl, rfl, rfl, .same _, ?_, ?_, ?_⟩
    · intro other same
      rw [CheckerMove.enter.inj (move.symm.trans same)]
    · exact fun impossible => by cases impossible
    · exact fun same => by cases move.symm.trans same
  | bad =>
    rw [move] at moves
    cases moves
  | colon =>
    rw [move] at moves
    obtain ⟨popped, pop, rest⟩ := Option.bind_eq_some_iff.mp moves
    obtain ⟨pushed, push, last⟩ := Option.bind_eq_some_iff.mp rest
    cases Option.some.inj last
    obtain ⟨below, stack, rfl⟩ := pop_eq_some pop
    refine ⟨cls, (0, false, false), known, accepts_turn (entry _ _ move rfl) ?_ ⟨rfl, rfl⟩ ?_ ?_⟩
    · exact fun state same => by cases move.symm.trans same
    · rw [push_eq_some push, stack]
      exact .turned (by decide) (by decide) below
    · exact fun same => by cases move.symm.trans same
  | comma =>
    rw [move] at moves
    dsimp only at moves
    split at moves
    case h_1 below stack =>
      obtain ⟨popped, pop, rest⟩ := Option.bind_eq_some_iff.mp moves
      obtain ⟨pushed, push, last⟩ := Option.bind_eq_some_iff.mp rest
      cases Option.some.inj last
      obtain ⟨below', stack', rfl⟩ := pop_eq_some pop
      refine ⟨cls, (0, false, false), known, accepts_turn (entry _ _ move rfl) ?_ ⟨rfl, rfl⟩ ?_ ?_⟩
      · exact fun state same => by cases move.symm.trans same
      · rw [push_eq_some push, stack']
        exact .turned (by decide) (by decide) below'
      · rw [stack]
        exact fun _ same => by cases same
    case h_2 below stack =>
      cases Option.some.inj moves
      refine ⟨cls, (0, false, false), known, accepts_turn (entry _ _ move rfl) ?_ ⟨rfl, rfl⟩ (.same _) ?_⟩
      · exact fun state same => by cases move.symm.trans same
      · rw [stack]
        exact fun _ same => by cases same
    case h_3 => cases moves
  | quote =>
    rw [move] at moves
    have turn : ∀ state : CheckerState, state.inString = false ∧ state.escape = false → read = jc.enter state →
        ∃ cls effect, charClass c = some cls ∧ jc.Accepts cls effect read := by
      rintro state outside rfl
      refine ⟨cls, (0, false, false), known, accepts_turn (entry _ _ move rfl) ?_ outside (.same _) ?_⟩
      · exact fun other same => by cases move.symm.trans same
      · exact fun same => by cases move.symm.trans same
    dsimp only at moves
    split at moves
    case h_1 => exact turn .co ⟨rfl, rfl⟩ (Option.some.inj moves).symm
    case h_2 => exact turn .ok ⟨rfl, rfl⟩ (Option.some.inj moves).symm
    case h_3 => exact turn .ok ⟨rfl, rfl⟩ (Option.some.inj moves).symm
    case h_4 => cases moves
  | openArray =>
    rw [move] at moves
    obtain ⟨pushed, push, last⟩ := Option.bind_eq_some_iff.mp moves
    cases Option.some.inj last
    exact ⟨cls, _, known, accepts_push (entry _ _ move rfl) (by decide) ⟨rfl, rfl⟩ push⟩
  | openObject =>
    rw [move] at moves
    obtain ⟨pushed, push, last⟩ := Option.bind_eq_some_iff.mp moves
    cases Option.some.inj last
    exact ⟨cls, _, known, accepts_push (entry _ _ move rfl) (by decide) ⟨rfl, rfl⟩ push⟩
  | closeArray | closeObject | closeEmpty =>
    rw [move] at moves
    obtain ⟨popped, pop, last⟩ := Option.bind_eq_some_iff.mp moves
    cases Option.some.inj last
    exact ⟨cls, _, known, accepts_pop (entry _ _ move rfl) (by decide) pop⟩

/-- The checker and the depth counter have read the same: `modes` are the open
brackets, above the mode that `new_JSON_checker` pushes. -/
structure Tracks (jc : JsonChecker) (b : BracketDepth) (modes : List CheckerMode) : Prop where
  stack : jc.stack = modes ++ [.done]
  closed : .done ∉ modes
  depth : b.depth = modes.length
  inString : b.inString = jc.state.inString
  escape : b.escape = jc.state.escape

theorem open_top {mode : CheckerMode} {modes rest : List CheckerMode} (open_ : mode ≠ .done)
    (stack : mode :: rest = modes ++ [.done]) : ∃ below, modes = mode :: below ∧ rest = below ++ [.done] := by
  cases modes with
  | nil => exact absurd (List.cons.inj stack).1 open_
  | cons top below =>
    obtain ⟨same, tail⟩ := List.cons.inj stack
    exact ⟨below, by rw [same], tail⟩

/-- One accepted byte keeps them together, and the last bracket leaves the checker in
the state `OK`. -/
theorem Tracks.char {jc read : JsonChecker} {b : BracketDepth} {modes : List CheckerMode} {c : Byte}
    (tracks : jc.Tracks b modes) (accepted : jc.char c = some read) :
    ∃ modes', read.Tracks (b.read c) modes' ∧ (modes ≠ [] → modes' = [] → read.state = .ok) := by
  obtain ⟨cls, effect, known, accepts⟩ := char_accepts accepted
  have counter := BracketDepth.read_effect (charClass_describes known) b
  rw [tracks.inString, tracks.escape, stateTransition_effect jc.state cls accepts.entry] at counter
  rw [counter]
  have inString := accepts.inString.symm
  have escape := accepts.escape.symm
  have closes := accepts.closes
  have shift := accepts.stack
  obtain ⟨change, flags⟩ := effect
  dsimp only at closes shift ⊢
  generalize before : jc.stack = stack at shift
  generalize after : read.stack = stack' at shift
  rw [tracks.stack] at before
  have depth := tracks.depth
  cases shift with
  | same =>
    exact ⟨modes, ⟨after.trans before.symm, tracks.closed, by dsimp only; omega, inString, escape⟩,
      fun inside none => absurd none inside⟩
  | @turned mode mode' open_ open_' rest =>
    obtain ⟨below, rfl, rfl⟩ := open_top open_ before.symm
    refine ⟨mode' :: below, ⟨after, ?_, ?_, inString, escape⟩, fun _ none => by cases none⟩
    · have closed := tracks.closed
      simp only [List.mem_cons, not_or] at closed ⊢
      exact ⟨open_'.symm, closed.2⟩
    · simp only [List.length_cons] at depth ⊢
      omega
  | @pushed mode open_ =>
    refine ⟨mode :: modes, ⟨by rw [after, ← before]; rfl, ?_, ?_, inString, escape⟩, fun _ none => by cases none⟩
    · have closed := tracks.closed
      simp only [List.mem_cons, not_or]
      exact ⟨open_.symm, closed⟩
    · simp only [List.length_cons]
      omega
  | @popped mode open_ rest =>
    obtain ⟨below, rfl, rfl⟩ := open_top open_ before.symm
    refine ⟨below, ⟨after, ?_, ?_, inString, escape⟩, fun _ _ => closes rfl⟩
    · exact fun member => tracks.closed (List.mem_cons_of_mem _ member)
    · simp only [List.length_cons] at depth ⊢
      omega

/-- No byte of the message was read yet. -/
structure Before (jc : JsonChecker) : Prop where
  state : jc.state = .go
  stack : jc.stack = [.done]

/-- The message is complete. -/
structure After (jc : JsonChecker) : Prop where
  state : jc.state = .ok
  stack : jc.stack = [.done]

theorem new_before : (JsonChecker.new 20).Before := ⟨rfl, rfl⟩

theorem Before.tracks {jc : JsonChecker} (before : jc.Before) : jc.Tracks .zero [] where
  stack := before.stack
  closed := List.not_mem_nil
  depth := rfl
  inString := by rw [before.state]; rfl
  escape := by rw [before.state]; rfl

/-- Before the message there is only whitespace. -/
theorem Before.char {jc read : JsonChecker} {c : Byte} (before : jc.Before) (accepted : jc.char c = some read) :
    isBlank c = true ∧ read = jc ∨ isOpening c = true := by
  obtain ⟨cls, effect, known, accepts⟩ := char_accepts accepted
  have describes := charClass_describes known
  have entry := accepts.entry
  have enters := accepts.enters .go
  rw [before.state] at entry enters
  by_cases space : cls = .space ∨ cls = .white
  · left
    refine ⟨by rw [describes.space]; exact decide_eq_true space, ?_⟩
    rw [enters (by rcases space with rfl | rfl <;> rfl), enter, ← before.state]
  · right
    rw [describes.opening]
    refine decide_eq_true ?_
    cases cls <;>
      first
      | exact .inl rfl
      | exact .inr rfl
      | exact absurd (.inl rfl) space
      | exact absurd (.inr rfl) space
      | cases entry

/-- After the message there is only whitespace. -/
theorem After.char {jc read : JsonChecker} {c : Byte} (after : jc.After) (accepted : jc.char c = some read) :
    isBlank c = true ∧ read = jc := by
  obtain ⟨cls, effect, known, accepts⟩ := char_accepts accepted
  have describes := charClass_describes known
  have entry := accepts.entry
  have enters := accepts.enters .ok
  have comma := accepts.comma
  have shift := accepts.stack
  rw [after.state] at entry enters comma
  rw [after.stack] at comma shift
  by_cases space : cls = .space ∨ cls = .white
  · refine ⟨by rw [describes.space]; exact decide_eq_true space, ?_⟩
    rw [enters (by rcases space with rfl | rfl <;> rfl), enter, ← after.state]
  · -- a closing bracket needs an open one, and so does a comma
    exfalso
    have unopened : effect.1 ≠ -1 := by
      intro closes
      rw [closes] at shift
      generalize read.stack = stack at shift
      cases shift with
      | popped open_ => exact open_ rfl
    cases cls <;>
      first
      | exact space (.inl rfl)
      | exact space (.inr rfl)
      | exact comma rfl rfl
      | (cases Option.some.inj entry; exact unopened rfl)
      | cases entry

theorem After.run {jc last : JsonChecker} (after : jc.After) {text : List Byte}
    (accepted : text.foldlM JsonChecker.char jc = some last) : ∀ c ∈ text, isBlank c = true := by
  induction text with
  | nil => simp
  | cons c rest ih =>
    obtain ⟨read, first, later⟩ := Option.bind_eq_some_iff.mp accepted
    obtain ⟨space, rfl⟩ := after.char first
    exact List.forall_mem_cons.mpr ⟨space, ih later⟩

theorem done_iff {jc : JsonChecker} : jc.done = true ↔ jc.state = .ok ∧ jc.stack.head? = some .done := by
  unfold JsonChecker.done pop
  cases jc.stack with
  | nil => simp
  | cons top rest =>
    by_cases same : top = .done <;> simp [same]

/-- From inside a message to the end of an accepted text: the message ends where the
depth first is zero, and whitespace follows. -/
theorem Tracks.run {jc last : JsonChecker} {b : BracketDepth} {modes : List CheckerMode} (tracks : jc.Tracks b modes)
    (inside : modes ≠ []) {text : List Byte} (accepted : text.foldlM JsonChecker.char jc = some last)
    (ends : last.done = true) :
    ∃ rest trailing, text = rest ++ trailing ∧ b.FirstZero rest ∧ ∀ c ∈ trailing, isBlank c = true := by
  induction text generalizing jc b modes with
  | nil =>
    cases Option.some.inj accepted
    have top := (done_iff.mp ends).2
    rw [tracks.stack] at top
    cases modes with
    | nil => exact absurd rfl inside
    | cons mode below =>
      cases top
      exact absurd List.mem_cons_self tracks.closed
  | cons c text ih =>
    obtain ⟨read, first, later⟩ := Option.bind_eq_some_iff.mp accepted
    obtain ⟨modes', tracks', closes⟩ := tracks.char first
    have positive : b.depth ≠ 0 := by
      have depth := tracks.depth
      have length := List.length_pos_iff.mpr inside
      omega
    by_cases closed : modes' = []
    · have after : read.After := ⟨closes inside closed, by rw [tracks'.stack, closed]; rfl⟩
      have zero : (b.read c).depth = 0 := by rw [tracks'.depth, closed]; rfl
      refine ⟨[c], text, rfl, ⟨zero, fun left right whole nonempty => ?_⟩, after.run later⟩
      cases left with
      | nil => exact positive
      | cons d left =>
        obtain ⟨_, none⟩ := List.cons.inj whole
        exact absurd (List.append_eq_nil_iff.mp none).2 nonempty
    · obtain ⟨rest, trailing, rfl, ⟨zero, before⟩, spaces⟩ := ih tracks' closed later
      refine ⟨c :: rest, trailing, rfl, ⟨zero, fun left right whole nonempty => ?_⟩, spaces⟩
      cases left with
      | nil => exact positive
      | cons d left =>
        obtain ⟨rfl, tail⟩ := List.cons.inj whole
        exact before left right tail nonempty

/-- An accepted text is one message between whitespace. -/
theorem Before.run {jc last : JsonChecker} (before : jc.Before) {text : List Byte}
    (accepted : text.foldlM JsonChecker.char jc = some last) (ends : last.done = true) :
    ∃ leading message trailing, text = leading ++ message ++ trailing ∧ IsMessage message ∧
      (∀ c ∈ leading, isBlank c = true) ∧ ∀ c ∈ trailing, isBlank c = true := by
  induction text with
  | nil =>
    cases Option.some.inj accepted
    have state := (done_iff.mp ends).1
    cases before.state.symm.trans state
  | cons c text ih =>
    obtain ⟨read, first, later⟩ := Option.bind_eq_some_iff.mp accepted
    rcases before.char first with ⟨space, rfl⟩ | opening
    · obtain ⟨leading, message, trailing, rfl, whole, spaces, spaces'⟩ := ih later
      exact ⟨c :: leading, message, trailing, rfl, whole, List.forall_mem_cons.mpr ⟨space, spaces⟩, spaces'⟩
    · obtain ⟨modes, tracks, _⟩ := before.tracks.char first
      have opened : BracketDepth.zero.read c = { depth := 1, inString := false, escape := false } := by
        simp only [BracketDepth.read, BracketDepth.zero, MessageScan.opening_not_quote opening, opening,
          Bool.false_eq_true, if_true, if_false]
        rfl
      have inside : modes ≠ [] := by
        intro none
        have depth := tracks.depth
        rw [opened, none] at depth
        cases depth
      obtain ⟨rest, trailing, rfl, ⟨zero, before⟩, spaces⟩ := tracks.run inside later ends
      refine ⟨[], c :: rest, trailing, rfl, ⟨⟨c, rest, rfl, opening⟩, zero, fun left right whole nonempty more => ?_⟩,
        fun _ none => absurd none List.not_mem_nil, spaces⟩
      cases left with
      | nil => exact absurd rfl nonempty
      | cons d left =>
        obtain ⟨rfl, tail⟩ := List.cons.inj whole
        exact before left right tail more

end JsonChecker

/-- What `json_checker_function` accepts is one message between whitespace. -/
theorem jsonCheckerFunction_accepts {data : List Byte} (accepted : jsonCheckerFunction data = 0) :
    ∃ leading message trailing, cString data = leading ++ message ++ trailing ∧ IsMessage message ∧
      (∀ c ∈ leading, isBlank c = true) ∧ ∀ c ∈ trailing, isBlank c = true := by
  unfold jsonCheckerFunction at accepted
  split at accepted
  case h_1 => cases accepted
  case h_2 last run =>
    split_ifs at accepted with ends
    exact JsonChecker.new_before.run run ends

namespace MessageScan

/-- The scanner stands between two messages, or in a part of one whose depth has not
been zero since its opening bracket. -/
inductive Collects (s : MessageScan) : Prop
  | outside (between : s.Outside)
  | inside (tracks : s.Tracks (BracketDepth.after s.message)) (positive : 0 < (BracketDepth.after s.message).depth)
      (opens : ∃ c rest, s.message = c :: rest ∧ isOpening c = true)
      (above : ∀ left right, left ++ right = s.message → left ≠ [] → (BracketDepth.after left).depth ≠ 0)

/-- The parts of a text with one more byte are the parts without it, and itself. -/
theorem prefix_concat {m left right : List Byte} {c : Byte} (whole : left ++ right = m ++ [c]) :
    (∃ right', left ++ right' = m ∧ right = right' ++ [c]) ∨ left = m ++ [c] ∧ right = [] := by
  rcases List.eq_nil_or_concat right with rfl | ⟨right', d, rfl⟩
  · exact .inr ⟨by rw [← whole, List.append_nil], rfl⟩
  · rw [List.concat_eq_append, ← List.append_assoc] at whole
    obtain ⟨same, last⟩ := List.append_inj' whole rfl
    exact .inl ⟨right', same, by rw [List.concat_eq_append, last]⟩

theorem Collects.step {maxMsg : Nat} {s t : MessageScan} {c : Byte} {out : List (List Byte)} (collects : s.Collects)
    (reads : step maxMsg s c = some (t, out)) : t.Collects ∧ ∀ message ∈ out, IsMessage message := by
  cases collects with
  | outside between =>
    unfold MessageScan.step at reads
    rw [if_pos between.1] at reads
    split_ifs at reads with separator closed
    · cases reads
      exact ⟨.outside between, by simp⟩
    · cases reads
      have opening : isOpening c = true := by simpa using closed
      have opened := after_opening opening
      refine ⟨.inside ?_ ?_ ⟨c, [], rfl, opening⟩ ?_, by simp⟩
      · rw [opened]
        exact ⟨rfl, rfl, rfl⟩
      · rw [opened]
        exact Int.one_pos
      · intro left right whole nonempty
        rcases prefix_concat (m := []) whole with ⟨_, none, _⟩ | ⟨rfl, _⟩
        · exact absurd (List.append_eq_nil_iff.mp none).1 nonempty
        · rw [List.nil_append, opened]
          exact Int.one_ne_zero
  | inside tracks positive opens above =>
    have nonzero : s.depth ≠ 0 := by
      have depth := tracks.depth
      omega
    by_cases short : s.message.length + 1 ≤ maxMsg
    · have longer : BracketDepth.after (s.message ++ [c]) = (BracketDepth.after s.message).read c :=
        BracketDepth.after_append _ _
      have opens' : ∃ d rest, s.message ++ [c] = d :: rest ∧ isOpening d = true := by
        obtain ⟨d, rest, message, opening⟩ := opens
        exact ⟨d, rest ++ [c], by rw [message]; rfl, opening⟩
      rcases step_tracks tracks positive short c with ⟨u, emits, between, zero⟩ | ⟨u, goes, next, message, inside⟩
      · cases reads.symm.trans emits
        refine ⟨.outside between, fun text member => ?_⟩
        rw [List.mem_singleton.mp member]
        refine ⟨opens', by rw [longer]; exact zero, fun left right whole nonempty more => ?_⟩
        rcases prefix_concat whole with ⟨right', shorter, _⟩ | ⟨_, none⟩
        · exact above left right' shorter nonempty
        · exact absurd none more
      · cases reads.symm.trans goes
        refine ⟨.inside ?_ ?_ ?_ ?_, by simp⟩
        · rw [message, longer]
          exact next
        · rw [message, longer]
          exact inside
        · rw [message]
          exact opens'
        · rw [message]
          intro left right whole nonempty
          rcases prefix_concat whole with ⟨right', shorter, _⟩ | ⟨rfl, _⟩
          · exact above left right' shorter nonempty
          · rw [longer]
            exact (Int.ne_of_lt inside).symm
    · rw [step_long nonzero (by omega) c] at reads
      cases reads

/-- All that the framer ever delivers are messages. -/
theorem Collects.run {maxMsg : Nat} {s : MessageScan} (collects : s.Collects) (text : List Byte) :
    ∀ message ∈ ((transducer maxMsg).run s text).2, IsMessage message := by
  induction text generalizing s with
  | nil => simp
  | cons c rest ih =>
    cases reads : MessageScan.step maxMsg s c with
    | none =>
      rw [Transducer.run_cons_none (transducer maxMsg) reads]
      simp
    | some pair =>
      obtain ⟨t, out⟩ := pair
      obtain ⟨next, emitted⟩ := collects.step reads
      rw [Transducer.run_cons_some (transducer maxMsg) reads]
      intro message member
      rcases List.mem_append.mp member with now | later
      · exact emitted message now
      · exact ih next message later

end MessageScan

theorem BracketDepth.read_space {c : Byte} (space : isBlank c = true) (b : BracketDepth) :
    (b.read c).depth = b.depth := by
  have separator := blank_separator space
  cases outside : b.inString with
  | false => rw [read_separator separator outside]
  | true =>
    simp only [read, outside, if_true]
    split_ifs <;> rfl

theorem opening_not_space {c : Byte} (opening : isOpening c = true) : isBlank c = false := by
  by_contra space
  have separator := blank_separator (Bool.eq_true_of_not_eq_false space)
  rw [MessageScan.opening_not_separator opening] at separator
  cases separator

/-- Neither end of a message is whitespace. -/
theorem IsMessage.trimmed {message : List Byte} (whole : IsMessage message) : Trimmed isBlank message := by
  obtain ⟨c, rest, same, opening⟩ := whole.opens
  have solid := opening_not_space opening
  constructor
  case head =>
    rw [same]
    simpa using solid
  case last =>
    rcases List.eq_nil_or_concat message with none | ⟨front, d, shape⟩
    · rw [none]
      rfl
    · rw [List.concat_eq_append] at shape
      rw [shape, List.getLast?_concat, Option.all_some, Bool.not_eq_true']
      by_contra space
      have closes := Bool.eq_true_of_not_eq_false space
      by_cases single : front = []
      · rw [single, same] at shape
        rw [(List.cons.inj shape).1, closes] at solid
        cases solid
      · refine whole.first front [d] shape.symm single (List.cons_ne_nil _ _) ?_
        have balanced := whole.balanced
        rw [shape, BracketDepth.after_append, List.foldl_cons, List.foldl_nil,
          BracketDepth.read_space closes] at balanced
        exact balanced

/-- A whole message is not the beginning of another. -/
theorem IsMessage.eq_of_prefix {message longer : List Byte} (whole : IsMessage message) (whole' : IsMessage longer)
    (before : message <+: longer) : message = longer := by
  obtain ⟨rest, same⟩ := before
  obtain ⟨c, tail, shape, _⟩ := whole.opens
  by_cases none : rest = []
  · rw [← same, none, List.append_nil]
  · exact absurd whole.balanced (whole'.first message rest same (by rw [shape]; exact List.cons_ne_nil _ _) none)

open FramerCall in
/-- A text that the checker accepts is one message for the framer, however it is cut
into chunks. And a message that the framer delivers is only accepted by the checker
if its C string is the whole of it. -/
theorem checker_agrees_with_framer (maxMsg : Nat) (calls : List FramerCall) :
    let delivered := (performAll (Framer.new maxMsg) calls).1 ++ (performAll (Framer.new maxMsg) calls).2.ready
    let framer := (performAll (Framer.new maxMsg) calls).2
    ((0 : Byte) ∉ stream calls → (stream calls).length ≤ maxMsg → jsonCheckerFunction (stream calls) = 0 →
      delivered = [trim isBlank (stream calls)] ∧ framer.hasError = false ∧ framer.pendingBytes = 0) ∧
    (∀ message ∈ delivered, (0 : Byte) ∈ message → jsonCheckerFunction message = -1) := by
  intro delivered framer
  have represents := performAll_represents calls (represents_new maxMsg)
  rw [Transducer.resume_some, List.nil_append, List.nil_append] at represents
  obtain ⟨emitted, failed, pending⟩ := represents.observed
  constructor
  · intro noZero short accepted
    obtain ⟨leading, message, trailing, shape, whole, before, after⟩ := jsonCheckerFunction_accepts accepted
    rw [cString_of_no_zero noZero] at shape
    have fits : message.length ≤ maxMsg := by
      rw [shape] at short
      simp only [List.length_append] at short
      omega
    have outside : MessageScan.idle.Outside := ⟨rfl, rfl⟩
    obtain ⟨t, run, between⟩ := (MessageScan.run_message _ whole outside).1 fits
    have all : (MessageScan.transducer maxMsg).run MessageScan.idle (stream calls) = (some t, [message]) := by
      rw [shape, List.append_assoc, Transducer.run_append,
        MessageScan.run_separators _ leading outside fun c member => blank_separator (before c member),
        Transducer.resume_append, Transducer.resume_some, run, Transducer.resume_some,
        MessageScan.run_separators _ trailing between fun c member => blank_separator (after c member)]
      rfl
    rw [all] at emitted failed pending
    refine ⟨?_, failed, ?_⟩
    · rw [shape, trim_between whole.trimmed before after]
      exact emitted
    · exact (pending t rfl).trans (congrArg List.length between.2)
  · intro message member zero
    have whole : IsMessage message := by
      have idle : MessageScan.idle.Collects := .outside ⟨rfl, rfl⟩
      have sound : ∀ message ∈ ((MessageScan.transducer maxMsg).run MessageScan.idle (stream calls)).2,
          IsMessage message := idle.run (stream calls)
      exact sound message (emitted ▸ member)
    by_contra accepted
    have fine : jsonCheckerFunction message = 0 := by
      unfold jsonCheckerFunction at accepted ⊢
      split at accepted
      case h_1 => exact absurd rfl accepted
      case h_2 last run =>
        split_ifs at accepted ⊢ with ends
        · rfl
        · exact absurd rfl accepted
    obtain ⟨leading, part, trailing, shape, inner, before, _⟩ := jsonCheckerFunction_accepts fine
    obtain ⟨rest, cut⟩ : cString message <+: message := List.takeWhile_prefix _
    obtain ⟨c, tail, start, opening⟩ := whole.opens
    have bare : leading = [] := by
      cases leading with
      | nil => rfl
      | cons d leading =>
        rw [shape, start] at cut
        have space := before d List.mem_cons_self
        rw [(List.cons.inj cut).1, opening_not_space opening] at space
        cases space
    rw [bare, List.nil_append] at shape
    have same : part = message := by
      refine inner.eq_of_prefix whole ⟨trailing ++ rest, ?_⟩
      rw [← List.append_assoc, ← shape]
      exact cut
    have inside : (0 : Byte) ∈ cString message := by
      rw [shape, same]
      exact List.mem_append_left _ zero
    exact absurd (List.mem_takeWhile_imp inside) (by decide)

open FramerCall in
/-- An object between blanks in three chunks, and a message with a NUL in a string. -/
theorem checker_agrees_with_framer_chunks :
    (performAll (Framer.new 40) [.feed (ascii " \x7b\"a"), .feed (ascii "\\\"]\": [1,-2"), .feed (ascii ".5e3]\x7d\n")]).1 ++
      (performAll (Framer.new 40)
        [.feed (ascii " \x7b\"a"), .feed (ascii "\\\"]\": [1,-2"), .feed (ascii ".5e3]\x7d\n")]).2.ready =
      [ascii "\x7b\"a\\\"]\": [1,-2.5e3]\x7d"] ∧
    jsonCheckerFunction (ascii "[\"\x00\"]") = -1 := by
  have agrees := checker_agrees_with_framer 40
    [.feed (ascii " \x7b\"a"), .feed (ascii "\\\"]\": [1,-2"), .feed (ascii ".5e3]\x7d\n")]
  refine ⟨?_, (checker_agrees_with_framer 40 [.feed (ascii "[\"\x00\"]")]).2 _ (by decide +kernel) (by decide +kernel)⟩
  exact (agrees.1 (by decide +kernel) (by decide +kernel) (by decide +kernel)).1.trans (by decide +kernel)

end JsonRpcTcp
