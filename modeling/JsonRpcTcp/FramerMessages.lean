import JsonRpcTcp.FramerStream

namespace JsonRpcTcp
open Framer FramerCall

/-- Bracket depth of a text, counted outside strings. This is the meaning of a
message boundary, stated without the framer: depth may be any integer. -/
structure BracketDepth where
  depth : Int
  inString : Bool
  escape : Bool
  deriving DecidableEq, Repr

namespace BracketDepth

def zero : BracketDepth := { depth := 0, inString := false, escape := false }

def read (b : BracketDepth) (c : Byte) : BracketDepth :=
  if b.inString then
    if b.escape then { b with escape := false }
    else if isBackslash c then { b with escape := true }
    else if isQuote c then { b with inString := false }
    else b
  else if isQuote c then { b with inString := true }
  else if isOpening c then { b with depth := b.depth + 1 }
  else if isClosing c then { b with depth := b.depth - 1 }
  else b

def after (text : List Byte) : BracketDepth := text.foldl read zero

/-- The depth is zero after the whole text and after no shorter part of it. -/
def FirstZero (b : BracketDepth) (text : List Byte) : Prop :=
  (text.foldl read b).depth = 0 ∧
    ∀ left right, left ++ right = text → right ≠ [] → (left.foldl read b).depth ≠ 0

end BracketDepth

/-- A text that starts with an opening bracket and whose depth first returns
to zero at its last byte. -/
structure IsMessage (text : List Byte) : Prop where
  opens : ∃ c rest, text = c :: rest ∧ isOpening c = true
  balanced : (BracketDepth.after text).depth = 0
  first : ∀ left right, left ++ right = text → left ≠ [] → right ≠ [] →
    (BracketDepth.after left).depth ≠ 0

/-- A decidable form of `IsMessage`: the depth after every proper prefix. -/
def messageCheck : List Byte → Bool
  | [] => false
  | c :: rest => isOpening c && (BracketDepth.after (c :: rest)).depth == 0 &&
      (List.range rest.length).all fun n => (BracketDepth.after ((c :: rest).take (n + 1))).depth != 0

theorem isMessage_of_check {text : List Byte} (checked : messageCheck text = true) : IsMessage text := by
  cases text with
  | nil => exact absurd checked Bool.noConfusion
  | cons c rest =>
    simp only [messageCheck, Bool.and_eq_true, beq_iff_eq, List.all_eq_true, List.mem_range,
      bne_iff_ne] at checked
    obtain ⟨⟨opening, balanced⟩, inner⟩ := checked
    refine ⟨⟨c, rest, rfl, opening⟩, balanced, ?_⟩
    intro left right whole leftNonempty rightNonempty
    have leftLength := List.length_pos_iff.mpr leftNonempty
    have rightLength := List.length_pos_iff.mpr rightNonempty
    have total := congrArg List.length whole
    simp only [List.length_append, List.length_cons] at total
    have cut := inner (left.length - 1) (by omega)
    rwa [show left.length - 1 + 1 = left.length by omega, ← whole, List.take_left] at cut

/-- The scanner inside a message agrees with the bracket depth of its text. -/
structure MessageScan.Tracks (s : MessageScan) (b : BracketDepth) : Prop where
  depth : (s.depth : Int) = b.depth
  inString : s.inString = b.inString
  escape : s.escape = b.escape

namespace MessageScan

/-- Between two messages. -/
def Outside (s : MessageScan) : Prop := s.depth = 0 ∧ s.message = []

/-- A byte of a message that is still short enough: the message is emitted
exactly when the depth returns to zero. -/
theorem step_tracks {maxMsg : Nat} {s : MessageScan} {b : BracketDepth} (tracks : s.Tracks b)
    (positive : 0 < b.depth) (short : s.message.length + 1 ≤ maxMsg) (c : Byte) :
    (∃ t, step maxMsg s c = some (t, [s.message ++ [c]]) ∧ t.Outside ∧ (b.read c).depth = 0) ∨
      ∃ t, step maxMsg s c = some (t, []) ∧ t.Tracks (b.read c) ∧ t.message = s.message ++ [c] ∧
        0 < (b.read c).depth := by
  obtain ⟨depth, inString, escape⟩ := tracks
  have nonzero : s.depth ≠ 0 := by omega
  have fits : ¬s.message.length + 1 > maxMsg := Nat.not_lt.mpr short
  unfold step BracketDepth.read
  rw [if_neg nonzero, if_neg fits, ← inString, ← escape]
  by_cases closes : s.inString = false ∧ isQuote c = false ∧ isOpening c = false ∧
      isClosing c = true ∧ s.depth - 1 = 0
  · obtain ⟨noString, noQuote, noOpening, closing, last⟩ := closes
    left
    simp only [noString, noQuote, noOpening, closing, last, Bool.false_eq_true, if_false, if_true]
    refine ⟨_, rfl, ⟨rfl, rfl⟩, ?_⟩
    omega
  · right
    split_ifs <;>
      first
      | exact (closes ⟨by simp_all, by simp_all, by simp_all, by simp_all, by assumption⟩).elim
      | (refine ⟨_, rfl, ⟨?_, ?_, ?_⟩, rfl, ?_⟩ <;>
          first | assumption | rfl | (simp only; omega))

/-- A message that is too long is rejected before its last byte is read. -/
theorem step_long {maxMsg : Nat} {s : MessageScan} (nonzero : s.depth ≠ 0)
    (long : maxMsg < s.message.length + 1) (c : Byte) : step maxMsg s c = none := by
  unfold step
  rw [if_neg nonzero, if_pos long]

end MessageScan

theorem BracketDepth.FirstZero.tail {b : BracketDepth} {c : Byte} {rest : List Byte}
    (first : b.FirstZero (c :: rest)) : (b.read c).FirstZero rest := by
  refine ⟨first.1, ?_⟩
  intro left right whole nonempty
  exact first.2 (c :: left) right (by rw [List.cons_append, whole]) nonempty

theorem BracketDepth.FirstZero.nil_of_zero {b : BracketDepth} {rest : List Byte}
    (first : b.FirstZero rest) (zero : b.depth = 0) : rest = [] := by
  by_contra nonempty
  exact first.2 [] rest (List.nil_append rest) nonempty zero

namespace MessageScan

/-- The rest of a message, read from inside it: it is emitted whole when it is
short enough and rejected otherwise. -/
theorem run_message_rest (maxMsg : Nat) (rest : List Byte) {s : MessageScan} {b : BracketDepth}
    (tracks : s.Tracks b) (positive : 0 < b.depth) (first : b.FirstZero rest) :
    (s.message.length + rest.length ≤ maxMsg →
      ∃ t, (transducer maxMsg).run s rest = (some t, [s.message ++ rest]) ∧ t.Outside) ∧
    (maxMsg < s.message.length + rest.length → (transducer maxMsg).run s rest = (none, [])) := by
  induction rest generalizing s b with
  | nil =>
    have zero : b.depth = 0 := first.1
    omega
  | cons c rest ih =>
    by_cases short : s.message.length + 1 ≤ maxMsg
    · rcases step_tracks tracks positive short c with
        ⟨t, reads, outside, zero⟩ | ⟨t, reads, next, message, above⟩
      · have done := first.tail.nil_of_zero zero
        subst done
        rw [Transducer.run_cons_some (transducer maxMsg) reads, Transducer.run_nil]
        refine ⟨fun _ => ⟨t, rfl, outside⟩, ?_⟩
        intro long
        simp only [List.length_cons, List.length_nil] at long
        omega
      · rw [Transducer.run_cons_some (transducer maxMsg) reads]
        obtain ⟨fits, exceeds⟩ := ih next above first.tail
        simp only [message, List.length_append, List.length_cons, List.length_nil,
          List.append_assoc, List.singleton_append] at fits exceeds
        constructor
        · intro bound
          obtain ⟨u, run, outside⟩ := fits (by simp only [List.length_cons] at bound; omega)
          exact ⟨u, by rw [run]; rfl, outside⟩
        · intro bound
          rw [exceeds (by simp only [List.length_cons] at bound; omega)]
          rfl
    · have nonzero : s.depth ≠ 0 := by have := tracks.depth; omega
      rw [Transducer.run_cons_none (transducer maxMsg) (step_long nonzero (by omega) c)]
      refine ⟨?_, fun _ => rfl⟩
      intro bound
      simp only [List.length_cons] at bound
      omega

theorem opening_not_separator {c : Byte} (opening : isOpening c = true) : isSeparator c = false := by
  simp only [isOpening, Bool.or_eq_true, beq_iff_eq] at opening
  rcases opening with same | same <;> subst same <;> rfl

theorem opening_not_quote {c : Byte} (opening : isOpening c = true) : isQuote c = false := by
  simp only [isOpening, Bool.or_eq_true, beq_iff_eq] at opening
  rcases opening with same | same <;> subst same <;> rfl

/-- An opening bracket is one level. -/
theorem after_opening {c : Byte} (opening : isOpening c = true) :
    BracketDepth.after [c] = { depth := 1, inString := false, escape := false } := by
  simp only [BracketDepth.after, List.foldl_cons, List.foldl_nil, BracketDepth.read, BracketDepth.zero,
    opening_not_quote opening, opening, Bool.false_eq_true, if_true, if_false]
  rfl

theorem run_separators (maxMsg : Nat) (separators : List Byte) {s : MessageScan} (outside : s.Outside)
    (skipped : ∀ c ∈ separators, isSeparator c = true) :
    (transducer maxMsg).run s separators = (some s, []) := by
  induction separators with
  | nil => rfl
  | cons c rest ih =>
    have reads : step maxMsg s c = some (s, []) := by
      simp only [step, outside.1, skipped c (List.mem_cons_self ..), if_true]
    rw [Transducer.run_cons_some (transducer maxMsg) reads,
      ih (fun d member => skipped d (List.mem_cons_of_mem _ member))]
    rfl

/-- The size limit cuts exactly: a message of at most `maxMsg` bytes passes
whole, a longer one is rejected with nothing emitted. -/
theorem run_message (maxMsg : Nat) {text : List Byte} (message : IsMessage text)
    {s : MessageScan} (outside : s.Outside) :
    (text.length ≤ maxMsg →
      ∃ t, (transducer maxMsg).run s text = (some t, [text]) ∧ t.Outside) ∧
    (maxMsg < text.length → (transducer maxMsg).run s text = (none, [])) := by
  obtain ⟨c, rest, rfl, opening⟩ := message.opens
  have reads : step maxMsg s c =
      some ({ depth := 1, inString := false, escape := false, message := [c] }, []) := by
    simp only [step, outside.1, opening_not_separator opening, opening, Bool.not_true,
      Bool.false_eq_true, if_true, if_false]
  have opened : BracketDepth.zero.read c = { depth := 1, inString := false, escape := false } := by
    simp only [BracketDepth.read, BracketDepth.zero, opening_not_quote opening, opening,
      Bool.false_eq_true, if_true, if_false]
    rfl
  have first : BracketDepth.FirstZero { depth := 1, inString := false, escape := false } rest := by
    rw [← opened]
    refine ⟨message.balanced, ?_⟩
    intro left right whole nonempty
    exact message.first (c :: left) right (by rw [List.cons_append, whole]) (List.cons_ne_nil _ _) nonempty
  have tail := run_message_rest maxMsg rest
    (s := { depth := 1, inString := false, escape := false, message := [c] }) ⟨rfl, rfl, rfl⟩
    (by decide) first
  rw [Transducer.run_cons_some (transducer maxMsg) reads]
  simp only [List.length_cons, List.length_nil, List.singleton_append, Nat.zero_add] at tail
  constructor
  · intro bound
    obtain ⟨t, run, last⟩ := tail.1 (by simp only [List.length_cons] at bound; omega)
    exact ⟨t, by rw [run]; rfl, last⟩
  · intro bound
    rw [tail.2 (by simp only [List.length_cons] at bound; omega)]
    rfl

/-- Messages with their leading separators, all short enough, from between two
messages: they are emitted in order and the scanner is between messages again. -/
theorem run_parts {maxMsg : Nat} (parts : List (List Byte × List Byte)) {s : MessageScan}
    (outside : s.Outside) (messages : ∀ part ∈ parts, IsMessage part.2)
    (separated : ∀ part ∈ parts, ∀ c ∈ part.1, isSeparator c = true)
    (short : ∀ part ∈ parts, part.2.length ≤ maxMsg) :
    ∃ t, (transducer maxMsg).run s (parts.flatMap fun part => part.1 ++ part.2) =
      (some t, parts.map Prod.snd) ∧ t.Outside := by
  induction parts generalizing s with
  | nil => exact ⟨s, rfl, outside⟩
  | cons part parts ih =>
    have here := List.mem_cons_self (a := part) (l := parts)
    obtain ⟨t, run, between⟩ := (run_message maxMsg (messages part here) outside).1 (short part here)
    obtain ⟨u, rest, last⟩ := ih between
      (fun p member => messages p (List.mem_cons_of_mem _ member))
      (fun p member => separated p (List.mem_cons_of_mem _ member))
      (fun p member => short p (List.mem_cons_of_mem _ member))
    refine ⟨u, ?_, last⟩
    rw [List.flatMap_cons, Transducer.run_append, Transducer.run_append,
      run_separators maxMsg part.1 outside (separated part here), Transducer.resume_some, run,
      Transducer.resume_some, rest]
    rfl

end MessageScan

/-- Messages with the separators before each of them, and the separators after
the last one. -/
def concatenation (parts : List (List Byte × List Byte)) (trailing : List Byte) : List Byte :=
  (parts.flatMap fun part => part.1 ++ part.2) ++ trailing

namespace Framer

theorem scanByte_maxMsg (f : Framer) (consumed : Nat) (c : Byte) :
    (f.scanByte consumed c).1.maxMsg = f.maxMsg := by
  unfold scanByte
  split_ifs <;> rfl

theorem scanLoop_maxMsg (rest : List Byte) (f : Framer) (consumed : Nat) :
    (scanLoop rest f consumed).1.maxMsg = f.maxMsg := by
  induction rest generalizing f consumed with
  | nil => rfl
  | cons c rest ih =>
    unfold scanLoop
    split_ifs
    · exact scanByte_maxMsg f consumed c
    · rw [ih]
      exact scanByte_maxMsg f consumed c

theorem feed_maxMsg (f : Framer) (data : List Byte) : (f.feed data).2.maxMsg = f.maxMsg := by
  have loop := scanLoop_maxMsg ((f.append data).buf.drop f.scan) (f.append data) 0
  unfold feed
  dsimp only
  split_ifs
  · rfl
  · exact loop
  · unfold compact
    dsimp only
    split_ifs <;> exact loop

theorem feed_of_error {f : Framer} (error : f.error = true) (data : List Byte) :
    f.feed data = (-1, f) := by
  simp only [feed, error, if_true]

theorem next_fields (f : Framer) : f.next.2.error = f.error ∧ f.next.2.maxMsg = f.maxMsg := by
  unfold next
  split <;> exact ⟨rfl, rfl⟩

theorem reset_eq_new (f : Framer) : f.reset = new f.maxMsg := rfl

/-- Popping repeatedly returns the ready messages in order. -/
theorem performAll_next (f : Framer) (count : Nat) :
    (performAll f (List.replicate count .next)).1 = f.ready.take count := by
  induction count generalizing f with
  | zero => simp only [List.replicate_zero, performAll, List.take_zero]
  | succ count ih =>
    simp only [List.replicate_succ, performAll, perform]
    rw [ih]
    unfold next
    cases ready : f.ready with
    | nil => simp only [ready, Option.toList_none, List.take_nil, List.append_nil]
    | cons message rest => rfl

/-- After an error no call changes the error state or the size limit. -/
theorem performAll_error (calls : List FramerCall) {f : Framer} (error : f.error = true) :
    (performAll f calls).2.error = true ∧ (performAll f calls).2.maxMsg = f.maxMsg := by
  induction calls generalizing f with
  | nil => exact ⟨error, rfl⟩
  | cons call calls ih =>
    cases call with
    | feed chunk =>
      simp only [performAll, perform, feed_of_error error]
      exact ih error
    | next =>
      obtain ⟨sameError, sameMax⟩ := next_fields f
      obtain ⟨lastError, lastMax⟩ := ih (sameError.trans error)
      exact ⟨lastError, lastMax.trans sameMax⟩

end Framer

/-- Framing inverts concatenation up to the first message above the limit. The
error there is final: until a reset every further chunk is refused unread. -/
theorem framer_inverts_concatenation (maxMsg : Nat) (parts : List (List Byte × List Byte))
    (trailing : List Byte) (messages : ∀ part ∈ parts, IsMessage part.2)
    (separated : ∀ part ∈ parts, ∀ c ∈ part.1, isSeparator c = true)
    (ended : ∀ c ∈ trailing, isSeparator c = true) :
    let f := ((Framer.new maxMsg).feed (concatenation parts trailing)).2
    ((∀ part ∈ parts, part.2.length ≤ maxMsg) →
      (∀ count, (performAll f (List.replicate count .next)).1 = (parts.map Prod.snd).take count) ∧
        f.hasError = false ∧ f.pendingBytes = 0) ∧
    (∀ before long later, parts = before ++ long :: later →
      (∀ part ∈ before, part.2.length ≤ maxMsg) → maxMsg < long.2.length →
      (∀ count, (performAll f (List.replicate count .next)).1 = (before.map Prod.snd).take count) ∧
        f.hasError = true ∧
        ∀ calls, (∀ chunk, (performAll f calls).2.feed chunk = (-1, (performAll f calls).2)) ∧
          (performAll f calls).2.reset = Framer.new maxMsg) := by
  intro f
  have fed := feed_new_represents maxMsg (concatenation parts trailing)
  have sameMax : f.maxMsg = maxMsg := feed_maxMsg (Framer.new maxMsg) (concatenation parts trailing)
  have outside : MessageScan.idle.Outside := ⟨rfl, rfl⟩
  constructor
  · intro short
    obtain ⟨t, run, between⟩ := MessageScan.run_parts parts outside messages separated short
    rw [concatenation, Transducer.run_append, run, Transducer.resume_some,
      MessageScan.run_separators _ trailing between ended] at fed
    obtain ⟨delivered, noError, pending⟩ := fed.observed
    simp only [List.nil_append, List.append_nil] at delivered
    refine ⟨?_, noError, ?_⟩
    · intro count
      rw [performAll_next]
      exact congrArg (List.take count) delivered
    · exact (pending t rfl).trans (congrArg List.length between.2)
  · intro before long later cut short exceeds
    have member : ∀ part ∈ before ++ [long], part ∈ parts := by
      intro part inside
      rw [cut]
      rcases List.mem_append.mp inside with old | new
      · exact List.mem_append_left _ old
      · rw [List.mem_singleton.mp new]
        exact List.mem_append_right _ (List.mem_cons_self ..)
    have atLong := member long (List.mem_append_right _ (List.mem_singleton_self long))
    obtain ⟨t, run, between⟩ := MessageScan.run_parts before outside
      (fun part inside => messages part (member part (List.mem_append_left _ inside)))
      (fun part inside => separated part (member part (List.mem_append_left _ inside))) short
    have rejected := (MessageScan.run_message _ (messages long atLong) between).2 exceeds
    have whole : concatenation parts trailing = (before.flatMap fun part => part.1 ++ part.2) ++
        (long.1 ++ (long.2 ++ ((later.flatMap fun part => part.1 ++ part.2) ++ trailing))) := by
      simp only [concatenation, cut, List.flatMap_append, List.flatMap_cons, List.append_assoc]
    rw [whole, Transducer.run_append, run, Transducer.resume_append,
      Transducer.resume_some, MessageScan.run_separators _ long.1 between (separated long atLong),
      Transducer.resume_append, Transducer.resume_some, rejected, Transducer.resume_none,
      ← whole] at fed
    obtain ⟨delivered, failed, _⟩ := fed.observed
    simp only [List.nil_append, List.append_nil] at delivered
    refine ⟨?_, failed, ?_⟩
    · intro count
      rw [performAll_next]
      exact congrArg (List.take count) delivered
    · intro calls
      obtain ⟨error, keptMax⟩ := performAll_error calls (f := f) failed
      exact ⟨fun chunk => feed_of_error error chunk, by rw [reset_eq_new, keptMax, sameMax]⟩

/-- Two messages above and below a limit of five bytes, after a newline. -/
theorem framer_inverts_concatenation_example :
    IsMessage [0x7b, 0x7d] ∧ IsMessage [0x5b, 0x22, 0x5d, 0x22, 0x5d] ∧
      (performAll ((Framer.new 5).feed (concatenation
        [([0x0a], [0x7b, 0x7d]), ([], [0x5b, 0x22, 0x5d, 0x22, 0x5d])] [0x00])).2
        (List.replicate 2 .next)).1 = [[0x7b, 0x7d], [0x5b, 0x22, 0x5d, 0x22, 0x5d]] := by
  have braces : IsMessage [0x7b, 0x7d] := isMessage_of_check (by decide)
  have quoted : IsMessage [0x5b, 0x22, 0x5d, 0x22, 0x5d] := isMessage_of_check (by decide)
  refine ⟨braces, quoted, ?_⟩
  have general := framer_inverts_concatenation 5
    [([0x0a], [0x7b, 0x7d]), ([], [0x5b, 0x22, 0x5d, 0x22, 0x5d])] [0x00]
    (by simpa using ⟨braces, quoted⟩) (by simp [isSeparator]) (by simp [isSeparator])
  exact (general.1 (by decide)).1 2

end JsonRpcTcp
