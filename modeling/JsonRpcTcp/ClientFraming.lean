import JsonRpcTcp.FramerMessages

namespace JsonRpcTcp

/-- `messageCheck` decides `IsMessage`. -/
theorem messageCheck_iff {text : List Byte} : messageCheck text = true ↔ IsMessage text := by
  refine ⟨isMessage_of_check, ?_⟩
  intro message
  obtain ⟨c, rest, rfl, opening⟩ := message.opens
  simp only [messageCheck, Bool.and_eq_true, beq_iff_eq, List.all_eq_true, List.mem_range, bne_iff_ne]
  refine ⟨⟨opening, message.balanced⟩, ?_⟩
  intro n inside
  have cut := List.take_append_drop (n + 1) (c :: rest)
  refine message.first _ _ cut (by simp) ?_
  intro empty
  have short := List.drop_eq_nil_iff.mp empty
  simp only [List.length_cons] at short
  omega

instance (text : List Byte) : Decidable (IsMessage text) := decidable_of_iff _ messageCheck_iff

namespace BracketDepth

theorem after_append (left right : List Byte) : after (left ++ right) = right.foldl read (after left) :=
  List.foldl_append

/-- A backslash is only remembered inside a string. -/
theorem escape_inString (text : List Byte) {b : BracketDepth} (sane : b.escape = true → b.inString = true) :
    (text.foldl read b).escape = true → (text.foldl read b).inString = true := by
  induction text generalizing b with
  | nil => exact sane
  | cons c rest ih =>
    refine ih ?_
    unfold read
    split_ifs <;> simp_all

theorem read_separator {c : Byte} (separator : isSeparator c = true) {b : BracketDepth} (outside : b.inString = false) :
    b.read c = b := by
  have plain : isQuote c = false ∧ isOpening c = false ∧ isClosing c = false := by
    simp only [isSeparator, Bool.or_eq_true, beq_iff_eq] at separator
    rcases separator with ((((same | same) | same) | same) | same) | same <;> subst same <;> decide
  simp only [read, outside, plain.1, plain.2.1, plain.2.2, Bool.false_eq_true, if_false]

theorem foldl_separators (separators : List Byte) (skipped : ∀ c ∈ separators, isSeparator c = true) :
    separators.foldl read zero = zero := by
  induction separators with
  | nil => rfl
  | cons c rest ih =>
    have first : zero.read c = zero := read_separator (skipped c List.mem_cons_self) rfl
    rw [List.foldl_cons, first]
    exact ih fun d member => skipped d (List.mem_cons_of_mem _ member)

/-- The byte that brings the depth to zero stands outside strings. -/
theorem read_to_zero {b : BracketDepth} {c : Byte} (positive : b.depth ≠ 0) (closed : (b.read c).depth = 0)
    (sane : b.escape = true → b.inString = true) : b.read c = zero := by
  have outside : b.inString = false := by
    by_contra inside
    refine positive ?_
    rw [← closed]
    simp only [read, Bool.eq_true_of_not_eq_false inside, if_true]
    split_ifs <;> rfl
  have unescaped : b.escape = false := by
    by_contra escaped
    exact Bool.noConfusion (outside.symm.trans (sane (Bool.eq_true_of_not_eq_false escaped)))
  obtain ⟨depth, inString, escape⟩ := b
  simp only at outside unescaped positive
  subst outside unescaped
  simp only [read, Bool.false_eq_true, if_false] at closed ⊢
  split_ifs at closed ⊢ <;> simp_all [zero]

/-- A whole message leaves nothing behind. -/
theorem after_message {text : List Byte} (message : IsMessage text) : after text = zero := by
  obtain ⟨c, rest, rfl, opening⟩ := message.opens
  have nonempty : c :: rest ≠ [] := List.cons_ne_nil c rest
  have last := List.dropLast_append_getLast nonempty
  have closed := message.balanced
  rw [← last, after_append, List.foldl_cons, List.foldl_nil] at closed ⊢
  have sane := escape_inString (c :: rest).dropLast (b := zero) (fun impossible => Bool.noConfusion impossible)
  by_cases single : (c :: rest).dropLast = []
  · -- one bracket cannot close itself
    exfalso
    have none : rest = [] := by
      cases rest with
      | nil => rfl
      | cons d rest => cases single
    subst none
    simp only [List.dropLast_singleton, List.getLast_singleton, after, List.foldl_nil] at closed
    simp only [read, zero, MessageScan.opening_not_quote opening, opening, Bool.false_eq_true, if_false,
      if_true] at closed
    omega
  · exact read_to_zero (message.first _ _ last single (List.cons_ne_nil _ _)) closed sane

end BracketDepth

/-- A run of the scanner that has emitted nothing but `messages` and, where it has not
been rejected, stands between two messages. -/
structure CleanRun (messages : List (List Byte)) (run : Option MessageScan × List (List Byte)) : Prop where
  emitted : ∀ message ∈ run.2, message ∈ messages
  between : ∀ s, run.1 = some s → s.Outside

namespace CleanRun
variable {messages : List (List Byte)} {run : Option MessageScan × List (List Byte)} {maxMsg : Nat}

theorem mono {more : List (List Byte)} (clean : CleanRun messages run)
    (subset : ∀ message ∈ messages, message ∈ more) : CleanRun more run where
  emitted message member := subset message (clean.emitted message member)
  between := clean.between

theorem idle : CleanRun messages (some MessageScan.idle, []) where
  emitted _ member := absurd member List.not_mem_nil
  between s same := by
    cases same
    exact ⟨rfl, rfl⟩

/-- A clean run stays clean over one more message. One above the limit is rejected. -/
theorem serve (clean : CleanRun messages run) {separators message : List Byte}
    (separated : ∀ c ∈ separators, isSeparator c = true) (whole : IsMessage message) :
    CleanRun (messages ++ [message]) ((MessageScan.transducer maxMsg).resume run (separators ++ message)) := by
  have earlier : ∀ text ∈ messages, text ∈ messages ++ [message] := fun _ => List.mem_append_left _
  obtain ⟨_ | s, out⟩ := run
  · rw [Transducer.resume_none]
    exact clean.mono earlier
  · have outside := clean.between s rfl
    rw [Transducer.resume_append, Transducer.resume_some, MessageScan.run_separators _ separators outside separated,
      List.append_nil, Transducer.resume_some]
    obtain ⟨fits, exceeds⟩ := MessageScan.run_message maxMsg whole outside
    rcases Nat.lt_or_ge maxMsg message.length with long | short
    · rw [exceeds long, List.append_nil]
      exact ⟨fun text member => earlier text (clean.emitted text member), fun _ impossible => by cases impossible⟩
    · obtain ⟨t, emits, between⟩ := fits short
      rw [emits]
      refine ⟨?_, ?_⟩
      · intro text member
        rcases List.mem_append.mp member with old | new
        · exact earlier text (clean.emitted text old)
        · exact List.mem_append_right _ new
      · intro u same
        cases same
        exact between

/-- Bytes that open nothing are skipped or rejected, with nothing emitted. -/
theorem unopened (rest : List Byte)
    (closed : (rest.find? fun c => !isSeparator c).all (fun c => !isOpening c) = true) :
    CleanRun messages ((MessageScan.transducer maxMsg).run MessageScan.idle rest) := by
  induction rest with
  | nil => exact CleanRun.idle
  | cons c rest ih =>
    by_cases separator : isSeparator c = true
    · have reads : (MessageScan.transducer maxMsg).step MessageScan.idle c = some (MessageScan.idle, []) := by
        simp only [MessageScan.transducer, MessageScan.step, MessageScan.idle, separator, if_true]
      rw [Transducer.run_cons_some (MessageScan.transducer maxMsg) reads, List.nil_append]
      refine ih ?_
      rwa [List.find?_cons_of_neg (by rw [separator]; decide)] at closed
    · have opensNot : isOpening c = false := by
        rw [List.find?_cons_of_pos (by simpa using separator)] at closed
        simpa using closed
      have rejects : (MessageScan.transducer maxMsg).step MessageScan.idle c = none := by
        simp only [MessageScan.transducer, MessageScan.step, MessageScan.idle, separator, opensNot, if_true, if_false,
          Bool.not_false,
          Bool.false_eq_true]
      rw [Transducer.run_cons_none (MessageScan.transducer maxMsg) rejects]
      exact ⟨fun _ member => absurd member List.not_mem_nil, fun _ impossible => by cases impossible⟩

/-- What has been emitted early in a clean run is one of its messages. -/
theorem of_earlier {later : List Byte} (clean : CleanRun messages ((MessageScan.transducer maxMsg).resume run later)) :
    ∀ message ∈ run.2, message ∈ messages := by
  intro message member
  refine clean.emitted message ?_
  obtain ⟨_ | s, out⟩ := run
  · exact member
  · exact List.mem_append_left _ member

end CleanRun

/-- The messages of a stream with the separators before each of them. -/
structure Served (parts : List (List Byte × List Byte)) : Prop where
  messages : ∀ part ∈ parts, IsMessage part.2
  separated : ∀ part ∈ parts, ∀ c ∈ part.1, isSeparator c = true

/-- The separators before the first message may be others. -/
theorem Served.regap {part : List Byte × List Byte} {parts : List (List Byte × List Byte)}
    (served : Served (part :: parts)) {gap : List Byte} (separators : ∀ c ∈ gap, isSeparator c = true) :
    Served ((gap, part.2) :: parts) where
  messages p member := by
    rcases List.mem_cons.mp member with same | later
    · rw [same]
      exact served.messages part List.mem_cons_self
    · exact served.messages p (List.mem_cons_of_mem _ later)
  separated p member := by
    rcases List.mem_cons.mp member with same | later
    · rw [same]
      exact separators
    · exact served.separated p (List.mem_cons_of_mem _ later)

theorem Served.tail {part : List Byte × List Byte} {parts : List (List Byte × List Byte)}
    (served : Served (part :: parts)) : Served parts where
  messages p member := served.messages p (List.mem_cons_of_mem _ member)
  separated p member := served.separated p (List.mem_cons_of_mem _ member)

namespace Served
open MessageScan

/-- Framing from between two messages, whatever the lengths. -/
theorem clean_run (maxMsg : Nat) (parts : List (List Byte × List Byte)) (served : Served parts) {s : MessageScan}
    (outside : s.Outside) :
    CleanRun (parts.map Prod.snd) ((transducer maxMsg).run s (parts.flatMap fun part => part.1 ++ part.2)) := by
  induction parts generalizing s with
  | nil => exact ⟨fun _ member => absurd member List.not_mem_nil, fun t same => by cases same; exact outside⟩
  | cons part parts ih =>
    have whole := served.messages part List.mem_cons_self
    have skips := run_separators maxMsg part.1 outside (served.separated part List.mem_cons_self)
    rw [List.flatMap_cons, List.append_assoc, Transducer.run_append, skips, Transducer.resume_some, List.nil_append,
      Transducer.run_append, List.map_cons]
    obtain ⟨fits, exceeds⟩ := run_message maxMsg whole outside
    rcases Nat.lt_or_ge maxMsg part.2.length with long | short
    · rw [exceeds long, Transducer.resume_none]
      exact ⟨fun _ member => absurd member List.not_mem_nil, fun _ impossible => by cases impossible⟩
    · obtain ⟨t, emits, between⟩ := fits short
      have rest := ih served.tail between
      rw [emits, Transducer.resume_some]
      refine ⟨?_, rest.between⟩
      intro message member
      rcases List.mem_append.mp member with here | later
      · rw [List.mem_singleton.mp here]
        exact List.mem_cons_self
      · exact List.mem_cons_of_mem _ (rest.emitted message later)

/-- A stream that is cut where the bracket depth is zero is cut between two messages,
so framing can start there. -/
theorem clean_cut (maxMsg : Nat) (parts : List (List Byte × List Byte)) (served : Served parts) {past rest : List Byte}
    (whole : past ++ rest = parts.flatMap fun part => part.1 ++ part.2) (cut : (BracketDepth.after past).depth = 0) :
    CleanRun (parts.map Prod.snd) ((transducer maxMsg).run idle rest) := by
  induction parts generalizing past with
  | nil =>
    have empty : rest = [] := (List.append_eq_nil_iff.mp whole).2
    subst empty
    exact CleanRun.idle
  | cons part parts ih =>
    have skipped := served.separated part List.mem_cons_self
    have message := served.messages part List.mem_cons_self
    rw [List.flatMap_cons, List.append_assoc] at whole
    have fromGap : ∀ gap : List Byte, (∀ c ∈ gap, isSeparator c = true) →
        rest = gap ++ (part.2 ++ parts.flatMap fun part => part.1 ++ part.2) →
        CleanRun (part.2 :: parts.map Prod.snd) ((transducer maxMsg).run idle rest) := by
      intro gap separators split
      have run := clean_run maxMsg _ (served.regap separators) (s := idle) ⟨rfl, rfl⟩
      rw [List.flatMap_cons, List.append_assoc, ← split] at run
      exact run
    rcases List.append_eq_append_iff.mp whole with ⟨gap, separators, remaining⟩ | ⟨inside, pastSplit, remaining⟩
    · exact fromGap gap (fun c inGap => skipped c (separators ▸ List.mem_append_right _ inGap)) remaining
    · have depth : (BracketDepth.after inside).depth = 0 := by
        rw [← cut, pastSplit, BracketDepth.after_append]
        exact congrArg (fun b => (inside.foldl BracketDepth.read b).depth)
          (BracketDepth.foldl_separators part.1 skipped).symm
      have onward : ∀ later : List Byte, later ++ rest = (parts.flatMap fun part => part.1 ++ part.2) →
          (BracketDepth.after later).depth = 0 →
          CleanRun (part.2 :: parts.map Prod.snd) ((transducer maxMsg).run idle rest) := by
        intro later split zero
        exact (ih served.tail split zero).mono fun _ => List.mem_cons_of_mem _
      rcases List.append_eq_append_iff.mp remaining with ⟨later, insideSplit, tail⟩ | ⟨right, messageSplit, tail⟩
      · refine onward later tail.symm ?_
        rw [insideSplit, BracketDepth.after_append, BracketDepth.after_message message] at depth
        exact depth
      · -- the depth is zero after no proper part of the message
        by_cases atStart : inside = []
        · subst atStart
          rw [List.nil_append] at messageSplit
          exact fromGap [] (fun _ member => absurd member List.not_mem_nil)
            (by rw [tail, messageSplit, List.nil_append])
        · by_cases atEnd : right = []
          · subst atEnd
            exact onward [] tail rfl
          · exact absurd depth (message.first inside right messageSplit.symm atStart atEnd)

end Served
end JsonRpcTcp
