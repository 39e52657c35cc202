import JsonRpcTcp.Framer

namespace JsonRpcTcp

/-- The framer without its buffer bookkeeping: the bracket state and the bytes
of the unfinished message. -/
structure MessageScan where
  depth : Nat
  inString : Bool
  escape : Bool
  message : List Byte
  deriving DecidableEq, Repr

namespace MessageScan

def idle : MessageScan := { depth := 0, inString := false, escape := false, message := [] }

/-- Add a byte to the current message. -/
def push (s : MessageScan) (c : Byte) : MessageScan := { s with message := s.message ++ [c] }

/-- Bytewise framing of a stream, with no buffer offsets. -/
def step (maxMsg : Nat) (s : MessageScan) (c : Byte) : Option (MessageScan × List (List Byte)) :=
  if s.depth = 0 then
    if isSeparator c then some (s, [])
    else if !isOpening c then none
    else some ({ depth := 1, inString := false, escape := false, message := [c] }, [])
  else if s.message.length + 1 > maxMsg then none
  else if s.inString then
    if s.escape then some ({ s.push c with escape := false }, [])
    else if isBackslash c then some ({ s.push c with escape := true }, [])
    else if isQuote c then some ({ s.push c with inString := false }, [])
    else some (s.push c, [])
  else if isQuote c then some ({ s.push c with inString := true }, [])
  else if isOpening c then some ({ s.push c with depth := s.depth + 1 }, [])
  else if isClosing c then
    if s.depth - 1 = 0 then some ({ s with depth := s.depth - 1, message := [] }, [s.message ++ [c]])
    else some ({ s.push c with depth := s.depth - 1 }, [])
  else some (s.push c, [])

/-- The stream framer as a transducer from bytes to messages. -/
def transducer (maxMsg : Nat) : Transducer MessageScan Byte (List Byte) where
  step := step maxMsg

end MessageScan

namespace Framer

/-- The part of the framer state that survives compaction. -/
def view (f : Framer) : MessageScan :=
  { depth := f.depth, inString := f.inString, escape := f.escape,
    message := if f.depth = 0 then [] else (f.buf.take f.scan).drop f.start }

/-- The offsets inside the loop of `feed`: everything before the current
message is consumed, and the message starts before the next byte. -/
structure Scanning (f : Framer) (consumed : Nat) : Prop where
  noError : f.error = false
  scanBound : f.scan ≤ f.buf.length
  outside : f.depth = 0 → consumed = f.scan
  inside : 0 < f.depth → consumed ≤ f.start ∧ f.start < f.scan

/-- The offsets between two calls of `feed`: the buffer is exactly the
unfinished message. -/
structure Rested (f : Framer) : Prop where
  noError : f.error = false
  scanned : f.scan = f.buf.length
  outside : f.depth = 0 → f.buf = []
  inside : 0 < f.depth → f.start = 0 ∧ 0 < f.buf.length

theorem rested_new (maxMsg : Nat) : (new maxMsg).Rested where
  noError := rfl
  scanned := rfl
  outside _ := rfl
  inside positive := absurd positive (Nat.lt_irrefl 0)

theorem lt_length_of_drop {buf rest : List Byte} {c : Byte} {scan : Nat} (here : buf.drop scan = c :: rest) :
    scan < buf.length := by
  have length := congrArg List.length here
  simp only [List.length_drop, List.length_cons] at length
  omega

/-- Reading one more byte of an unfinished message extends its view. -/
theorem take_succ_drop {buf rest : List Byte} {c : Byte} {start scan : Nat} (here : buf.drop scan = c :: rest)
    (before : start ≤ scan) :
    (buf.take (scan + 1)).drop start = (buf.take scan).drop start ++ [c] := by
  have inBounds := lt_length_of_drop here
  have value : buf[scan] = c := by
    rw [List.drop_eq_getElem_cons inBounds] at here
    exact (List.cons.inj here).1
  rw [List.take_succ_eq_append_getElem inBounds, value, List.drop_append_of_le_length]
  rw [List.length_take]
  omega

theorem view_message_length {f : Framer} {consumed : Nat} (scanning : f.Scanning consumed)
    (positive : 0 < f.depth) : f.view.message.length = f.scan - f.start := by
  have bound := scanning.scanBound
  simp only [view, Nat.pos_iff_ne_zero.mp positive, if_false, List.length_drop, List.length_take]
  omega

/-- The loop variable is advanced after a byte that was accepted. -/
def advance (f : Framer) : Framer := { f with scan := f.scan + 1 }

/-- What one turn of the loop must do for the bytewise scanner to describe it:
reject the same bytes, and otherwise emit the same messages and keep the offsets. -/
def Follows (f : Framer) (turn : Framer × Nat) : Option (MessageScan × List (List Byte)) → Prop
  | none => turn.1.error = true ∧ turn.1.ready = f.ready
  | some (s, out) => turn.1.advance.Scanning turn.2 ∧ turn.1.advance.view = s ∧
      turn.1.ready = f.ready ++ out ∧ turn.1.maxMsg = f.maxMsg ∧ turn.1.buf = f.buf ∧
      turn.1.scan = f.scan

/-- A turn inside a message that neither finishes nor rejects it. -/
theorem follows_inside {f g : Framer} {consumed : Nat} {c : Byte} {rest : List Byte} {s : MessageScan}
    (scanning : f.Scanning consumed) (here : f.buf.drop f.scan = c :: rest) (positive : 0 < f.depth)
    (inner : 0 < g.depth) (error : g.error = f.error) (buf : g.buf = f.buf) (scan : g.scan = f.scan)
    (start : g.start = f.start) (ready : g.ready = f.ready) (maxMsg : g.maxMsg = f.maxMsg)
    (depth : s.depth = g.depth) (inString : s.inString = g.inString) (escape : s.escape = g.escape)
    (message : s.message = f.view.message ++ [c]) : f.Follows (g, consumed) (some (s, [])) := by
  obtain ⟨consumedBound, startBound⟩ := scanning.inside positive
  have extended := take_succ_drop here (Nat.le_of_lt startBound)
  have room := lt_length_of_drop here
  refine ⟨⟨?_, ?_, ?_, ?_⟩, ?_, ?_, maxMsg, buf, scan⟩
  · exact error.trans scanning.noError
  · simp only [advance, buf, scan]
    omega
  · intro zero
    exact absurd inner (Nat.not_lt.mpr (Nat.le_of_eq zero))
  · intro _
    simp only [advance, scan, start]
    omega
  · obtain ⟨sDepth, sInString, sEscape, sMessage⟩ := s
    simp only at depth inString escape message
    simp only [view, advance, buf, scan, start, Nat.pos_iff_ne_zero.mp inner, if_false, extended,
      depth, inString, escape, message, Nat.pos_iff_ne_zero.mp positive]
  · rw [ready, List.append_nil]

theorem scanByte_outside {f : Framer} {consumed : Nat} {c : Byte} {rest : List Byte}
    (scanning : f.Scanning consumed) (here : f.buf.drop f.scan = c :: rest) (zero : f.depth = 0) :
    f.Follows (f.scanByte consumed c) (MessageScan.step f.maxMsg f.view c) := by
  have atScan := scanning.outside zero
  have extended := take_succ_drop here (Nat.le_refl f.scan)
  have room := lt_length_of_drop here
  have viewDepth : f.view.depth = 0 := zero
  unfold scanByte MessageScan.step
  rw [if_pos zero, if_pos viewDepth]
  by_cases separator : isSeparator c = true
  · simp only [separator, if_true]
    refine ⟨⟨scanning.noError, room, fun _ => rfl, ?_⟩, ?_, (List.append_nil _).symm, rfl, rfl, rfl⟩
    · intro positive
      exact absurd zero (Nat.pos_iff_ne_zero.mp positive)
    · simp only [view, advance, zero, if_true]
  · by_cases opening : isOpening c = true
    · simp only [separator, opening, Bool.not_true, Bool.false_eq_true, if_false]
      refine ⟨⟨scanning.noError, room, ?_, ?_⟩, ?_, (List.append_nil _).symm, rfl, rfl, rfl⟩
      · intro impossible
        exact absurd impossible Nat.one_ne_zero
      · intro _
        simp only [advance]
        omega
      · simp only [view, advance, Nat.one_ne_zero, if_false, extended]
        rw [List.drop_eq_nil_of_le (by rw [List.length_take]; omega), List.nil_append]
    · simp only [separator, opening, Bool.not_false, Bool.false_eq_true, if_false, if_true]
      exact ⟨rfl, rfl⟩

theorem scanByte_inside {f : Framer} {consumed : Nat} {c : Byte} {rest : List Byte}
    (scanning : f.Scanning consumed) (here : f.buf.drop f.scan = c :: rest) (positive : 0 < f.depth) :
    f.Follows (f.scanByte consumed c) (MessageScan.step f.maxMsg f.view c) := by
  have nonzero := Nat.pos_iff_ne_zero.mp positive
  have viewDepth : f.view.depth = f.depth := rfl
  have viewString : f.view.inString = f.inString := rfl
  have viewEscape : f.view.escape = f.escape := rfl
  have viewNonzero : ¬f.view.depth = 0 := nonzero
  have length := view_message_length scanning positive
  unfold scanByte MessageScan.step
  rw [if_neg nonzero, if_neg viewNonzero, length]
  by_cases long : f.scan - f.start + 1 > f.maxMsg
  · simp only [long, if_true]
    exact ⟨rfl, rfl⟩
  simp only [long, if_false, viewString, viewEscape, viewDepth]
  by_cases closes : f.inString = false ∧ isQuote c = false ∧ isOpening c = false ∧
      isClosing c = true ∧ f.depth - 1 = 0
  · obtain ⟨noString, noQuote, noOpening, closing, last⟩ := closes
    obtain ⟨consumedBound, startBound⟩ := scanning.inside positive
    have extended := take_succ_drop here (Nat.le_of_lt startBound)
    have room : f.scan < f.buf.length := by
      have total := congrArg List.length here
      simp only [List.length_drop, List.length_cons] at total
      omega
    have whole : (f.buf.drop f.start).take (f.scan - f.start + 1) = f.view.message ++ [c] := by
      rw [List.take_drop, show f.start + (f.scan - f.start + 1) = f.scan + 1 by omega, extended]
      simp only [view, nonzero, if_false]
    simp only [noString, noQuote, noOpening, closing, last, Bool.false_eq_true, if_false, if_true]
    refine ⟨⟨scanning.noError, room, fun _ => rfl, ?_⟩, ?_, ?_, rfl, rfl, rfl⟩
    · intro impossible
      exact absurd impossible (Nat.lt_irrefl 0)
    · simp only [view, advance, if_true]
    · rw [whole]
  · -- every other accepted byte only extends the message
    split_ifs <;>
      first
      | exact (closes ⟨by simp_all, by simp_all, by simp_all, by simp_all, by assumption⟩).elim
      | (apply follows_inside scanning here positive <;>
          first | rfl | exact positive | exact Nat.succ_pos _ | (show 0 < f.depth - 1; omega))

theorem scanByte_follows {f : Framer} {consumed : Nat} {c : Byte} {rest : List Byte}
    (scanning : f.Scanning consumed) (here : f.buf.drop f.scan = c :: rest) :
    f.Follows (f.scanByte consumed c) (MessageScan.step f.maxMsg f.view c) := by
  rcases Nat.eq_zero_or_pos f.depth with zero | positive
  · exact scanByte_outside scanning here zero
  · exact scanByte_inside scanning here positive

/-- The whole loop against the bytewise run over the unread bytes. -/
def FollowsRun (f : Framer) (result : Framer × Nat) : Option MessageScan × List (List Byte) → Prop
  | (none, out) => result.1.error = true ∧ result.1.ready = f.ready ++ out
  | (some s, out) => result.1.Scanning result.2 ∧ result.1.view = s ∧
      result.1.ready = f.ready ++ out ∧ result.1.maxMsg = f.maxMsg ∧
      result.1.scan = result.1.buf.length

theorem scanLoop_follows (rest : List Byte) {f : Framer} {consumed : Nat}
    (scanning : f.Scanning consumed) (here : f.buf.drop f.scan = rest) :
    f.FollowsRun (scanLoop rest f consumed) ((MessageScan.transducer f.maxMsg).run f.view rest) := by
  induction rest generalizing f consumed with
  | nil =>
    have bound := scanning.scanBound
    have length := congrArg List.length here
    simp only [List.length_drop, List.length_nil] at length
    exact ⟨scanning, rfl, (List.append_nil _).symm, rfl, by simp only [scanLoop]; omega⟩
  | cons c rest ih =>
    have turn := scanByte_follows scanning here
    unfold scanLoop
    cases reads : MessageScan.step f.maxMsg f.view c with
    | none =>
      rw [reads] at turn
      obtain ⟨error, ready⟩ := turn
      rw [Transducer.run_cons_none (MessageScan.transducer f.maxMsg) reads, if_pos error]
      exact ⟨error, by rw [ready, List.append_nil]⟩
    | some pair =>
      obtain ⟨s, out⟩ := pair
      rw [reads] at turn
      obtain ⟨next, view, ready, maxMsg, buf, scan⟩ := turn
      have noError : (f.scanByte consumed c).1.error = false := next.noError
      rw [Transducer.run_cons_some (MessageScan.transducer f.maxMsg) reads, noError]
      have unread : (f.scanByte consumed c).1.advance.buf.drop (f.scanByte consumed c).1.advance.scan = rest := by
        simp only [advance, buf, scan]
        rw [← List.drop_drop, here, List.drop_one, List.tail_cons]
      have tail := ih next unread
      have sameMax : (f.scanByte consumed c).1.advance.maxMsg = f.maxMsg := maxMsg
      have sameReady : (f.scanByte consumed c).1.advance.ready = f.ready ++ out := ready
      rw [view, sameMax] at tail
      simp only [Bool.false_eq_true, if_false]
      change f.FollowsRun (scanLoop rest (f.scanByte consumed c).1.advance (f.scanByte consumed c).2) _
      cases run : (MessageScan.transducer f.maxMsg).run s rest with
      | mk last emitted =>
        rw [run] at tail
        cases last with
        | none =>
          obtain ⟨error, lastReady⟩ := tail
          exact ⟨error, by rw [lastReady, sameReady, List.append_assoc]⟩
        | some t =>
          obtain ⟨lastScanning, lastView, lastReady, lastMax, lastScan⟩ := tail
          exact ⟨lastScanning, lastView, by rw [lastReady, sameReady, List.append_assoc],
            lastMax.trans sameMax, lastScan⟩

/-- Compaction re-bases the offsets and keeps the view. -/
theorem compact_rested {f : Framer} {consumed : Nat} (scanning : f.Scanning consumed)
    (scanned : f.scan = f.buf.length) :
    (f.compact consumed).Rested ∧ (f.compact consumed).view = f.view ∧
      (f.compact consumed).ready = f.ready ∧ (f.compact consumed).maxMsg = f.maxMsg := by
  rcases Nat.eq_zero_or_pos f.depth with zero | positive
  · have atScan := scanning.outside zero
    simp only [compact, zero, Nat.lt_irrefl, false_and, if_false]
    by_cases some : 0 < consumed
    · rw [if_pos some]
      refine ⟨⟨scanning.noError, ?_, ?_, ?_⟩, ?_, rfl, rfl⟩
      · simp only [List.length_drop]
        omega
      · intro _
        exact List.drop_eq_nil_of_le (by omega)
      · intro impossible
        simp only [Nat.lt_irrefl] at impossible
      · simp only [view, zero, if_true]
    · rw [if_neg some]
      have empty : f.buf = [] := List.eq_nil_of_length_eq_zero (by omega)
      exact ⟨⟨scanning.noError, scanned, fun _ => empty, fun impossible => by omega⟩, rfl, rfl, rfl⟩
  · obtain ⟨consumedBound, startBound⟩ := scanning.inside positive
    have nonzero := Nat.pos_iff_ne_zero.mp positive
    have chosen : (if 0 < f.depth ∧ consumed < f.start then f.start else consumed) = f.start := by
      split_ifs with moved
      · rfl
      · omega
    simp only [compact, chosen]
    by_cases some : 0 < f.start
    · rw [if_pos some]
      refine ⟨⟨scanning.noError, ?_, ?_, ?_⟩, ?_, rfl, rfl⟩
      · simp only [List.length_drop]
        omega
      · intro impossible
        exact absurd impossible nonzero
      · intro _
        simp only [positive, if_true, List.length_drop]
        omega
      · simp only [view, nonzero, if_false, positive, if_true, Nat.sub_self, List.drop_zero]
        rw [scanned, List.take_length, List.take_of_length_le (Nat.le_of_eq List.length_drop)]
    · rw [if_neg some]
      exact ⟨⟨scanning.noError, scanned, fun impossible => absurd impossible nonzero,
        fun _ => by omega⟩, rfl, rfl, rfl⟩

/-- The framer has read as much of its stream as a run of the bytewise scanner,
and `popped` are the messages already taken out of it. -/
def Represents (f : Framer) (maxMsg : Nat) (popped : List (List Byte)) :
    Option MessageScan × List (List Byte) → Prop
  | (none, out) => f.error = true ∧ popped ++ f.ready = out
  | (some s, out) => f.Rested ∧ f.view = s ∧ popped ++ f.ready = out ∧ f.maxMsg = maxMsg

theorem represents_new (maxMsg : Nat) :
    (new maxMsg).Represents maxMsg [] (some MessageScan.idle, []) :=
  ⟨rested_new maxMsg, rfl, rfl, rfl⟩

theorem append_scanning {f : Framer} (rested : f.Rested) (data : List Byte) :
    (f.append data).Scanning 0 where
  noError := rested.noError
  scanBound := by simp only [append, rested.scanned, List.length_append, Nat.le_add_right]
  outside zero := by
    have empty := congrArg List.length (rested.outside zero)
    have scanned := rested.scanned
    simp only [List.length_nil] at empty
    exact (scanned.trans empty).symm
  inside positive := by
    obtain ⟨start, nonempty⟩ := rested.inside positive
    have scanned := rested.scanned
    simp only [append]
    omega

theorem view_append {f : Framer} (rested : f.Rested) (data : List Byte) :
    (f.append data).view = f.view := by
  simp only [view, append, rested.scanned, List.take_left, List.take_length]

/-- One call of `feed` continues the bytewise run with its chunk. -/
theorem feed_represents {f : Framer} {maxMsg : Nat} {popped : List (List Byte)}
    {run : Option MessageScan × List (List Byte)}
    (before : f.Represents maxMsg popped run) (data : List Byte) :
    (f.feed data).2.Represents maxMsg popped ((MessageScan.transducer maxMsg).resume run data) := by
  obtain ⟨_ | s, out⟩ := run
  · obtain ⟨error, ready⟩ := before
    simp only [feed, error, if_true, Transducer.resume_none]
    exact ⟨error, ready⟩
  · obtain ⟨rested, viewed, ready, sameMax⟩ := before
    have unread : (f.append data).buf.drop f.scan = data := by
      rw [rested.scanned]
      exact List.drop_left
    have loop := scanLoop_follows data (append_scanning rested data) unread
    rw [view_append rested, viewed, show (f.append data).maxMsg = maxMsg from sameMax] at loop
    rw [Transducer.resume_some]
    simp only [feed, rested.noError, Bool.false_eq_true, if_false, unread]
    cases run : (MessageScan.transducer maxMsg).run s data with
    | mk last emitted =>
      rw [run] at loop
      have delivered : popped ++ (f.ready ++ emitted) = out ++ emitted := by
        rw [← List.append_assoc, ready]
      cases last with
      | none =>
        obtain ⟨error, lastReady⟩ := loop
        rw [if_pos error]
        exact ⟨error, (congrArg (popped ++ ·) lastReady).trans delivered⟩
      | some t =>
        obtain ⟨scanning, lastView, lastReady, lastMax, scanned⟩ := loop
        obtain ⟨lastRested, keptView, keptReady, keptMax⟩ := compact_rested scanning scanned
        rw [scanning.noError]
        exact ⟨lastRested, keptView.trans lastView,
          (congrArg (popped ++ ·) (keptReady.trans lastReady)).trans delivered, keptMax.trans (lastMax.trans sameMax)⟩

theorem next_represents {f : Framer} {maxMsg : Nat} {popped : List (List Byte)}
    {run : Option MessageScan × List (List Byte)} (before : f.Represents maxMsg popped run) :
    f.next.2.Represents maxMsg (popped ++ f.next.1.toList) run := by
  unfold next
  cases ready : f.ready with
  | nil => simpa only [Option.toList_none, List.append_nil] using before
  | cons message rest =>
    have moved : popped ++ [message] ++ rest = popped ++ f.ready := by
      rw [ready, List.append_assoc, List.singleton_append]
    obtain ⟨_ | s, out⟩ := run
    · exact ⟨before.1, moved.trans before.2⟩
    · obtain ⟨rested, viewed, delivered, sameMax⟩ := before
      exact ⟨⟨rested.noError, rested.scanned, rested.outside, rested.inside⟩, viewed,
        moved.trans delivered, sameMax⟩

/-- Feeding a fresh framer once is one bytewise run. -/
theorem feed_new_represents (maxMsg : Nat) (data : List Byte) :
    ((new maxMsg).feed data).2.Represents maxMsg []
      ((MessageScan.transducer maxMsg).run MessageScan.idle data) := by
  have fed := feed_represents (represents_new maxMsg) data
  rwa [Transducer.resume_some, List.nil_append] at fed

end Framer
end JsonRpcTcp
