import JsonRpcTcp.FramerScan

namespace JsonRpcTcp
open Framer FramerCall

/-- Any sequence of calls continues the bytewise run with exactly the bytes it feeds. -/
theorem performAll_represents (calls : List FramerCall) {f : Framer} {maxMsg : Nat}
    {popped : List (List Byte)} {run : Option MessageScan × List (List Byte)}
    (before : f.Represents maxMsg popped run) :
    (performAll f calls).2.Represents maxMsg (popped ++ (performAll f calls).1)
      ((MessageScan.transducer maxMsg).resume run (stream calls)) := by
  induction calls generalizing f popped run with
  | nil => simpa only [performAll, stream, List.append_nil, Transducer.resume_nil] using before
  | cons call calls ih =>
    cases call with
    | feed chunk =>
      rw [stream, Transducer.resume_append]
      exact ih (feed_represents before chunk)
    | next =>
      rw [stream]
      simp only [performAll, ← List.append_assoc]
      exact ih (next_represents before)

/-- What the run of the bytewise scanner says about the observable framer state. -/
theorem Framer.Represents.observed {f : Framer} {maxMsg : Nat} {popped : List (List Byte)}
    {run : Option MessageScan × List (List Byte)} (represents : f.Represents maxMsg popped run) :
    popped ++ f.ready = run.2 ∧ f.hasError = run.1.isNone ∧
      ∀ s, run.1 = some s → f.pendingBytes = s.message.length := by
  obtain ⟨_ | s, out⟩ := run
  · exact ⟨represents.2, represents.1, fun _ impossible => by cases impossible⟩
  · obtain ⟨rested, viewed, delivered, _⟩ := represents
    refine ⟨delivered, rested.noError, ?_⟩
    intro t same
    cases same
    rw [← viewed]
    unfold view pendingBytes
    rcases Nat.eq_zero_or_pos f.depth with zero | positive
    · simp only [zero, if_true, rested.outside zero, List.length_nil]
    · simp only [Nat.pos_iff_ne_zero.mp positive, if_false, (rested.inside positive).1,
        List.drop_zero, rested.scanned, List.take_length]

/-- However a stream is cut into chunks, and wherever messages are popped
between them, the framer ends as if the stream had arrived at once. -/
theorem framer_chunk_invariance (maxMsg : Nat) (calls : List FramerCall) :
    let split := performAll (Framer.new maxMsg) calls
    let whole := ((Framer.new maxMsg).feed (stream calls)).2
    split.1 ++ split.2.ready = whole.ready ∧ split.2.hasError = whole.hasError ∧
      (whole.hasError = false → split.2.pendingBytes = whole.pendingBytes) := by
  intro split whole
  have once := (feed_new_represents maxMsg (stream calls)).observed
  have many := performAll_represents calls (represents_new maxMsg)
  rw [Transducer.resume_some, List.nil_append, List.nil_append] at many
  obtain ⟨delivered, failed, pending⟩ := many.observed
  obtain ⟨onceDelivered, onceFailed, oncePending⟩ := once
  rw [List.nil_append] at onceDelivered
  refine ⟨delivered.trans onceDelivered.symm, failed.trans onceFailed.symm, ?_⟩
  intro noError
  cases atEnd : ((MessageScan.transducer maxMsg).run MessageScan.idle (stream calls)).1 with
  | none =>
    rw [atEnd, Option.isNone_none] at onceFailed
    exact absurd (onceFailed.symm.trans noError) Bool.noConfusion
  | some s => exact (pending s atEnd).trans (oncePending s atEnd).symm

end JsonRpcTcp
