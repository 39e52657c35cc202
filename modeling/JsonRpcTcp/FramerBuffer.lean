import JsonRpcTcp.ClientFraming
import JsonRpcTcp.ServerCases

namespace JsonRpcTcp
open Function

/-! The buffer of a framer: what it holds of the stream, and how much. -/

/-- What a user of one framer can do. -/
inductive FramerAction where
  | feed (chunk : List Byte)
  | next
  | reset
  deriving DecidableEq, Repr

/-- A framer with its past. `fed` and `popped` are not in the source: the bytes that were fed and
the messages that were popped since it was made or last reset. -/
structure FramerHistory where
  framer : Framer
  fed : List Byte
  popped : List (List Byte)
  deriving DecidableEq, Repr

namespace FramerHistory

def new (maxMsg : Nat) : FramerHistory := { framer := Framer.new maxMsg, fed := [], popped := [] }

def step (h : FramerHistory) : FramerAction → FramerHistory
  | .feed chunk => { h with framer := (h.framer.feed chunk).2, fed := h.fed ++ chunk }
  | .next => { h with framer := h.framer.next.2, popped := h.popped ++ h.framer.next.1.toList }
  | .reset => { framer := h.framer.reset, fed := [], popped := [] }

def run (maxMsg : Nat) (actions : List FramerAction) : FramerHistory := actions.foldl step (new maxMsg)

theorem run_concat (maxMsg : Nat) (actions : List FramerAction) (action : FramerAction) :
    run maxMsg (actions ++ [action]) = (run maxMsg actions).step action :=
  List.foldl_concat step (new maxMsg) action actions

/-- The messages of the framer, popped or not. -/
def delivered (h : FramerHistory) : List (List Byte) := h.popped ++ h.framer.ready

end FramerHistory

namespace BracketDepth

theorem FirstZero.cons {b : BracketDepth} {c : Byte} {rest : List Byte} (open_ : b.depth ≠ 0)
    (first : (b.read c).FirstZero rest) : b.FirstZero (c :: rest) := by
  refine ⟨first.1, ?_⟩
  intro left right whole nonempty
  cases left with
  | nil => exact open_
  | cons d left =>
    obtain ⟨same, tail⟩ := List.cons.inj whole
    rw [same]
    exact first.2 left right tail nonempty

/-- Outside strings the missing brackets close everything. -/
theorem firstZero_closings (missing : Nat) {b : BracketDepth} (outside : b.inString = false)
    (depth : b.depth = missing) : b.FirstZero (List.replicate missing 0x7d) := by
  induction missing generalizing b with
  | zero =>
    refine ⟨depth, ?_⟩
    intro left right whole nonempty
    exact absurd (List.append_eq_nil_iff.mp whole).2 nonempty
  | succ missing ih =>
    have closes : b.read 0x7d = { b with depth := b.depth - 1 } := by
      unfold read
      rw [outside]
      rfl
    rw [List.replicate_succ]
    refine FirstZero.cons (by omega) ?_
    rw [closes]
    exact ih outside (by simp only; omega)

/-- Any text of open brackets can be closed. -/
theorem exists_firstZero {b : BracketDepth} (positive : 0 < b.depth) : ∃ rest, rest ≠ [] ∧ b.FirstZero rest := by
  obtain ⟨missing, depth⟩ := Int.eq_ofNat_of_zero_le (Int.le_of_lt positive)
  have some : missing ≠ 0 := by omega
  have nonzero : b.depth ≠ 0 := by omega
  cases inside : b.inString with
  | false => exact ⟨_, by simpa using some, firstZero_closings missing inside depth⟩
  | true =>
    have quoted : ∀ b' : BracketDepth, b'.inString = true → b'.escape = false → b'.depth = missing →
        b'.FirstZero (0x22 :: List.replicate missing 0x7d) := by
      intro b' inside' plain depth'
      have closes : b'.read 0x22 = { b' with inString := false } := by
        unfold read
        rw [inside', plain]
        rfl
      refine FirstZero.cons (by omega) ?_
      rw [closes]
      exact firstZero_closings missing rfl depth'
    cases escaped : b.escape with
    | false => exact ⟨_, List.cons_ne_nil _ _, quoted b inside escaped depth⟩
    | true =>
      have consumes : b.read 0x22 = { b with escape := false } := by
        unfold read
        rw [inside, escaped]
        rfl
      refine ⟨0x22 :: 0x22 :: List.replicate missing 0x7d, List.cons_ne_nil _ _, FirstZero.cons nonzero ?_⟩
      rw [consumes]
      exact quoted _ inside rfl depth

end BracketDepth

namespace MessageScan
variable {maxMsg : Nat} {s : MessageScan}

/-- Inside a message: it has begun with a bracket, its depth was positive ever since and it is not
above the limit. -/
structure Begun (maxMsg : Nat) (s : MessageScan) : Prop where
  opens : ∃ c rest, s.message = c :: rest ∧ isOpening c = true
  tracks : s.Tracks (BracketDepth.after s.message)
  above : ∀ left, left <+: s.message → left ≠ [] → 0 < (BracketDepth.after left).depth
  short : s.message.length ≤ maxMsg

theorem Begun.nonempty (begun : s.Begun maxMsg) : s.message ≠ [] := by
  obtain ⟨c, rest, same, _⟩ := begun.opens
  rw [same]
  exact List.cons_ne_nil c rest

theorem Begun.positive (begun : s.Begun maxMsg) : 0 < (BracketDepth.after s.message).depth :=
  begun.above s.message List.prefix_rfl begun.nonempty

/-- What brings the depth to zero for the first time completes the message. -/
theorem Begun.completed (begun : s.Begun maxMsg) {rest : List Byte}
    (first : (BracketDepth.after s.message).FirstZero rest) : IsMessage (s.message ++ rest) := by
  obtain ⟨c, tail, same, opening⟩ := begun.opens
  refine ⟨⟨c, tail ++ rest, by rw [same, List.cons_append], opening⟩, ?_, ?_⟩
  · rw [BracketDepth.after_append]
    exact first.1
  · intro left right whole leftNonempty rightNonempty
    rcases List.append_eq_append_iff.mp whole with ⟨middle, inside, _⟩ | ⟨middle, beyond, remains⟩
    · have positive := begun.above left ⟨middle, inside.symm⟩ leftNonempty
      omega
    · rw [beyond, BracketDepth.after_append]
      exact first.2 middle right remains.symm rightNonempty

/-- The rest of a message is what brings the depth to zero for the first time. -/
theorem Begun.rest_firstZero (begun : s.Begun maxMsg) {rest : List Byte} (message : IsMessage (s.message ++ rest)) :
    (BracketDepth.after s.message).FirstZero rest := by
  refine ⟨?_, ?_⟩
  · rw [← BracketDepth.after_append]
    exact message.balanced
  · intro left right whole nonempty
    rw [← BracketDepth.after_append]
    refine message.first (s.message ++ left) right ?_ (List.append_ne_nil_of_left_ne_nil begun.nonempty left) nonempty
    rw [List.append_assoc, whole]

/-- The bytes that were read, in order: separators and messages, and the unfinished message. -/
structure Accounts (maxMsg : Nat) (read : List Byte) (s : MessageScan) (out : List (List Byte)) : Prop where
  stream : ∃ parts gap, read = concatenation parts gap ++ s.message ∧ parts.map Prod.snd = out ∧
    (∀ part ∈ parts, (∀ c ∈ part.1, isSeparator c = true) ∧ IsMessage part.2) ∧ ∀ c ∈ gap, isSeparator c = true
  state : s.Outside ∨ s.Begun maxMsg

theorem accounts_idle (maxMsg : Nat) : Accounts maxMsg [] idle [] where
  stream := ⟨[], [], rfl, rfl, by simp, by simp⟩
  state := .inl ⟨rfl, rfl⟩

/-- A byte between two messages is skipped, or begins the next one. -/
theorem Accounts.outside {read : List Byte} {out new : List (List Byte)} {c : Byte} {t : MessageScan}
    (accounts : Accounts maxMsg read s out) (limit : 1 ≤ maxMsg) (outside : s.Outside)
    (reads : step maxMsg s c = some (t, new)) : Accounts maxMsg (read ++ [c]) t (out ++ new) := by
  obtain ⟨zero, empty⟩ := outside
  obtain ⟨parts, gap, same, messages, wellFormed, separated⟩ := accounts.stream
  rw [empty, List.append_nil] at same
  unfold step at reads
  rw [if_pos zero] at reads
  by_cases separator : isSeparator c = true
  · rw [if_pos separator] at reads
    cases reads
    rw [List.append_nil]
    refine ⟨⟨parts, gap ++ [c], ?_, messages, wellFormed, ?_⟩, .inl ⟨zero, empty⟩⟩
    · rw [same, empty, concatenation, concatenation, List.append_nil, List.append_assoc]
    · intro d member
      rcases List.mem_append.mp member with old | last
      · exact separated d old
      · rw [List.mem_singleton.mp last]
        exact separator
  · rw [if_neg separator] at reads
    by_cases opening : isOpening c = true
    · rw [opening, Bool.not_true, if_neg Bool.false_ne_true] at reads
      cases reads
      rw [List.append_nil]
      have opened := after_opening opening
      refine ⟨⟨parts, gap, ?_, messages, wellFormed, separated⟩, .inr ⟨⟨c, [], rfl, opening⟩, ?_, ?_, limit⟩⟩
      · rw [same]
      · rw [opened]
        exact ⟨rfl, rfl, rfl⟩
      · intro left starts nonempty
        rcases List.prefix_cons_iff.mp starts with none | ⟨rest, whole, empty⟩
        · exact absurd none nonempty
        · rw [whole, List.prefix_nil.mp empty, opened]
          decide
    · rw [Bool.eq_false_of_not_eq_true opening, Bool.not_false, if_pos (Eq.refl true)] at reads
      cases reads

/-- A byte of a message extends it, or completes it. -/
theorem Accounts.inside {read : List Byte} {out new : List (List Byte)} {c : Byte} {t : MessageScan}
    (accounts : Accounts maxMsg read s out) (begun : s.Begun maxMsg)
    (reads : step maxMsg s c = some (t, new)) : Accounts maxMsg (read ++ [c]) t (out ++ new) := by
  obtain ⟨parts, gap, same, messages, wellFormed, separated⟩ := accounts.stream
  have nonzero : s.depth ≠ 0 := by
    have depth := begun.tracks.depth
    have positive := begun.positive
    omega
  have short : s.message.length + 1 ≤ maxMsg := by
    by_contra long
    rw [step_long nonzero (by omega) c] at reads
    cases reads
  rcases step_tracks begun.tracks begun.positive short c with
    ⟨u, emits, outside, zero⟩ | ⟨u, extends_, tracks, message, positive⟩
  · cases emits.symm.trans reads
    have first : (BracketDepth.after s.message).FirstZero [c] := by
      refine BracketDepth.FirstZero.cons (by have := begun.positive; omega) ⟨zero, ?_⟩
      intro left right whole nonempty
      exact absurd (List.append_eq_nil_iff.mp whole).2 nonempty
    refine ⟨⟨parts ++ [(gap, s.message ++ [c])], [], ?_, ?_, ?_, by simp⟩, .inl outside⟩
    · rw [same, outside.2]
      simp only [concatenation, List.flatMap_append, List.flatMap_singleton, List.append_nil, List.append_assoc]
    · rw [List.map_append, messages, List.map_singleton]
    · intro part member
      rcases List.mem_append.mp member with old | last
      · exact wellFormed part old
      · rw [List.mem_singleton.mp last]
        exact ⟨separated, begun.completed first⟩
  · cases extends_.symm.trans reads
    rw [List.append_nil]
    obtain ⟨d, rest, begins, opening⟩ := begun.opens
    have after : BracketDepth.after t.message = (BracketDepth.after s.message).read c := by
      rw [message, BracketDepth.after_append]
      rfl
    refine ⟨⟨parts, gap, ?_, messages, wellFormed, separated⟩, .inr ⟨?_, after ▸ tracks, ?_, ?_⟩⟩
    · rw [same, message, List.append_assoc]
    · exact ⟨d, rest ++ [c], by rw [message, begins, List.cons_append], opening⟩
    · intro left starts nonempty
      rw [message] at starts
      rcases List.prefix_concat_iff.mp starts with whole | inside
      · rw [whole, ← message, after]
        exact positive
      · exact begun.above left inside nonempty
    · rw [message, List.length_append, List.length_singleton]
      exact short

/-- Whatever the scanner has read is accounted for. -/
theorem run_accounts (limit : 1 ≤ maxMsg) (read : List Byte)
    (run : ((transducer maxMsg).run idle read).1 = some s) :
    Accounts maxMsg read s ((transducer maxMsg).run idle read).2 := by
  refine (transducer maxMsg).run_invariant ?_ (accounts_idle maxMsg) read run
  intro read s out c t new accounts reads
  rcases accounts.state with outside | begun
  · exact accounts.outside limit outside reads
  · exact accounts.inside begun reads

end MessageScan

namespace Framer

/-- After an error nothing is buffered. -/
theorem feed_abandons {f : Framer} (empty : f.error = true → f.buf = []) (data : List Byte)
    (error : (f.feed data).2.error = true) : (f.feed data).2.buf = [] := by
  cases before : f.error with
  | true =>
    rw [feed_of_error before]
    exact empty before
  | false =>
    unfold feed at error ⊢
    rw [before, if_neg Bool.false_ne_true] at error ⊢
    dsimp only at error ⊢
    split_ifs at error ⊢ with failed
    · rfl
    · unfold compact at error
      dsimp only at error
      split_ifs at error <;> exact absurd error failed

/-- An unfinished message is delivered as soon as the rest of it has been fed. -/
theorem Represents.completed {f : Framer} {maxMsg : Nat} {popped out : List (List Byte)} {s : MessageScan}
    (represents : f.Represents maxMsg popped (some s, out)) (begun : s.Begun maxMsg) {rest : List Byte}
    (message : IsMessage (s.message ++ rest)) (short : (s.message ++ rest).length ≤ maxMsg) :
    (f.feed rest).2.ready = f.ready ++ [s.message ++ rest] := by
  have tail := MessageScan.run_message_rest maxMsg rest begun.tracks begun.positive (begun.rest_firstZero message)
  rw [← List.length_append] at tail
  obtain ⟨t, run, _⟩ := tail.1 short
  have fed := feed_represents represents rest
  rw [Transducer.resume_some, run] at fed
  have delivered := represents.observed.1
  have after := fed.observed.1
  dsimp only at delivered after
  rw [← delivered, List.append_assoc] at after
  exact List.append_cancel_left after

end Framer

namespace FramerHistory
variable {maxMsg : Nat} {h : FramerHistory}

/-- The framer has read what was fed to it, unless it has given up. -/
structure Sound (maxMsg : Nat) (h : FramerHistory) : Prop where
  limit : h.framer.maxMsg = maxMsg
  represents : h.framer.Represents maxMsg h.popped ((MessageScan.transducer maxMsg).run MessageScan.idle h.fed)
  abandoned : h.framer.error = true → h.framer.buf = []

theorem sound_new (maxMsg : Nat) : (new maxMsg).Sound maxMsg where
  limit := rfl
  represents := Framer.represents_new maxMsg
  abandoned error := by cases error

theorem Sound.step (sound : h.Sound maxMsg) (action : FramerAction) : (h.step action).Sound maxMsg := by
  cases action with
  | feed chunk =>
    refine ⟨(Framer.feed_maxMsg h.framer chunk).trans sound.limit, ?_, Framer.feed_abandons sound.abandoned chunk⟩
    unfold FramerHistory.step
    rw [Transducer.run_append]
    exact Framer.feed_represents sound.represents chunk
  | next =>
    obtain ⟨error, limit⟩ := Framer.next_fields h.framer
    have buf : h.framer.next.2.buf = h.framer.buf := by
      unfold Framer.next
      split <;> rfl
    refine ⟨limit.trans sound.limit, Framer.next_represents sound.represents, ?_⟩
    intro failed
    exact buf.trans (sound.abandoned (error.symm.trans failed))
  | reset =>
    unfold FramerHistory.step
    rw [Framer.reset_eq_new, sound.limit]
    exact sound_new maxMsg

theorem sound_run (maxMsg : Nat) (actions : List FramerAction) : (run maxMsg actions).Sound maxMsg := by
  induction actions using List.reverseRecOn with
  | nil => exact sound_new maxMsg
  | append_singleton actions action ih =>
    rw [run_concat]
    exact ih.step action

/-- The buffer between two calls: behind the separators and the messages of the stream it is the
unfinished message, which is delivered when its rest arrives. -/
structure Buffered (maxMsg : Nat) (h : FramerHistory) : Prop where
  stream : ∃ parts gap, h.fed = concatenation parts gap ++ h.framer.buf ∧ parts.map Prod.snd = h.delivered ∧
    (∀ part ∈ parts, (∀ c ∈ part.1, isSeparator c = true) ∧ IsMessage part.2) ∧ ∀ c ∈ gap, isSeparator c = true
  scanned : h.framer.scan = h.framer.buf.length
  empty : h.framer.buf = [] ↔ h.framer.depth = 0
  start : h.framer.depth ≠ 0 → h.framer.start = 0
  unfinished : h.framer.depth ≠ 0 → ∃ rest, rest ≠ [] ∧ IsMessage (h.framer.buf ++ rest)
  current : h.framer.depth ≠ 0 → ∀ rest, IsMessage (h.framer.buf ++ rest) → (h.framer.buf ++ rest).length ≤ maxMsg →
    (h.framer.feed rest).2.ready = h.framer.ready ++ [h.framer.buf ++ rest]
  bounded : h.framer.pendingBytes ≤ maxMsg

theorem Sound.buffered (sound : h.Sound maxMsg) (limit : 1 ≤ maxMsg) (noError : h.framer.hasError = false) :
    h.Buffered maxMsg := by
  have represents := sound.represents
  have accounts := fun s => MessageScan.run_accounts (s := s) limit h.fed
  cases read : (MessageScan.transducer maxMsg).run MessageScan.idle h.fed with
  | mk last out =>
    rw [read] at represents accounts
    cases last with
    | none => exact Bool.noConfusion (represents.1.symm.trans noError)
    | some s =>
      obtain ⟨rested, viewed, delivered, _⟩ := id represents
      obtain ⟨stream, state⟩ := accounts s rfl
      have depth : h.framer.depth = s.depth := congrArg MessageScan.depth viewed
      have buf : h.framer.buf = s.message := by
        rw [← viewed]
        unfold Framer.view
        rcases Nat.eq_zero_or_pos h.framer.depth with zero | positive
        · rw [if_pos zero, rested.outside zero]
        · rw [if_neg (Nat.pos_iff_ne_zero.mp positive), (rested.inside positive).1, rested.scanned, List.take_length,
            List.drop_zero]
      have begun : h.framer.depth ≠ 0 → s.Begun maxMsg := by
        intro inside
        rcases state with outside | begun
        · exact absurd (depth.trans outside.1) inside
        · exact begun
      refine ⟨?_, rested.scanned, ⟨?_, rested.outside⟩, ?_, ?_, ?_, ?_⟩
      · unfold FramerHistory.delivered
        rw [buf, delivered]
        exact stream
      · intro empty
        by_contra inside
        exact (begun inside).nonempty (buf.symm.trans empty)
      · exact fun inside => (rested.inside (Nat.pos_of_ne_zero inside)).1
      · intro inside
        obtain ⟨rest, some, first⟩ := BracketDepth.exists_firstZero (begun inside).positive
        rw [buf]
        exact ⟨rest, some, (begun inside).completed first⟩
      · intro inside rest message short
        rw [buf] at message short ⊢
        exact represents.completed (begun inside) message short
      · unfold Framer.pendingBytes
        rw [buf]
        rcases state with outside | begun
        · rw [outside.2]
          exact Nat.zero_le maxMsg
        · exact begun.short

/-- Never more than the limit is pending, after an error neither. -/
theorem run_pendingBytes (maxMsg : Nat) (limit : 1 ≤ maxMsg) (actions : List FramerAction) :
    (run maxMsg actions).framer.pendingBytes ≤ maxMsg := by
  have sound := sound_run maxMsg actions
  cases error : (run maxMsg actions).framer.hasError with
  | false => exact (sound.buffered limit error).bounded
  | true =>
    unfold Framer.pendingBytes
    rw [sound.abandoned error]
    exact Nat.zero_le maxMsg

end FramerHistory

/-- Whatever is fed to a framer, popped from it and reset, its buffer is the unfinished message, and
never longer than the limit. -/
theorem framer_buffer (maxMsg : Nat) (limit : 1 ≤ maxMsg) (actions : List FramerAction) :
    let h := FramerHistory.run maxMsg actions
    (h.framer.hasError = false → h.Buffered maxMsg) ∧ h.framer.pendingBytes ≤ maxMsg := by
  intro h
  exact ⟨(FramerHistory.sound_run maxMsg actions).buffered limit, FramerHistory.run_pendingBytes maxMsg limit actions⟩

/-- A request is cut inside a string, after a message that was popped and one that was not. -/
theorem framer_buffer_example :
    let h := FramerHistory.run 8
      [.feed (ascii "]"), .reset, .feed (ascii " []\n[\"]"), .next, .feed (ascii "\"],\x7b\"")]
    h.framer.hasError = false ∧ h.popped = [ascii "[]"] ∧ h.framer.ready = [ascii "[\"]\"]"] ∧
      h.framer.buf = ascii "\x7b\"" ∧ h.Buffered 8 := by
  intro h
  have noError : h.framer.hasError = false := by decide +kernel
  exact ⟨noError, by decide +kernel, by decide +kernel, by decide +kernel,
    (framer_buffer 8 (by decide) _).1 noError⟩

namespace Server
variable {ds : Descriptors}

/-- A framer as the server made it, and used only by its functions since. -/
def Fed (f : Framer) : Prop := ∃ actions, (FramerHistory.run maxJsonMsgSize actions).framer = f

theorem fed_new : Fed (Framer.new maxJsonMsgSize) := ⟨[], rfl⟩

theorem Fed.step {f : Framer} (used : Fed f) (action : FramerAction) :
    ∀ h : FramerHistory, h.framer = f → Fed (h.step action).framer := by
  intro h same
  obtain ⟨actions, made⟩ := used
  refine ⟨actions ++ [action], ?_⟩
  rw [FramerHistory.run_concat]
  cases action <;> simp only [FramerHistory.step, made, same]

theorem Fed.pending {f : Framer} (used : Fed f) : f.pendingBytes ≤ maxJsonMsgSize := by
  obtain ⟨actions, made⟩ := used
  rw [← made]
  exact FramerHistory.run_pendingBytes maxJsonMsgSize (by decide) actions

/-- The framers of all connections. -/
def FramersFed (s : Server) : Prop := ∀ fd entry, s.framers fd = some entry → Fed entry.framer

/-- One framer is replaced, or removed. -/
theorem FramersFed.update {s : Server} (used : s.FramersFed) (fd : Nat) (replaced : Option FramerEntry)
    (new : ∀ entry, replaced = some entry → Fed entry.framer) :
    ∀ other entry, update s.framers fd replaced other = some entry → Fed entry.framer := by
  intro other entry found
  by_cases same : other = fd
  · subst same
    rw [update_self] at found
    exact new entry found
  · rw [update_of_ne same] at found
    exact used other entry found

theorem listenStep_fed {s t : Server} {action : ListenAction} (used : s.FramersFed)
    (run : s.listenStep ds action = some t) : t.FramersFed := by
  cases quiet : action.frames with
  | false =>
    unfold FramersFed
    rw [(listenStep_frame run).framers quiet]
    exact used
  | true =>
    cases action <;> simp only [listenStep, onlyIf_eq_some] at run
    case register newSd ready conn port ip put =>
      obtain ⟨_, rfl⟩ := run
      refine used.update newSd _ fun entry made => ?_
      cases made
      exact fed_new
    case recv fd ready conn bytes =>
      obtain ⟨_, rfl⟩ := run
      unfold recv
      split
      · exact used
      · rename_i entry found
        refine used.update fd _ fun entry' fed => ?_
        cases fed
        exact (used fd entry found).step (.feed bytes) ⟨entry.framer, [], []⟩ rfl
    case checkConnection fd caller =>
      obtain ⟨_, rfl⟩ := run
      rcases s.checkConnection_cases fd caller with
        ⟨_, result⟩ | ⟨entry, holds, _, result⟩ | ⟨_, _, _, _, _, result⟩ <;> rw [result]
      · exact used
      · refine used.update fd _ fun entry' cleared => ?_
        cases cleared
        exact (used fd entry holds.1).step .reset ⟨entry.framer, [], []⟩ rfl
      · exact used
    case queueRequest fd info queued caller put =>
      obtain ⟨_, rfl⟩ := run
      unfold queueRequest
      split
      · exact used
      · rename_i entry found
        have popped : ∀ entry', some { entry with framer := entry.framer.next.2 } = some entry' →
            Fed entry'.framer := by
          intro entry' same
          cases same
          exact (used fd entry found).step .next ⟨entry.framer, [], []⟩ rfl
        cases put <;> exact used.update fd _ popped
    case closeSocket fd ready =>
      obtain ⟨_, rfl⟩ := run
      refine used.update fd _ fun entry none => ?_
      cases none
    all_goals cases quiet

/-- No connection has more of an unfinished request buffered than a request may be long. -/
theorem pending_requests_bounded {allow : Server → ServerAction → Prop} {clientIdent : Nat} {s : Server}
    (reach : Reach (step ds) allow (start ds clientIdent) s) {fd : Nat} {entry : FramerEntry}
    (found : s.framers fd = some entry) : entry.framer.pendingBytes ≤ maxJsonMsgSize := by
  have used : s.FramersFed := by
    refine reach.invariant (fun _ _ none => by cases none) ?_
    intro s t action used _ run
    cases action with
    | listen action => exact listenStep_fed used run
    | respond action =>
      unfold FramersFed
      rw [(responseStep_frame run).listen.framers]
      exact used
    | outside action =>
      unfold FramersFed
      rw [(outsideStep_frame run).2.1]
      exact used
  exact (used fd entry found).pending

end Server

end JsonRpcTcp
