import JsonRpcTcp.EventStep

namespace JsonRpcTcp

/-! The other end of an event subscription: `process_event` and the process thread of the
subscriber's `ADEvntMgr`. -/

/-- An event as `send_event` sends it to the target of a subscription. The `cltToken` of its
event is that of the subscription. -/
structure Delivery where
  srvToken : Int
  ip : List Byte
  portNum : Int
  event : EventProcEntry
  deriving DecidableEq, Repr

namespace Delivery

/-- The subscription and the event. -/
def key (delivery : Delivery) : Int × Nat := (delivery.srvToken, delivery.event.number)

/-- The service that it is sent to. -/
def address (delivery : Delivery) : List Byte × Int := (delivery.ip, delivery.portNum)

end Delivery

/-- What `send_event` sends. -/
def EventEntry.delivery (target : EventEntry) (event : EventProcEntry) : Delivery :=
  { srvToken := target.srvToken, ip := target.ip, portNum := target.portNum
    event := { event with cltToken := target.cltToken } }

/-- Program points of the process thread, with its local variable. -/
inductive ProcessPc where
  | waiting
  | woken
  | swapping
  | looping (pending : List Delivery)
  | ended
  deriving DecidableEq, Repr

def ProcessPc.pending : ProcessPc → List Delivery
  | .looping pending => pending
  | _ => []

/-- The `ADEvntMgr` of a subscriber. `mapper` is the delivery between the queue and the
wakeup in `process_event`, which the thread of the mapper calls. -/
structure EventReceiver where
  mapper : Option Delivery
  processor : ProcessPc
  processEvent : List Delivery
  sema : Nat
  stopRequested : Bool
  -- history, not in the source: every delivery that was queued, those dropped from a full
  -- queue, and those that `notify_subscribers` was called for
  processed : List Delivery
  dropped : List Delivery
  received : List Delivery
  deriving DecidableEq, Repr

inductive ReceiverAction where
  | processEvent (delivery : Delivery)
  | wakeup
  | stop
  | semWait
  | interrupted
  | checkState
  | swap
  | notifySubscribers
  | callbackReturns
  deriving DecidableEq, Repr

namespace EventReceiver

def start : EventReceiver where
  mapper := none
  processor := .waiting
  processEvent := []
  sema := 0
  stopRequested := false
  processed := []
  dropped := []
  received := []

/-- The locked part of `process_event`. -/
def queueDelivery (s : EventReceiver) (delivery : Delivery) : EventReceiver :=
  if s.processEvent.length ≥ maxQueued then
    { s with processEvent := s.processEvent.tail ++ [delivery], processed := s.processed ++ [delivery]
             dropped := s.dropped ++ s.processEvent.head?.toList }
  else { s with processEvent := s.processEvent ++ [delivery], processed := s.processed ++ [delivery] }

/-- Back in `my_thread_func` after the callback. -/
def leaveCallback (s : EventReceiver) : EventReceiver :=
  { s with processor := if s.stopRequested then .ended else .waiting }

/-- `process_event`, `stop` and the process thread. -/
def step (s : EventReceiver) : ReceiverAction → Option EventReceiver
  | .processEvent delivery => onlyIf (s.mapper = none) { s.queueDelivery delivery with mapper := some delivery }
  | .wakeup => onlyIf (s.mapper.isSome = true) { s with mapper := none, sema := s.sema + 1 }
  | .stop => some { s with stopRequested := true, sema := s.sema + 1 }
  | .semWait => onlyIf (s.processor = .waiting ∧ 0 < s.sema) { s with processor := .woken, sema := s.sema - 1 }
  | .interrupted => onlyIf (s.processor = .waiting) s.leaveCallback
  | .checkState => onlyIf (s.processor = .woken) { s with processor := if s.stopRequested then .ended else .swapping }
  | .swap => onlyIf (s.processor = .swapping) { s with processor := .looping s.processEvent, processEvent := [] }
  | .notifySubscribers =>
    match s.processor with
    | .looping (delivery :: pending) =>
      some { s with processor := .looping pending, received := s.received ++ [delivery] }
    | _ => none
  | .callbackReturns => onlyIf (s.processor = .looping []) s.leaveCallback

/-- The deliveries that were not dropped: those received and those that will be, in order. -/
def kept (s : EventReceiver) : List Delivery := s.received ++ s.processor.pending ++ s.processEvent

/-- Every delivery that was queued is kept in its order or was dropped from a full queue, and
no wakeup is lost while the thread runs. -/
structure Sound (s : EventReceiver) : Prop where
  order : s.kept.Sublist s.processed
  whole : s.processed.Perm (s.kept ++ s.dropped)
  size : s.processEvent.length ≤ maxQueued
  wake : s.stopRequested = false → s.processEvent ≠ [] →
    s.mapper.isSome = true ∨ 0 < s.sema ∨ s.processor = .woken ∨ s.processor = .swapping

theorem sound_start : start.Sound where
  order := List.Sublist.refl _
  whole := List.Perm.refl _
  size := Nat.zero_le _
  wake := fun _ filled => absurd rfl filled

variable {s t : EventReceiver}

/-- A step of the thread that keeps the order of what is left. -/
theorem Sound.of_kept (sound : s.Sound) (kept : t.kept = s.kept) (processed : t.processed = s.processed)
    (dropped : t.dropped = s.dropped) (size : t.processEvent.length ≤ s.processEvent.length)
    (wake : t.stopRequested = false → t.processEvent ≠ [] →
      t.mapper.isSome = true ∨ 0 < t.sema ∨ t.processor = .woken ∨ t.processor = .swapping) : t.Sound where
  order := by
    rw [kept, processed]
    exact sound.order
  whole := by
    rw [kept, processed, dropped]
    exact sound.whole
  size := size.trans sound.size
  wake := wake

theorem queueDelivery_sound (sound : s.Sound) (delivery : Delivery) :
    Sound { s.queueDelivery delivery with mapper := some delivery } := by
  have length := sound.whole.length_eq
  simp only [kept, List.length_append] at length
  unfold queueDelivery
  split_ifs with full
  · obtain ⟨oldest, rest, queue⟩ : ∃ oldest rest, s.processEvent = oldest :: rest := by
      have positive : 0 < s.processEvent.length := Nat.lt_of_lt_of_le (by decide) full
      exact List.exists_cons_of_ne_nil (List.ne_nil_of_length_pos positive)
    have order := sound.order
    have whole := sound.whole
    have size := sound.size
    simp only [kept, queue] at order whole
    rw [queue, List.length_cons] at size full length
    constructor
    case order =>
      simp only [kept, queue, List.tail_cons, ← List.append_assoc]
      exact ((List.sublist_cons_self oldest rest).append_left _).trans order |>.append_right _
    case whole =>
      refine List.perm_iff_count.mpr fun other => ?_
      have count := List.perm_iff_count.mp whole other
      simp only [kept, queue, List.tail_cons, List.head?_cons, Option.toList_some, List.count_append,
        List.count_cons, List.count_nil] at count ⊢
      omega
    case size =>
      simp only [queue, List.tail_cons, List.length_append, List.length_singleton]
      omega
    case wake => exact fun _ _ => Or.inl rfl
  · constructor
    case order =>
      simp only [kept, ← List.append_assoc]
      exact sound.order.append_right _
    case whole =>
      refine List.perm_iff_count.mpr fun other => ?_
      have count := List.perm_iff_count.mp sound.whole other
      simp only [kept, List.count_append] at count ⊢
      omega
    case size =>
      simp only [List.length_append, List.length_singleton]
      omega
    case wake => exact fun _ _ => Or.inl rfl

theorem leaveCallback_sound (sound : s.Sound) (idle : s.processor.pending = [])
    (out : s.processor ≠ .woken ∧ s.processor ≠ .swapping) : s.leaveCallback.Sound := by
  refine sound.of_kept ?_ rfl rfl (Nat.le_refl _) ?_
  · unfold kept leaveCallback
    simp only [idle]
    split_ifs <;> rfl
  · intro goes filled
    rcases sound.wake goes filled with waking | posted | woken | swapping
    · exact Or.inl waking
    · exact Or.inr (Or.inl posted)
    · exact absurd woken out.1
    · exact absurd swapping out.2

theorem sound_step (sound : s.Sound) {action : ReceiverAction} (run : s.step action = some t) : t.Sound := by
  cases action with
  | processEvent delivery =>
    obtain ⟨_, rfl⟩ := onlyIf_eq_some.mp run
    exact queueDelivery_sound sound delivery
  | wakeup =>
    obtain ⟨_, rfl⟩ := onlyIf_eq_some.mp run
    exact sound.of_kept rfl rfl rfl (Nat.le_refl _) fun _ _ => Or.inr (Or.inl (Nat.succ_pos _))
  | stop =>
    cases run
    exact sound.of_kept rfl rfl rfl (Nat.le_refl _) fun goes _ => Bool.noConfusion goes
  | semWait =>
    obtain ⟨⟨here, _⟩, rfl⟩ := onlyIf_eq_some.mp run
    refine sound.of_kept ?_ rfl rfl (Nat.le_refl _) fun _ _ => Or.inr (Or.inr (Or.inl rfl))
    simp only [kept, here, ProcessPc.pending]
  | interrupted =>
    obtain ⟨here, rfl⟩ := onlyIf_eq_some.mp run
    exact leaveCallback_sound sound (by rw [here]; rfl) (by simp [here])
  | checkState =>
    obtain ⟨here, rfl⟩ := onlyIf_eq_some.mp run
    refine sound.of_kept ?_ rfl rfl (Nat.le_refl _) ?_
    · simp only [kept, here]
      split_ifs <;> rfl
    · intro goes _
      have running : s.stopRequested = false := goes
      simp [running]
  | swap =>
    obtain ⟨here, rfl⟩ := onlyIf_eq_some.mp run
    refine sound.of_kept ?_ rfl rfl (Nat.zero_le _) fun _ filled => absurd rfl filled
    simp [kept, here, ProcessPc.pending]
  | notifySubscribers =>
    simp only [step] at run
    split at run
    case h_1 delivery pending here =>
      cases run
      refine sound.of_kept ?_ rfl rfl (Nat.le_refl _) ?_
      · simp [kept, here, ProcessPc.pending]
      · intro goes filled
        have before := sound.wake goes filled
        rw [here] at before
        simpa using before
    case h_2 => cases run
  | callbackReturns =>
    obtain ⟨here, rfl⟩ := onlyIf_eq_some.mp run
    exact leaveCallback_sound sound (by rw [here]; rfl) (by simp [here])

theorem dropped_step (sound : s.Sound) {action : ReceiverAction} (run : s.step action = some t) :
    DropsOldest s.processEvent s.dropped t.dropped := by
  cases action <;> simp only [step, onlyIf_eq_some] at run
  case processEvent delivery =>
    obtain ⟨_, rfl⟩ := run
    have size := sound.size
    unfold queueDelivery
    split_ifs with full
    · cases queue : s.processEvent with
      | nil => exact absurd (queue ▸ full) (by decide)
      | cons oldest rest =>
        refine .inr ⟨oldest, rfl, ?_, rfl⟩
        rw [← queue]
        omega
    · exact .inl rfl
  case notifySubscribers =>
    split at run
    case h_1 =>
      cases run
      exact .inl rfl
    case h_2 => cases run
  case stop =>
    cases run
    exact .inl rfl
  all_goals
    obtain ⟨_, rfl⟩ := run
    exact .inl rfl

end EventReceiver
end JsonRpcTcp
