import JsonRpcTcp.EventReceiver
import JsonRpcTcp.EventTargets

namespace JsonRpcTcp
open Function

/-! A publisher, the requests of its `send_event` on their way, and its subscribers. -/

def Sending.delivery (sending : Sending) : Delivery := sending.target.delivery sending.event

/-- `call` is the `send_event` that has not returned, with what it will return. -/
structure EventSystem (ι : Type) where
  log : EventLog ι
  call : Option Sending
  requests : List Delivery
  receivers : List Byte × Int → EventReceiver
  -- history, not in the source: the calls of `send_event` that have returned
  returned : List Sending

/-- `send` begins a `send_event` of the publisher and says whether it gets through to the
subscriber; a request may be lost, or processed after its sender has given up. -/
inductive EventSystemAction (ι : Type) where
  | mgr (action : EventAction ι)
  | send (delivers connected : Bool)
  | returns
  | lose (delivery : Delivery)
  | process (delivery : Delivery)
  | receiver (address : List Byte × Int) (action : ReceiverAction)

namespace EventSystem
variable {ι : Type}

def start : EventSystem ι where
  log := .start
  call := none
  requests := []
  receivers := fun _ => .start
  returned := []

/-- What the publisher can do on its own: the notify thread waits for `send_event`. -/
def admits (call : Option Sending) : EventAction ι → Bool
  | .sendEvent _ => false
  | .updateCounts _ => call.isNone
  | _ => true

/-- The subscriber is through with `process_event`, so that it has answered. -/
def Acknowledged (s : EventSystem ι) (delivery : Delivery) : Prop :=
  delivery ∈ (s.receivers delivery.address).processed ∧ (s.receivers delivery.address).mapper ≠ some delivery

instance (s : EventSystem ι) (delivery : Delivery) : Decidable (s.Acknowledged delivery) :=
  inferInstanceAs (Decidable (_ ∧ _))

/-- What a subscriber can do on its own. -/
def ownAction : ReceiverAction → Bool
  | .processEvent _ => false
  | _ => true

variable [DecidableEq ι]

/-- `send_event` returns 0 only for an answer of the subscriber. -/
def step (s : EventSystem ι) : EventSystemAction ι → Option (EventSystem ι)
  | .mgr action =>
    if admits s.call action then (s.log.step action).map fun log => { s with log := log } else none
  | .send delivers connected =>
    let sends := s.log.mgr.sends (.sendEvent delivers)
    if s.call.isNone then (s.log.step (.sendEvent delivers)).map fun log =>
      { s with log := log, call := sends.head?
               requests := if connected then s.requests ++ sends.map Sending.delivery else s.requests }
    else none
  | .returns => s.call.bind fun sending => onlyIf (sending.delivered = true → s.Acknowledged sending.delivery)
      { s with call := none, returned := s.returned ++ [sending] }
  | .lose delivery => onlyIf (delivery ∈ s.requests) { s with requests := s.requests.erase delivery }
  | .process delivery =>
    if delivery ∈ s.requests then ((s.receivers delivery.address).step (.processEvent delivery)).map fun receiver =>
      { s with requests := s.requests.erase delivery, receivers := update s.receivers delivery.address receiver }
    else none
  | .receiver address action =>
    if ownAction action then ((s.receivers address).step action).map fun receiver =>
      { s with receivers := update s.receivers address receiver }
    else none

/-- Any calls and losses, in any order. -/
def Anything (_ : EventSystem ι) (_ : EventSystemAction ι) : Prop := True

instance (s : EventSystem ι) (action : EventSystemAction ι) : Decidable (s.Anything action) := instDecidableTrue

omit [DecidableEq ι] in
theorem sends_other {mgr : EvntMgr ι} {call : Option Sending} {action : EventAction ι} (admitted : admits call action = true) :
    mgr.sends action = [] := by
  cases action <;> first | rfl | cases admitted

omit [DecidableEq ι] in
/-- The notify thread sends to one target at a time. -/
theorem sends_single (mgr : EvntMgr ι) (delivers : Bool) :
    mgr.sends (.sendEvent delivers) = (mgr.sends (.sendEvent delivers)).head?.toList := by
  unfold EvntMgr.sends
  cases mgr.notifier with
  | sending event targets pending failed delivered =>
    cases targets with
    | nil => rfl
    | cons target targets => cases mgr.stopRequested <;> rfl
  | _ => rfl

omit [DecidableEq ι] in
/-- What it sends is the event that it delivers. -/
theorem sends_current {mgr : EvntMgr ι} {action : EventAction ι} {sending : Sending} (member : sending ∈ mgr.sends action) :
    mgr.notifier.current = some sending.event := by
  cases action with
  | sendEvent delivers =>
    simp only [EvntMgr.sends] at member
    split at member
    case h_1 event target targets pending failed delivered here =>
      split_ifs at member
      · exact absurd member List.not_mem_nil
      · rw [List.mem_singleton.mp member, here]
        rfl
    case h_2 => exact absurd member List.not_mem_nil
  | _ => exact absurd member List.not_mem_nil

/-- Queued events stay in the history. -/
theorem queued_step {s t : EvntMgr ι} {action : EventAction ι} (run : s.step action = some t) : s.queued ⊆ t.queued := by
  cases action with
  | notifyEvent producer eventNum eventArg eventArg2 =>
    obtain ⟨_, rfl⟩ := onlyIf_eq_some.mp run
    simp only [EvntMgr.queueEvent]
    split_ifs <;> exact List.subset_append_left _ _
  | register entry =>
    obtain ⟨_, rfl⟩ := onlyIf_eq_some.mp run
    simp only [EvntMgr.registerEventSubscription]
    split_ifs <;> exact List.Subset.refl _
  | unregister srvToken =>
    cases run
    simp only [EvntMgr.unregisterEventSubscription]
    split_ifs <;> exact List.Subset.refl _
  | stop =>
    cases run
    exact List.Subset.refl _
  | wakeup | semWait | interrupted | checkState | swap | callbackReturns =>
    obtain ⟨_, rfl⟩ := onlyIf_eq_some.mp run
    exact List.Subset.refl _
  | snapshot | updateCounts =>
    simp only [EvntMgr.step] at run
    split at run <;> cases run
    exact List.Subset.refl _
  | sendEvent delivers =>
    simp only [EvntMgr.step] at run
    split at run
    case h_1 => cases run; split_ifs <;> exact List.Subset.refl _
    case h_2 => cases run

/-- A step of the system is a step of the publisher, or leaves it alone. -/
theorem log_step {s t : EventSystem ι} {action : EventSystemAction ι} (run : s.step action = some t) :
    t.log = s.log ∨ ∃ action, s.log.step action = some t.log := by
  cases action with
  | mgr action =>
    simp only [step] at run
    split_ifs at run
    obtain ⟨log, inner, rfl⟩ := Option.map_eq_some_iff.mp run
    exact .inr ⟨action, inner⟩
  | send delivers connected =>
    simp only [step] at run
    split_ifs at run
    · obtain ⟨log, inner, rfl⟩ := Option.map_eq_some_iff.mp run
      exact .inr ⟨.sendEvent delivers, inner⟩
    · obtain ⟨log, inner, rfl⟩ := Option.map_eq_some_iff.mp run
      exact .inr ⟨.sendEvent delivers, inner⟩
  | returns =>
    obtain ⟨sending, _, run⟩ := Option.bind_eq_some_iff.mp run
    obtain ⟨_, rfl⟩ := onlyIf_eq_some.mp run
    exact .inl rfl
  | lose delivery =>
    obtain ⟨_, rfl⟩ := onlyIf_eq_some.mp run
    exact .inl rfl
  | process delivery =>
    simp only [step] at run
    split_ifs at run
    obtain ⟨receiver, _, rfl⟩ := Option.map_eq_some_iff.mp run
    exact .inl rfl
  | receiver address action =>
    simp only [step] at run
    split_ifs at run
    obtain ⟨receiver, _, rfl⟩ := Option.map_eq_some_iff.mp run
    exact .inl rfl

/-- The publisher by itself. -/
theorem reach_log {s : EventSystem ι} (reach : Reach step Anything start s) :
    Reach EventLog.step EventLog.Anything .start s.log := by
  refine Reach.simulation EventSystem.log (fun s t action _ _ run => ?_) reach
  exact (log_step run).imp_right fun ⟨action, inner⟩ => ⟨action, trivial, inner⟩

omit [DecidableEq ι] in
theorem processed_own {s t : EventReceiver} {action : ReceiverAction} (own : ownAction action = true)
    (run : s.step action = some t) : t.processed = s.processed := by
  cases action with
  | processEvent delivery => cases own
  | stop =>
    cases run
    rfl
  | wakeup | semWait | interrupted | checkState | swap | callbackReturns =>
    obtain ⟨_, rfl⟩ := onlyIf_eq_some.mp run
    rfl
  | notifySubscribers =>
    simp only [EventReceiver.step] at run
    split at run <;> cases run
    rfl

omit [DecidableEq ι] in
theorem processed_processEvent {s t : EventReceiver} {delivery : Delivery}
    (run : s.step (.processEvent delivery) = some t) : t.processed = s.processed ++ [delivery] := by
  obtain ⟨_, rfl⟩ := onlyIf_eq_some.mp run
  simp only [EventReceiver.queueDelivery]
  split_ifs <;> rfl

/-- What a step can do to a delivery. -/
inductive Moves (s t : EventSystem ι) : Prop
  | quiet (sent : t.log.sent = s.log.sent) (call : t.call = s.call) (returned : t.returned = s.returned)
      (requests : t.requests.Sublist s.requests)
      (receivers : ∀ address, t.receivers address = s.receivers address ∨
        ∃ action, ownAction action = true ∧ (s.receivers address).step action = some (t.receivers address))
  | sends {sending : Sending} (idle : s.call = none) (call : t.call = some sending)
      (sent : t.log.sent = s.log.sent ++ [sending]) (returned : t.returned = s.returned)
      (requests : t.requests.Sublist (s.requests ++ [sending.delivery])) (receivers : t.receivers = s.receivers)
  | returns {sending : Sending} (call : s.call = some sending) (idle : t.call = none)
      (acknowledged : sending.delivered = true → s.Acknowledged sending.delivery) (sent : t.log.sent = s.log.sent)
      (returned : t.returned = s.returned ++ [sending]) (requests : t.requests = s.requests)
      (receivers : t.receivers = s.receivers)
  | processes {delivery : Delivery} (member : delivery ∈ s.requests) (sent : t.log.sent = s.log.sent)
      (call : t.call = s.call) (returned : t.returned = s.returned) (requests : t.requests = s.requests.erase delivery)
      (here : (s.receivers delivery.address).step (.processEvent delivery) = some (t.receivers delivery.address))
      (elsewhere : ∀ address, address ≠ delivery.address → t.receivers address = s.receivers address)

theorem step_moves {s t : EventSystem ι} {action : EventSystemAction ι} (run : s.step action = some t) : Moves s t := by
  cases action with
  | mgr action =>
    simp only [step] at run
    split_ifs at run with admitted
    obtain ⟨log, inner, rfl⟩ := Option.map_eq_some_iff.mp run
    obtain ⟨mgr, _, rfl⟩ := Option.map_eq_some_iff.mp inner
    refine .quiet ?_ rfl rfl (List.Sublist.refl _) fun _ => .inl rfl
    simp only [sends_other admitted, List.append_nil]
  | send delivers connected =>
    simp only [step] at run
    split at run
    case isTrue idle =>
      obtain ⟨log, inner, rfl⟩ := Option.map_eq_some_iff.mp run
      obtain ⟨mgr, _, rfl⟩ := Option.map_eq_some_iff.mp inner
      have none := Option.isNone_iff_eq_none.mp idle
      have single := sends_single s.log.mgr delivers
      cases sends : (s.log.mgr.sends (.sendEvent delivers)).head? with
      | none =>
        rw [sends, Option.toList_none] at single
        refine .quiet ?_ none.symm rfl ?_ fun _ => .inl rfl
        · simp only [single, List.append_nil]
        · simp only [single, List.map_nil, List.append_nil, ite_self]
          exact List.Sublist.refl _
      | some sending =>
        rw [sends, Option.toList_some] at single
        refine .sends none rfl ?_ rfl ?_ rfl
        · simp only [single]
        · simp only [single, List.map_singleton]
          split_ifs
          · exact List.Sublist.refl _
          · exact List.sublist_append_left _ _
    case isFalse => cases run
  | returns =>
    obtain ⟨sending, call, run⟩ := Option.bind_eq_some_iff.mp run
    obtain ⟨acknowledged, rfl⟩ := onlyIf_eq_some.mp run
    exact .returns call rfl acknowledged rfl rfl rfl rfl
  | lose delivery =>
    obtain ⟨_, rfl⟩ := onlyIf_eq_some.mp run
    exact .quiet rfl rfl rfl List.erase_sublist fun _ => .inl rfl
  | process delivery =>
    simp only [step] at run
    split_ifs at run with member
    obtain ⟨receiver, inner, rfl⟩ := Option.map_eq_some_iff.mp run
    refine .processes member rfl rfl rfl rfl ?_ fun address other => ?_
    · simp only [update_self, inner]
    · simp only [update_of_ne other]
  | receiver address action =>
    simp only [step] at run
    split_ifs at run with own
    obtain ⟨receiver, inner, rfl⟩ := Option.map_eq_some_iff.mp run
    refine .quiet rfl rfl rfl (List.Sublist.refl _) fun other => ?_
    rcases eq_or_ne other address with rfl | different
    · exact .inr ⟨action, own, by simp only [update_self, inner]⟩
    · exact .inl (by simp only [update_of_ne different])

/-- The receivers by themselves. -/
theorem reach_sound {s : EventSystem ι} (reach : Reach step Anything start s) (address : List Byte × Int) :
    (s.receivers address).Sound := by
  induction reach with
  | start => exact EventReceiver.sound_start
  | @next s t action _ _ run ih =>
    cases step_moves run with
    | quiet _ _ _ _ receivers =>
      rcases receivers address with same | ⟨action, _, inner⟩
      · exact same ▸ ih
      · exact EventReceiver.sound_step ih inner
    | sends _ _ _ _ _ receivers | returns _ _ _ _ _ _ receivers => exact receivers ▸ ih
    | @processes delivery _ _ _ _ _ here elsewhere =>
      rcases eq_or_ne address delivery.address with rfl | different
      · exact EventReceiver.sound_step ih here
      · exact elsewhere address different ▸ ih

omit [DecidableEq ι] in
theorem processed_quiet {s t : EventSystem ι} {address : List Byte × Int}
    (receivers : t.receivers address = s.receivers address ∨
      ∃ action, ownAction action = true ∧ (s.receivers address).step action = some (t.receivers address)) :
    (t.receivers address).processed = (s.receivers address).processed := by
  rcases receivers with same | ⟨action, own, inner⟩
  · rw [same]
  · exact processed_own own inner

/-- Where a delivery is and what its sender knows of it. -/
structure Linked (s : EventSystem ι) : Prop where
  calls : s.log.sent = s.returned ++ s.call.toList
  requested : ∀ delivery ∈ s.requests, ∃ sending ∈ s.log.sent, sending.delivery = delivery
  processed : ∀ address, ∀ delivery ∈ (s.receivers address).processed,
    delivery.address = address ∧ ∃ sending ∈ s.log.sent, sending.delivery = delivery
  once : (s.requests.map Delivery.key).Nodup ∧ ∀ address, ((s.receivers address).processed.map Delivery.key).Nodup
  apart : ∀ delivery ∈ s.requests, ∀ address, ∀ other ∈ (s.receivers address).processed, delivery.key ≠ other.key
  acknowledged : ∀ sending ∈ s.returned, sending.delivered = true →
    sending.delivery ∈ (s.receivers sending.delivery.address).processed
  -- a delivery that overtakes an older one has left a sender behind that gave up
  order : ∀ address, (s.receivers address).processed.Pairwise fun delivery later =>
    delivery.srvToken = later.srvToken → later.event.number < delivery.event.number →
      ∀ sending ∈ s.returned, sending.delivery = later → sending.delivered = false

omit [DecidableEq ι] in
theorem linked_start : (start : EventSystem ι).Linked where
  calls := rfl
  requested := by simp [start]
  processed := by simp [start, EventReceiver.start]
  once := ⟨List.nodup_nil, fun _ => List.nodup_nil⟩
  apart := by simp [start]
  acknowledged := by simp [start]
  order := fun _ => List.Pairwise.nil

/-- The calls of `send_event`, by subscription and event. -/
theorem sent_order {log : EventLog ι} (reach : Reach EventLog.step EventLog.Anything .start log) :
    log.sent.Pairwise fun sending later =>
      sending.delivery.srvToken = later.delivery.srvToken → sending.delivery.event.number < later.delivery.event.number := by
  have ordered := (EvntMgr.reach_ordered (EventLog.reach_mgr reach)).order
  rw [EventLog.reach_attempts reach] at ordered
  exact List.pairwise_map.mp ordered

omit [DecidableEq ι] in
theorem Linked.quiet {s t : EventSystem ι} (linked : s.Linked) (sent : t.log.sent = s.log.sent) (call : t.call = s.call)
    (returned : t.returned = s.returned) (requests : t.requests.Sublist s.requests)
    (processed : ∀ address, (t.receivers address).processed = (s.receivers address).processed) : t.Linked where
  calls := by rw [sent, call, returned, linked.calls]
  requested := by
    rw [sent]
    exact fun delivery member => linked.requested delivery (requests.subset member)
  processed := by
    intro address
    rw [processed, sent]
    exact linked.processed address
  once := by
    refine ⟨linked.once.1.sublist (requests.map _), fun address => ?_⟩
    rw [processed]
    exact linked.once.2 address
  apart := by
    intro delivery member address
    rw [processed]
    exact linked.apart delivery (requests.subset member) address
  acknowledged := by
    intro sending
    rw [returned, processed]
    exact linked.acknowledged sending
  order := by
    intro address
    rw [processed, returned]
    exact linked.order address

omit [DecidableEq ι] in
theorem Linked.sends {s t : EventSystem ι} (linked : s.Linked) {sending : Sending}
    (fresh : ∀ older ∈ s.log.sent, older.delivery.key ≠ sending.delivery.key) (idle : s.call = none)
    (call : t.call = some sending) (sent : t.log.sent = s.log.sent ++ [sending]) (returned : t.returned = s.returned)
    (requests : t.requests.Sublist (s.requests ++ [sending.delivery])) (receivers : t.receivers = s.receivers) :
    t.Linked := by
  have kept : ∀ {delivery : Delivery}, (∃ older ∈ s.log.sent, older.delivery = delivery) →
      (∃ older ∈ t.log.sent, older.delivery = delivery) ∧ delivery.key ≠ sending.delivery.key := by
    rintro delivery ⟨older, member, rfl⟩
    rw [sent]
    exact ⟨⟨older, List.mem_append_left _ member, rfl⟩, fresh older member⟩
  have origin : ∀ delivery ∈ t.requests, delivery ∈ s.requests ∨ delivery = sending.delivery := by
    intro delivery member
    rcases List.mem_append.mp (requests.subset member) with old | new
    · exact .inl old
    · exact .inr (List.mem_singleton.mp new)
  constructor
  case calls =>
    have before := linked.calls
    rw [idle, Option.toList_none, List.append_nil] at before
    rw [sent, call, returned, before]
    rfl
  case requested =>
    intro delivery member
    rcases origin delivery member with old | rfl
    · exact (kept (linked.requested delivery old)).1
    · exact ⟨sending, by rw [sent]; exact List.mem_append_right _ (List.mem_singleton_self _), rfl⟩
  case processed =>
    rw [receivers]
    intro address delivery member
    obtain ⟨home, before⟩ := linked.processed address delivery member
    exact ⟨home, (kept before).1⟩
  case once =>
    rw [receivers]
    refine ⟨List.Nodup.sublist (requests.map _) ?_, linked.once.2⟩
    rw [List.map_append, List.map_singleton]
    refine List.nodup_append.mpr ⟨linked.once.1, List.nodup_singleton _, ?_⟩
    intro key member other last
    obtain ⟨delivery, old, rfl⟩ := List.mem_map.mp member
    rw [List.mem_singleton.mp last]
    exact (kept (linked.requested delivery old)).2
  case apart =>
    rw [receivers]
    intro delivery member address other there
    rcases origin delivery member with old | rfl
    · exact linked.apart delivery old address other there
    · exact (kept (linked.processed address other there).2).2.symm
  case acknowledged =>
    rw [returned, receivers]
    exact linked.acknowledged
  case order =>
    rw [returned, receivers]
    exact linked.order

omit [DecidableEq ι] in
theorem Linked.returns {s t : EventSystem ι} (linked : s.Linked)
    (ordered : s.log.sent.Pairwise fun sending later =>
      sending.delivery.srvToken = later.delivery.srvToken → sending.delivery.event.number < later.delivery.event.number)
    {sending : Sending} (call : s.call = some sending) (idle : t.call = none)
    (acknowledged : sending.delivered = true → s.Acknowledged sending.delivery) (sent : t.log.sent = s.log.sent)
    (returned : t.returned = s.returned ++ [sending]) (requests : t.requests = s.requests)
    (receivers : t.receivers = s.receivers) : t.Linked := by
  have calls := linked.calls
  rw [call, Option.toList_some] at calls
  constructor
  case calls => rw [sent, idle, returned, calls, Option.toList_none, List.append_nil]
  case requested =>
    rw [requests, sent]
    exact linked.requested
  case processed =>
    rw [receivers, sent]
    exact linked.processed
  case once =>
    rw [requests, receivers]
    exact linked.once
  case apart =>
    rw [requests, receivers]
    exact linked.apart
  case acknowledged =>
    rw [returned, receivers]
    intro other member delivered
    rcases List.mem_append.mp member with old | new
    · exact linked.acknowledged other old delivered
    · rw [List.mem_singleton.mp new] at delivered ⊢
      exact (acknowledged delivered).1
  case order =>
    rw [returned, receivers]
    intro address
    refine List.Pairwise.imp_of_mem ?_ (linked.order address)
    intro delivery later member _ before token overtaken other made same
    rcases List.mem_append.mp made with old | new
    · exact before token overtaken other old same
    -- nothing that was sent is younger than the call that returns
    · rw [List.mem_singleton.mp new] at same
      obtain ⟨_, origin, inside, rfl⟩ := linked.processed address delivery member
      rw [calls] at ordered inside
      rcases List.mem_append.mp inside with older | last
      · have less := (List.pairwise_append.mp ordered).2.2 origin older sending (List.mem_singleton_self _)
          (by rw [same]; exact token)
        rw [same] at less
        omega
      · rw [List.mem_singleton.mp last, same] at overtaken
        exact absurd overtaken (Nat.lt_irrefl _)

omit [DecidableEq ι] in
theorem Linked.processes {s t : EventSystem ι} (linked : s.Linked) {delivery : Delivery} (member : delivery ∈ s.requests)
    (sent : t.log.sent = s.log.sent) (call : t.call = s.call) (returned : t.returned = s.returned)
    (requests : t.requests = s.requests.erase delivery)
    (here : (t.receivers delivery.address).processed = (s.receivers delivery.address).processed ++ [delivery])
    (elsewhere : ∀ address, address ≠ delivery.address →
      (t.receivers address).processed = (s.receivers address).processed) : t.Linked := by
  have origin : ∀ address, ∀ other ∈ (t.receivers address).processed,
      other ∈ (s.receivers address).processed ∨ other = delivery ∧ address = delivery.address := by
    intro address other there
    rcases eq_or_ne address delivery.address with rfl | different
    · rw [here] at there
      rcases List.mem_append.mp there with old | new
      · exact .inl old
      · exact .inr ⟨List.mem_singleton.mp new, rfl⟩
    · rw [elsewhere address different] at there
      exact .inl there
  have grows : ∀ address, (s.receivers address).processed ⊆ (t.receivers address).processed := by
    intro address
    rcases eq_or_ne address delivery.address with rfl | different
    · rw [here]
      exact List.subset_append_left _ _
    · rw [elsewhere address different]
      exact List.Subset.refl _
  have left : ∀ other ∈ s.requests.erase delivery, other ∈ s.requests ∧ other.key ≠ delivery.key := by
    intro other remains
    have inside := List.mem_of_mem_erase remains
    refine ⟨inside, fun same => ?_⟩
    have equal : other = delivery := List.inj_on_of_nodup_map linked.once.1 inside member same
    rw [equal] at remains
    exact linked.once.1.of_map.not_mem_erase remains
  constructor
  case calls => rw [sent, call, returned, linked.calls]
  case requested =>
    rw [requests, sent]
    exact fun other remains => linked.requested other (left other remains).1
  case processed =>
    rw [sent]
    intro address other there
    rcases origin address other there with old | ⟨rfl, rfl⟩
    · exact linked.processed address other old
    · exact ⟨rfl, linked.requested other member⟩
  case once =>
    refine ⟨?_, fun address => ?_⟩
    · rw [requests]
      exact linked.once.1.sublist (List.erase_sublist.map _)
    · rcases eq_or_ne address delivery.address with rfl | different
      · rw [here, List.map_append, List.map_singleton]
        refine List.nodup_append.mpr ⟨linked.once.2 _, List.nodup_singleton _, ?_⟩
        intro key inside other last
        obtain ⟨old, there, rfl⟩ := List.mem_map.mp inside
        rw [List.mem_singleton.mp last]
        exact (linked.apart delivery member _ old there).symm
      · rw [elsewhere address different]
        exact linked.once.2 address
  case apart =>
    rw [requests]
    intro other remains address processed there
    obtain ⟨inside, differs⟩ := left other remains
    rcases origin address processed there with old | ⟨rfl, rfl⟩
    · exact linked.apart other inside address processed old
    · exact differs
  case acknowledged =>
    rw [returned]
    exact fun sending made delivered => grows _ (linked.acknowledged sending made delivered)
  case order =>
    rw [returned]
    intro address
    rcases eq_or_ne address delivery.address with rfl | different
    · rw [here]
      refine List.pairwise_append.mpr ⟨linked.order _, List.pairwise_singleton _ _, ?_⟩
      intro older _ last new _ _ sending made same
      rw [List.mem_singleton.mp new] at same
      -- it was not processed before, so its sender has no answer
      by_contra answered
      have before := linked.acknowledged sending made (by simpa using answered)
      rw [same] at before
      exact linked.apart delivery member _ delivery before rfl
    · rw [elsewhere address different]
      exact linked.order address

theorem reach_linked {s : EventSystem ι} (reach : Reach step Anything start s) : s.Linked := by
  induction reach with
  | start => exact linked_start
  | @next s t action before _ run ih =>
    have after : Reach step Anything start t := .next before trivial run
    cases step_moves run with
    | quiet sent call returned requests receivers =>
      exact ih.quiet sent call returned requests fun address => processed_quiet (receivers address)
    | @sends sending idle call sent returned requests receivers =>
      refine ih.sends ?_ idle call sent returned requests receivers
      intro older member same
      have ordered := sent_order (reach_log after)
      rw [sent] at ordered
      have less := (List.pairwise_append.mp ordered).2.2 older member sending (List.mem_singleton_self _)
        (congrArg Prod.fst same)
      have equal : older.delivery.event.number = sending.delivery.event.number := congrArg Prod.snd same
      omega
    | returns call idle acknowledged sent returned requests receivers =>
      exact ih.returns (sent_order (reach_log before)) call idle acknowledged sent returned requests receivers
    | processes member sent call returned requests here elsewhere =>
      exact ih.processes member sent call returned requests (processed_processEvent here) fun address different => by
        rw [elsewhere address different]

/-- What was sent is one of the queued events. -/
theorem sent_queued {log : EventLog ι} (reach : Reach EventLog.step EventLog.Anything .start log) :
    ∀ sending ∈ log.sent, sending.event ∈ log.mgr.queued := by
  induction reach with
  | start => simp [EventLog.start]
  | @next s t action before _ run ih =>
    obtain ⟨mgr, inner, rfl⟩ := Option.map_eq_some_iff.mp run
    intro sending member
    rcases List.mem_append.mp member with old | new
    · exact queued_step inner (ih sending old)
    · have current := sends_current new
      have known := (EvntMgr.reach_ordered (EventLog.reach_mgr before)).known sending.event
      rw [current] at known
      exact queued_step inner (known List.mem_cons_self)

/-- The process thread of a subscriber has nothing left to do. -/
structure Idle (receiver : EventReceiver) : Prop where
  processor : receiver.processor = .waiting
  sema : receiver.sema = 0
  mapper : receiver.mapper = none
  goes : receiver.stopRequested = false

omit [DecidableEq ι] in
/-- It has received all that was queued, but for what was dropped. -/
theorem received_or_dropped {receiver : EventReceiver} (sound : receiver.Sound) (idle : Idle receiver) {delivery : Delivery}
    (member : delivery ∈ receiver.processed) : delivery ∈ receiver.received ∨ delivery ∈ receiver.dropped := by
  have empty : receiver.processEvent = [] := by
    by_contra filled
    rcases sound.wake idle.goes filled with waking | posted | woken | swapping
    · rw [idle.mapper] at waking
      cases waking
    · rw [idle.sema] at posted
      exact Nat.lt_irrefl _ posted
    · rw [idle.processor] at woken
      cases woken
    · rw [idle.processor] at swapping
      cases swapping
  have kept := sound.whole.subset member
  rw [EventReceiver.kept, idle.processor, empty] at kept
  simpa [ProcessPc.pending] using kept

theorem dropped_mgr {s t : EventSystem ι} (reach : Reach step Anything start s) {action : EventSystemAction ι}
    (run : s.step action = some t) :
    DropsOldest (s.log.mgr.notifyEvent.map EventProcEntry.number) s.log.mgr.dropped t.log.mgr.dropped := by
  rcases log_step run with same | ⟨action, inner⟩
  · exact .inl (by rw [same])
  · obtain ⟨mgr, moved, same⟩ := Option.map_eq_some_iff.mp inner
    rw [← same]
    exact EvntMgr.dropped_step (EvntMgr.reach_ordered (EventLog.reach_mgr (reach_log reach))) moved

theorem dropped_receiver {s t : EventSystem ι} (reach : Reach step Anything start s) {action : EventSystemAction ι}
    (run : s.step action = some t) (address : List Byte × Int) :
    DropsOldest (s.receivers address).processEvent (s.receivers address).dropped (t.receivers address).dropped := by
  have sound := reach_sound reach address
  cases step_moves run with
  | quiet _ _ _ _ receivers =>
    rcases receivers address with same | ⟨action, _, inner⟩
    · exact .inl (by rw [same])
    · exact EventReceiver.dropped_step sound inner
  | sends _ _ _ _ _ receivers | returns _ _ _ _ _ _ receivers => exact .inl (by rw [receivers])
  | @processes delivery _ _ _ _ _ here elsewhere =>
    rcases eq_or_ne address delivery.address with rfl | different
    · exact EventReceiver.dropped_step sound here
    · exact .inl (by rw [elsewhere address different])

/-- A subscriber receives an event of a subscription at most once, and only what was sent to
it; an event that it has acknowledged it does not receive after a newer one; publisher and
subscribers drop only the oldest of a full queue; and when all is done, every event that was queued since a subscription was
registered and that it asks for has been received by the service that it names, unless it
was dropped from one of the two queues or `send_event` reported a failure. -/
theorem events_arrive {s : EventSystem ι} (reach : Reach step Anything start s) :
    (∀ address, ((s.receivers address).received.map Delivery.key).Nodup ∧
      (∀ delivery ∈ (s.receivers address).received,
        delivery.address = address ∧ ∃ sending ∈ s.log.sent, sending.delivery = delivery) ∧
      ((s.receivers address).received.Pairwise fun delivery later => delivery.srvToken = later.srvToken →
        (∃ sending ∈ s.returned, sending.delivery = later ∧ sending.delivered = true) →
          delivery.event.number < later.event.number) ∧
      ∀ action t, s.step action = some t →
        DropsOldest (s.receivers address).processEvent (s.receivers address).dropped (t.receivers address).dropped) ∧
    (∀ action t, s.step action = some t →
      DropsOldest (s.log.mgr.notifyEvent.map EventProcEntry.number) s.log.mgr.dropped t.log.mgr.dropped) ∧
    (s.log.mgr.Quiet → s.call = none →
      ∀ event ∈ s.log.mgr.queued, ∀ entry ∈ s.log.mgr.eventList, entry.registered ≤ event.number →
        entry.matchesEvent event = true → Idle (s.receivers (entry.ip, entry.portNum)) →
        entry.delivery event ∈ (s.receivers (entry.ip, entry.portNum)).received ∨
        entry.delivery event ∈ (s.receivers (entry.ip, entry.portNum)).dropped ∨ event.number ∈ s.log.mgr.dropped ∨
        ∃ sending ∈ s.returned, sending.delivery = entry.delivery event ∧ sending.delivered = false) := by
  have linked := reach_linked reach
  refine ⟨?_, fun _ _ run => dropped_mgr reach run, ?_⟩
  · intro address
    have sound := reach_sound reach address
    have received : (s.receivers address).received.Sublist (s.receivers address).processed := by
      refine List.Sublist.trans ?_ sound.order
      unfold EventReceiver.kept
      rw [List.append_assoc]
      exact List.sublist_append_left _ _
    have once := linked.once.2 address
    refine ⟨once.sublist (received.map _), fun delivery member => linked.processed address delivery (received.subset member),
      ?_, fun _ _ run => dropped_receiver reach run address⟩
    have distinct := (List.pairwise_map.mp once).sublist received
    refine (List.pairwise_and_iff.mpr ⟨(linked.order address).sublist received, distinct⟩).imp ?_
    rintro delivery later ⟨behind, differs⟩ token ⟨sending, made, same, delivered⟩
    by_contra reversed
    rcases Nat.lt_or_eq_of_le (Nat.not_lt.mp reversed) with overtaken | equal
    · rw [behind token overtaken sending made same] at delivered
      cases delivered
    · exact differs (Prod.ext token equal.symm)
  · intro quiet idle event queued entry present since wants resting
    have log := reach_log reach
    have mgr := EventLog.reach_mgr log
    rcases EvntMgr.attempted_or_dropped mgr quiet.waiting quiet.sema quiet.producers quiet.goes event queued entry present
      since wants with attempted | dropped
    · rw [EventLog.reach_attempts log] at attempted
      obtain ⟨sending, sent, attempt⟩ := List.mem_map.mp attempted
      have srvToken : sending.target.srvToken = entry.srvToken := congrArg Prod.fst attempt
      have number : sending.event.number = event.number := congrArg Prod.snd attempt
      have copied : sending.target ∈ s.log.copies := List.mem_append_right _ (List.mem_map_of_mem sent)
      have target := (EventLog.reach_directed log).same _ copied entry present srvToken.symm
      have same : sending.event = event := by
        have numbered := (EvntMgr.reach_ordered mgr).numbered
        obtain ⟨i, first⟩ := List.getElem?_of_mem (sent_queued log sending sent)
        obtain ⟨j, second⟩ := List.getElem?_of_mem queued
        rw [numbered i _ first, numbered j _ second] at number
        rw [number, second] at first
        exact (Option.some.inj first).symm
      have delivery : sending.delivery = entry.delivery event := by
        simp only [EventEntry.deliveryTarget, DeliveryTarget.mk.injEq] at target
        simp only [Sending.delivery, EventEntry.delivery, same, srvToken, target]
      have calls := linked.calls
      rw [idle, Option.toList_none, List.append_nil] at calls
      rw [calls] at sent
      cases outcome : sending.delivered with
      | false => exact .inr (.inr (.inr ⟨sending, sent, delivery, outcome⟩))
      | true =>
        have processed := linked.acknowledged sending sent outcome
        rw [delivery] at processed
        rcases received_or_dropped (reach_sound reach _) resting processed with received | dropped
        · exact .inl received
        · exact .inr (.inl dropped)
    · exact .inr (.inr (.inl dropped))

/-- The subscriber of two events processes the first one after its sender has given up. -/
theorem events_arrive_late :
    ∃ s : EventSystem Bool, s.log.mgr.queued.length = 2 ∧ (s.receivers ([], 80)).received.map Delivery.key = [(1, 1), (1, 0)] ∧
      ∀ event ∈ s.log.mgr.queued, ∀ entry ∈ s.log.mgr.eventList, entry.delivery event ∈ (s.receivers ([], 80)).received ∨
        ∃ sending ∈ s.returned, sending.delivery = entry.delivery event ∧ sending.delivered = false := by
  let first : Delivery := (EvntMgr.sampleEntry 4).delivery ⟨4, 10, 0, 11, 0⟩
  let second : Delivery := (EvntMgr.sampleEntry 4).delivery ⟨4, 20, 0, 21, 1⟩
  obtain ⟨s, reach, holds⟩ := exists_reach step Anything (start : EventSystem Bool)
    [.mgr (.register (EvntMgr.sampleEntry 4)), .mgr (.notifyEvent false 4 10 11), .mgr (.notifyEvent true 4 20 21),
      .mgr (.wakeup false), .mgr (.wakeup true), .mgr .semWait, .mgr .checkState, .mgr .swap, .mgr .snapshot,
      .send false true, .returns, .mgr (.updateCounts 100), .mgr .snapshot, .send true true,
      .process { second with srvToken := 1 }, .receiver ([], 80) .wakeup, .returns, .process { first with srvToken := 1 },
      .mgr (.updateCounts 101), .mgr .callbackReturns, .mgr .semWait, .mgr .checkState, .mgr .swap, .mgr .callbackReturns,
      .receiver ([], 80) .wakeup, .receiver ([], 80) .semWait, .receiver ([], 80) .checkState, .receiver ([], 80) .swap,
      .receiver ([], 80) .notifySubscribers, .receiver ([], 80) .notifySubscribers, .receiver ([], 80) .callbackReturns,
      .receiver ([], 80) .semWait, .receiver ([], 80) .checkState, .receiver ([], 80) .swap,
      .receiver ([], 80) .callbackReturns]
    (fun s => (s.log.mgr.notifier = .waiting ∧ s.log.mgr.sema = 0 ∧ (∀ producer, s.log.mgr.producers producer ≠ .waking) ∧
      s.log.mgr.stopRequested = false) ∧ s.call = none ∧
      ((s.receivers ([], 80)).processor = .waiting ∧ (s.receivers ([], 80)).sema = 0 ∧
        (s.receivers ([], 80)).mapper = none ∧ (s.receivers ([], 80)).stopRequested = false) ∧
      s.log.mgr.queued.length = 2 ∧ (s.receivers ([], 80)).received.map Delivery.key = [(1, 1), (1, 0)] ∧
      (s.receivers ([], 80)).dropped = [] ∧ s.log.mgr.dropped = [] ∧
      ∀ entry ∈ s.log.mgr.eventList, (entry.ip, entry.portNum) = ([], 80) ∧ entry.registered = 0 ∧
        ∀ event ∈ s.log.mgr.queued, entry.matchesEvent event = true) (by decide +kernel)
  obtain ⟨⟨waiting, sema, producers, goes⟩, idle, ⟨processor, none, mapper, runs⟩, length, keys, noDrop, kept, entries⟩ := holds
  refine ⟨s, length, keys, fun event queued entry present => ?_⟩
  obtain ⟨address, registered, wants⟩ := entries entry present
  have arrived := (events_arrive reach).2.2 ⟨waiting, sema, producers, goes⟩ idle event queued entry present
    (by rw [registered]; exact Nat.zero_le _) (wants event queued) (by rw [address]; exact ⟨processor, none, mapper, runs⟩)
  rw [address, noDrop, kept] at arrived
  simpa using arrived

end EventSystem
end JsonRpcTcp
