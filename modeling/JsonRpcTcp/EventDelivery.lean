import JsonRpcTcp.EventStep
import JsonRpcTcp.Lib.Keyed

namespace JsonRpcTcp
open Function

namespace NotifyPc

/-- The event that is being delivered. -/
def current : NotifyPc → Option EventProcEntry
  | .sending entry .. => some entry
  | _ => none

/-- The events of the batch that come after it. -/
def pending : NotifyPc → List EventProcEntry
  | .looping pending | .sending _ _ pending _ _ => pending
  | _ => []

/-- The copied subscriptions that the current event was not sent to yet. -/
def targets : NotifyPc → List EventEntry
  | .sending _ targets .. => targets
  | _ => []

end NotifyPc

/-- The parts of a subscription that never change. -/
structure EventEntry.Same (entry other : EventEntry) : Prop where
  srvToken : entry.srvToken = other.srvToken
  eventNum : entry.eventNum = other.eventNum
  registered : entry.registered = other.registered

theorem EventEntry.counted_same (now : Int) (failed delivered : List Int) (entry : EventEntry) :
    (entry.counted now failed delivered).Same entry := by
  unfold counted
  split_ifs <;> exact ⟨rfl, rfl, rfl⟩

/-- `update_failure_counts` only changes counters and removes subscriptions. -/
theorem mem_updateFailureCounts {now : Int} {failed delivered : List Int} {eventList : List EventEntry}
    {entry : EventEntry} (member : entry ∈ updateFailureCounts now failed delivered eventList) :
    ∃ before ∈ eventList, entry.Same before := by
  unfold updateFailureCounts at member
  split_ifs at member
  · exact ⟨entry, member, rfl, rfl, rfl⟩
  · obtain ⟨before, present, rfl⟩ := List.mem_map.mp (List.mem_filter.mp member).1
    exact ⟨before, present, before.counted_same now failed delivered⟩

theorem updateFailureCounts_keyed {now : Int} {failed delivered : List Int} {eventList : List EventEntry}
    (keyed : Keyed EventEntry.srvToken eventList) :
    Keyed EventEntry.srvToken (updateFailureCounts now failed delivered eventList) := by
  unfold updateFailureCounts
  split_ifs
  · exact keyed
  · exact (keyed.map fun entry _ => (entry.counted_same now failed delivered).srvToken).filter _

namespace EvntMgr
variable {ι : Type}

/-- The events whose delivery has not begun, in the order in which it will. -/
def ahead (s : EvntMgr ι) : List EventProcEntry := s.notifier.pending ++ s.notifyEvent

/-- Events are delivered in the order of their numbers, and no attempt is
ahead of the current event and target. -/
structure Ordered (s : EvntMgr ι) : Prop where
  numbered : ∀ (number : Nat) (event : EventProcEntry), s.queued[number]? = some event → event.number = number
  known : ∀ event ∈ s.notifier.current.toList ++ s.ahead, event ∈ s.queued
  increasing : (s.notifier.current.toList ++ s.ahead).Pairwise fun event later => event.number < later.number
  past : ∀ attempt ∈ s.attempts, ∀ event ∈ s.ahead, attempt.2 < event.number
  present : ∀ attempt ∈ s.attempts, ∀ event, s.notifier.current = some event → attempt.2 ≤ event.number ∧
    (attempt.2 = event.number → ∀ target ∈ s.notifier.targets, target.srvToken ≠ attempt.1)
  attempted : ∀ attempt ∈ s.attempts, attempt.2 < s.queued.length
  order : s.attempts.Pairwise fun attempt later => attempt.1 = later.1 → attempt.2 < later.2
  tokens : Keyed EventEntry.srvToken s.eventList
  issued : ∀ entry ∈ s.eventList, entry.srvToken ≤ s.ackToken
  targets : Keyed EventEntry.srvToken s.notifier.targets
  size : s.notifyEvent.length ≤ maxQueued

theorem Ordered.number_lt {s : EvntMgr ι} (ordered : s.Ordered) {event : EventProcEntry} (member : event ∈ s.queued) :
    event.number < s.queued.length := by
  obtain ⟨number, found⟩ := List.getElem?_of_mem member
  rw [ordered.numbered number event found]
  exact (List.getElem?_eq_some_iff.mp found).choose

theorem ordered_start : (start : EvntMgr ι).Ordered where
  numbered := by simp [start]
  known := by simp [start, ahead, NotifyPc.current, NotifyPc.pending]
  increasing := List.Pairwise.nil
  past := by simp [start]
  present := by simp [start]
  attempted := by simp [start]
  order := List.Pairwise.nil
  tokens := Keyed.nil
  issued := by simp [start]
  targets := Keyed.nil
  size := Nat.zero_le _

/-- The notify thread goes on without an attempt, and what it has left to do gets
no more. -/
theorem ordered_shrink {s t : EvntMgr ι} (ordered : s.Ordered) (queued : t.queued = s.queued)
    (attempts : t.attempts = s.attempts) (ackToken : t.ackToken = s.ackToken)
    (tokens : Keyed EventEntry.srvToken t.eventList)
    (entries : ∀ entry ∈ t.eventList, ∃ before ∈ s.eventList, entry.srvToken = before.srvToken)
    (current : t.notifier.current = none ∧ t.notifier.targets = [] ∨
      t.notifier.current = s.notifier.current ∧ t.notifier.targets = s.notifier.targets)
    (ahead : t.ahead.Sublist s.ahead) (size : t.notifyEvent.length ≤ s.notifyEvent.length) : t.Ordered := by
  have line : (t.notifier.current.toList ++ t.ahead).Sublist (s.notifier.current.toList ++ s.ahead) := by
    rcases current with ⟨none, _⟩ | ⟨same, _⟩
    · rw [none]
      exact ahead.trans (List.sublist_append_right _ _)
    · rw [same]
      exact ahead.append_left _
  constructor
  case numbered =>
    rw [queued]
    exact ordered.numbered
  case known =>
    rw [queued]
    exact fun event member => ordered.known event (line.subset member)
  case increasing => exact ordered.increasing.sublist line
  case past =>
    rw [attempts]
    exact fun attempt member event later => ordered.past attempt member event (ahead.subset later)
  case present =>
    rw [attempts]
    intro attempt member event here
    rcases current with ⟨none, _⟩ | ⟨same, targets⟩
    · rw [none] at here
      cases here
    · rw [targets]
      rw [same] at here
      exact ordered.present attempt member event here
  case attempted =>
    rw [attempts, queued]
    exact ordered.attempted
  case order =>
    rw [attempts]
    exact ordered.order
  case tokens => exact tokens
  case issued =>
    rw [ackToken]
    intro entry member
    obtain ⟨before, present, same⟩ := entries entry member
    rw [same]
    exact ordered.issued before present
  case targets =>
    rcases current with ⟨_, none⟩ | ⟨_, same⟩
    · rw [none]
      exact Keyed.nil
    · rw [same]
      exact ordered.targets
  case size => exact size.trans ordered.size

theorem ordered_leaveCallback {s : EvntMgr ι} (ordered : s.Ordered) : s.leaveCallback.Ordered := by
  have here : s.leaveCallback.notifier.current = none ∧ s.leaveCallback.notifier.targets = [] ∧
      s.leaveCallback.notifier.pending = [] := by
    unfold leaveCallback
    split_ifs <;> exact ⟨rfl, rfl, rfl⟩
  refine ordered_shrink ordered rfl rfl rfl ordered.tokens (fun entry member => ⟨entry, member, rfl⟩)
    (.inl ⟨here.1, here.2.1⟩) ?_ (Nat.le_refl _)
  rw [ahead, here.2.2]
  exact List.sublist_append_right _ _

/-- What `notify_event` does to the queue: the new event comes last, and an old one
stays or is dropped as the oldest of a full queue. -/
structure Queues (s t : EvntMgr ι) (kept : List EventProcEntry) (event : EventProcEntry) : Prop where
  notifyEvent : t.notifyEvent = kept ++ [event]
  queued : t.queued = s.queued ++ [event]
  number : event.number = s.queued.length
  sublist : kept.Sublist s.notifyEvent
  length : kept.length < maxQueued
  stays : ∀ old ∈ s.notifyEvent, old ∈ kept ∨ old.number ∈ t.dropped
  dropped : s.dropped ⊆ t.dropped
  notifier : t.notifier = s.notifier
  eventList : t.eventList = s.eventList
  attempts : t.attempts = s.attempts
  ackToken : t.ackToken = s.ackToken

theorem queueEvent_queues {s : EvntMgr ι} (size : s.notifyEvent.length ≤ maxQueued)
    (eventNum eventArg eventArg2 : Int) :
    ∃ kept event, s.Queues (s.queueEvent eventNum eventArg eventArg2) kept event := by
  unfold queueEvent
  dsimp only
  split_ifs with full
  · refine ⟨s.notifyEvent.tail, _, rfl, rfl, rfl, List.tail_sublist _, ?_, ?_, List.subset_append_left _ _, rfl,
      rfl, rfl, rfl⟩
    · have positive : 0 < maxQueued := by decide
      rw [List.length_tail]
      omega
    · intro old member
      cases queue : s.notifyEvent with
      | nil =>
        rw [queue] at member
        cases member
      | cons oldest rest =>
        rw [queue] at member
        rcases List.mem_cons.mp member with rfl | younger
        · exact .inr (List.mem_append_right _ (by simp))
        · exact .inl younger
  · exact ⟨s.notifyEvent, _, rfl, rfl, rfl, List.Sublist.refl _, by omega, fun _ member => .inl member,
      List.Subset.refl _, rfl, rfl, rfl, rfl⟩

theorem ordered_queue {s t : EvntMgr ι} {kept : List EventProcEntry} {event : EventProcEntry} (ordered : s.Ordered)
    (queues : s.Queues t kept event) : t.Ordered := by
  have ahead : t.ahead = s.notifier.pending ++ kept ++ [event] := by
    rw [EvntMgr.ahead, queues.notifier, queues.notifyEvent, List.append_assoc]
  have old : (s.notifier.pending ++ kept).Sublist s.ahead := queues.sublist.append_left _
  have line : t.notifier.current.toList ++ t.ahead =
      (s.notifier.current.toList ++ (s.notifier.pending ++ kept)) ++ [event] := by
    rw [queues.notifier, ahead, List.append_assoc, List.append_assoc, List.append_assoc]
  have known : ∀ earlier ∈ s.notifier.current.toList ++ (s.notifier.pending ++ kept), earlier ∈ s.queued :=
    fun earlier member => ordered.known earlier ((old.append_left _).subset member)
  constructor
  case numbered =>
    rw [queues.queued]
    intro number other found
    rcases Nat.lt_trichotomy number s.queued.length with before | rfl | beyond
    · rw [List.getElem?_append_left before] at found
      exact ordered.numbered number other found
    · rw [List.getElem?_concat_length] at found
      rw [← Option.some.inj found]
      exact queues.number
    · rw [List.getElem?_eq_none (by simp only [List.length_append, List.length_singleton]; omega)] at found
      cases found
  case known =>
    rw [line, queues.queued]
    intro earlier member
    rcases List.mem_append.mp member with before | new
    · exact List.mem_append_left _ (known earlier before)
    · exact List.mem_append_right _ new
  case increasing =>
    rw [line]
    refine List.pairwise_append.mpr ⟨ordered.increasing.sublist (old.append_left _), List.pairwise_singleton _ _, ?_⟩
    intro earlier member last new
    rw [List.mem_singleton.mp new, queues.number]
    exact ordered.number_lt (known earlier member)
  case past =>
    rw [queues.attempts, ahead]
    intro attempt member later place
    rcases List.mem_append.mp place with before | new
    · exact ordered.past attempt member later (old.subset before)
    · rw [List.mem_singleton.mp new, queues.number]
      exact ordered.attempted attempt member
  case present =>
    rw [queues.attempts, queues.notifier]
    exact ordered.present
  case attempted =>
    rw [queues.attempts, queues.queued, List.length_append]
    exact fun attempt member => Nat.lt_add_right _ (ordered.attempted attempt member)
  case order =>
    rw [queues.attempts]
    exact ordered.order
  case tokens =>
    rw [queues.eventList]
    exact ordered.tokens
  case issued =>
    rw [queues.eventList, queues.ackToken]
    exact ordered.issued
  case targets =>
    rw [queues.notifier]
    exact ordered.targets
  case size =>
    have length := queues.length
    rw [queues.notifyEvent, List.length_append, List.length_singleton]
    omega

theorem ordered_register {s : EvntMgr ι} (ordered : s.Ordered) (entry : EventEntry) :
    (s.registerEventSubscription entry).1.Ordered := by
  unfold registerEventSubscription
  split_ifs
  · exact ordered
  · refine ⟨ordered.numbered, ordered.known, ordered.increasing, ordered.past, ordered.present, ordered.attempted,
      ordered.order, ?_, ?_, ordered.targets, ordered.size⟩
    · refine ordered.tokens.append_singleton fun other member => ?_
      have bound := ordered.issued other member
      exact Int.ne_of_lt (Int.lt_add_one_of_le bound)
    · intro other member
      rcases List.mem_append.mp member with old | new
      · have bound := ordered.issued other old
        exact Int.le_add_one bound
      · rw [List.mem_singleton.mp new]

theorem ordered_unregister {s : EvntMgr ι} (ordered : s.Ordered) (srvToken : Int) :
    (s.unregisterEventSubscription srvToken).1.Ordered := by
  unfold unregisterEventSubscription
  split_ifs
  · refine ordered_shrink ordered rfl rfl rfl (ordered.tokens.filter _) ?_ (.inr ⟨rfl, rfl⟩) (List.Sublist.refl _)
      (Nat.le_refl _)
    exact fun entry member => ⟨entry, (List.mem_filter.mp member).1, rfl⟩
  · exact ordered

theorem ordered_snapshot {s : EvntMgr ι} {event : EventProcEntry} {pending : List EventProcEntry} (ordered : s.Ordered)
    (here : s.notifier = .looping (event :: pending)) :
    Ordered { s with notifier := .sending event (s.targets event) pending [] [] } := by
  have line : s.notifier.current.toList ++ s.ahead = event :: (pending ++ s.notifyEvent) := by
    rw [ahead, here]
    rfl
  have place : s.ahead = event :: (pending ++ s.notifyEvent) := by
    rw [ahead, here]
    rfl
  constructor
  case numbered => exact ordered.numbered
  case known =>
    have known := ordered.known
    rw [line] at known
    exact known
  case increasing =>
    have increasing := ordered.increasing
    rw [line] at increasing
    exact increasing
  case past =>
    intro attempt member later rest
    refine ordered.past attempt member later ?_
    rw [place]
    exact List.mem_cons_of_mem _ rest
  case present =>
    intro attempt member current same
    cases same
    have before := ordered.past attempt member event (by rw [place]; exact List.mem_cons_self)
    exact ⟨Nat.le_of_lt before, fun equal => absurd equal (Nat.ne_of_lt before)⟩
  case attempted => exact ordered.attempted
  case order => exact ordered.order
  case tokens => exact ordered.tokens
  case issued => exact ordered.issued
  case targets => exact ordered.tokens.filter _
  case size => exact ordered.size

theorem ordered_send {s : EvntMgr ι} {event : EventProcEntry} {target : EventEntry} {targets : List EventEntry}
    {pending : List EventProcEntry} {failed delivered failed' delivered' : List Int} (ordered : s.Ordered)
    (here : s.notifier = .sending event (target :: targets) pending failed delivered) :
    Ordered { s with
      notifier := .sending event targets pending failed' delivered'
      attempts := s.attempts ++ [(target.srvToken, event.number)] } := by
  have current : s.notifier.current = some event := by rw [here]; rfl
  have place : s.ahead = pending ++ s.notifyEvent := by
    rw [ahead, here]
    rfl
  have keyed := ordered.targets
  rw [here] at keyed
  have line : s.notifier.current.toList ++ s.ahead = event :: (pending ++ s.notifyEvent) := by
    rw [current, place]
    rfl
  have known := ordered.known
  have increasing := ordered.increasing
  rw [line] at known increasing
  constructor
  case numbered => exact ordered.numbered
  case known => exact known
  case increasing => exact increasing
  case past =>
    intro attempt member later rest
    rcases List.mem_append.mp member with old | new
    · exact ordered.past attempt old later (by rw [place]; exact rest)
    · rw [List.mem_singleton.mp new]
      exact (List.pairwise_cons.mp increasing).1 later rest
  case present =>
    intro attempt member other same
    cases same
    rcases List.mem_append.mp member with old | new
    · obtain ⟨bound, fresh⟩ := ordered.present attempt old event current
      refine ⟨bound, fun equal later rest => fresh equal later ?_⟩
      rw [here]
      exact List.mem_cons_of_mem _ rest
    · rw [List.mem_singleton.mp new]
      exact ⟨Nat.le_refl _, fun _ later rest => keyed.head_absent later rest⟩
  case attempted =>
    intro attempt member
    rcases List.mem_append.mp member with old | new
    · exact ordered.attempted attempt old
    · rw [List.mem_singleton.mp new]
      exact ordered.number_lt (known event List.mem_cons_self)
  case order =>
    refine List.pairwise_append.mpr ⟨ordered.order, List.pairwise_singleton _ _, ?_⟩
    intro attempt member last new
    rw [List.mem_singleton.mp new]
    intro same
    obtain ⟨bound, fresh⟩ := ordered.present attempt member event current
    refine Nat.lt_of_le_of_ne bound fun equal => fresh equal target ?_ same.symm
    rw [here]
    exact List.mem_cons_self
  case tokens => exact ordered.tokens
  case issued => exact ordered.issued
  case targets => exact keyed.tail
  case size => exact ordered.size

/-- Every subscription that has been there since the event was queued got it. -/
def Served (s : EvntMgr ι) (event : EventProcEntry) : Prop :=
  ∀ entry ∈ s.eventList, entry.registered ≤ event.number → entry.matchesEvent event = true →
    (entry.srvToken, event.number) ∈ s.attempts

/-- No event is forgotten while the thread runs, and no wakeup is lost. -/
structure Complete (s : EvntMgr ι) : Prop where
  wake : s.notifyEvent ≠ [] → 0 < s.sema ∨ (∃ producer, s.producers producer = .waking) ∨
    s.notifier = .woken ∨ s.notifier = .swapping
  served : ∀ event ∈ s.queued, event ∈ s.ahead ∨ s.notifier.current = some event ∨ event.number ∈ s.dropped ∨
    s.Served event
  serving : ∀ event, s.notifier.current = some event → ∀ entry ∈ s.eventList, entry.registered ≤ event.number →
    entry.matchesEvent event = true → (entry.srvToken, event.number) ∈ s.attempts ∨
      ∃ target ∈ s.notifier.targets, target.srvToken = entry.srvToken

/-- Unless the notify thread has just been woken, there is a wake-up on its way to a queue with events. -/
theorem Complete.posted {s : EvntMgr ι} (complete : s.Complete) {pc : NotifyPc} (here : s.notifier = pc)
    (busy : pc ≠ .woken ∧ pc ≠ .swapping) (filled : s.notifyEvent ≠ []) :
    0 < s.sema ∨ ∃ producer, s.producers producer = .waking := by
  rcases complete.wake filled with posted | waking | awake | awake
  · exact .inl posted
  · exact .inr waking
  · exact absurd (here.symm.trans awake) busy.1
  · exact absurd (here.symm.trans awake) busy.2

theorem complete_start : (start : EvntMgr ι).Complete where
  wake := fun filled => absurd rfl filled
  served := by simp [start]
  serving := by simp [start, NotifyPc.current]

/-- Subscriptions may go, and their counters may change. -/
theorem Served.mono {s t : EvntMgr ι} {event : EventProcEntry} (served : s.Served event)
    (entries : ∀ entry ∈ t.eventList, ∃ before ∈ s.eventList, entry.Same before)
    (attempts : s.attempts ⊆ t.attempts) : t.Served event := by
  intro entry member since wants
  obtain ⟨before, present, same⟩ := entries entry member
  rw [same.srvToken]
  refine attempts (served before present (by rw [← same.registered]; exact since) ?_)
  rw [EventEntry.matchesEvent, ← same.eventNum]
  exact wants

/-- The thread goes on with the same work. -/
theorem complete_keep {s t : EvntMgr ι} (complete : s.Complete) (queued : t.queued = s.queued)
    (attempts : t.attempts = s.attempts) (dropped : t.dropped = s.dropped)
    (entries : ∀ entry ∈ t.eventList, ∃ before ∈ s.eventList, entry.Same before) (ahead : t.ahead = s.ahead)
    (current : t.notifier.current = s.notifier.current) (targets : t.notifier.targets = s.notifier.targets)
    (wake : t.notifyEvent ≠ [] → 0 < t.sema ∨ (∃ producer, t.producers producer = .waking) ∨
      t.notifier = .woken ∨ t.notifier = .swapping) : t.Complete where
  wake := wake
  served := by
    rw [queued, ahead, current, dropped]
    intro event member
    refine (complete.served event member).imp_right (Or.imp_right (Or.imp_right fun served => ?_))
    exact served.mono entries (by rw [attempts]; exact List.Subset.refl _)
  serving := by
    rw [attempts, current, targets]
    intro event here entry member since wants
    obtain ⟨before, present, same⟩ := entries entry member
    rw [same.srvToken]
    refine complete.serving event here before present (by rw [← same.registered]; exact since) ?_
    rw [EventEntry.matchesEvent, ← same.eventNum]
    exact wants

theorem complete_queue {s t : EvntMgr ι} {kept : List EventProcEntry} {event : EventProcEntry} (complete : s.Complete)
    (queues : s.Queues t kept event) (waking : ∃ producer, t.producers producer = .waking) : t.Complete where
  wake := fun _ => .inr (.inl waking)
  served := by
    rw [queues.queued, queues.notifier]
    intro other member
    have ahead : t.ahead = s.notifier.pending ++ (kept ++ [event]) := by
      rw [EvntMgr.ahead, queues.notifier, queues.notifyEvent]
    rw [ahead]
    rcases List.mem_append.mp member with old | new
    · rcases complete.served other old with later | current | gone | served
      · rcases List.mem_append.mp later with pending | waiting
        · exact .inl (List.mem_append_left _ pending)
        · rcases queues.stays other waiting with stays | gone
          · exact .inl (List.mem_append_right _ (List.mem_append_left _ stays))
          · exact .inr (.inr (.inl gone))
      · exact .inr (.inl current)
      · exact .inr (.inr (.inl (queues.dropped gone)))
      · refine .inr (.inr (.inr (served.mono ?_ ?_)))
        · rw [queues.eventList]
          exact fun entry present => ⟨entry, present, rfl, rfl, rfl⟩
        · rw [queues.attempts]
          exact List.Subset.refl _
    · exact .inl (List.mem_append_right _ (List.mem_append_right _ new))
  serving := by
    rw [queues.notifier, queues.eventList, queues.attempts]
    exact complete.serving

theorem complete_register {s : EvntMgr ι} (ordered : s.Ordered) (complete : s.Complete) (entry : EventEntry) :
    (s.registerEventSubscription entry).1.Complete := by
  unfold registerEventSubscription
  split_ifs
  · exact complete
  · refine ⟨complete.wake, fun event member => ?_, fun event here => ?_⟩
    · refine (complete.served event member).imp_right (Or.imp_right (Or.imp_right fun served => ?_))
      intro other present since wants
      rcases List.mem_append.mp present with old | new
      · exact served other old since wants
      · -- the new subscription came after the event
        rw [List.mem_singleton.mp new] at since
        have bound := ordered.number_lt member
        simp only at since
        omega
    · intro other present since wants
      rcases List.mem_append.mp present with old | new
      · exact complete.serving event here other old since wants
      · rw [List.mem_singleton.mp new] at since
        have known : event ∈ s.queued := ordered.known event (by rw [here]; exact List.mem_cons_self)
        have bound := ordered.number_lt known
        simp only at since
        omega

theorem complete_snapshot {s : EvntMgr ι} {event : EventProcEntry} {pending : List EventProcEntry}
    (complete : s.Complete) (here : s.notifier = .looping (event :: pending)) :
    Complete { s with notifier := .sending event (s.targets event) pending [] [] } where
  wake filled := (complete.posted here (by simp) filled).imp_right .inl
  served := by
    intro other member
    rcases complete.served other member with later | current | gone | served
    · rw [ahead, here] at later
      rcases List.mem_cons.mp later with rfl | rest
      · exact .inr (.inl rfl)
      · exact .inl rest
    · rw [here] at current
      cases current
    · exact .inr (.inr (.inl gone))
    · exact .inr (.inr (.inr served))
  serving := by
    intro other same entry member _ wants
    cases same
    exact .inr ⟨entry, List.mem_filter.mpr ⟨member, wants⟩, rfl⟩

theorem complete_send {s : EvntMgr ι} {event : EventProcEntry} {target : EventEntry} {targets : List EventEntry}
    {pending : List EventProcEntry} {failed delivered failed' delivered' : List Int} (complete : s.Complete)
    (here : s.notifier = .sending event (target :: targets) pending failed delivered) :
    Complete { s with
      notifier := .sending event targets pending failed' delivered'
      attempts := s.attempts ++ [(target.srvToken, event.number)] } where
  wake filled := (complete.posted here (by simp) filled).imp_right .inl
  served := by
    intro other member
    have before := complete.served other member
    rw [ahead, here] at before
    refine before.imp_right (Or.imp_right (Or.imp_right fun served => ?_))
    exact served.mono (fun entry present => ⟨entry, present, rfl, rfl, rfl⟩) (List.subset_append_left _ _)
  serving := by
    intro other same entry member since wants
    cases same
    rcases complete.serving event (by rw [here]; rfl) entry member since wants with attempted | ⟨copy, present, token⟩
    · exact .inl (List.mem_append_left _ attempted)
    · rw [here] at present
      rcases List.mem_cons.mp present with rfl | rest
      · exact .inl (List.mem_append_right _ (by rw [token]; exact List.mem_singleton_self _))
      · exact .inr ⟨copy, rest, token⟩

/-- After its last target the current event is served. -/
theorem complete_update {s : EvntMgr ι} {event : EventProcEntry} {pending : List EventProcEntry}
    {failed delivered : List Int} (complete : s.Complete)
    (here : s.notifier = .sending event [] pending failed delivered) (now : Int) :
    Complete { s with notifier := .looping pending
                      eventList := updateFailureCounts now failed delivered s.eventList } where
  wake filled := (complete.posted here (by simp) filled).imp_right .inl
  served := by
    intro other member
    have before := complete.served other member
    rw [ahead, here] at before
    rcases before with later | current | gone | served
    · exact .inl later
    · cases current
      have served : s.Served event := by
        intro entry present since wants
        rcases complete.serving event (by rw [here]; rfl) entry present since wants with attempted | ⟨copy, left, _⟩
        · exact attempted
        · rw [here] at left
          cases left
      exact .inr (.inr (.inr (served.mono (fun _ => mem_updateFailureCounts) (List.Subset.refl _))))
    · exact .inr (.inr (.inl gone))
    · exact .inr (.inr (.inr (served.mono (fun _ => mem_updateFailureCounts) (List.Subset.refl _))))
  serving := fun _ impossible => by cases impossible

variable [DecidableEq ι]

theorem ordered_step {s t : EvntMgr ι} {action : EventAction ι} (ordered : s.Ordered)
    (run : s.step action = some t) : t.Ordered := by
  have keep : ∀ {t : EvntMgr ι}, t.queued = s.queued → t.attempts = s.attempts → t.ackToken = s.ackToken →
      t.eventList = s.eventList → t.notifyEvent = s.notifyEvent → t.notifier.current = s.notifier.current →
      t.notifier.targets = s.notifier.targets → t.notifier.pending = s.notifier.pending → t.Ordered := by
    intro t queued attempts ackToken eventList notifyEvent current targets pending
    refine ordered_shrink ordered queued attempts ackToken (by rw [eventList]; exact ordered.tokens) ?_
      (.inr ⟨current, targets⟩) ?_ (by rw [notifyEvent])
    · rw [eventList]
      exact fun entry member => ⟨entry, member, rfl⟩
    · rw [ahead, ahead, pending, notifyEvent]
  cases action with
  | notifyEvent producer eventNum eventArg eventArg2 =>
    obtain ⟨_, rfl⟩ := onlyIf_eq_some.mp run
    obtain ⟨kept, event, queues⟩ := queueEvent_queues ordered.size eventNum eventArg eventArg2
    have queued := ordered_queue ordered queues
    exact ⟨queued.numbered, queued.known, queued.increasing, queued.past, queued.present, queued.attempted,
      queued.order, queued.tokens, queued.issued, queued.targets, queued.size⟩
  | wakeup producer =>
    obtain ⟨_, rfl⟩ := onlyIf_eq_some.mp run
    exact keep rfl rfl rfl rfl rfl rfl rfl rfl
  | register entry =>
    obtain ⟨_, rfl⟩ := onlyIf_eq_some.mp run
    exact ordered_register ordered entry
  | unregister srvToken =>
    cases run
    exact ordered_unregister ordered srvToken
  | stop =>
    cases run
    exact keep rfl rfl rfl rfl rfl rfl rfl rfl
  | semWait =>
    obtain ⟨⟨here, _⟩, rfl⟩ := onlyIf_eq_some.mp run
    refine keep rfl rfl rfl rfl rfl ?_ ?_ ?_ <;> rw [here] <;> rfl
  | interrupted =>
    obtain ⟨_, rfl⟩ := onlyIf_eq_some.mp run
    exact ordered_leaveCallback ordered
  | checkState =>
    obtain ⟨here, rfl⟩ := onlyIf_eq_some.mp run
    refine keep rfl rfl rfl rfl rfl ?_ ?_ ?_ <;> rw [here] <;> split_ifs <;> rfl
  | swap =>
    obtain ⟨here, rfl⟩ := onlyIf_eq_some.mp run
    refine ordered_shrink ordered rfl rfl rfl ordered.tokens (fun entry member => ⟨entry, member, rfl⟩)
      (.inl ⟨rfl, rfl⟩) ?_ (Nat.zero_le _)
    simp [ahead, here, NotifyPc.pending]
  | snapshot =>
    simp only [step] at run
    split at run
    case h_1 event pending here =>
      cases run
      exact ordered_snapshot ordered here
    case h_2 => cases run
  | callbackReturns =>
    obtain ⟨_, rfl⟩ := onlyIf_eq_some.mp run
    exact ordered_leaveCallback ordered
  | sendEvent delivers =>
    simp only [step] at run
    split at run
    case h_1 event target targets pending failed delivered here =>
      cases run
      split_ifs
      · exact ordered_leaveCallback ordered
      · exact ordered_send ordered here
      · exact ordered_send ordered here
    case h_2 => cases run
  | updateCounts now =>
    simp only [step] at run
    split at run
    case h_1 event pending failed delivered here =>
      cases run
      refine ordered_shrink ordered rfl rfl rfl (updateFailureCounts_keyed ordered.tokens) ?_ (.inl ⟨rfl, rfl⟩) ?_
        (Nat.le_refl _)
      · intro entry member
        obtain ⟨before, present, same⟩ := mem_updateFailureCounts member
        exact ⟨before, present, same.srvToken⟩
      · simp [ahead, here, NotifyPc.pending]
    case h_2 => cases run

theorem complete_step {s t : EvntMgr ι} {action : EventAction ι} (ordered : s.Ordered) (complete : s.Complete)
    (run : s.step action = some t) (goes : t.stopRequested = false) : t.Complete := by
  have same : ∀ entry ∈ s.eventList, ∃ before ∈ s.eventList, entry.Same before :=
    fun entry present => ⟨entry, present, rfl, rfl, rfl⟩
  cases action with
  | notifyEvent producer eventNum eventArg eventArg2 =>
    obtain ⟨_, rfl⟩ := onlyIf_eq_some.mp run
    obtain ⟨kept, event, queues⟩ := queueEvent_queues ordered.size eventNum eventArg eventArg2
    exact complete_queue complete ⟨queues.notifyEvent, queues.queued, queues.number, queues.sublist, queues.length,
      queues.stays, queues.dropped, queues.notifier, queues.eventList, queues.attempts, queues.ackToken⟩
      ⟨producer, update_self ..⟩
  | wakeup producer =>
    obtain ⟨_, rfl⟩ := onlyIf_eq_some.mp run
    exact complete_keep complete rfl rfl rfl same rfl rfl rfl fun _ => .inl (Nat.succ_pos _)
  | register entry =>
    obtain ⟨_, rfl⟩ := onlyIf_eq_some.mp run
    exact complete_register ordered complete entry
  | unregister srvToken =>
    cases run
    unfold unregisterEventSubscription
    split_ifs
    · exact complete_keep complete rfl rfl rfl
        (fun entry present => ⟨entry, (List.mem_filter.mp present).1, rfl, rfl, rfl⟩) rfl rfl rfl complete.wake
    · exact complete
  | stop =>
    cases run
    cases goes
  | semWait =>
    obtain ⟨⟨here, _⟩, rfl⟩ := onlyIf_eq_some.mp run
    refine complete_keep complete rfl rfl rfl same ?_ ?_ ?_ fun _ => .inr (.inr (.inl rfl))
    · simp [ahead, here, NotifyPc.pending]
    · simp [here, NotifyPc.current]
    · simp [here, NotifyPc.targets]
  | interrupted =>
    obtain ⟨here, rfl⟩ := onlyIf_eq_some.mp run
    have back : s.leaveCallback.notifier = s.notifier := by
      simp only [leaveCallback] at goes ⊢
      rw [goes, here]
      rfl
    refine complete_keep complete rfl rfl rfl same (by rw [ahead, ahead, back]; rfl) (by rw [back]) (by rw [back]) ?_
    rw [back]
    exact complete.wake
  | checkState =>
    obtain ⟨here, rfl⟩ := onlyIf_eq_some.mp run
    simp only at goes
    rw [goes]
    refine complete_keep complete rfl rfl rfl same ?_ ?_ ?_ fun _ => .inr (.inr (.inr rfl))
    · simp [ahead, here, NotifyPc.pending]
    · simp [here, NotifyPc.current]
    · simp [here, NotifyPc.targets]
  | swap =>
    obtain ⟨here, rfl⟩ := onlyIf_eq_some.mp run
    refine complete_keep complete rfl rfl rfl same ?_ ?_ ?_ fun filled => absurd rfl filled
    · simp [ahead, here, NotifyPc.pending]
    · simp [here, NotifyPc.current]
    · simp [here, NotifyPc.targets]
  | snapshot =>
    simp only [step] at run
    split at run
    case h_1 event pending here =>
      cases run
      exact complete_snapshot complete here
    case h_2 => cases run
  | callbackReturns =>
    obtain ⟨here, rfl⟩ := onlyIf_eq_some.mp run
    simp only [leaveCallback] at goes ⊢
    rw [goes]
    refine complete_keep complete rfl rfl rfl same ?_ ?_ ?_ fun filled => ?_
    · simp [ahead, here, NotifyPc.pending]
    · simp [here, NotifyPc.current]
    · simp [here, NotifyPc.targets]
    · refine (complete.wake filled).imp_right (Or.imp_right fun awake => ?_)
      rw [here] at awake
      rcases awake with impossible | impossible <;> cases impossible
  | sendEvent delivers =>
    simp only [step] at run
    split at run
    case h_1 event target targets pending failed delivered here =>
      cases run
      split_ifs at goes ⊢ with stopped
      · simp only [leaveCallback] at goes
        rw [goes] at stopped
        cases stopped
      · exact complete_send complete here
      · exact complete_send complete here
    case h_2 => cases run
  | updateCounts now =>
    simp only [step] at run
    split at run
    case h_1 event pending failed delivered here =>
      cases run
      exact complete_update complete here now
    case h_2 => cases run

/-- A request to stop is never taken back. -/
theorem stopRequested_step {s t : EvntMgr ι} {action : EventAction ι} (run : s.step action = some t)
    (goes : t.stopRequested = false) : s.stopRequested = false := by
  cases action with
  | notifyEvent | wakeup | semWait | interrupted | checkState | swap | callbackReturns =>
    obtain ⟨_, rfl⟩ := onlyIf_eq_some.mp run
    first | exact goes | (simp only [queueEvent] at goes; split_ifs at goes <;> exact goes)
  | register entry =>
    obtain ⟨_, rfl⟩ := onlyIf_eq_some.mp run
    simp only [registerEventSubscription] at goes
    split_ifs at goes <;> exact goes
  | unregister srvToken =>
    cases run
    simp only [unregisterEventSubscription] at goes
    split_ifs at goes <;> exact goes
  | stop =>
    cases run
    cases goes
  | snapshot | updateCounts =>
    simp only [step] at run
    split at run <;> cases run
    exact goes
  | sendEvent =>
    simp only [step] at run
    split at run <;> cases run
    split_ifs at goes <;> exact goes

/-- Any calls, in any interleaving with the notify thread. -/
def Anything (_ : EvntMgr ι) (_ : EventAction ι) : Prop := True

instance (s : EvntMgr ι) (action : EventAction ι) : Decidable (s.Anything action) := instDecidableTrue

theorem reach_ordered {s : EvntMgr ι} (reach : Reach step Anything start s) : s.Ordered :=
  reach.invariant ordered_start fun _ _ _ ordered _ run => ordered_step ordered run

theorem reach_complete {s : EvntMgr ι} (reach : Reach step Anything start s) :
    s.stopRequested = false → s.Complete := by
  induction reach with
  | start => exact fun _ => complete_start
  | next before _ run ih =>
    intro goes
    exact complete_step (reach_ordered before) (ih (stopRequested_step run goes)) run goes

/-- When the notify thread has nothing left to do, every subscription got the events
that were queued since it was registered, or they were dropped. -/
theorem attempted_or_dropped {s : EvntMgr ι} (reach : Reach step Anything start s) (here : s.notifier = .waiting)
    (none : s.sema = 0) (quiet : ∀ producer, s.producers producer ≠ .waking) (goes : s.stopRequested = false) :
    ∀ event ∈ s.queued, ∀ entry ∈ s.eventList, entry.registered ≤ event.number → entry.matchesEvent event = true →
      (entry.srvToken, event.number) ∈ s.attempts ∨ event.number ∈ s.dropped := by
  intro event member entry present since wants
  have complete := reach_complete reach goes
  have empty : s.notifyEvent = [] := by
    by_contra filled
    rcases complete.posted here (by simp) filled with posted | ⟨producer, waking⟩
    · omega
    · exact quiet producer waking
  rcases complete.served event member with later | current | gone | served
  · rw [ahead, here, empty] at later
    cases later
  · rw [here] at current
    cases current
  · exact .inr gone
  · exact .inl (served entry present since wants)

theorem dropped_step {s t : EvntMgr ι} (ordered : s.Ordered) {action : EventAction ι} (run : s.step action = some t) :
    DropsOldest (s.notifyEvent.map EventProcEntry.number) s.dropped t.dropped := by
  cases action <;> simp only [step, onlyIf_eq_some] at run
  case notifyEvent producer eventNum eventArg eventArg2 =>
    obtain ⟨_, rfl⟩ := run
    have size := ordered.size
    unfold queueEvent
    dsimp only
    split_ifs with full
    · cases queue : s.notifyEvent with
      | nil => exact absurd (queue ▸ full) (by decide)
      | cons oldest rest =>
        refine .inr ⟨oldest.number, rfl, ?_, rfl⟩
        rw [← queue, List.length_map]
        omega
    · exact .inl rfl
  case register entry =>
    obtain ⟨_, rfl⟩ := run
    unfold registerEventSubscription
    split_ifs <;> exact .inl rfl
  case unregister srvToken =>
    cases run
    unfold unregisterEventSubscription
    split_ifs <;> exact .inl rfl
  case snapshot | sendEvent | updateCounts =>
    split at run
    case h_1 =>
      cases run
      first
        | exact .inl rfl
        | split_ifs <;> exact .inl rfl
    case h_2 => cases run
  case stop =>
    cases run
    exact .inl rfl
  all_goals
    obtain ⟨_, rfl⟩ := run
    exact .inl rfl

/-- The attempts for one subscription are in the order in which the events were
queued, none is made twice, the queue keeps its bound, and when the notify thread
has nothing left to do, every subscription got every event that was queued since
it was registered, but for those dropped: the oldest of a full queue. -/
theorem event_delivery {s : EvntMgr ι} (reach : Reach step Anything start s) :
    s.attempts.Nodup ∧
    (∀ srvToken, ((s.attempts.filter fun attempt => attempt.1 == srvToken).map Prod.snd).Pairwise (· < ·)) ∧
    (∀ (number : Nat) (event : EventProcEntry), s.queued[number]? = some event → event.number = number) ∧
    s.notifyEvent.length ≤ 1024 ∧
    (s.notifier = .waiting → s.sema = 0 → (∀ producer, s.producers producer ≠ .waking) → s.stopRequested = false →
      ∀ event ∈ s.queued, ∀ entry ∈ s.eventList, entry.registered ≤ event.number → entry.matchesEvent event = true →
        (entry.srvToken, event.number) ∈ s.attempts ∨ event.number ∈ s.dropped) ∧
    (∀ action t, s.step action = some t →
      DropsOldest (s.notifyEvent.map EventProcEntry.number) s.dropped t.dropped) := by
  have ordered := reach_ordered reach
  refine ⟨?_, ?_, ordered.numbered, ordered.size, attempted_or_dropped reach, fun _ _ => dropped_step ordered⟩
  · refine ordered.order.imp fun {attempt later} before same => ?_
    rw [same] at before
    exact Nat.lt_irrefl _ (before rfl)
  · intro srvToken
    refine List.pairwise_map.mpr (List.Pairwise.imp_of_mem ?_ (ordered.order.filter _))
    intro attempt later member member' before
    have mine : attempt.1 = srvToken := beq_iff_eq.mp (List.mem_filter.mp member).2
    have its : later.1 = srvToken := beq_iff_eq.mp (List.mem_filter.mp member').2
    exact before (mine.trans its.symm)

/-- A subscription as a client hands it in. -/
def sampleEntry (eventNum : Int) : EventEntry :=
  { cltToken := 1, portNum := 80, eventNum := eventNum, srvToken := 0, ip := [], deleteFlag := false, failCount := 0
    firstFailMs := 0, registered := 0 }

theorem event_delivery_two_events :
    ∃ s : EvntMgr Bool, s.notifier = .waiting ∧ s.queued.length = 2 ∧ s.eventList.length = 2 ∧
      ∀ event ∈ s.queued, ∀ entry ∈ s.eventList, entry.registered ≤ event.number → entry.matchesEvent event = true →
        (entry.srvToken, event.number) ∈ s.attempts := by
  obtain ⟨s, reach, holds⟩ := exists_reach step Anything (start : EvntMgr Bool)
    [.register (sampleEntry (-1)), .notifyEvent false 4 0 0, .register (sampleEntry 4), .notifyEvent true 4 1 0,
      .wakeup true, .semWait, .checkState, .swap, .snapshot, .sendEvent true, .sendEvent false, .wakeup false,
      .updateCounts 100, .snapshot, .sendEvent true, .sendEvent true, .updateCounts 101, .callbackReturns,
      .semWait, .checkState, .swap, .callbackReturns]
    (fun s => s.notifier = .waiting ∧ s.sema = 0 ∧ (∀ producer, s.producers producer ≠ .waking) ∧
      s.stopRequested = false ∧ s.queued.length = 2 ∧ s.eventList.length = 2 ∧ s.dropped = []) (by decide +kernel)
  obtain ⟨here, none, quiet, goes, events, entries, dropped⟩ := holds
  refine ⟨s, here, events, entries, fun event member entry present since wants => ?_⟩
  have served := (event_delivery reach).2.2.2.2.1 here none quiet goes event member entry present since wants
  rw [dropped] at served
  exact served.resolve_right List.not_mem_nil

end EvntMgr
end JsonRpcTcp
