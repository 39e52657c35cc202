import JsonRpcTcp.EventTable

namespace JsonRpcTcp

theorem EventEntry.counted_deliveryTarget (now : Int) (failed delivered : List Int) (entry : EventEntry) :
    (entry.counted now failed delivered).deliveryTarget = entry.deliveryTarget := by
  unfold counted
  split_ifs <;> rfl

/-- `update_failure_counts` does not redirect a subscription. -/
theorem deliveryTarget_updateFailureCounts {now : Int} {failed delivered : List Int} {eventList : List EventEntry}
    {entry : EventEntry} (member : entry ∈ updateFailureCounts now failed delivered eventList) :
    ∃ before ∈ eventList, entry.Same before ∧ entry.deliveryTarget = before.deliveryTarget := by
  unfold updateFailureCounts at member
  split_ifs at member
  · exact ⟨entry, member, ⟨rfl, rfl, rfl⟩, rfl⟩
  · obtain ⟨before, present, rfl⟩ := List.mem_map.mp (List.mem_filter.mp member).1
    exact ⟨before, present, before.counted_same now failed delivered,
      before.counted_deliveryTarget now failed delivered⟩

namespace EvntMgr
variable {ι : Type}

/-- The notify thread waits and nothing will wake it, and nobody asked it to stop. -/
structure Quiet (s : EvntMgr ι) : Prop where
  waiting : s.notifier = .waiting
  sema : s.sema = 0
  producers : ∀ producer, s.producers producer ≠ .waking
  goes : s.stopRequested = false

theorem length_queueEvent (s : EvntMgr ι) (eventNum eventArg eventArg2 : Int) :
    s.queued.length ≤ (s.queueEvent eventNum eventArg eventArg2).queued.length := by
  simp only [queueEvent]
  split_ifs <;> simp

variable [DecidableEq ι]

/-- The attempts are the calls of `send_event`, and no queued event is forgotten. -/
theorem step_history {s t : EvntMgr ι} {action : EventAction ι} (run : s.step action = some t) :
    t.attempts = s.attempts ++ (s.sends action).map (fun sending => (sending.target.srvToken, sending.event.number)) ∧
    s.queued.length ≤ t.queued.length := by
  cases action with
  | notifyEvent producer eventNum eventArg eventArg2 =>
    obtain ⟨_, rfl⟩ := onlyIf_eq_some.mp run
    refine ⟨?_, s.length_queueEvent eventNum eventArg eventArg2⟩
    simp only [queueEvent]
    split_ifs <;> exact (List.append_nil _).symm
  | register entry =>
    obtain ⟨_, rfl⟩ := onlyIf_eq_some.mp run
    simp only [registerEventSubscription]
    split_ifs <;> exact ⟨(List.append_nil _).symm, le_rfl⟩
  | unregister srvToken =>
    cases run
    simp only [unregisterEventSubscription]
    split_ifs <;> exact ⟨(List.append_nil _).symm, le_rfl⟩
  | stop =>
    cases run
    exact ⟨(List.append_nil _).symm, le_rfl⟩
  | wakeup | semWait | interrupted | checkState | swap | callbackReturns =>
    obtain ⟨_, rfl⟩ := onlyIf_eq_some.mp run
    exact ⟨(List.append_nil _).symm, le_rfl⟩
  | snapshot | updateCounts =>
    simp only [step] at run
    split at run <;> cases run
    exact ⟨(List.append_nil _).symm, le_rfl⟩
  | sendEvent delivers =>
    simp only [step] at run
    split at run
    case h_1 event target targets pending failed delivered here =>
      cases run
      simp only [sends, here]
      cases s.stopRequested with
      | true => exact ⟨(List.append_nil _).symm, le_rfl⟩
      | false => exact ⟨rfl, le_rfl⟩
    case h_2 => cases run

end EvntMgr

namespace EventLog
variable {ι : Type}

/-- The copies of a subscription: those that the notify thread still has to send to
and those it has sent to. -/
def copies (s : EventLog ι) : List EventEntry := s.mgr.notifier.targets ++ s.sent.map Sending.target

/-- A copy goes where its subscription does. -/
structure Directed (s : EventLog ι) : Prop where
  issued : ∀ copy ∈ s.copies, copy.srvToken ≤ s.mgr.ackToken
  same : ∀ copy ∈ s.copies, ∀ entry ∈ s.mgr.eventList, entry.srvToken = copy.srvToken →
    entry.deliveryTarget = copy.deliveryTarget

theorem directed_start : (start : EventLog ι).Directed where
  issued := by simp [copies, start, EvntMgr.start, NotifyPc.targets]
  same := by simp [copies, start, EvntMgr.start, NotifyPc.targets]

/-- No new copy, and no new token. -/
theorem Directed.shrink {s t : EventLog ι} (directed : s.Directed) (copies : t.copies ⊆ s.copies)
    (ackToken : t.mgr.ackToken = s.mgr.ackToken)
    (entries : ∀ entry ∈ t.mgr.eventList, ∃ before ∈ s.mgr.eventList, entry.srvToken = before.srvToken ∧
      entry.deliveryTarget = before.deliveryTarget) : t.Directed where
  issued := by
    intro copy member
    rw [ackToken]
    exact directed.issued copy (copies member)
  same := by
    intro copy member entry present token
    obtain ⟨before, there, srvToken, deliveryTarget⟩ := entries entry present
    rw [deliveryTarget]
    exact directed.same copy (copies member) before there (srvToken.symm.trans token)

theorem Directed.keep {s t : EventLog ι} (directed : s.Directed) (keeps : s.Keeps t) (copies : t.copies ⊆ s.copies) :
    t.Directed := by
  refine directed.shrink copies keeps.ackToken ?_
  rw [keeps.eventList]
  exact fun entry present => ⟨entry, present, rfl, rfl⟩

theorem Directed.snapshot {s t : EventLog ι} (directed : s.Directed) (table : s.Table) {event : EventProcEntry}
    {pending : List EventProcEntry} (keeps : s.Keeps t) (sent : t.sent = s.sent)
    (here : t.mgr.notifier = .sending event (s.mgr.targets event) pending [] []) : t.Directed := by
  have origin : ∀ copy ∈ t.copies, copy ∈ s.mgr.eventList ∨ copy ∈ s.copies := by
    intro copy member
    rw [copies, here, sent] at member
    rcases List.mem_append.mp member with new | old
    · exact .inl (List.mem_filter.mp new).1
    · exact .inr (List.mem_append_right _ old)
  constructor
  case issued =>
    intro copy member
    rw [keeps.ackToken]
    rcases origin copy member with new | old
    · exact table.fresh _ (table.listed copy new)
    · exact directed.issued copy old
  case same =>
    intro copy member entry present token
    rw [keeps.eventList] at present
    rcases origin copy member with new | old
    · rw [table.tokens.eq_of_key present new token]
    · exact directed.same copy old entry present token

theorem Directed.register {s t : EventLog ι} (directed : s.Directed) {entry : EventEntry}
    (fresh : s.mgr.eventList.any entry.duplicates = false) (mgr : t.mgr = (s.mgr.registerEventSubscription entry).1)
    (sent : t.sent = s.sent) : t.Directed := by
  simp only [EvntMgr.registerEventSubscription, fresh, Bool.false_eq_true, if_false] at mgr
  have same : t.copies = s.copies := by rw [copies, copies, mgr, sent]
  constructor
  case issued =>
    intro copy member
    rw [same] at member
    have bound := directed.issued copy member
    rw [mgr]
    exact Int.le_add_one bound
  case same =>
    intro copy member other present token
    rw [same] at member
    rw [mgr] at present
    rcases List.mem_append.mp present with old | new
    · exact directed.same copy member other old token
    · have bound := directed.issued copy member
      rw [List.mem_singleton.mp new] at token
      change s.mgr.ackToken + 1 = copy.srvToken at token
      omega

variable [DecidableEq ι]

theorem directed_step {s t : EventLog ι} {action : EventAction ι} (table : s.Table) (directed : s.Directed)
    (run : s.step action = some t) : t.Directed := by
  cases step_moves run with
  | quiet keeps sent notifier =>
    refine directed.keep keeps ?_
    rw [copies, copies, sent]
    rcases notifier with same | ⟨idle, _⟩
    · rw [same]
      exact List.Subset.refl _
    · rw [idle.targets]
      exact List.subset_append_right _ _
  | registered fresh mgr _ sent => exact directed.register fresh mgr sent
  | unregistered ackToken eventList _ sent _ notifier =>
    refine directed.shrink ?_ ackToken ?_
    · rw [copies, copies, notifier, sent]
      exact List.Subset.refl _
    · rw [eventList]
      exact fun entry member => ⟨entry, (List.mem_filter.mp member).1, rfl, rfl⟩
  | snapshot keeps sent _ _ here =>
    obtain ⟨pending, here⟩ := here
    exact directed.snapshot table keeps sent here
  | @sent _ event target targets pending _ _ _ keeps sent here there =>
    refine directed.keep keeps fun copy member => ?_
    rw [copies, here]
    rw [copies, there, sent] at member
    simp only [NotifyPc.targets, List.map_append, List.map_cons, List.map_nil, List.mem_append, List.mem_cons,
      List.not_mem_nil, or_false] at member ⊢
    rcases member with left | done | last
    · exact .inl (.inr left)
    · exact .inr done
    · exact .inl (.inl last)
  | @counted now _ _ failed delivered _ here there ackToken eventList _ sent =>
    refine directed.shrink ?_ ackToken ?_
    · rw [copies, copies, there, sent]
      exact List.subset_append_right _ _
    · rw [eventList]
      intro entry member
      obtain ⟨before, present, same, deliveryTarget⟩ := deliveryTarget_updateFailureCounts member
      exact ⟨before, present, same.srvToken, deliveryTarget⟩

theorem reach_directed {s : EventLog ι} (reach : Reach step Anything start s) : s.Directed :=
  reach.invariant_with (fun _ => reach_table) directed_start fun _ _ _ table directed _ run =>
    directed_step table directed run

theorem reach_attempts {s : EventLog ι} (reach : Reach step Anything start s) :
    s.mgr.attempts = s.sent.map fun sending => (sending.target.srvToken, sending.event.number) := by
  induction reach with
  | start => rfl
  | next _ _ run ih =>
    obtain ⟨mgr, inner, rfl⟩ := Option.map_eq_some_iff.mp run
    rw [(EvntMgr.step_history inner).1, ih, List.map_append]

theorem reach_registered {s : EventLog ι} (reach : Reach step Anything start s) :
    ∀ entry ∈ s.mgr.eventList, entry.registered ≤ s.mgr.queued.length := by
  induction reach with
  | start => simp [start, EvntMgr.start]
  | @next s t action _ _ run ih =>
    have grows : s.mgr.queued.length ≤ t.mgr.queued.length := by
      obtain ⟨mgr, inner, rfl⟩ := Option.map_eq_some_iff.mp run
      exact (EvntMgr.step_history inner).2
    have old : ∀ entry : EventEntry, (∃ before ∈ s.mgr.eventList, entry.Same before) → entry.registered ≤ t.mgr.queued.length := by
      rintro entry ⟨before, present, same⟩
      rw [same.registered]
      exact (ih before present).trans grows
    intro entry member
    cases step_moves run with
    | quiet keeps => exact old entry ⟨entry, by rw [← keeps.eventList]; exact member, rfl, rfl, rfl⟩
    | @registered new _ fresh mgr =>
      simp only [EvntMgr.registerEventSubscription, fresh, Bool.false_eq_true, if_false] at mgr
      rw [mgr] at member
      rcases List.mem_append.mp member with before | last
      · exact old entry ⟨entry, before, rfl, rfl, rfl⟩
      · rw [List.mem_singleton.mp last]
        exact grows
    | unregistered _ eventList =>
      rw [eventList] at member
      exact old entry ⟨entry, (List.mem_filter.mp member).1, rfl, rfl, rfl⟩
    | snapshot keeps => exact old entry ⟨entry, by rw [← keeps.eventList]; exact member, rfl, rfl, rfl⟩
    | sent keeps => exact old entry ⟨entry, by rw [← keeps.eventList]; exact member, rfl, rfl, rfl⟩
    | counted _ _ _ eventList =>
      rw [eventList] at member
      exact old entry (mem_updateFailureCounts member)

/-- A subscription of a later state that is as old as `s` was in the table then. -/
structure Follows (s t : EventLog ι) : Prop where
  ackToken : s.mgr.ackToken ≤ t.mgr.ackToken
  old : ∀ entry ∈ t.mgr.eventList, entry.srvToken ≤ s.mgr.ackToken →
    ∃ before ∈ s.mgr.eventList, entry.Same before ∧ entry.deliveryTarget = before.deliveryTarget

omit [DecidableEq ι] in
theorem Follows.shrink {s t u : EventLog ι} (follows : s.Follows t) (ackToken : u.mgr.ackToken = t.mgr.ackToken)
    (entries : ∀ entry ∈ u.mgr.eventList, ∃ before ∈ t.mgr.eventList, entry.Same before ∧
      entry.deliveryTarget = before.deliveryTarget) : s.Follows u where
  ackToken := by
    rw [ackToken]
    exact follows.ackToken
  old := by
    intro entry member bound
    obtain ⟨between, present, same, target⟩ := entries entry member
    obtain ⟨before, there, same', target'⟩ := follows.old between present (by rw [← same.srvToken]; exact bound)
    exact ⟨before, there, ⟨same.srvToken.trans same'.srvToken, same.eventNum.trans same'.eventNum,
      same.registered.trans same'.registered⟩, target.trans target'⟩

omit [DecidableEq ι] in
theorem Follows.keep {s t u : EventLog ι} (follows : s.Follows t) (keeps : t.Keeps u) : s.Follows u := by
  refine follows.shrink keeps.ackToken ?_
  rw [keeps.eventList]
  exact fun entry present => ⟨entry, present, ⟨rfl, rfl, rfl⟩, rfl⟩

theorem follows_step {s t u : EventLog ι} {action : EventAction ι} (follows : s.Follows t)
    (run : t.step action = some u) : s.Follows u := by
  cases step_moves run with
  | quiet keeps => exact follows.keep keeps
  | @registered entry _ fresh mgr =>
    simp only [EvntMgr.registerEventSubscription, fresh, Bool.false_eq_true, if_false] at mgr
    have bound := follows.ackToken
    constructor
    case ackToken =>
      rw [mgr]
      exact Int.le_add_one bound
    case old =>
      rw [mgr]
      intro other member older
      rcases List.mem_append.mp member with old | new
      · exact follows.old other old older
      · rw [List.mem_singleton.mp new] at older
        change t.mgr.ackToken + 1 ≤ s.mgr.ackToken at older
        omega
  | unregistered ackToken eventList =>
    refine follows.shrink ackToken ?_
    rw [eventList]
    exact fun entry member => ⟨entry, (List.mem_filter.mp member).1, ⟨rfl, rfl, rfl⟩, rfl⟩
  | snapshot keeps => exact follows.keep keeps
  | sent keeps => exact follows.keep keeps
  | counted _ _ ackToken eventList =>
    refine follows.shrink ackToken ?_
    rw [eventList]
    exact fun _ => deliveryTarget_updateFailureCounts

theorem reach_follows {s t : EventLog ι} (reach : Reach step Anything s t) : s.Follows t :=
  reach.invariant ⟨le_rfl, fun entry member _ => ⟨entry, member, ⟨rfl, rfl, rfl⟩, rfl⟩⟩ fun _ _ _ follows _ run =>
    follows_step follows run

/-- There is a subscription for the target, and from now on every event it asks for
is sent there while it is subscribed, but for those dropped from a full queue: it
has been once the notify thread has nothing left to do. -/
def Receives (s : EventLog ι) (target : DeliveryTarget) : Prop :=
  ∃ entry ∈ s.mgr.eventList, entry.deliveryTarget = target ∧
    ∀ t, Reach step Anything s t → t.mgr.Quiet → (∃ kept ∈ t.mgr.eventList, kept.srvToken = entry.srvToken) →
      ∀ event ∈ t.mgr.queued, s.mgr.queued.length ≤ event.number → entry.matchesEvent event = true →
        event.number ∈ t.mgr.dropped ∨
        ∃ sending ∈ t.sent, sending.target.deliveryTarget = target ∧ sending.event.number = event.number

/-- Whoever is in the table gets its events. -/
theorem receives_of_mem {s : EventLog ι} (reach : Reach step Anything start s) {entry : EventEntry}
    (member : entry ∈ s.mgr.eventList) : s.Receives entry.deliveryTarget := by
  refine ⟨entry, member, rfl, ?_⟩
  rintro t further quiet ⟨kept, present, token⟩ event queued later wants
  have table := reach_table reach
  have whole := reach.trans further
  have bound : kept.srvToken ≤ s.mgr.ackToken := by
    rw [token]
    exact table.fresh _ (table.listed entry member)
  obtain ⟨before, there, same, target⟩ := (reach_follows further).old kept present bound
  have mine : before = entry := table.tokens.eq_of_key there member (same.srvToken.symm.trans token)
  subst mine
  have since : kept.registered ≤ event.number := by
    rw [same.registered]
    exact (reach_registered reach before member).trans later
  have matching : kept.matchesEvent event = true := by
    rw [EventEntry.matchesEvent, same.eventNum]
    exact wants
  rcases EvntMgr.attempted_or_dropped (reach_mgr whole) quiet.waiting quiet.sema quiet.producers quiet.goes event
    queued kept present since matching with attempted | dropped
  · rw [reach_attempts whole] at attempted
    obtain ⟨sending, done, attempt⟩ := List.mem_map.mp attempted
    have srvToken : sending.target.srvToken = kept.srvToken := congrArg Prod.fst attempt
    refine .inr ⟨sending, done, ?_, congrArg Prod.snd attempt⟩
    have copied : sending.target ∈ t.copies := List.mem_append_right _ (List.mem_map_of_mem done)
    rw [← (reach_directed whole).same _ copied kept present srvToken.symm]
    exact target
  · exact .inl dropped

/-- A subscriber whose target differs from all others is accepted, and then both it
and the others get their events, exactly when no subscriber on another host uses
the same port, token and event: the ip is not part of what is compared. -/
theorem independent_subscribers {s t : EventLog ι} {entry : EventEntry} (reach : Reach step Anything start s)
    (run : s.step (.register entry) = some t)
    (distinct : ∀ other ∈ s.mgr.eventList, other.deliveryTarget ≠ entry.deliveryTarget) :
    ((s.mgr.registerEventSubscription entry).2 = 0 ∧
      t.Receives entry.deliveryTarget ∧ ∀ other ∈ s.mgr.eventList, t.Receives other.deliveryTarget) ↔
    ∀ other ∈ s.mgr.eventList, other.ip ≠ entry.ip →
      (other.cltToken, other.portNum, other.eventNum) ≠ (entry.cltToken, entry.portNum, entry.eventNum) := by
  constructor
  · rintro ⟨accepted, _⟩ other member _ same
    have found := List.any_eq_true.mpr ⟨other, member, (entry.duplicates_iff other).mpr same⟩
    rw [EvntMgr.registerEventSubscription, if_pos found] at accepted
    cases accepted
  · intro apart
    have fresh : ¬ s.mgr.eventList.any entry.duplicates = true := by
      intro found
      obtain ⟨other, member, duplicate⟩ := List.any_eq_true.mp found
      have same := (entry.duplicates_iff other).mp duplicate
      by_cases host : other.ip = entry.ip
      · refine distinct other member ?_
        simp only [EventEntry.identity, Prod.mk.injEq] at same
        rw [EventEntry.deliveryTarget, EventEntry.deliveryTarget, host, same.1, same.2.1, same.2.2]
      · exact apart other member host same
    have after : Reach step Anything start t := .next reach trivial run
    obtain ⟨mgr, inner, rfl⟩ := Option.map_eq_some_iff.mp run
    obtain ⟨_, rfl⟩ := onlyIf_eq_some.mp inner
    simp only [EvntMgr.registerEventSubscription, if_neg fresh] at after ⊢
    have last := receives_of_mem after (List.mem_append_right _ (List.mem_singleton_self _))
    exact ⟨trivial, last, fun other member => receives_of_mem after (List.mem_append_left _ member)⟩

/-- The same program on a host of its own subscribes to an event. -/
def hostEntry (host : Byte) (eventNum : Int) : EventEntry := { EvntMgr.sampleEntry eventNum with ip := [host] }

/-- Two hosts that ask for different events do not get in each other's way. -/
theorem independent_subscribers_two_hosts :
    ∃ s t : EventLog Bool, s.mgr.eventList.length = 1 ∧ t.mgr.eventList.length = 2 ∧
      (s.mgr.registerEventSubscription (hostEntry 2 5)).2 = 0 ∧ t.Receives (hostEntry 2 5).deliveryTarget := by
  obtain ⟨s, reach, length, distinct, apart, room⟩ := exists_reach step Anything (start : EventLog Bool)
    [.register (hostEntry 1 4)] (fun s => s.mgr.eventList.length = 1 ∧
      (∀ other ∈ s.mgr.eventList, other.deliveryTarget ≠ (hostEntry 2 5).deliveryTarget) ∧
      (∀ other ∈ s.mgr.eventList, other.ip ≠ (hostEntry 2 5).ip →
        (other.cltToken, other.portNum, other.eventNum) ≠ (1, 80, 5)) ∧
      (s.step (.register (hostEntry 2 5))).any (fun t => t.mgr.eventList.length = 2) = true) (by decide +kernel)
  obtain ⟨t, run, length'⟩ := (Option.any_eq_true _ _).mp room
  obtain ⟨accepted, receives, _⟩ := (independent_subscribers reach run distinct).mpr apart
  exact ⟨s, t, length, of_decide_eq_true length', accepted, receives⟩

/-- A subscriber on another host is turned down as a duplicate, and the next event
is sent to the first host only. -/
theorem other_host_excluded :
    ∃ s t : EventLog Bool, Reach step Anything start s ∧
      ((∀ other ∈ s.mgr.eventList, other.deliveryTarget ≠ (hostEntry 2 4).deliveryTarget) ∧
        (s.mgr.registerEventSubscription (hostEntry 2 4)).2 = -1) ∧
      Reach step Anything s t ∧
      (t.mgr.Quiet ∧ t.sent.map (fun sending => (sending.target.ip, sending.event.number)) = [([1], 0)] ∧
        t.mgr.queued.map (fun event => (hostEntry 2 4).matchesEvent event) = [true]) := by
  obtain ⟨s, t, reach, refused, further, waiting, sema, producers, goes, sent⟩ :=
    exists_reach_then step Anything Anything
    (start : EventLog Bool) [.register (hostEntry 1 4)]
    [.register (hostEntry 2 4), .notifyEvent false 4 0 0, .wakeup false, .semWait, .checkState, .swap, .snapshot,
      .sendEvent true, .updateCounts 100, .callbackReturns]
    (fun s => (∀ other ∈ s.mgr.eventList, other.deliveryTarget ≠ (hostEntry 2 4).deliveryTarget) ∧
      (s.mgr.registerEventSubscription (hostEntry 2 4)).2 = -1)
    (fun t => t.mgr.notifier = .waiting ∧ t.mgr.sema = 0 ∧ (∀ producer, t.mgr.producers producer ≠ .waking) ∧
      t.mgr.stopRequested = false ∧
      t.sent.map (fun sending => (sending.target.ip, sending.event.number)) = [([1], 0)] ∧
      t.mgr.queued.map (fun event => (hostEntry 2 4).matchesEvent event) = [true]) (by decide +kernel)
  exact ⟨s, t, reach, refused, further, ⟨waiting, sema, producers, goes⟩, sent⟩

end EventLog
end JsonRpcTcp
