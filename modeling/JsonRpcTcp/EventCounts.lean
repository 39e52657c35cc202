import JsonRpcTcp.EventTargets

namespace JsonRpcTcp

/-- The failures since the last delivery. -/
def failureRun (outcomes : List Outcome) : List Outcome := outcomes.rtakeWhile fun outcome => !outcome.delivered

theorem failureRun_failed (outcomes : List Outcome) (srvToken now : Int) :
    failureRun (outcomes ++ [⟨srvToken, false, now⟩]) = failureRun outcomes ++ [⟨srvToken, false, now⟩] :=
  List.rtakeWhile_concat_pos _ _ _ rfl

theorem failureRun_delivered (outcomes : List Outcome) (srvToken now : Int) :
    failureRun (outcomes ++ [⟨srvToken, true, now⟩]) = [] :=
  List.rtakeWhile_concat_neg _ _ _ Bool.false_ne_true

/-- The outcomes of one subscription among those of an event. -/
theorem filter_outcomes {tokens : List Int} (once : tokens.Nodup) (delivered : Bool) (srvToken now : Int) :
    (tokens.map (⟨·, delivered, now⟩)).filter (fun outcome : Outcome => outcome.srvToken = srvToken) =
      if srvToken ∈ tokens then [⟨srvToken, delivered, now⟩] else [] := by
  induction tokens with
  | nil => rfl
  | cons first rest ih =>
    obtain ⟨absent, rest_once⟩ := List.nodup_cons.mp once
    have tail := ih rest_once
    by_cases here : first = srvToken
    · subst here
      rw [if_neg absent] at tail
      simp [tail]
    · have elsewhere : ¬ srvToken = first := fun same => here same.symm
      simp [here, elsewhere, tail]

namespace EventEntry

/-- The counters are those of a run of failures. -/
structure CountedBy (entry : EventEntry) (run : List Outcome) : Prop where
  failCount : entry.failCount = run.length
  firstFailMs : ∀ first ∈ run.head?, entry.firstFailMs = first.time

theorem counted_failed {entry : EventEntry} {run : List Outcome} {failed delivered : List Int} (now : Int)
    (counts : entry.CountedBy run) (member : entry.srvToken ∈ failed) (absent : entry.srvToken ∉ delivered) :
    (entry.counted now failed delivered).CountedBy (run ++ [⟨entry.srvToken, false, now⟩]) := by
  rw [counted, if_neg absent, if_pos member]
  refine ⟨?_, fun first head => ?_⟩
  · simp only [counts.failCount, List.length_append, List.length_singleton]
  · cases run with
    | nil =>
      cases head
      have none : entry.failCount = 0 := counts.failCount
      simp only [none, if_true]
    | cons old rest =>
      cases head
      have some : ¬ entry.failCount = 0 := by
        rw [counts.failCount]
        exact Nat.succ_ne_zero _
      simp only [some, if_false]
      exact counts.firstFailMs first rfl

theorem counted_delivered {entry : EventEntry} {failed delivered : List Int} (now : Int)
    (member : entry.srvToken ∈ delivered) : (entry.counted now failed delivered).CountedBy [] := by
  rw [counted, if_pos member]
  exact ⟨rfl, fun first head => by cases head⟩

theorem counted_other {entry : EventEntry} {failed delivered : List Int} (now : Int)
    (absent : entry.srvToken ∉ failed) (absent' : entry.srvToken ∉ delivered) :
    entry.counted now failed delivered = entry := by
  rw [counted, if_neg absent', if_neg absent]

/-- The flag is set for a run of failures that is long in both ways. -/
theorem counted_deleteFlag {entry : EventEntry} {failed delivered : List Int} {now : Int}
    (flag : entry.deleteFlag = false) (deleted : (entry.counted now failed delivered).deleteFlag = true) :
    entry.srvToken ∈ failed ∧ entry.srvToken ∉ delivered ∧
      maxFailures ≤ (entry.counted now failed delivered).failCount ∧
      failWindowMs ≤ now - (entry.counted now failed delivered).firstFailMs := by
  unfold counted at deleted ⊢
  split_ifs at deleted ⊢ with arrived missed first
  · rw [flag] at deleted
    cases deleted
  · simp only [flag, Bool.false_or, Bool.and_eq_true, decide_eq_true_eq] at deleted
    exact ⟨missed, arrived, deleted.1, deleted.2⟩
  · simp only [flag, Bool.false_or, Bool.and_eq_true, decide_eq_true_eq] at deleted
    exact ⟨missed, arrived, deleted.1, deleted.2⟩
  · rw [flag] at deleted
    cases deleted

end EventEntry

/-- The short cut of `update_failure_counts` makes no difference. -/
theorem updateFailureCounts_eq {eventList : List EventEntry} (flags : ∀ entry ∈ eventList, entry.deleteFlag = false)
    (now : Int) (failed delivered : List Int) :
    updateFailureCounts now failed delivered eventList =
      (eventList.map (EventEntry.counted now failed delivered)).filter fun entry => !entry.deleteFlag := by
  unfold updateFailureCounts
  split_ifs with nothing
  · obtain ⟨rfl, rfl⟩ := nothing
    have same : eventList.map (EventEntry.counted now [] []) = eventList := by
      refine (List.map_congr_left fun entry _ => ?_).trans (List.map_id _)
      exact EventEntry.counted_other now List.not_mem_nil List.not_mem_nil
    rw [same]
    refine (List.filter_eq_self.mpr fun entry member => ?_).symm
    rw [flags entry member]
    rfl
  · rfl

namespace EventLog
variable {ι : Type}

/-- The outcomes that were recorded for a subscription. -/
def recordedOf (s : EventLog ι) (srvToken : Int) : List Outcome :=
  s.recorded.filter fun outcome => outcome.srvToken = srvToken

/-- What came of the calls of `send_event` for a subscription. -/
def outcomesOf (s : EventLog ι) (srvToken : Int) : List Bool :=
  (s.sent.filter fun sending => sending.target.srvToken = srvToken).map Sending.delivered

/-- What came of the current event for a subscription. -/
def flight (s : EventLog ι) (srvToken : Int) : List Bool :=
  (s.mgr.notifier.failed.filter fun token => token = srvToken).map (fun _ => false) ++
    (s.mgr.notifier.delivered.filter fun token => token = srvToken).map fun _ => true

/-- The subscriptions that the current event goes to, sent or not. -/
def flying (s : EventLog ι) : List Int :=
  s.mgr.notifier.targets.map EventEntry.srvToken ++ (s.mgr.notifier.failed ++ s.mgr.notifier.delivered)

/-- The counters of every subscription are those of its own recorded outcomes, and
what is not recorded is in flight. -/
structure Counted (s : EventLog ι) : Prop where
  flags : ∀ entry ∈ s.mgr.eventList, entry.deleteFlag = false
  once : s.flying.Nodup
  issued : ∀ srvToken ∈ s.flying, srvToken ≤ s.mgr.ackToken
  past : ∀ outcome ∈ s.recorded, outcome.srvToken ≤ s.mgr.ackToken
  counts : ∀ entry ∈ s.mgr.eventList, entry.CountedBy (failureRun (s.recordedOf entry.srvToken))
  sent : ∀ srvToken, ∃ last, s.outcomesOf srvToken = (s.recordedOf srvToken).map Outcome.delivered ++ last ∧
    last.length ≤ 1 ∧ (s.mgr.notifier ≠ .ended → last = s.flight srvToken)

theorem counted_start : (start : EventLog ι).Counted where
  flags := by simp [start, EvntMgr.start]
  once := List.nodup_nil
  issued := by simp [flying, start, EvntMgr.start, NotifyPc.targets, NotifyPc.failed, NotifyPc.delivered]
  past := by simp [start]
  counts := by simp [start, EvntMgr.start]
  sent := fun _ => ⟨[], rfl, Nat.zero_le _, fun _ => rfl⟩

theorem flight_idle {s : EventLog ι} (idle : s.mgr.notifier.Idle) (srvToken : Int) : s.flight srvToken = [] := by
  simp [flight, idle.failed, idle.delivered]

theorem flying_idle {s : EventLog ι} (idle : s.mgr.notifier.Idle) : s.flying = [] := by
  simp [flying, idle.targets, idle.failed, idle.delivered]

/-- A subscription gets the current event once. -/
theorem flight_length {s : EventLog ι} (once : s.flying.Nodup) (srvToken : Int) : (s.flight srvToken).length ≤ 1 := by
  have mine : ∀ token ∈ (s.mgr.notifier.failed ++ s.mgr.notifier.delivered).filter (fun token => token = srvToken),
      token ∈ [srvToken] := by
    intro token member
    rw [of_decide_eq_true (List.mem_filter.mp member).2]
    exact List.mem_singleton_self _
  have apart := ((List.nodup_append.mp once).2.1).filter fun token => decide (token = srvToken)
  have bound := (apart.subperm mine).length_le
  rw [List.filter_append, List.length_append, List.length_singleton] at bound
  rw [flight, List.length_append, List.length_map, List.length_map]
  exact bound

/-- The subscriptions and what is recorded stay. -/
theorem Counted.of_keeps {s t : EventLog ι} (counted : s.Counted) (keeps : s.Keeps t) (once : t.flying.Nodup)
    (issued : ∀ srvToken ∈ t.flying, srvToken ≤ s.mgr.ackToken)
    (sent : ∀ srvToken, ∃ last, t.outcomesOf srvToken = (s.recordedOf srvToken).map Outcome.delivered ++ last ∧
      last.length ≤ 1 ∧ (t.mgr.notifier ≠ .ended → last = t.flight srvToken)) : t.Counted where
  flags := by
    rw [keeps.eventList]
    exact counted.flags
  once := once
  issued := by
    rw [keeps.ackToken]
    exact issued
  past := by
    rw [keeps.recorded, keeps.ackToken]
    exact counted.past
  counts := by
    rw [keeps.eventList]
    intro entry member
    rw [recordedOf, keeps.recorded]
    exact counted.counts entry member
  sent := by
    intro srvToken
    rw [recordedOf, keeps.recorded]
    exact sent srvToken

/-- Nothing is sent or recorded, and the notify thread may give up what it holds. -/
theorem Counted.quiet {s t : EventLog ι} (counted : s.Counted) (keeps : s.Keeps t) (sent : t.sent = s.sent)
    (notifier : t.mgr.notifier = s.mgr.notifier ∨
      t.mgr.notifier.Idle ∧ (s.mgr.notifier.Idle ∧ s.mgr.notifier ≠ .ended ∨ t.mgr.notifier = .ended)) : t.Counted := by
  have flying : t.flying = s.flying ∨ t.flying = [] := by
    rcases notifier with same | ⟨idle, _⟩
    · exact .inl (by rw [EventLog.flying, EventLog.flying, same])
    · exact .inr (flying_idle idle)
  refine counted.of_keeps keeps ?_ ?_ fun srvToken => ?_
  · rcases flying with same | none
    · rw [same]
      exact counted.once
    · rw [none]
      exact List.nodup_nil
  · rcases flying with same | none
    · rw [same]
      exact counted.issued
    · rw [none]
      simp
  · obtain ⟨last, outcomes, short, here⟩ := counted.sent srvToken
    refine ⟨last, by rw [outcomesOf, sent]; exact outcomes, short, fun goes => ?_⟩
    rcases notifier with same | ⟨idle, ⟨before, running⟩ | ended⟩
    · rw [same] at goes
      rw [flight, same]
      exact here goes
    · rw [flight_idle idle, ← flight_idle before srvToken]
      exact here running
    · exact absurd ended goes

theorem Counted.register {s t : EventLog ι} (counted : s.Counted) {entry : EventEntry}
    (fresh : s.mgr.eventList.any entry.duplicates = false) (mgr : t.mgr = (s.mgr.registerEventSubscription entry).1)
    (sent : t.sent = s.sent) (recorded : t.recorded = s.recorded) : t.Counted := by
  simp only [EvntMgr.registerEventSubscription, fresh, Bool.false_eq_true, if_false] at mgr
  have recordedOf : ∀ srvToken, t.recordedOf srvToken = s.recordedOf srvToken := fun srvToken => by
    rw [EventLog.recordedOf, EventLog.recordedOf, recorded]
  have flying : t.flying = s.flying := by rw [EventLog.flying, EventLog.flying, mgr]
  have unused : s.recordedOf (s.mgr.ackToken + 1) = [] := by
    refine List.filter_eq_nil_iff.mpr fun outcome member => ?_
    have bound := counted.past outcome member
    simp only [decide_eq_true_eq]
    omega
  constructor
  case flags =>
    rw [mgr]
    intro other member
    rcases List.mem_append.mp member with old | new
    · exact counted.flags other old
    · rw [List.mem_singleton.mp new]
  case once =>
    rw [flying]
    exact counted.once
  case issued =>
    rw [flying, mgr]
    exact fun srvToken member => Int.le_add_one (counted.issued srvToken member)
  case past =>
    rw [recorded, mgr]
    exact fun outcome member => Int.le_add_one (counted.past outcome member)
  case counts =>
    rw [mgr]
    intro other member
    rw [recordedOf]
    rcases List.mem_append.mp member with old | new
    · exact counted.counts other old
    · rw [List.mem_singleton.mp new]
      dsimp only
      rw [unused]
      exact ⟨rfl, fun first head => by cases head⟩
  case sent =>
    intro srvToken
    rw [outcomesOf, sent, recordedOf, flight, mgr]
    exact counted.sent srvToken

theorem Counted.unregister {s t : EventLog ι} (counted : s.Counted) (ackToken : t.mgr.ackToken = s.mgr.ackToken)
    (eventList : t.mgr.eventList ⊆ s.mgr.eventList) (sent : t.sent = s.sent) (recorded : t.recorded = s.recorded)
    (notifier : t.mgr.notifier = s.mgr.notifier) : t.Counted where
  flags := fun entry member => counted.flags entry (eventList member)
  once := by
    rw [flying, notifier]
    exact counted.once
  issued := by
    rw [flying, notifier, ackToken]
    exact counted.issued
  past := by
    rw [recorded, ackToken]
    exact counted.past
  counts := by
    intro entry member
    rw [recordedOf, recorded]
    exact counted.counts entry (eventList member)
  sent := by
    intro srvToken
    rw [outcomesOf, sent, recordedOf, recorded, flight, notifier]
    exact counted.sent srvToken

theorem Counted.snapshot {s t : EventLog ι} (counted : s.Counted) (table : s.Table) {event : EventProcEntry}
    {pending : List EventProcEntry} (keeps : s.Keeps t) (sent : t.sent = s.sent) (idle : s.mgr.notifier.Idle)
    (goes : s.mgr.notifier ≠ .ended) (here : t.mgr.notifier = .sending event (s.mgr.targets event) pending [] []) :
    t.Counted := by
  have flying : t.flying = (s.mgr.targets event).map EventEntry.srvToken := by
    simp [EventLog.flying, here, NotifyPc.targets, NotifyPc.failed, NotifyPc.delivered]
  refine counted.of_keeps keeps ?_ ?_ fun srvToken => ?_
  · rw [flying]
    exact List.pairwise_map.mpr (table.tokens.filter _)
  · rw [flying]
    intro srvToken member
    obtain ⟨entry, copied, rfl⟩ := List.mem_map.mp member
    exact table.fresh _ (table.listed entry (List.mem_filter.mp copied).1)
  · obtain ⟨last, outcomes, short, before⟩ := counted.sent srvToken
    refine ⟨last, by rw [outcomesOf, sent]; exact outcomes, short, fun _ => ?_⟩
    rw [before goes, flight_idle idle]
    simp [flight, here, NotifyPc.failed, NotifyPc.delivered]

theorem Counted.send {s t : EventLog ι} (counted : s.Counted) {delivers : Bool} {event : EventProcEntry}
    {target : EventEntry} {targets : List EventEntry} {pending : List EventProcEntry} {failed delivered : List Int}
    (keeps : s.Keeps t) (sent : t.sent = s.sent ++ [⟨target, event, delivers⟩])
    (here : s.mgr.notifier = .sending event (target :: targets) pending failed delivered)
    (there : t.mgr.notifier = .sending event targets pending
      (if delivers then failed else failed ++ [target.srvToken])
      (if delivers then delivered ++ [target.srvToken] else delivered)) : t.Counted := by
  have before : s.flying = target.srvToken :: (targets.map EventEntry.srvToken ++ (failed ++ delivered)) := by
    rw [flying, here]
    rfl
  have same : t.flying.Perm s.flying := by
    rw [before, flying, there]
    cases delivers with
    | true =>
      have shape := List.perm_append_singleton target.srvToken (targets.map EventEntry.srvToken ++ (failed ++ delivered))
      simpa [NotifyPc.targets, NotifyPc.failed, NotifyPc.delivered] using shape
    | false =>
      have shape : (targets.map EventEntry.srvToken ++ failed ++ target.srvToken :: delivered).Perm
          (target.srvToken :: (targets.map EventEntry.srvToken ++ failed ++ delivered)) := List.perm_middle
      simpa [NotifyPc.targets, NotifyPc.failed, NotifyPc.delivered] using shape
  refine counted.of_keeps keeps (same.nodup_iff.mpr counted.once) ?_ fun srvToken => ?_
  · exact fun srvToken member => counted.issued srvToken (same.mem_iff.mp member)
  · obtain ⟨last, outcomes, _, flown⟩ := counted.sent srvToken
    have held := flown (by rw [here]; exact fun ended => NotifyPc.noConfusion ended)
    have absent : target.srvToken ∉ failed ∧ target.srvToken ∉ delivered := by
      have once := counted.once
      rw [before] at once
      have apart := (List.nodup_cons.mp once).1
      simp only [List.mem_append, not_or] at apart
      exact apart.2
    have step : t.outcomesOf srvToken =
        s.outcomesOf srvToken ++ if target.srvToken = srvToken then [delivers] else [] := by
      rw [outcomesOf, sent, List.filter_append, List.map_append, outcomesOf]
      by_cases mine : target.srvToken = srvToken <;> simp [mine]
    have landed : t.flight srvToken = s.flight srvToken ++ if target.srvToken = srvToken then [delivers] else [] := by
      rw [flight, flight, there, here]
      by_cases mine : target.srvToken = srvToken
      · subst mine
        have unsent : delivered.filter (fun token => token = target.srvToken) = [] :=
          List.filter_eq_nil_iff.mpr fun token member same => absent.2 (of_decide_eq_true same ▸ member)
        cases delivers <;> simp [NotifyPc.failed, NotifyPc.delivered, unsent]
      · cases delivers <;> simp [NotifyPc.failed, NotifyPc.delivered, mine]
    have short := flight_length (same.nodup_iff.mpr counted.once) srvToken
    refine ⟨t.flight srvToken, ?_, short, fun _ => rfl⟩
    rw [step, outcomes, held, landed, List.append_assoc]

/-- What `update_failure_counts` adds to the record of a subscription. -/
theorem recordedOf_counted {s t : EventLog ι} {now : Int} {failed delivered : List Int}
    (recorded : t.recorded = s.recorded ++ (failed.map (⟨·, false, now⟩) ++ delivered.map (⟨·, true, now⟩)))
    (once : (failed ++ delivered).Nodup) (srvToken : Int) :
    t.recordedOf srvToken = s.recordedOf srvToken ++
      ((if srvToken ∈ failed then [⟨srvToken, false, now⟩] else []) ++
        if srvToken ∈ delivered then [⟨srvToken, true, now⟩] else []) := by
  obtain ⟨first, second, _⟩ := List.nodup_append.mp once
  rw [recordedOf, recorded, List.filter_append, List.filter_append, filter_outcomes first, filter_outcomes second,
    recordedOf]

/-- The counters follow the record. -/
theorem Counted.entry_counted {s t : EventLog ι} (counted : s.Counted) {now : Int} {failed delivered : List Int}
    (recorded : t.recorded = s.recorded ++ (failed.map (⟨·, false, now⟩) ++ delivered.map (⟨·, true, now⟩)))
    (once : (failed ++ delivered).Nodup) {entry : EventEntry} (member : entry ∈ s.mgr.eventList) :
    (entry.counted now failed delivered).CountedBy (failureRun (t.recordedOf entry.srvToken)) := by
  have counts := counted.counts entry member
  rw [recordedOf_counted recorded once]
  by_cases missed : entry.srvToken ∈ failed
  · have absent : entry.srvToken ∉ delivered :=
      fun arrived => (List.nodup_append.mp once).2.2 _ missed _ arrived rfl
    rw [if_pos missed, if_neg absent, List.append_nil, failureRun_failed]
    exact EventEntry.counted_failed now counts missed absent
  · by_cases arrived : entry.srvToken ∈ delivered
    · rw [if_neg missed, if_pos arrived, List.nil_append, failureRun_delivered]
      exact EventEntry.counted_delivered now arrived
    · rw [if_neg missed, if_neg arrived, List.append_nil, List.append_nil,
        EventEntry.counted_other now missed arrived]
      exact counts

theorem Counted.update {s t : EventLog ι} (counted : s.Counted) {now : Int} {event : EventProcEntry}
    {pending : List EventProcEntry} {failed delivered : List Int}
    (here : s.mgr.notifier = .sending event [] pending failed delivered) (there : t.mgr.notifier = .looping pending)
    (ackToken : t.mgr.ackToken = s.mgr.ackToken)
    (eventList : t.mgr.eventList = updateFailureCounts now failed delivered s.mgr.eventList) (sent : t.sent = s.sent)
    (recorded : t.recorded = s.recorded ++ (failed.map (⟨·, false, now⟩) ++ delivered.map (⟨·, true, now⟩))) :
    t.Counted := by
  have before : s.flying = failed ++ delivered := by
    rw [flying, here]
    rfl
  have once := counted.once
  have issued := counted.issued
  rw [before] at once issued
  have idle : t.mgr.notifier.Idle := by
    rw [there]
    exact ⟨rfl, rfl, rfl, rfl⟩
  rw [updateFailureCounts_eq counted.flags] at eventList
  have origin : ∀ entry ∈ t.mgr.eventList, entry.deleteFlag = false ∧
      ∃ old ∈ s.mgr.eventList, old.counted now failed delivered = entry := by
    intro entry member
    rw [eventList] at member
    obtain ⟨changed, stays⟩ := List.mem_filter.mp member
    exact ⟨by simpa using stays, List.mem_map.mp changed⟩
  constructor
  case flags => exact fun entry member => (origin entry member).1
  case once =>
    rw [flying_idle idle]
    exact List.nodup_nil
  case issued =>
    rw [flying_idle idle]
    simp
  case past =>
    rw [recorded, ackToken]
    intro outcome member
    rcases List.mem_append.mp member with old | new
    · exact counted.past outcome old
    · refine issued _ ?_
      rcases List.mem_append.mp new with missed | arrived
      · obtain ⟨token, place, rfl⟩ := List.mem_map.mp missed
        exact List.mem_append_left _ place
      · obtain ⟨token, place, rfl⟩ := List.mem_map.mp arrived
        exact List.mem_append_right _ place
  case counts =>
    intro entry member
    obtain ⟨_, old, present, rfl⟩ := origin entry member
    rw [(old.counted_same now failed delivered).srvToken]
    exact counted.entry_counted recorded once present
  case sent =>
    intro srvToken
    obtain ⟨last, outcomes, _, flown⟩ := counted.sent srvToken
    have held := flown (by rw [here]; exact fun ended => NotifyPc.noConfusion ended)
    refine ⟨[], ?_, Nat.zero_le _, fun _ => (flight_idle idle srvToken).symm⟩
    -- everything in flight is recorded now
    rw [outcomesOf, sent, recordedOf, recorded, List.filter_append, List.map_append, List.append_nil]
    refine outcomes.trans (congrArg _ ?_)
    rw [held, flight, here, List.filter_append, List.map_append, List.filter_map, List.filter_map, List.map_map,
      List.map_map]
    rfl

variable [DecidableEq ι]

theorem counted_step {s t : EventLog ι} {action : EventAction ι} (table : s.Table) (counted : s.Counted)
    (run : s.step action = some t) : t.Counted := by
  cases step_moves run with
  | quiet keeps sent notifier => exact counted.quiet keeps sent notifier
  | registered fresh mgr _ sent recorded => exact counted.register fresh mgr sent recorded
  | unregistered ackToken eventList _ sent recorded notifier =>
    refine counted.unregister ackToken ?_ sent recorded notifier
    rw [eventList]
    exact List.filter_subset_self _
  | snapshot keeps sent idle goes here =>
    obtain ⟨pending, here⟩ := here
    exact counted.snapshot table keeps sent idle goes here
  | sent keeps sent here there => exact counted.send keeps sent here there
  | counted here there ackToken eventList _ sent recorded =>
    exact counted.update here there ackToken eventList sent recorded

theorem reach_counted {s : EventLog ι} (reach : Reach step Anything start s) : s.Counted :=
  reach.invariant_with (fun _ => reach_table) counted_start fun _ _ _ table counted _ run =>
    counted_step table counted run

/-- What a step does to one subscription: it stays, with its counters unless an
outcome of its own is recorded, or it is unregistered, or it has failed five times
in a row and for a minute. -/
theorem subscription_step {s t : EventLog ι} {action : EventAction ι} (counted : s.Counted)
    (run : s.step action = some t) {entry : EventEntry} (member : entry ∈ s.mgr.eventList) :
    (∃ after ∈ t.mgr.eventList, after.srvToken = entry.srvToken ∧
      (after = entry ∨ ∃ outcome, t.recordedOf entry.srvToken = s.recordedOf entry.srvToken ++ [outcome])) ∨
    action = .unregister entry.srvToken ∨
    ∃ now first last, action = .updateCounts now ∧ 5 ≤ (failureRun (t.recordedOf entry.srvToken)).length ∧
      first ∈ (failureRun (t.recordedOf entry.srvToken)).head? ∧
      last ∈ (failureRun (t.recordedOf entry.srvToken)).getLast? ∧ last.time = now ∧
        first.time + 60000 ≤ last.time := by
  cases step_moves run with
  | quiet keeps => exact .inl ⟨entry, by rw [keeps.eventList]; exact member, rfl, .inl rfl⟩
  | registered fresh mgr =>
    simp only [EvntMgr.registerEventSubscription, fresh, Bool.false_eq_true, if_false] at mgr
    exact .inl ⟨entry, by rw [mgr]; exact List.mem_append_left _ member, rfl, .inl rfl⟩
  | @unregistered srvToken _ _ eventList =>
    by_cases mine : entry.srvToken = srvToken
    · exact .inr (.inl (by rw [mine]))
    · refine .inl ⟨entry, ?_, rfl, .inl rfl⟩
      rw [eventList]
      exact List.mem_filter.mpr ⟨member, bne_iff_ne.mpr mine⟩
  | snapshot keeps => exact .inl ⟨entry, by rw [keeps.eventList]; exact member, rfl, .inl rfl⟩
  | sent keeps => exact .inl ⟨entry, by rw [keeps.eventList]; exact member, rfl, .inl rfl⟩
  | @counted now _ _ failed delivered _ here there _ eventList _ _ recorded =>
    have once : (failed ++ delivered).Nodup := by
      have once := counted.once
      rw [flying, here] at once
      exact once
    rw [updateFailureCounts_eq counted.flags] at eventList
    have counts := counted.entry_counted recorded once member
    have flag := counted.flags entry member
    cases deleted : (entry.counted now failed delivered).deleteFlag with
    | false =>
      refine .inl ⟨entry.counted now failed delivered, ?_, (entry.counted_same now failed delivered).srvToken, ?_⟩
      · rw [eventList]
        exact List.mem_filter.mpr ⟨List.mem_map_of_mem member, by rw [deleted]; rfl⟩
      · rw [recordedOf_counted recorded once]
        by_cases missed : entry.srvToken ∈ failed
        · have absent : entry.srvToken ∉ delivered :=
            fun arrived => (List.nodup_append.mp once).2.2 _ missed _ arrived rfl
          exact .inr ⟨_, by rw [if_pos missed, if_neg absent, List.append_nil]⟩
        · by_cases arrived : entry.srvToken ∈ delivered
          · exact .inr ⟨_, by rw [if_neg missed, if_pos arrived, List.nil_append]⟩
          · exact .inl (EventEntry.counted_other now missed arrived)
    | true =>
      obtain ⟨missed, absent, many, long⟩ := EventEntry.counted_deleteFlag flag deleted
      have grown : failureRun (t.recordedOf entry.srvToken) =
          failureRun (s.recordedOf entry.srvToken) ++ [⟨entry.srvToken, false, now⟩] := by
        rw [recordedOf_counted recorded once, if_pos missed, if_neg absent, List.append_nil, failureRun_failed]
      rw [counts.failCount] at many
      obtain ⟨first, head⟩ : ∃ first, (failureRun (t.recordedOf entry.srvToken)).head? = some first :=
        List.isSome_head?.mpr (by rw [grown]; simp) |> Option.isSome_iff_exists.mp
      rw [counts.firstFailMs first head] at long
      refine .inr (.inr ⟨now, first, ⟨entry.srvToken, false, now⟩, rfl, many, head, ?_, rfl, ?_⟩)
      · rw [grown, List.getLast?_concat]
        rfl
      · have window : failWindowMs = 60000 := rfl
        rw [window] at long
        dsimp only
        omega

/-- The counters of a subscription are the number of failures since its last delivery
and the time of the first of them, all of its own and with at most the current
event not recorded yet; no outcome of another subscription changes it, and it is
only removed by a call or after five failures in a row that span a minute. -/
theorem failure_counts {s : EventLog ι} (reach : Reach step Anything start s) :
    (∀ entry ∈ s.mgr.eventList, entry.failCount = (failureRun (s.recordedOf entry.srvToken)).length ∧
      ∀ first ∈ (failureRun (s.recordedOf entry.srvToken)).head?, entry.firstFailMs = first.time) ∧
    (∀ srvToken, ∃ last, s.outcomesOf srvToken = (s.recordedOf srvToken).map Outcome.delivered ++ last ∧
      last.length ≤ 1 ∧ (s.mgr.notifier.current = none → s.mgr.notifier ≠ .ended → last = [])) ∧
    (∀ action t, s.step action = some t → ∀ entry ∈ s.mgr.eventList,
      (∃ after ∈ t.mgr.eventList, after.srvToken = entry.srvToken ∧
        (after = entry ∨ ∃ outcome, t.recordedOf entry.srvToken = s.recordedOf entry.srvToken ++ [outcome])) ∨
      action = .unregister entry.srvToken ∨
      ∃ now first last, action = .updateCounts now ∧ 5 ≤ (failureRun (t.recordedOf entry.srvToken)).length ∧
        first ∈ (failureRun (t.recordedOf entry.srvToken)).head? ∧
        last ∈ (failureRun (t.recordedOf entry.srvToken)).getLast? ∧ last.time = now ∧
        first.time + 60000 ≤ last.time) := by
  have counted := reach_counted reach
  refine ⟨?_, fun srvToken => ?_, fun action t run entry member => subscription_step counted run member⟩
  · intro entry member
    have counts := counted.counts entry member
    exact ⟨counts.failCount, counts.firstFailMs⟩
  · obtain ⟨last, outcomes, short, flown⟩ := counted.sent srvToken
    refine ⟨last, outcomes, short, fun idle goes => ?_⟩
    rw [flown goes, flight]
    cases here : s.mgr.notifier with
    | sending entry targets pending failed delivered =>
      rw [here] at idle
      cases idle
    | waiting | woken | swapping | looping | ended => rfl

/-- An event is queued and sent to two subscribers. -/
def sampleSendings (first second : Bool) : List (EventAction Bool) :=
  [.notifyEvent false 4 0 0, .wakeup false, .semWait, .checkState, .swap, .snapshot, .sendEvent first, .sendEvent second]

/-- A subscriber that gets the fourth event after three failures, and another that
fails all the time and is removed. -/
theorem failure_counts_two_subscribers :
    ∃ s t : EventLog Bool, s.mgr.eventList.map (fun entry => (entry.srvToken, entry.failCount)) = [(1, 0), (2, 4)] ∧
      (∀ entry ∈ s.mgr.eventList, entry.failCount = (failureRun (s.recordedOf entry.srvToken)).length) ∧
      s.step (.updateCounts 60001) = some t ∧ t.mgr.eventList.map EventEntry.srvToken = [1] := by
  obtain ⟨s, reach, counts, room⟩ := exists_reach step Anything (start : EventLog Bool)
    ([.register (EvntMgr.sampleEntry (-1)), .register (EvntMgr.sampleEntry 4)] ++
      sampleSendings false false ++ [.updateCounts 1, .callbackReturns] ++
      sampleSendings false false ++ [.updateCounts 2, .callbackReturns] ++
      sampleSendings false false ++ [.updateCounts 3, .callbackReturns] ++
      sampleSendings true false ++ [.updateCounts 4, .callbackReturns] ++ sampleSendings true false)
    (fun s => s.mgr.eventList.map (fun entry => (entry.srvToken, entry.failCount)) = [(1, 0), (2, 4)] ∧
      (s.step (.updateCounts 60001)).any (fun t => t.mgr.eventList.map EventEntry.srvToken = [1]) = true)
    (by decide +kernel)
  obtain ⟨t, run, left⟩ := (Option.any_eq_true _ _).mp room
  exact ⟨s, t, counts, fun entry member => ((failure_counts reach).1 entry member).1, run, of_decide_eq_true left⟩

end EventLog
end JsonRpcTcp
