import JsonRpcTcp.EventDelivery

namespace JsonRpcTcp

/-- One call of `send_event`: the copied subscription, the event, and whether it was
delivered. -/
structure Sending where
  target : EventEntry
  event : EventProcEntry
  delivered : Bool
  deriving DecidableEq, Repr

/-- An outcome that `update_failure_counts` has looked at, with the time it read. -/
structure Outcome where
  srvToken : Int
  delivered : Bool
  time : Int
  deriving DecidableEq, Repr

/-- Where a subscription is delivered: what `send_event` connects to and the token it
sends, and the event asked for. -/
structure DeliveryTarget where
  ip : List Byte
  portNum : Int
  cltToken : Int
  eventNum : Int
  deriving DecidableEq, Repr

def EventEntry.deliveryTarget (entry : EventEntry) : DeliveryTarget :=
  { ip := entry.ip, portNum := entry.portNum, cltToken := entry.cltToken, eventNum := entry.eventNum }

/-- What `FindDuplicateEntry` compares. -/
def EventEntry.identity (entry : EventEntry) : Int × Int × Int := (entry.cltToken, entry.portNum, entry.eventNum)

theorem EventEntry.counted_identity (now : Int) (failed delivered : List Int) (entry : EventEntry) :
    (entry.counted now failed delivered).identity = entry.identity := by
  unfold counted
  split_ifs <;> rfl

theorem EventEntry.duplicates_iff (entry other : EventEntry) :
    entry.duplicates other = true ↔ other.identity = entry.identity := by
  simp only [duplicates, identity, Bool.and_eq_true, beq_iff_eq, Prod.mk.injEq]
  omega

namespace NotifyPc

/-- The outcomes for the current event that are not recorded yet. -/
def failed : NotifyPc → List Int
  | .sending _ _ _ failed _ => failed
  | _ => []

def delivered : NotifyPc → List Int
  | .sending _ _ _ _ delivered => delivered
  | _ => []

/-- No copied subscription, and no outcome that is not recorded. -/
structure Idle (pc : NotifyPc) : Prop where
  current : pc.current = none
  targets : pc.targets = []
  failed : pc.failed = []
  delivered : pc.delivered = []

end NotifyPc

namespace EvntMgr
variable {ι : Type}

/-- What `register_event_subscription` leaves in `*ack_token`. -/
def registeredAck (s : EvntMgr ι) (entry : EventEntry) (ackToken : Int) : Int :=
  if s.eventList.any entry.duplicates then ackToken else s.ackToken + 1

/-- The token that a call issues. -/
def issues (s : EvntMgr ι) : EventAction ι → List Int
  | .register entry => if s.eventList.any entry.duplicates then [] else [s.ackToken + 1]
  | _ => []

/-- The call of `send_event` in a step of the notify thread. -/
def sends (s : EvntMgr ι) : EventAction ι → List Sending
  | .sendEvent delivers =>
    match s.notifier with
    | .sending event (target :: _) _ _ _ => if s.stopRequested then [] else [⟨target, event, delivers⟩]
    | _ => []
  | _ => []

/-- The outcomes that `update_failure_counts` gets. -/
def records (s : EvntMgr ι) : EventAction ι → List Outcome
  | .updateCounts now => s.notifier.failed.map (⟨·, false, now⟩) ++ s.notifier.delivered.map (⟨·, true, now⟩)
  | _ => []

theorem leaveCallback_idle (s : EvntMgr ι) : s.leaveCallback.notifier.Idle := by
  unfold leaveCallback
  split_ifs <;> exact ⟨rfl, rfl, rfl, rfl⟩

end EvntMgr

/-- `ADEvntMgr` with the history of its subscriptions: every token it issued, every
call of `send_event` and every outcome it recorded. -/
structure EventLog (ι : Type) where
  mgr : EvntMgr ι
  issued : List Int
  sent : List Sending
  recorded : List Outcome

namespace EventLog
variable {ι : Type}

def start : EventLog ι where
  mgr := .start
  issued := []
  sent := []
  recorded := []

/-- Any calls, in any interleaving with the notify thread, as in `EvntMgr.Anything`. -/
def Anything (_ : EventLog ι) (_ : EventAction ι) : Prop := True

instance (s : EventLog ι) (action : EventAction ι) : Decidable (s.Anything action) := instDecidableTrue

/-- The history of the subscriptions is as before. -/
structure Keeps (s t : EventLog ι) : Prop where
  eventList : t.mgr.eventList = s.mgr.eventList
  ackToken : t.mgr.ackToken = s.mgr.ackToken
  issued : t.issued = s.issued
  recorded : t.recorded = s.recorded

/-- What a step can do to the subscriptions. -/
inductive Moves (s : EventLog ι) : EventAction ι → EventLog ι → Prop
  | quiet {action : EventAction ι} {t : EventLog ι} (keeps : s.Keeps t) (sent : t.sent = s.sent)
      (notifier : t.mgr.notifier = s.mgr.notifier ∨
        t.mgr.notifier.Idle ∧ (s.mgr.notifier.Idle ∧ s.mgr.notifier ≠ .ended ∨ t.mgr.notifier = .ended)) :
      Moves s action t
  | registered {entry : EventEntry} {t : EventLog ι} (fresh : s.mgr.eventList.any entry.duplicates = false)
      (mgr : t.mgr = (s.mgr.registerEventSubscription entry).1) (issued : t.issued = s.issued ++ [s.mgr.ackToken + 1])
      (sent : t.sent = s.sent) (recorded : t.recorded = s.recorded) : Moves s (.register entry) t
  | unregistered {srvToken : Int} {t : EventLog ι} (ackToken : t.mgr.ackToken = s.mgr.ackToken)
      (eventList : t.mgr.eventList = s.mgr.eventList.filter fun entry => entry.srvToken != srvToken)
      (issued : t.issued = s.issued) (sent : t.sent = s.sent) (recorded : t.recorded = s.recorded)
      (notifier : t.mgr.notifier = s.mgr.notifier) : Moves s (.unregister srvToken) t
  | snapshot {event : EventProcEntry} {t : EventLog ι} (keeps : s.Keeps t) (sent : t.sent = s.sent)
      (idle : s.mgr.notifier.Idle) (goes : s.mgr.notifier ≠ .ended)
      (here : ∃ pending, t.mgr.notifier = .sending event (s.mgr.targets event) pending [] []) : Moves s .snapshot t
  | sent {delivers : Bool} {event : EventProcEntry} {target : EventEntry} {targets : List EventEntry}
      {pending : List EventProcEntry} {failed delivered : List Int} {t : EventLog ι} (keeps : s.Keeps t)
      (sent : t.sent = s.sent ++ [⟨target, event, delivers⟩])
      (here : s.mgr.notifier = .sending event (target :: targets) pending failed delivered)
      (there : t.mgr.notifier = .sending event targets pending
        (if delivers then failed else failed ++ [target.srvToken])
        (if delivers then delivered ++ [target.srvToken] else delivered)) : Moves s (.sendEvent delivers) t
  | counted {now : Int} {event : EventProcEntry} {pending : List EventProcEntry} {failed delivered : List Int}
      {t : EventLog ι} (here : s.mgr.notifier = .sending event [] pending failed delivered)
      (there : t.mgr.notifier = .looping pending) (ackToken : t.mgr.ackToken = s.mgr.ackToken)
      (eventList : t.mgr.eventList = updateFailureCounts now failed delivered s.mgr.eventList)
      (issued : t.issued = s.issued) (sent : t.sent = s.sent)
      (recorded : t.recorded = s.recorded ++ (failed.map (⟨·, false, now⟩) ++ delivered.map (⟨·, true, now⟩))) :
      Moves s (.updateCounts now) t

variable [DecidableEq ι]

/-- A step of `ADEvntMgr`, with its history. -/
def step (s : EventLog ι) (action : EventAction ι) : Option (EventLog ι) :=
  (s.mgr.step action).map fun mgr =>
    { mgr := mgr
      issued := s.issued ++ s.mgr.issues action
      sent := s.sent ++ s.mgr.sends action
      recorded := s.recorded ++ s.mgr.records action }

theorem step_moves {s t : EventLog ι} {action : EventAction ι} (run : s.step action = some t) : s.Moves action t := by
  obtain ⟨mgr, inner, rfl⟩ := Option.map_eq_some_iff.mp run
  cases action with
  | notifyEvent producer eventNum eventArg eventArg2 =>
    obtain ⟨_, rfl⟩ := onlyIf_eq_some.mp inner
    have same : (s.mgr.queueEvent eventNum eventArg eventArg2).eventList = s.mgr.eventList ∧
        (s.mgr.queueEvent eventNum eventArg eventArg2).ackToken = s.mgr.ackToken ∧
        (s.mgr.queueEvent eventNum eventArg eventArg2).notifier = s.mgr.notifier := by
      simp only [EvntMgr.queueEvent]
      split_ifs <;> exact ⟨rfl, rfl, rfl⟩
    exact .quiet ⟨same.1, same.2.1, List.append_nil _, List.append_nil _⟩ (List.append_nil _) (.inl same.2.2)
  | wakeup | stop =>
    first | cases inner | (obtain ⟨_, rfl⟩ := onlyIf_eq_some.mp inner)
    exact .quiet ⟨rfl, rfl, List.append_nil _, List.append_nil _⟩ (List.append_nil _) (.inl rfl)
  | register entry =>
    obtain ⟨_, rfl⟩ := onlyIf_eq_some.mp inner
    cases fresh : s.mgr.eventList.any entry.duplicates with
    | true =>
      have same : (s.mgr.registerEventSubscription entry).1 = s.mgr := by
        simp only [EvntMgr.registerEventSubscription, fresh, if_true]
      refine .quiet ⟨congrArg _ same, congrArg _ same, ?_, List.append_nil _⟩ (List.append_nil _)
        (.inl (congrArg _ same))
      simp only [EvntMgr.issues, fresh, if_true, List.append_nil]
    | false =>
      refine .registered fresh rfl ?_ (List.append_nil _) (List.append_nil _)
      simp only [EvntMgr.issues, fresh, Bool.false_eq_true, if_false]
  | unregister srvToken =>
    cases inner
    refine .unregistered ?_ ?_ (List.append_nil _) (List.append_nil _) (List.append_nil _) ?_
    · simp only [EvntMgr.unregisterEventSubscription]
      split_ifs <;> rfl
    · simp only [EvntMgr.unregisterEventSubscription]
      split_ifs with found
      · rfl
      · refine (List.filter_eq_self.mpr fun entry member => ?_).symm
        have other : ¬ (entry.srvToken == srvToken) = true :=
          fun same => found (List.any_eq_true.mpr ⟨entry, member, same⟩)
        simpa using other
    · simp only [EvntMgr.unregisterEventSubscription]
      split_ifs <;> rfl
  | semWait =>
    obtain ⟨⟨here, _⟩, rfl⟩ := onlyIf_eq_some.mp inner
    refine .quiet ⟨rfl, rfl, List.append_nil _, List.append_nil _⟩ (List.append_nil _)
      (.inr ⟨⟨rfl, rfl, rfl, rfl⟩, .inl ?_⟩)
    rw [here]
    exact ⟨⟨rfl, rfl, rfl, rfl⟩, fun ended => NotifyPc.noConfusion ended⟩
  | interrupted | callbackReturns =>
    obtain ⟨here, rfl⟩ := onlyIf_eq_some.mp inner
    refine .quiet ⟨rfl, rfl, List.append_nil _, List.append_nil _⟩ (List.append_nil _)
      (.inr ⟨s.mgr.leaveCallback_idle, .inl ?_⟩)
    rw [here]
    exact ⟨⟨rfl, rfl, rfl, rfl⟩, fun ended => NotifyPc.noConfusion ended⟩
  | checkState =>
    obtain ⟨here, rfl⟩ := onlyIf_eq_some.mp inner
    refine .quiet ⟨rfl, rfl, List.append_nil _, List.append_nil _⟩ (List.append_nil _) (.inr ⟨?_, .inl ?_⟩)
    · dsimp only
      split_ifs <;> exact ⟨rfl, rfl, rfl, rfl⟩
    · rw [here]
      exact ⟨⟨rfl, rfl, rfl, rfl⟩, fun ended => NotifyPc.noConfusion ended⟩
  | swap =>
    obtain ⟨here, rfl⟩ := onlyIf_eq_some.mp inner
    refine .quiet ⟨rfl, rfl, List.append_nil _, List.append_nil _⟩ (List.append_nil _)
      (.inr ⟨⟨rfl, rfl, rfl, rfl⟩, .inl ?_⟩)
    rw [here]
    exact ⟨⟨rfl, rfl, rfl, rfl⟩, fun ended => NotifyPc.noConfusion ended⟩
  | snapshot =>
    simp only [EvntMgr.step] at inner
    split at inner
    case h_1 event pending here =>
      cases inner
      refine .snapshot ⟨rfl, rfl, List.append_nil _, List.append_nil _⟩ (List.append_nil _) ?_ ?_ ⟨pending, rfl⟩
      · rw [here]
        exact ⟨rfl, rfl, rfl, rfl⟩
      · rw [here]
        exact fun ended => NotifyPc.noConfusion ended
    case h_2 => cases inner
  | sendEvent delivers =>
    simp only [EvntMgr.step] at inner
    split at inner
    case h_1 event target targets pending failed delivered here =>
      cases stopped : s.mgr.stopRequested with
      | true =>
        simp only [stopped, if_true, Option.some.injEq] at inner
        subst inner
        have unsent : s.mgr.sends (.sendEvent delivers) = [] := by
          simp only [EvntMgr.sends, here, stopped, if_true]
        refine .quiet ⟨rfl, rfl, List.append_nil _, List.append_nil _⟩ ?_
          (.inr ⟨s.mgr.leaveCallback_idle, .inr ?_⟩)
        · rw [unsent, List.append_nil]
        · simp only [EvntMgr.leaveCallback, stopped, if_true]
      | false =>
        simp only [stopped, Bool.false_eq_true, if_false, Option.some.injEq] at inner
        subst inner
        refine .sent ⟨rfl, rfl, List.append_nil _, List.append_nil _⟩ ?_ here rfl
        simp only [EvntMgr.sends, here, stopped, Bool.false_eq_true, if_false]
    case h_2 => cases inner
  | updateCounts now =>
    simp only [EvntMgr.step] at inner
    split at inner
    case h_1 event pending failed delivered here =>
      cases inner
      refine .counted here rfl rfl rfl (List.append_nil _) (List.append_nil _) ?_
      simp only [EvntMgr.records, here, NotifyPc.failed, NotifyPc.delivered]
    case h_2 => cases inner

theorem reach_mgr {s : EventLog ι} (reach : Reach step Anything start s) :
    Reach EvntMgr.step EvntMgr.Anything .start s.mgr := by
  refine Reach.simulation EventLog.mgr (fun s t action _ _ run => .inr ⟨action, trivial, ?_⟩) reach
  obtain ⟨mgr, inner, rfl⟩ := Option.map_eq_some_iff.mp run
  exact inner

/-- The table with both of its keys: tokens are below `AckToken` and never issued
again, and no entry is a duplicate of another. -/
structure Table (s : EventLog ι) : Prop where
  tokens : Keyed EventEntry.srvToken s.mgr.eventList
  listed : ∀ entry ∈ s.mgr.eventList, entry.srvToken ∈ s.issued
  fresh : ∀ srvToken ∈ s.issued, srvToken ≤ s.mgr.ackToken
  issued : s.issued.Nodup
  identities : Keyed EventEntry.identity s.mgr.eventList

omit [DecidableEq ι] in
theorem table_start : (start : EventLog ι).Table where
  tokens := Keyed.nil
  listed := by simp [start, EvntMgr.start]
  fresh := by simp [start]
  issued := List.nodup_nil
  identities := Keyed.nil

omit [DecidableEq ι] in
/-- Subscriptions go, and those that stay keep what they are known by. -/
theorem Table.shrink {s t : EventLog ι} (table : s.Table) (change : EventEntry → EventEntry) (stays : EventEntry → Bool)
    (eventList : t.mgr.eventList = (s.mgr.eventList.map change).filter stays)
    (srvToken : ∀ entry, (change entry).srvToken = entry.srvToken)
    (identity : ∀ entry, (change entry).identity = entry.identity) (ackToken : t.mgr.ackToken = s.mgr.ackToken)
    (issued : t.issued = s.issued) : t.Table where
  tokens := by
    rw [eventList]
    exact (table.tokens.map fun entry _ => srvToken entry).filter _
  listed := by
    intro entry member
    rw [eventList] at member
    obtain ⟨before, present, rfl⟩ := List.mem_map.mp (List.mem_filter.mp member).1
    rw [srvToken, issued]
    exact table.listed before present
  fresh := by
    rw [issued, ackToken]
    exact table.fresh
  issued := by
    rw [issued]
    exact table.issued
  identities := by
    rw [eventList]
    exact (table.identities.map fun entry _ => identity entry).filter _

omit [DecidableEq ι] in
theorem Table.keep {s t : EventLog ι} (table : s.Table) (keeps : s.Keeps t) : t.Table := by
  refine table.shrink id (fun _ => true) ?_ (fun _ => rfl) (fun _ => rfl) keeps.ackToken keeps.issued
  rw [keeps.eventList, List.map_id, List.filter_true]

omit [DecidableEq ι] in
theorem Table.register {s t : EventLog ι} (table : s.Table) {entry : EventEntry}
    (fresh : s.mgr.eventList.any entry.duplicates = false) (mgr : t.mgr = (s.mgr.registerEventSubscription entry).1)
    (issued : t.issued = s.issued ++ [s.mgr.ackToken + 1]) : t.Table := by
  have new : ∀ srvToken ∈ s.issued, srvToken ≠ s.mgr.ackToken + 1 := by
    intro srvToken member
    have bound := table.fresh srvToken member
    omega
  have other : ∀ old ∈ s.mgr.eventList, old.identity ≠ entry.identity := by
    intro old member same
    have found := List.any_eq_true.mpr ⟨old, member, (entry.duplicates_iff old).mpr same⟩
    rw [fresh] at found
    cases found
  simp only [EvntMgr.registerEventSubscription, fresh, Bool.false_eq_true, if_false] at mgr
  constructor
  case tokens =>
    rw [mgr]
    exact table.tokens.append_singleton fun old member => new _ (table.listed old member)
  case listed =>
    rw [mgr, issued]
    intro old member
    rcases List.mem_append.mp member with before | last
    · exact List.mem_append_left _ (table.listed old before)
    · rw [List.mem_singleton.mp last]
      exact List.mem_append_right _ List.mem_cons_self
  case fresh =>
    rw [mgr, issued]
    intro srvToken member
    rcases List.mem_append.mp member with before | last
    · have bound := table.fresh srvToken before
      exact Int.le_add_one bound
    · rw [List.mem_singleton.mp last]
  case issued =>
    rw [issued]
    refine List.nodup_append.mpr ⟨table.issued, List.nodup_singleton _, ?_⟩
    intro srvToken member last here
    rw [List.mem_singleton.mp here]
    exact new srvToken member
  case identities =>
    rw [mgr]
    exact table.identities.append_singleton other

theorem table_step {s t : EventLog ι} {action : EventAction ι} (table : s.Table) (run : s.step action = some t) :
    t.Table := by
  cases step_moves run with
  | quiet keeps => exact table.keep keeps
  | registered fresh mgr issued => exact table.register fresh mgr issued
  | @unregistered srvToken _ ackToken eventList issued =>
    refine table.shrink id (fun entry => entry.srvToken != srvToken) ?_ (fun _ => rfl) (fun _ => rfl) ackToken issued
    rw [eventList, List.map_id]
  | snapshot keeps => exact table.keep keeps
  | sent keeps => exact table.keep keeps
  | @counted now _ _ failed delivered _ _ _ ackToken eventList issued =>
    unfold updateFailureCounts at eventList
    split_ifs at eventList
    · refine table.shrink id (fun _ => true) ?_ (fun _ => rfl) (fun _ => rfl) ackToken issued
      rw [eventList, List.map_id, List.filter_true]
    · exact table.shrink _ _ eventList (fun entry => (entry.counted_same now failed delivered).srvToken)
        (fun entry => entry.counted_identity now failed delivered) ackToken issued

theorem reach_table {s : EventLog ι} (reach : Reach step Anything start s) : s.Table :=
  reach.invariant table_start fun _ _ _ table _ run => table_step table run

end EventLog

namespace EvntMgr
variable {ι : Type}

/-- With distinct tokens, unregistering takes out one entry and leaves the others where they are. -/
theorem unregister_cases {s : EvntMgr ι} (tokens : Keyed EventEntry.srvToken s.eventList) (srvToken : Int) :
    (∃ earlier entry later, s.eventList = earlier ++ entry :: later ∧ entry.srvToken = srvToken ∧
      s.unregisterEventSubscription srvToken = ({ s with eventList := earlier ++ later }, 0)) ∨
    (∀ entry ∈ s.eventList, entry.srvToken ≠ srvToken) ∧ s.unregisterEventSubscription srvToken = (s, -1) := by
  by_cases found : s.eventList.any (fun entry => entry.srvToken == srvToken) = true
  · obtain ⟨entry, member, same⟩ := List.any_eq_true.mp found
    obtain ⟨earlier, later, split⟩ := List.append_of_mem member
    have token : entry.srvToken = srvToken := beq_iff_eq.mp same
    refine .inl ⟨earlier, entry, later, split, token, ?_⟩
    have others : ∀ other ∈ earlier ++ later, (other.srvToken != srvToken) = true := by
      rw [split] at tokens
      have apart : ∀ other ∈ earlier ++ later, entry.srvToken ≠ other.srvToken :=
        (List.pairwise_cons.mp ((List.perm_middle.pairwise_iff Ne.symm).mp tokens)).1
      intro other place
      rw [← token]
      exact bne_iff_ne.mpr (apart other place).symm
    have rest : s.eventList.filter (fun other => other.srvToken != srvToken) = earlier ++ later := by
      rw [← List.filter_eq_self.mpr others, split, List.filter_append, List.filter_append, List.filter_cons, token]
      simp
    rw [unregisterEventSubscription, if_pos found, rest]
  · refine .inr ⟨fun entry member same => found ?_, ?_⟩
    · exact List.any_eq_true.mpr ⟨entry, member, beq_iff_eq.mpr same⟩
    · rw [unregisterEventSubscription, if_neg found]

end EvntMgr

namespace EventLog
variable {ι : Type} [DecidableEq ι]

/-- The tokens in the table are distinct and none was issued twice, no two entries
ask for the same, unregistering removes one entry or nothing, and a registration
that is turned down changes nothing. -/
theorem subscription_table {s : EventLog ι} (reach : Reach step Anything start s) :
    (s.mgr.eventList.map EventEntry.srvToken).Nodup ∧
    s.issued.Nodup ∧
    (∀ entry ∈ s.mgr.eventList, entry.srvToken ∈ s.issued) ∧
    (s.mgr.eventList.map fun entry => (entry.cltToken, entry.portNum, entry.eventNum)).Nodup ∧
    (∀ srvToken,
      (∃ earlier entry later, s.mgr.eventList = earlier ++ entry :: later ∧ entry.srvToken = srvToken ∧
        s.mgr.unregisterEventSubscription srvToken = ({ s.mgr with eventList := earlier ++ later }, 0)) ∨
      (∀ entry ∈ s.mgr.eventList, entry.srvToken ≠ srvToken) ∧
        s.mgr.unregisterEventSubscription srvToken = (s.mgr, -1)) ∧
    (∀ entry ackToken, (s.mgr.registerEventSubscription entry).2 = -1 →
      (s.mgr.registerEventSubscription entry).1 = s.mgr ∧ s.mgr.registeredAck entry ackToken = ackToken) ∧
    (∀ entry ackToken, (s.mgr.registerEventSubscription entry).2 ≠ -1 →
      (s.mgr.registerEventSubscription entry).2 = 0 ∧ s.mgr.registeredAck entry ackToken ∉ s.issued) := by
  have table := reach_table reach
  refine ⟨List.pairwise_map.mpr table.tokens, table.issued, table.listed, List.pairwise_map.mpr table.identities,
    EvntMgr.unregister_cases table.tokens, ?_, ?_⟩
  · intro entry ackToken refused
    simp only [EvntMgr.registerEventSubscription, EvntMgr.registeredAck] at refused ⊢
    split_ifs at refused ⊢ with duplicate
    exact ⟨rfl, rfl⟩
  · intro entry ackToken accepted
    simp only [EvntMgr.registerEventSubscription, EvntMgr.registeredAck] at accepted ⊢
    split_ifs at accepted ⊢ with duplicate
    · exact absurd rfl accepted
    · refine ⟨rfl, fun again => ?_⟩
      have bound := table.fresh _ again
      omega

theorem subscription_table_three :
    ∃ s : EventLog Bool, s.mgr.eventList.length = 2 ∧ s.issued = [1, 2, 3] ∧
      (s.mgr.eventList.map EventEntry.srvToken).Nodup ∧
      (s.mgr.registerEventSubscription (EvntMgr.sampleEntry 4)).1 = s.mgr := by
  obtain ⟨s, reach, length, issued, refused⟩ := exists_reach step Anything (start : EventLog Bool)
    [.register (EvntMgr.sampleEntry (-1)), .register (EvntMgr.sampleEntry 4), .register (EvntMgr.sampleEntry 4),
      .unregister 1, .register (EvntMgr.sampleEntry (-1))]
    (fun s => s.mgr.eventList.length = 2 ∧ s.issued = [1, 2, 3] ∧
      (s.mgr.registerEventSubscription (EvntMgr.sampleEntry 4)).2 = -1) (by decide +kernel)
  have table := subscription_table reach
  exact ⟨s, length, issued, table.1, (table.2.2.2.2.2.1 (EvntMgr.sampleEntry 4) 0 refused).1⟩

end EventLog
end JsonRpcTcp
