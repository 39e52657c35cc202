import JsonRpcTcp.XmppCompletion

namespace JsonRpcTcp.AsyncSystem

/-- The completion replies for a task. -/
def repliesFor (s : AsyncSystem) (number : Nat) : List CompletionReply :=
  s.sent.filter fun reply => reply.number = number

/-- There is one reply for a task whose event has been processed, if it found the entry of the task. -/
def Once (s : AsyncSystem) (number : Nat) : Prop :=
  (s.repliesFor number).length = if number ∈ s.processed ∧ number ∉ s.early then 1 else 0

variable {s t : AsyncSystem} {number : Nat}

/-- A step that sends no reply and leaves it open whether the event is processed, or was early. -/
theorem Once.keep (once : s.Once number) (sent : t.sent = s.sent)
    (done : number ∈ t.processed ∧ number ∉ t.early ↔ number ∈ s.processed ∧ number ∉ s.early) : t.Once number := by
  unfold Once repliesFor at once ⊢
  simp only [sent, done]
  exact once

/-- The event of the task is processed at once when it finds no entry, and then it was early. -/
theorem Once.takeEvent (once : s.Once number) (alone : s.Alone number) (accounted : s.Accounted) {taken : Nat}
    {task : ServiceTask} (arrived : taken ∈ s.events) (known : s.issued[taken]? = some task) :
    (s.takeEvent taken task).Once number := by
  obtain ⟨_, _, _, _, _, sent, _⟩ := takeEvent_same s taken task
  refine once.keep sent ?_
  rcases eq_or_ne number taken with rfl | different
  · have unprocessed : number ∉ s.processed := fun done => accounted.unreceived arrived (accounted.processed number done)
    rcases takeEvent_cases s number task with ⟨missing, _, _, _, _⟩ | ⟨_, _, _, _, _, _, _, processed⟩
    · have early : number ∈ (s.takeEvent number task).early :=
        mem_takeEvent_early.mpr (.inr ⟨rfl, alone.absent accounted arrived known missing⟩)
      exact ⟨fun both => absurd early both.2, fun both => absurd both.1 unprocessed⟩
    · rw [processed]
      exact ⟨fun both => absurd both.1 unprocessed, fun both => absurd both.1 unprocessed⟩
  · have early : number ∈ (s.takeEvent taken task).early ↔ number ∈ s.early :=
      mem_takeEvent_early.trans (or_iff_left fun new => different new.1)
    have processed : number ∈ (s.takeEvent taken task).processed ↔ number ∈ s.processed := by
      rcases takeEvent_cases s taken task with ⟨_, _, _, _, processed⟩ | ⟨_, _, _, _, _, _, _, processed⟩
      · rw [processed, List.mem_append, List.mem_singleton, or_iff_left different]
      · rw [processed]
    rw [early, processed]

/-- The reply for the entry that has been taken. -/
theorem Once.taskStatus (once : s.Once number) (alone : s.Alone number) (accounted : s.Accounted)
    {read : AsyncEventEntry} {taken : Nat} (here : s.receiver = .reading read taken) {connects : Bool}
    (reachable : taken = number → connects = true) (text : List Byte) :
    (s.reported read taken connects text).Once number := by
  rcases eq_or_ne taken number with rfl | different
  · cases reachable rfl
    obtain ⟨_, unprocessed⟩ := accounted.reading read taken here
    have timely := (alone.reading read here).2
    have now : taken ∈ s.processed ++ [taken] := List.mem_append_right _ (List.mem_singleton_self _)
    unfold Once repliesFor at once
    rw [if_neg fun both => unprocessed both.1] at once
    unfold Once repliesFor reported
    dsimp only
    rw [if_pos rfl, List.filter_append, List.length_append, once, if_pos ⟨now, timely⟩, List.filter_singleton]
    simp only [decide_true, cond_true, List.length_singleton]
  · have none : decide (taken = number) = false := decide_eq_false different
    have replies : (s.reported read taken connects text).repliesFor number = s.repliesFor number := by
      unfold repliesFor reported
      cases connects with
      | false => rfl
      | true =>
        dsimp only
        rw [if_pos rfl, List.filter_append, List.filter_singleton]
        simp only [none, cond_false, List.append_nil]
    have processed : number ∈ s.processed ++ [taken] ↔ number ∈ s.processed := by
      rw [List.mem_append, List.mem_singleton, or_iff_left different.symm]
    unfold Once at once ⊢
    rw [replies, once]
    simp only [reported, processed]

theorem Once.does (once : s.Once number) (alone : s.Alone number) (accounted : s.Accounted) {action : AsyncAction}
    (allowed : s.FreshAndReachable number action) (does : s.Does action t) : t.Once number := by
  cases does with
  | request | otherClient | response => exact once
  | lose loses => exact once.keep loses.sent (by rw [loses.processed, loses.early])
  | receiveEvent _ arrived known => exact once.takeEvent alone accounted arrived known
  | @taskStatus read taken connects _ here =>
    refine once.taskStatus alone accounted here (fun own => allowed.2 ?_) _
    rw [here]
    exact congrArg some own

theorem reach_once {mgr : XmppMgr} (reach : Reach AsyncSystem.step (FreshAndReachable number) (AsyncSystem.start mgr) s) :
    s.Once number := by
  induction reach with
  | start => exact (if_neg fun both => absurd both.1 List.not_mem_nil).symm
  | next before allowed next ih =>
    have alone := reach_alone (fun _ _ _ allowed => allowed.1) before
    exact ih.does alone (reach_accounted before) allowed (does_of_step next)

/-- When both the response with the id of a task and its event have been processed, the id was fresh and the
service could be reached for it, the requester has exactly one completion reply for the task if and only if the
event was taken after the entry had been inserted. -/
theorem completion_once {mgr : XmppMgr} {entry : AsyncEventEntry}
    (reach : Reach AsyncSystem.step (FreshAndReachable number) (AsyncSystem.start mgr) s)
    (inserted : (entry, number) ∈ s.inserted) (processed : number ∈ s.processed) :
    (s.sent.filter fun reply => reply.number = number ∧ reply.replyTo = entry.replyTo).length = 1 ↔
      number ∉ s.early := by
  have alone := reach_alone (fun _ _ _ allowed => allowed.1) reach
  -- all replies for the task go to its requester
  have same : (s.sent.filter fun reply => decide (reply.number = number ∧ reply.replyTo = entry.replyTo)) =
      s.repliesFor number := by
    refine List.filter_congr fun reply member => decide_eq_decide.mpr ⟨fun both => both.1, fun this => ⟨this, ?_⟩⟩
    obtain ⟨other, inside, replyTo, _⟩ := alone.replied reply member this
    rw [replyTo, (reach_accounted reach).one_entry inserted inside]
  have replies : (s.repliesFor number).length = _ := reach_once reach
  rw [same, replies]
  constructor
  · intro one early
    rw [if_neg fun both => both.2 early] at one
    cases one
  · intro timely
    exact if_pos ⟨processed, timely⟩

/-- The response is processed first. Another client's task completes in between, and the service cannot be
reached for a task of another sender. -/
theorem completion_once_timely :
    ∃ s : AsyncSystem, s.early = [0] ∧
      ((s.sent.filter fun reply => reply.number = 1 ∧ reply.replyTo = ascii "a").length = 1 ↔ 1 ∉ s.early) := by
  obtain ⟨s, reach, early, inserted, processed⟩ := exists_reach AsyncSystem.step (FreshAndReachable 1)
    (.start (.start (ascii "a") []))
    [.otherClient portSysmgr, .request portSysmgr (ascii "a"), .response, .complete 0, .receiveEvent 0,
     .request portSysmgr (ascii "b"), .response, .complete 2, .receiveEvent 2, .taskStatus false [],
     .complete 1, .receiveEvent 1, .taskStatus true (ascii "0")]
    (fun s => s.early = [0] ∧ (⟨2, portSysmgr, 1, ascii "a"⟩, 1) ∈ s.inserted ∧ 1 ∈ s.processed) (by decide +kernel)
  exact ⟨s, early, completion_once reach inserted processed⟩

/-- The event is processed first. The requester never gets a reply. -/
theorem completion_before_response :
    ∃ s, Reach AsyncSystem.step (FreshAndReachable 0) (.start (.start (ascii "a") [])) s ∧
      (⟨1, portSysmgr, 1, ascii "a"⟩, 0) ∈ s.inserted ∧ 0 ∈ s.processed ∧ s.sent = [] :=
  exists_reach AsyncSystem.step (FreshAndReachable 0) (.start (.start (ascii "a") []))
    [.request portSysmgr (ascii "a"), .complete 0, .receiveEvent 0, .response] _ (by decide +kernel)

end JsonRpcTcp.AsyncSystem
