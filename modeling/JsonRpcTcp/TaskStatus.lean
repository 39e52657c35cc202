import JsonRpcTcp.TaskSingle

namespace JsonRpcTcp
open Function

namespace TaskWorker

/-- The records are not emptied, and `run_work` does not return `IN_PROG`. -/
def Polling (_ : TaskWorker Unit) : TaskAction Unit → Prop
  | .caller _ .empty => False
  | .worker (.runWork result) => result ≠ .inProg
  | _ => True

instance (s : TaskWorker Unit) (action : TaskAction Unit) : Decidable (s.Polling action) := by
  unfold Polling
  split <;> infer_instance

/-- The records in front are finished, and the oldest one is evicted. -/
structure Ordered (s : TaskWorker Unit) (done : List TaskRecord) (pending : List WorkTask) : Prop
    extends Lined s done pending where
  finished : ∀ record ∈ done, record.taskSts ≠ .inProg
  result : ∀ task result, s.worker = .publishing task result → result ≠ .inProg
  picked : ∀ args victim, s.callers () = .removing args victim → ∃ record rest, done = record :: rest ∧
    record.taskID = victim

variable {s t : TaskWorker Unit} {done done' : List TaskRecord} {pending pending' : List WorkTask}

theorem ordered_start : (start : TaskWorker Unit).Ordered [] [] where
  toLined := lined_start
  finished := fun _ member => absurd member List.not_mem_nil
  result := fun _ _ impossible => by cases impossible
  picked := fun _ _ impossible => by cases impossible

/-- The victim of an eviction is the oldest record. -/
theorem Ordered.victim_head (ordered : s.Ordered done pending) {victim : Int} (found : s.victim = some victim) :
    ∃ record rest, done = record :: rest ∧ record.taskID = victim := by
  obtain ⟨record, search, same⟩ := Option.map_eq_some_iff.mp found
  cases here : done with
  | nil =>
    obtain ⟨other, member, _⟩ := ordered.victim_done found
    rw [here] at member
    cases member
  | cons first rest =>
    have old := ordered.finished first (by rw [here]; exact List.mem_cons_self)
    have test : (first.taskSts != .inProg) = true := bne_iff_ne.mpr old
    rw [ordered.chain, here, List.cons_append, List.find?_cons, test] at search
    exact ⟨first, rest, rfl, by rw [Option.some.inj search, same]⟩

/-- A step of the thread after which it evicts nothing. -/
theorem Ordered.caller (ordered : s.Ordered done pending) (lined : t.Lined done' pending')
    (old : ∀ record ∈ done', record ∈ done) (worker : t.worker = s.worker) {next : CallerPc}
    (there : t.callers () = next) (keeps : ∀ args victim, next ≠ .removing args victim) :
    t.Ordered done' pending' where
  toLined := lined
  finished := fun record member => ordered.finished record (old record member)
  result := worker ▸ ordered.result
  picked := fun args victim here => absurd (there.symm.trans here) (keeps args victim)

/-- A step of the worker, which at most appends a record to those that are done. -/
theorem Ordered.worker (ordered : s.Ordered done pending) (lined : t.Lined (done ++ done') pending')
    (ended : ∀ record ∈ done', record.taskSts ≠ .inProg) (callers : t.callers = s.callers)
    (result : ∀ task result, t.worker = .publishing task result → result ≠ .inProg) :
    t.Ordered (done ++ done') pending' where
  toLined := lined
  finished := by
    intro record member
    rcases List.mem_append.mp member with old | new
    · exact ordered.finished record old
    · exact ended record new
  result := result
  picked := by
    intro args victim here
    rw [callers] at here
    obtain ⟨record, rest, split, same⟩ := ordered.picked args victim here
    exact ⟨record, rest ++ done', by rw [split]; rfl, same⟩

/-- A step of the worker that leaves the records that are done as they are. -/
theorem Ordered.worker_same (ordered : s.Ordered done pending) (lined : t.Lined done pending')
    (callers : t.callers = s.callers) (result : ∀ task result, t.worker = .publishing task result → result ≠ .inProg) :
    t.Ordered done pending' := by
  have same : t.Lined (done ++ []) pending' := (List.append_nil done).symm ▸ lined
  have after := ordered.worker same (fun _ member => absurd member List.not_mem_nil) callers result
  rw [List.append_nil] at after
  exact after

theorem Ordered.work (ordered : s.Ordered done pending) {action : WorkerAction} (polling : s.Polling (.worker action))
    (move : Move s (.worker action) t) : ∃ done' pending', t.Ordered done' pending' := by
  cases move with
  | semWait here posted =>
    exact ⟨done, pending, ordered.worker_same (ordered.semWait here posted) rfl fun _ _ impossible => by cases impossible⟩
  | interrupted => exact ⟨done, pending, ordered⟩
  | noWork here none => exact absurd none (ordered.some_work here)
  | getWork here queue =>
    exact ⟨done, pending, ordered.worker_same (ordered.getWork here queue) rfl fun _ _ impossible => by cases impossible⟩
  | runWork here =>
    refine ⟨done, pending, ordered.worker_same (ordered.runWork here _) rfl fun task result same => ?_⟩
    cases same
    exact polling
  | @preserve task result here _ =>
    obtain ⟨rest, _, _, lined⟩ := ordered.preserve here
    refine ⟨_, rest, ordered.worker lined (fun record new => ?_) rfl fun _ _ impossible => by cases impossible⟩
    rw [List.mem_singleton.mp new]
    exact ordered.result task result here
  | delete here _ =>
    obtain ⟨rest, _, _, lined⟩ := ordered.delete here
    exact ⟨done, rest, ordered.worker_same lined rfl fun _ _ impossible => by cases impossible⟩
  | emit here =>
    exact ⟨done, pending, ordered.worker_same (ordered.emit here) rfl fun _ _ impossible => by cases impossible⟩

theorem Ordered.does (ordered : s.Ordered done pending) {action : TaskAction Unit} (polling : s.Polling action)
    (does : Does s action t) : ∃ done' pending', t.Ordered done' pending' := by
  have lined := ordered.toLined
  have erased : ∀ taskID, ∀ record ∈ done.eraseP fun record => record.taskID == taskID, record ∈ done :=
    fun _ _ member => List.mem_of_mem_eraseP member
  cases does with
  | walk free goes =>
    refine ⟨done, pending, ordered.caller (lined.walk free goes) (fun _ => id) rfl (goto_callers s _) ?_⟩
    rintro args victim rfl
    cases goes.2
  | @pick args victim here found =>
    have there := goto_callers s (.removing args victim)
    refine ⟨done, pending, lined.pick here found, ordered.finished, ordered.result, fun args' victim' removing => ?_⟩
    cases there.symm.trans removing
    exact ordered.victim_head found
  | evict here =>
    exact ⟨_, pending, ordered.caller (lined.remove (by rw [here]; rfl) ⟨rfl, rfl⟩) (erased _) rfl (goto_callers _ _)
      (by simp)⟩
  | generate here _ =>
    exact ⟨done, pending, ordered.caller (lined.generate here) (fun _ => id) rfl (goto_callers s _) (by simp)⟩
  | putWork here =>
    exact ⟨done, pending, ordered.caller (lined.enqueue here) (fun _ => id) rfl (goto_callers s _) (by simp)⟩
  | noWork here =>
    exact ⟨done, pending, ordered.caller (lined.noWork here) (fun _ => id) rfl (goto_callers s _) (by simp)⟩
  | putRecord here =>
    exact ⟨done, _, ordered.caller (lined.putRecord here) (fun _ => id) rfl (goto_callers s _) (by simp)⟩
  | noRecord here =>
    exact ⟨done, pending, ordered.caller (lined.noRecord here) (fun _ => id) rfl (goto_callers s _) (by simp)⟩
  | undo here => exact ⟨done, pending, ordered.caller (lined.undo here) (fun _ => id) rfl (goto_callers s _) (by simp)⟩
  | wakeup here =>
    exact ⟨done, pending, ordered.caller (lined.wakeup here) (fun _ => id) rfl (goto_callers s _) (by simp)⟩
  | read here _ =>
    have free : (s.callers ()).Free := by
      rw [here]
      exact ⟨rfl, rfl⟩
    exact ⟨done, pending, ordered.caller (lined.walk free ⟨rfl, rfl⟩) (fun _ => id) rfl (goto_callers s _) (by simp)⟩
  | readLast here found ended =>
    exact ⟨done, pending, ordered.caller (lined.readLast here found ended) (fun _ => id) rfl (goto_callers s _) (by simp)⟩
  | drop here =>
    exact ⟨_, pending, ordered.caller (lined.remove (by rw [here]; rfl) ⟨rfl, rfl⟩) (erased _) rfl (goto_callers _ _)
      (by simp)⟩
  | empty => exact polling.elim
  | work move => exact ordered.work polling move

end TaskWorker
end JsonRpcTcp
