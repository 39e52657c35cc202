import JsonRpcTcp.TaskRecords
import JsonRpcTcp.TaskSingle

namespace JsonRpcTcp
open Function

/-- The result is published and its event is not emitted. -/
def WorkerPc.isEmitting : WorkerPc → Bool
  | .emitting _ _ => true
  | _ => false

namespace TaskWorker

/-- The ids and numbers of the tasks that are queued, running or have a record. -/
def live {ι : Type} (s : TaskWorker ι) : List (Int × Nat) :=
  (s.worker.task.toList ++ s.workChain).map (fun task => (task.taskID, task.number)) ++
    s.workInprogChain.map fun record => (record.taskID, record.number)

/-- The ids and numbers of the records, and of the task whose record is still to come. -/
def recorded (s : TaskWorker Unit) : List (Int × Nat) :=
  (s.workInprogChain.map fun record => (record.taskID, record.number)) ++
    (s.callers ()).ahead.map fun task => (task.taskID, task.number)

variable {s t : TaskWorker Unit} {done : List TaskRecord} {pending : List WorkTask}

theorem recorded_ids (s : TaskWorker Unit) : s.recorded.map Prod.fst = s.ids := by
  unfold recorded ids
  rw [List.map_append, List.map_map, List.map_map]
  rfl

theorem Lined.recorded_once (lined : s.Lined done pending) : Keyed Prod.fst s.recorded := by
  have sorted := lined.sorted
  rw [← recorded_ids, List.pairwise_map] at sorted
  exact sorted.imp fun less => ne_of_lt less

theorem loose_subset_ahead (pc : CallerPc) : pc.loose ⊆ pc.ahead := by
  cases pc <;> simp [CallerPc.loose, CallerPc.ahead]

theorem Lined.live_recorded (lined : s.Lined done pending) {entry : Int × Nat} (member : entry ∈ s.live) :
    entry ∈ s.recorded := by
  rcases List.mem_append.mp member with held | kept
  · rw [lined.queue] at held
    obtain ⟨task, holds, rfl⟩ := List.mem_map.mp held
    rcases List.mem_append.mp holds with queued | loose
    · have own : task.record ∈ s.workInprogChain := by
        rw [lined.chain]
        exact List.mem_append_right _ (List.mem_map_of_mem queued)
      exact List.mem_append_left _ (List.mem_map.mpr ⟨task.record, own, rfl⟩)
    · exact List.mem_append_right _ (List.mem_map.mpr ⟨task, loose_subset_ahead _ loose, rfl⟩)
  · exact List.mem_append_left _ kept

theorem Lined.live_le (lined : s.Lined done pending) {entry : Int × Nat} (member : entry ∈ s.live) :
    entry.1 ≤ s.identGenerator := by
  have listed : entry.1 ∈ s.recorded.map Prod.fst := List.mem_map_of_mem (lined.live_recorded member)
  rw [recorded_ids] at listed
  exact (lined.bounded entry.1 listed).2

/-- The step that issues an id. -/
theorem Does.issued {action : TaskAction Unit} (does : Does s action t) {task : WorkTask}
    (generates : action = .caller () .generate) (there : t.callers () = .putWork task) :
    task.taskID = s.identGenerator + 1 := by
  cases does with
  | walk _ goes =>
    rw [goto_callers] at there
    have free := goes.1
    rw [there] at free
    cases free
  | generate here =>
    have next := (goto_callers s _).symm.trans there
    cases next
    rfl
  | _ => cases generates

/-- With one thread that pushes, polls and resets, no two tasks in use share an
id, a new id is not in use, a successful reset leaves nothing under way, and the
worker finds only the record of its own task. -/
theorem task_ids_unambiguous {s : TaskWorker Unit} (reach : Reach step Anything start s) :
    (∀ entry ∈ s.live, ∀ other ∈ s.live, entry.1 = other.1 → entry.2 = other.2) ∧
    (∀ t, s.step (.caller () .generate) = some t → ∀ task, t.callers () = .putWork task →
      ∀ entry ∈ s.live, entry.1 ≠ task.taskID) ∧
    (s.callers () = .returning (.reset .success) →
      s.workChain = [] ∧ ∀ record ∈ s.workInprogChain, record.taskSts ≠ .inProg) ∧
    (∀ task result, s.worker = .publishing task result → ∀ record, s.getByIdent task.taskID = some record →
      record.number = task.number) := by
  obtain ⟨⟨done, pending, lined⟩, seen⟩ := reach_lined reach
  refine ⟨?_, ?_, ?_, ?_⟩
  · intro entry member other member' same
    exact congrArg Prod.snd
      (lined.recorded_once.eq_of_key (lined.live_recorded member) (lined.live_recorded member') same)
  · intro t run task there entry member
    have does := does_of_step (fun _ found => lined.victim_pos found) run
    have bound := lined.live_le member
    rw [does.issued rfl there]
    omega
  · intro here
    refine ⟨seen.empty (by rw [here]; rfl), ?_⟩
    rw [seen.reset here]
    exact fun _ member => absurd member List.not_mem_nil
  · intro task result here record found
    have working : s.worker.task = some task := by rw [here]; rfl
    have own := lined.working working
    have same := lined.getByIdent_iff.mpr ⟨own, rfl⟩
    rw [Option.some.inj (found.symm.trans same)]
    rfl

/-- A `reset_task_id_and_chain` call that finds nothing under way, and its return. -/
def resets : List (TaskAction Unit) :=
  [.caller () .reset, .caller () .pendingSize, .caller () .pendingScan, .caller () .empty, .caller () .leave]

/-- A whole `push_task` call with its return. -/
def pushes (done : AfterDone) : List (TaskAction Unit) :=
  putsWork () (sampleArgs done) ++ putsRecord () ++ [.caller () .leave]

/-- A task is run after a reset, under the id that an earlier one had. -/
theorem task_ids_unambiguous_after_reset :
    ∃ s : TaskWorker Unit, s.issued = [(sampleArgs .preserve).task 1 0, (sampleArgs .preserve).task 1 1] ∧
      s.worker = .publishing ((sampleArgs .preserve).task 1 1) .success ∧
      ∀ record, s.getByIdent 1 = some record → record.number = 1 := by
  obtain ⟨s, reach, issued, here⟩ := exists_reach step Anything (start : TaskWorker Unit)
    (pushes .preserve ++ works .fail ++ [.worker .emit] ++ resets ++ pushes .preserve ++ (works .success).take 3)
    (fun s => s.issued = [(sampleArgs .preserve).task 1 0, (sampleArgs .preserve).task 1 1] ∧
      s.worker = .publishing ((sampleArgs .preserve).task 1 1) .success) (by decide +kernel)
  exact ⟨s, issued, here, (task_ids_unambiguous reach).2.2.2 _ _ here⟩

/-- The records are not emptied between the publication of a result and its event. -/
def EventBeforeReset (s : TaskWorker Unit) (action : TaskAction Unit) : Prop :=
  KeepsRecords action ∨ s.worker.isEmitting = false

instance (s : TaskWorker Unit) (action : TaskAction Unit) : Decidable (s.EventBeforeReset action) := instDecidableOr

/-- The tasks that are running or queued, and that of the `push_task` call. -/
def underWay (s : TaskWorker Unit) : List WorkTask := s.worker.task.toList ++ (s.workChain ++ (s.callers ()).ahead)

/-- The ids since the last reset are consecutive, and the tasks under way and the event that is still to
come are of a task since then. -/
structure Era (s : TaskWorker Unit) : Prop where
  numbers : ∀ task ∈ s.issued, task.number < s.issued.length
  ids : ∀ task ∈ s.issued, (s.issued.length : Int) ≤ task.number + s.identGenerator → s.Current task.taskID task.number
  underWay : ∀ task ∈ s.underWay, s.Current task.taskID task.number
  emitting : ∀ task result, s.worker = .emitting task result → s.Current task.taskID task.number

theorem era_start : (start : TaskWorker Unit).Era where
  numbers := fun _ member => absurd member List.not_mem_nil
  ids := fun _ member => absurd member List.not_mem_nil
  underWay := fun _ member => absurd member List.not_mem_nil
  emitting := fun _ _ here => by cases here

theorem Era.keep (era : s.Era) (issued : t.issued = s.issued) (generator : t.identGenerator = s.identGenerator)
    (underWay : t.underWay ⊆ s.underWay)
    (emitting : ∀ task result, t.worker = .emitting task result → s.Current task.taskID task.number) : t.Era where
  numbers := by
    rw [issued]
    exact era.numbers
  ids := by
    rw [issued, generator]
    intro task member late
    have before := era.ids task member late
    rw [Current, issued, generator]
    exact before
  underWay := by
    intro task member
    rw [Current, issued, generator]
    exact era.underWay task (underWay member)
  emitting := by
    intro task result here
    rw [Current, issued, generator]
    exact emitting task result here

theorem append_subset_left {α : Type} {rest rest' : List α} (front : List α) (subset : rest ⊆ rest') :
    front ++ rest ⊆ front ++ rest' :=
  List.append_subset_of_subset_of_subset (List.subset_append_left _ _) (List.subset_append_of_subset_right _ subset)

/-- A step of the thread that issues no id. -/
theorem Era.caller (era : s.Era) (issued : t.issued = s.issued) (generator : t.identGenerator = s.identGenerator)
    (worker : t.worker = s.worker) {next : CallerPc} (there : t.callers () = next)
    (queue : t.workChain ++ next.ahead ⊆ s.workChain ++ (s.callers ()).ahead) : t.Era := by
  refine era.keep issued generator (fun task member => ?_) (worker ▸ era.emitting)
  unfold TaskWorker.underWay at member ⊢
  rw [worker, there] at member
  exact append_subset_left _ queue member

/-- As `caller`, for a step that leaves `work_chain` as it is. -/
theorem Era.walk (era : s.Era) (issued : t.issued = s.issued) (generator : t.identGenerator = s.identGenerator)
    (worker : t.worker = s.worker) (chain : t.workChain = s.workChain) {next : CallerPc} (there : t.callers () = next)
    (ahead : next.ahead ⊆ (s.callers ()).ahead) : t.Era :=
  era.caller issued generator worker there (chain ▸ append_subset_left _ ahead)

theorem Era.issue (era : s.Era) (nonneg : 0 ≤ s.identGenerator) (args : PushArgs) : (s.issue () args).Era := by
  have later : ∀ {taskID number}, s.Current taskID number → (s.issue () args).Current taskID number := by
    intro taskID number before
    simp only [Current, TaskWorker.issue, List.length_append, List.length_singleton, Nat.cast_add, Nat.cast_one] at before ⊢
    omega
  have own : (s.issue () args).Current (s.identGenerator + 1) s.issued.length := by
    simp only [Current, TaskWorker.issue, List.length_append, List.length_singleton, Nat.cast_add, Nat.cast_one]
    omega
  refine ⟨fun task member => ?_, fun task member late => ?_, fun task member => ?_, fun task result emits => ?_⟩
  · rw [TaskWorker.issue, List.length_append, List.length_singleton]
    rcases List.mem_append.mp member with old | new
    · exact (era.numbers task old).trans (Nat.lt_succ_self _)
    · rw [List.mem_singleton.mp new]
      exact Nat.lt_succ_self _
  · rcases List.mem_append.mp member with old | new
    · refine later (era.ids task old ?_)
      simp only [TaskWorker.issue, List.length_append, List.length_singleton, Nat.cast_add, Nat.cast_one] at late
      omega
    · rw [List.mem_singleton.mp new]
      exact own
  · have there : (s.issue () args).callers () = .putWork (args.task (s.identGenerator + 1) s.issued.length) :=
      goto_callers s _
    unfold TaskWorker.underWay at member
    rw [there] at member
    rcases List.mem_append.mp member with working | queued
    · exact later (era.underWay task (List.mem_append_left _ working))
    · rcases List.mem_append.mp queued with waiting | new
      · exact later (era.underWay task (List.mem_append_right _ (List.mem_append_left _ waiting)))
      · rw [List.mem_singleton.mp new]
        exact own
  · exact later (era.emitting task result emits)

/-- A reset of which no event is still to come. -/
theorem Era.empty (era : s.Era) (lined : s.Lined done pending) (seen : s.Seen) (here : s.callers () = .deciding false)
    (silent : s.worker.isEmitting = false) :
    Era { s.goto () (.returning (.reset .success)) with workInprogChain := [], identGenerator := 0 } := by
  obtain ⟨idle, workChain, _⟩ := lined.empty seen here
  refine ⟨era.numbers, fun task member late => ?_, fun task member => ?_, fun task result emits => ?_⟩
  · -- every id so far is of an earlier era
    have bound := era.numbers task member
    simp only [goto, add_zero] at late
    omega
  · have none : s.worker.task.toList ++ s.workChain = [] := by
      rw [idle, workChain]
      rfl
    unfold TaskWorker.underWay at member
    dsimp only at member
    rw [goto_callers, ← List.append_assoc] at member
    change task ∈ (s.worker.task.toList ++ s.workChain) ++ [] at member
    rw [none] at member
    cases member
  · have emitting : s.worker = .emitting task result := emits
    rw [emitting] at silent
    cases silent

theorem Era.work (era : s.Era) {action : WorkerAction} (move : Move s (.worker action) t) : t.Era := by
  have behind : s.workChain ++ (s.callers ()).ahead ⊆ s.underWay := List.subset_append_right _ _
  cases move with
  | interrupted => exact era
  | getWork here queue =>
    refine era.keep rfl rfl (fun task member => ?_) fun _ _ there => by cases there
    refine behind ?_
    rw [queue]
    exact member
  | runWork here =>
    refine era.keep rfl rfl (fun task member => ?_) fun _ _ there => by cases there
    unfold TaskWorker.underWay
    rw [here]
    exact member
  | @preserve task result here kept =>
    refine era.keep rfl rfl behind fun other result' there => ?_
    cases there
    refine era.underWay task (List.mem_append_left _ ?_)
    rw [here]
    exact List.mem_cons_self
  | _ => exact era.keep rfl rfl behind fun _ _ there => by cases there

theorem Era.does (era : s.Era) (lined : s.Lined done pending) (seen : s.Seen) {action : TaskAction Unit}
    (permitted : s.EventBeforeReset action) (does : Does s action t) : t.Era := by
  have none (ahead : List WorkTask) : [] ⊆ ahead := List.nil_subset ahead
  cases does with
  | walk _ goes => exact era.walk rfl rfl rfl rfl (goto_callers s _) (by rw [goes.ahead.1]; exact none _)
  | evict | drop => exact era.walk rfl rfl rfl rfl (goto_callers _ _) (none _)
  | generate here => exact era.issue lined.nonneg _
  | @putWork task here =>
    refine era.caller rfl rfl rfl (goto_callers s _) fun other member => ?_
    rw [here]
    rcases List.mem_append.mp member with queued | own
    · exact queued
    · exact List.mem_append_right _ own
  | noRecord here => exact era.walk rfl rfl rfl rfl (goto_callers s _) (by rw [here]; exact fun _ => id)
  | undo here =>
    refine era.caller rfl rfl rfl (goto_callers s _) fun other member => ?_
    rcases List.mem_append.mp member with queued | impossible
    · exact List.mem_append_left _ (List.mem_of_mem_eraseP queued)
    · cases impossible
  | empty here => exact era.empty lined seen here (permitted.resolve_left id)
  | work move => exact era.work move
  | _ => exact era.walk rfl rfl rfl rfl (goto_callers s _) (none _)

theorem reach_era (reach : Reach step EventBeforeReset start s) : s.Era := by
  induction reach with
  | start => exact era_start
  | next before permitted run ih =>
    obtain ⟨⟨done, pending, lined⟩, seen⟩ := reach_lined (before.mono fun _ _ _ => trivial)
    exact ih.does lined seen permitted (does_of_step (fun _ found => lined.victim_pos found) run)

/-- In every run in which no reset falls between the publication of a result and
its event, the event's id was given to no younger task. -/
theorem event_names_its_task {s : TaskWorker Unit} (reach : Reach step EventBeforeReset start s) {task : WorkTask}
    {result : RpcResult} (here : s.worker = .emitting task result) :
    ∀ younger ∈ s.issued, task.number < younger.number → younger.taskID ≠ task.taskID := by
  intro younger member order same
  have era := reach_era reach
  have emitting := era.emitting task result here
  have late : (s.issued.length : Int) ≤ younger.number + s.identGenerator := by
    have equation := emitting.1
    have positive := emitting.2
    omega
  have numbers := (era.ids younger member late).number_eq emitting same
  omega

/-- A second task is issued its id before the event of the first. -/
theorem event_names_its_task_two_tasks :
    ∃ s : TaskWorker Unit, s.worker = .emitting ((sampleArgs .preserve).task 1 0) .success ∧
      (sampleArgs .preserve).task 2 1 ∈ s.issued ∧ (2 : Int) ≠ 1 := by
  obtain ⟨s, reach, here, member⟩ := exists_reach step EventBeforeReset (start : TaskWorker Unit)
    (pushes .preserve ++ works .success ++ pushes .preserve)
    (fun s => s.worker = .emitting ((sampleArgs .preserve).task 1 0) .success ∧ (sampleArgs .preserve).task 2 1 ∈ s.issued)
    (by decide +kernel)
  exact ⟨s, here, member, event_names_its_task reach here ((sampleArgs .preserve).task 2 1) member (by decide)⟩

/-- A reset and a push fit between the publication of a result and its event. -/
theorem event_of_reused_id :
    ∃ s : TaskWorker Unit, Reach step AllocationSucceeds start s ∧
      (s.worker = .emitting ((sampleArgs .preserve).task 1 0) .success ∧ (sampleArgs .preserve).task 1 1 ∈ s.issued) :=
  exists_reach step AllocationSucceeds (start : TaskWorker Unit)
    (pushes .preserve ++ works .success ++ resets ++ pushes .preserve)
    (fun s => s.worker = .emitting ((sampleArgs .preserve).task 1 0) .success ∧ (sampleArgs .preserve).task 1 1 ∈ s.issued)
    (by decide +kernel)

end TaskWorker
end JsonRpcTcp
