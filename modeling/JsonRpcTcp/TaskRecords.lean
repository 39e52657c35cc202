import JsonRpcTcp.TaskQueue
import JsonRpcTcp.Lib.Keyed

namespace JsonRpcTcp
open Function

namespace TaskWorker
variable {ι : Type}

/-- The task has its id, and its result is not published. -/
def Unfinished (s : TaskWorker ι) (task : WorkTask) : Prop :=
  (∃ thread, s.callers thread = .putWork task) ∨ s.worker.task = some task ∨ task ∈ s.workChain

/-- The id was issued since the last reset, to the task with this number. -/
def Current (s : TaskWorker ι) (taskID : Int) (number : Nat) : Prop :=
  taskID + s.issued.length = number + 1 + s.identGenerator ∧ 0 < taskID

/-- Every work item has its record before the worker can take it, and keeps it
until its result is published. -/
structure Records (s : TaskWorker ι) : Prop where
  nonneg : 0 ≤ s.identGenerator
  unfinished : ∀ task, s.Unfinished task → s.Current task.taskID task.number
  issued : ∀ record ∈ s.workInprogChain, s.Current record.taskID record.number
  once : Keyed TaskRecord.number s.workInprogChain
  known : ∀ record ∈ s.workInprogChain, ∃ task ∈ s.line, record.number = task.number
  early : ∀ thread task place, s.callers thread = .putRecord task place →
    ∀ record ∈ s.workInprogChain, record.number ≠ task.number
  queued : ∀ task ∈ s.workChain,
    task.record ∈ s.workInprogChain ∨ ∃ thread place, s.callers thread = .putRecord task place
  working : ∀ task, s.worker.task = some task → task.record ∈ s.workInprogChain
  condemned : ∀ thread taskID, (s.callers thread).condemned = some taskID →
    taskID ≤ s.identGenerator ∧ ∀ task, s.Unfinished task → task.taskID ≠ taskID
  finished : ∀ task result, (task, result) ∈ s.finished → ∀ record ∈ s.workInprogChain,
    record.number = task.number → task.preserved = true ∧ record.taskSts = result

theorem Current.number_eq {s : TaskWorker ι} {taskID taskID' : Int} {number number' : Nat}
    (current : s.Current taskID number) (current' : s.Current taskID' number') (same : taskID = taskID') :
    number = number' := by
  have first := current.1
  have second := current'.1
  omega

theorem Current.taskID_eq {s : TaskWorker ι} {taskID taskID' : Int} {number number' : Nat}
    (current : s.Current taskID number) (current' : s.Current taskID' number') (same : number = number') :
    taskID = taskID' := by
  have first := current.1
  have second := current'.1
  omega

theorem Current.le {s : TaskWorker ι} {taskID : Int} {number : Nat} (current : s.Current taskID number)
    (bound : number < s.issued.length) : taskID ≤ s.identGenerator := by
  have equation := current.1
  omega

theorem Line.mem_line {s : TaskWorker ι} {task : WorkTask} (holds : s.worker.task = some task ∨ task ∈ s.workChain) :
    task ∈ s.line := by
  rcases holds with working | queued
  · simp [TaskWorker.line, working]
  · simp [TaskWorker.line, queued]

theorem Line.unfinished_issued {s : TaskWorker ι} (line : s.Line) {task : WorkTask} (unfinished : s.Unfinished task) :
    task ∈ s.issued := by
  rcases unfinished with ⟨thread, here⟩ | holds
  · exact (line.pending thread task here).1
  · exact line.member task (Line.mem_line holds)

/-- A task that the worker has not taken is not finished. -/
theorem Line.queued_unfinished {s : TaskWorker ι} (line : s.Line) {task : WorkTask} (queued : task ∈ s.workChain) :
    (∀ result, (task, result) ∉ s.finished) ∧ s.worker.task ≠ some task := by
  have nodup := line.nodup
  simp only [TaskWorker.line] at nodup
  have apart := List.disjoint_of_nodup_append nodup
  refine ⟨fun result done => ?_, fun working => ?_⟩
  · exact apart (List.mem_append_left _ (List.mem_map_of_mem done)) queued
  · exact apart (List.mem_append_right _ (by simp [working])) queued

theorem Line.working_unfinished {s : TaskWorker ι} (line : s.Line) {task : WorkTask}
    (working : s.worker.task = some task) : (∀ result, (task, result) ∉ s.finished) ∧ task ∉ s.workChain := by
  have nodup := line.nodup
  simp only [TaskWorker.line, List.append_assoc] at nodup
  refine ⟨fun result done => ?_, fun queued => (line.queued_unfinished queued).2 working⟩
  exact List.disjoint_of_nodup_append nodup (List.mem_map_of_mem done) (by simp [working])

theorem Records.ids_once {s : TaskWorker ι} (records : s.Records) : Keyed TaskRecord.taskID s.workInprogChain :=
  records.once.rekey fun _ member _ member' same =>
    (records.issued _ member).number_eq (records.issued _ member') same

/-- The record of an unfinished task, if it is there, is still the one `push_task` made. -/
theorem Records.unfinished_record {s : TaskWorker ι} (line : s.Line) (records : s.Records) {task : WorkTask}
    (unfinished : s.Unfinished task) {record : TaskRecord} (member : record ∈ s.workInprogChain)
    (same : record.number = task.number) : record = task.record := by
  rcases unfinished with ⟨thread, here⟩ | working | queued
  · obtain ⟨put, placed, number⟩ := records.known record member
    have pending := line.pending thread task here
    have equal : put = task := line.number_inj (line.member put placed) pending.1 (number.symm.trans same)
    rw [equal] at placed
    exact absurd placed pending.2
  · exact records.once.eq_of_key member (records.working task working) same
  · rcases records.queued task queued with recorded | ⟨thread, place, here⟩
    · exact records.once.eq_of_key member recorded same
    · exact absurd same (records.early thread task place here record member)

theorem records_start : (start : TaskWorker ι).Records where
  nonneg := Int.le_refl _
  unfinished := by simp [Unfinished, start, WorkerPc.task]
  issued := by simp [start]
  once := Keyed.nil
  known := by simp [start]
  early := by simp [start]
  queued := by simp [start]
  working := by simp [start, WorkerPc.task]
  condemned := by simp [start, CallerPc.condemned]
  finished := by simp [start]

/-- Nothing that the records depend on has changed. -/
theorem Records.keep {s t : TaskWorker ι} (records : s.Records) (chain : t.workInprogChain = s.workInprogChain)
    (generator : t.identGenerator = s.identGenerator) (same : s.SameWork t) (workChain : t.workChain = s.workChain)
    (working : t.worker.task = s.worker.task) (finished : t.finished = s.finished)
    (unrecorded : ∀ thread task place, s.callers thread = .putRecord task place ↔ t.callers thread = .putRecord task place)
    (condemned : ∀ thread taskID, (t.callers thread).condemned = some taskID →
      taskID ≤ s.identGenerator ∧ ∀ task, s.Unfinished task → task.taskID ≠ taskID) : t.Records := by
  have unfinished : ∀ task, t.Unfinished task → s.Unfinished task := by
    intro task open'
    rcases open' with ⟨thread, here⟩ | holds
    · exact .inl ⟨thread, same.pending thread task here⟩
    · rw [working, workChain] at holds
      exact .inr holds
  have current : ∀ taskID number, s.Current taskID number → t.Current taskID number := by
    intro taskID number before
    rw [Current, same.issued, generator]
    exact before
  constructor
  case nonneg =>
    rw [generator]
    exact records.nonneg
  case unfinished => exact fun task open' => current _ _ (records.unfinished task (unfinished task open'))
  case issued =>
    rw [chain]
    exact fun record member => current _ _ (records.issued record member)
  case once =>
    rw [chain]
    exact records.once
  case known =>
    rw [chain, same.line]
    exact records.known
  case early =>
    rw [chain]
    exact fun thread task place here => records.early thread task place ((unrecorded _ _ _).mpr here)
  case queued =>
    rw [chain, workChain]
    intro task member
    refine (records.queued task member).imp_right ?_
    rintro ⟨thread, place, here⟩
    exact ⟨thread, place, (unrecorded _ _ _).mp here⟩
  case working =>
    rw [chain, working]
    exact records.working
  case condemned =>
    rw [generator]
    intro thread taskID here
    have before := condemned thread taskID here
    exact ⟨before.1, fun task open' => before.2 task (unfinished task open')⟩
  case finished =>
    rw [chain, finished]
    exact records.finished

/-- The id of a record that is not in progress belongs to no unfinished task. -/
theorem Records.safe_to_remove {s : TaskWorker ι} (line : s.Line) (records : s.Records) {record : TaskRecord}
    (member : record ∈ s.workInprogChain) (done : record.taskSts ≠ .inProg) :
    record.taskID ≤ s.identGenerator ∧ ∀ task, s.Unfinished task → task.taskID ≠ record.taskID := by
  obtain ⟨put, placed, number⟩ := records.known record member
  have bound := line.number_lt (line.member put placed)
  refine ⟨(records.issued record member).le (number ▸ bound), fun task unfinished same => done ?_⟩
  have equal := (records.unfinished task unfinished).number_eq (records.issued record member) same
  rw [records.unfinished_record line unfinished member equal.symm]
  rfl

theorem mem_removeByIdent {s : TaskWorker ι} (records : s.Records) {taskID : Int} {record : TaskRecord} :
    record ∈ (s.removeByIdent taskID).workInprogChain ↔ record ∈ s.workInprogChain ∧ record.taskID ≠ taskID := by
  rw [removeByIdent, records.ids_once.eraseP_eq_filter, List.mem_filter, bne_iff_ne]

theorem records_remove {s : TaskWorker ι} (records : s.Records) {taskID : Int}
    (safe : ∀ task, s.Unfinished task → task.taskID ≠ taskID) : (s.removeByIdent taskID).Records where
  nonneg := records.nonneg
  unfinished := records.unfinished
  issued := fun record member => records.issued record ((mem_removeByIdent records).mp member).1
  once := by
    rw [removeByIdent, records.ids_once.eraseP_eq_filter]
    exact records.once.filter _
  known := fun record member => records.known record ((mem_removeByIdent records).mp member).1
  early := fun thread task place here record member =>
    records.early thread task place here record ((mem_removeByIdent records).mp member).1
  queued := by
    intro task member
    have stays := safe task (.inr (.inr member))
    exact (records.queued task member).imp_left fun recorded => (mem_removeByIdent records).mpr ⟨recorded, stays⟩
  working := by
    intro task here
    have stays := safe task (.inr (.inl here))
    exact (mem_removeByIdent records).mpr ⟨records.working task here, stays⟩
  condemned := records.condemned
  finished := fun task result done record member =>
    records.finished task result done record ((mem_removeByIdent records).mp member).1

/-- The worker has published: its task has lost its record, or the record has
the result, and every other record is as it was. -/
structure Publishes (s t : TaskWorker ι) (task : WorkTask) (result : RpcResult) : Prop where
  worker : t.worker.task = none
  callers : t.callers = s.callers
  workChain : t.workChain = s.workChain
  issued : t.issued = s.issued
  generator : t.identGenerator = s.identGenerator
  finished : t.finished = s.finished ++ [(task, result)]
  once : Keyed TaskRecord.number t.workInprogChain
  old : ∀ record ∈ t.workInprogChain, ∃ before ∈ s.workInprogChain, record.taskID = before.taskID ∧
    record.number = before.number ∧ (record.number ≠ task.number → record.taskSts = before.taskSts)
  stays : ∀ record ∈ s.workInprogChain, record.number ≠ task.number → record ∈ t.workInprogChain
  published : ∀ record ∈ t.workInprogChain, record.number = task.number →
    task.preserved = true ∧ record.taskSts = result

theorem records_publish {s t : TaskWorker ι} {task : WorkTask} {result : RpcResult} (line : s.Line)
    (records : s.Records) (here : s.worker.task = some task) (publishes : s.Publishes t task result) : t.Records := by
  have unfinished : ∀ other, t.Unfinished other → s.Unfinished other ∧ other ≠ task := by
    intro other open'
    rw [Unfinished, publishes.worker, publishes.callers, publishes.workChain] at open'
    rcases open' with ⟨thread, there⟩ | working | queued
    · refine ⟨.inl ⟨thread, there⟩, ?_⟩
      rintro rfl
      exact (line.pending thread other there).2 (Line.mem_line (.inl here))
    · cases working
    · refine ⟨.inr (.inr queued), ?_⟩
      rintro rfl
      exact (line.queued_unfinished queued).2 here
  have sameLine : t.line = s.line := by
    simp [TaskWorker.line, here, publishes.worker, publishes.workChain, publishes.finished]
  have current : ∀ taskID number, s.Current taskID number → t.Current taskID number := by
    intro taskID number before
    rw [Current, publishes.issued, publishes.generator]
    exact before
  constructor
  case nonneg =>
    rw [publishes.generator]
    exact records.nonneg
  case unfinished => exact fun other open' => current _ _ (records.unfinished other (unfinished other open').1)
  case issued =>
    intro record member
    obtain ⟨before, present, id, number, _⟩ := publishes.old record member
    rw [id, number]
    exact current _ _ (records.issued before present)
  case once => exact publishes.once
  case known =>
    intro record member
    obtain ⟨before, present, _, number, _⟩ := publishes.old record member
    rw [sameLine, number]
    exact records.known before present
  case early =>
    rw [publishes.callers]
    intro thread other place there record member
    obtain ⟨before, present, _, number, _⟩ := publishes.old record member
    rw [number]
    exact records.early thread other place there before present
  case queued =>
    intro other queued
    have apart := unfinished other (.inr (.inr queued))
    rw [publishes.workChain] at queued
    rw [publishes.callers]
    refine (records.queued other queued).imp_left fun recorded => publishes.stays _ recorded fun same => apart.2 ?_
    exact line.number_inj (line.unfinished_issued apart.1) (line.unfinished_issued (.inr (.inl here))) same
  case working =>
    rw [publishes.worker]
    intro other working
    cases working
  case condemned =>
    rw [publishes.callers, publishes.generator]
    intro thread taskID there
    have before := records.condemned thread taskID there
    exact ⟨before.1, fun other open' => before.2 other (unfinished other open').1⟩
  case finished =>
    rw [publishes.finished]
    intro other result' done record member same
    rcases List.mem_append.mp done with before | last
    · obtain ⟨earlier, present, _, number, status⟩ := publishes.old record member
      have different : record.number ≠ task.number := by
        intro now
        have placed : other ∈ s.line := by
          simp only [TaskWorker.line, List.mem_append, List.mem_map]
          exact .inl (.inl ⟨(other, result'), before, rfl⟩)
        have equal : other = task := line.number_inj (line.member other placed)
          (line.unfinished_issued (.inr (.inl here))) (same.symm.trans now)
        rw [equal] at before
        exact (line.working_unfinished here).1 result' before
      rw [status different]
      exact records.finished other result' before earlier present (number.symm.trans same)
    · cases List.mem_singleton.mp last
      exact publishes.published record member same

theorem records_preserve {s : TaskWorker ι} {task : WorkTask} {result : RpcResult} (line : s.Line)
    (records : s.Records) (here : s.worker = .publishing task result) (kept : task.preserved = true) :
    Records { s with worker := .emitting task result, workInprogChain := s.writeResult task result
                     finished := s.finished ++ [(task, result)] } := by
  have working : s.worker.task = some task := by rw [here]; rfl
  have current := records.unfinished task (.inr (.inl working))
  have written : s.writeResult task result = s.workInprogChain.map fun record =>
      if record.taskID = task.taskID then { record with taskSts := result, percentComplete := 100 } else record :=
    records.ids_once.modify_eq_map _ _
  refine records_publish line records working ⟨rfl, rfl, rfl, rfl, rfl, rfl, ?_, ?_, ?_, ?_⟩ <;> rw [written]
  · refine records.once.map fun record _ => ?_
    split_ifs <;> rfl
  · intro record member
    obtain ⟨before, present, rfl⟩ := List.mem_map.mp member
    refine ⟨before, present, ?_⟩
    split_ifs with same
    · have number := (records.issued before present).number_eq current same
      exact ⟨rfl, rfl, fun different => absurd number different⟩
    · exact ⟨rfl, rfl, fun _ => rfl⟩
  · intro record member different
    have other : record.taskID ≠ task.taskID :=
      fun same => different ((records.issued record member).number_eq current same)
    exact List.mem_map.mpr ⟨record, member, if_neg other⟩
  · intro record member number
    obtain ⟨before, present, rfl⟩ := List.mem_map.mp member
    split_ifs at number ⊢ with same
    · exact ⟨kept, rfl⟩
    · exact absurd ((records.issued before present).taskID_eq current number) same

theorem records_delete {s : TaskWorker ι} {task : WorkTask} {result : RpcResult} (line : s.Line)
    (records : s.Records) (here : s.worker = .publishing task result) :
    Records { s.removeByIdent task.taskID with worker := .waiting, finished := s.finished ++ [(task, result)] } := by
  have working : s.worker.task = some task := by rw [here]; rfl
  have current := records.unfinished task (.inr (.inl working))
  refine records_publish line records working ⟨rfl, rfl, rfl, rfl, rfl, rfl, ?_, ?_, ?_, ?_⟩
  · rw [removeByIdent, records.ids_once.eraseP_eq_filter]
    exact records.once.filter _
  · intro record member
    exact ⟨record, ((mem_removeByIdent records).mp member).1, rfl, rfl, fun _ => rfl⟩
  · intro record member different
    refine (mem_removeByIdent records).mpr ⟨member, fun same => different ?_⟩
    exact (records.issued record member).number_eq current same
  · intro record member number
    obtain ⟨present, other⟩ := (mem_removeByIdent records).mp member
    exact absurd ((records.issued record present).taskID_eq current number) other

/-- The worker's own bookkeeping does not touch the records. -/
theorem records_worker {s t : TaskWorker ι} (records : s.Records) (chain : t.workInprogChain = s.workInprogChain)
    (generator : t.identGenerator = s.identGenerator) (issued : t.issued = s.issued) (puts : t.puts = s.puts)
    (callers : t.callers = s.callers) (workChain : t.workChain = s.workChain)
    (working : t.worker.task = s.worker.task) (finished : t.finished = s.finished) : t.Records := by
  have sameLine : t.line = s.line := by simp [TaskWorker.line, workChain, working, finished]
  refine records.keep chain generator (sameWork_of_callers sameLine issued puts callers) workChain working finished ?_ ?_
  · intro thread task place
    rw [callers]
  · rw [callers]
    exact records.condemned

/-- The worker takes the head of the chain, whose record is there. -/
theorem records_getWork {s : TaskWorker ι} {task : WorkTask} {rest : List WorkTask} (records : s.Records)
    (here : s.worker.task = none) (queue : s.workChain = task :: rest) (recorded : task.record ∈ s.workInprogChain) :
    Records { s with worker := .running task, workChain := rest } := by
  have member : task ∈ s.workChain := by
    rw [queue]
    exact List.mem_cons_self
  have unfinished : ∀ other, Unfinished { s with worker := .running task, workChain := rest } other →
      s.Unfinished other := by
    intro other open'
    rcases open' with pending | working | queued
    · exact .inl pending
    · cases working
      exact .inr (.inr member)
    · refine .inr (.inr ?_)
      rw [queue]
      exact List.mem_cons_of_mem _ queued
  have sameLine : TaskWorker.line { s with worker := .running task, workChain := rest } = s.line := by
    have taken : (WorkerPc.running task).task = some task := rfl
    simp [TaskWorker.line, here, queue, taken]
  constructor
  case nonneg => exact records.nonneg
  case unfinished => exact fun other open' => records.unfinished other (unfinished other open')
  case issued => exact records.issued
  case once => exact records.once
  case known =>
    rw [sameLine]
    exact records.known
  case early => exact records.early
  case queued =>
    intro other queued
    refine records.queued other ?_
    rw [queue]
    exact List.mem_cons_of_mem _ queued
  case working =>
    intro other working
    cases working
    exact recorded
  case condemned =>
    intro thread taskID there
    have before := records.condemned thread taskID there
    exact ⟨before.1, fun other open' => before.2 other (unfinished other open')⟩
  case finished => exact records.finished

section Callers
variable [DecidableEq ι]

/-- Only the thread that moves can change who is between its two `chain_put`s. -/
theorem unrecorded_goto {s t : TaskWorker ι} {thread : ι} {next : CallerPc}
    (recorded : (s.callers thread).unrecorded = none) (recorded' : next.unrecorded = none)
    (callers : t.callers = update s.callers thread next) (other : ι) (task : WorkTask) (place : Nat) :
    s.callers other = .putRecord task place ↔ t.callers other = .putRecord task place := by
  rw [callers]
  rcases eq_or_ne other thread with rfl | different
  · rw [update_self]
    refine ⟨fun here => ?_, fun here => ?_⟩
    · rw [here] at recorded
      cases recorded
    · rw [here] at recorded'
      cases recorded'
  · rw [update_of_ne different]

/-- A calling thread moves on without touching the chains. -/
theorem records_goto {s t : TaskWorker ι} {thread : ι} {next : CallerPc} (records : s.Records)
    (recorded : (s.callers thread).unrecorded = none) (free : next.task = none)
    (chain : t.workInprogChain = s.workInprogChain) (generator : t.identGenerator = s.identGenerator)
    (issued : t.issued = s.issued) (puts : t.puts = s.puts) (callers : t.callers = update s.callers thread next)
    (workChain : t.workChain = s.workChain) (worker : t.worker = s.worker) (finished : t.finished = s.finished)
    (condemned : ∀ taskID, next.condemned = some taskID →
      taskID ≤ s.identGenerator ∧ ∀ task, s.Unfinished task → task.taskID ≠ taskID) : t.Records := by
  have sameLine : t.line = s.line := by simp [TaskWorker.line, workChain, worker, finished]
  have recorded' : next.unrecorded = none := by
    cases next <;> first | rfl | cases free
  refine records.keep chain generator (sameWork_goto free sameLine issued puts callers) workChain
    (by rw [worker]) finished (unrecorded_goto recorded recorded' callers) ?_
  intro other taskID there
  rw [callers] at there
  rcases eq_or_ne other thread with rfl | different
  · rw [update_self] at there
    exact condemned taskID there
  · rw [update_of_ne different] at there
    exact records.condemned other taskID there

theorem records_go {s : TaskWorker ι} {thread : ι} {next : CallerPc} (line : s.Line) (records : s.Records)
    (goes : s.Goes (s.callers thread) next) : (s.goto thread next).Records := by
  have recorded : (s.callers thread).unrecorded = none := by
    have free := goes.free
    cases pc : s.callers thread <;> first | rfl | (rw [pc] at free; cases free)
  refine records_goto records recorded goes.next_free rfl rfl rfl rfl rfl rfl rfl rfl fun taskID target => ?_
  generalize s.callers thread = pc at goes
  cases goes with
  | plainly _ plain =>
    rw [plain.2.1] at target
    cases target
  | condemn _ condemned _ member same done =>
    rw [condemned] at target
    cases target
    subst same
    exact records.safe_to_remove line member done
  | seeEmpty | seeQuiet => cases target

theorem records_evict {s : TaskWorker ι} {thread : ι} {taskID : Int} {next : CallerPc} (records : s.Records)
    (here : (s.callers thread).condemned = some taskID) (plain : next.Plain) :
    ((s.removeByIdent taskID).goto thread next).Records := by
  have removed := records_remove records (records.condemned thread taskID here).2
  have recorded : (s.callers thread).unrecorded = none := by
    cases pc : s.callers thread <;> first | rfl | (rw [pc] at here; cases here)
  refine records_goto removed recorded plain.1 rfl rfl rfl rfl rfl rfl rfl rfl fun other target => ?_
  rw [plain.2.1] at target
  cases target

/-- The record of a work item that the worker has not taken. -/
theorem records_putRecord {s : TaskWorker ι} {thread : ι} {task : WorkTask} {place : Nat} (line : s.Line)
    (records : s.Records) (here : s.callers thread = .putRecord task place) (queued : task ∈ s.workChain) :
    Records { s.goto thread (.waking task place) with workInprogChain := s.workInprogChain ++ [task.record] } := by
  have pending : ∀ other item, update s.callers thread (.waking task place) other = .putWork item →
      s.callers other = .putWork item := by
    intro other item there
    rcases eq_or_ne other thread with rfl | different
    · rw [update_self] at there
      cases there
    · rwa [update_of_ne different] at there
  have unfinished : ∀ item, Unfinished { s.goto thread (.waking task place) with
      workInprogChain := s.workInprogChain ++ [task.record] } item → s.Unfinished item := by
    intro item open'
    exact open'.imp_left (Exists.imp fun other there => pending other item there)
  have unrecorded : ∀ other item position, update s.callers thread (.waking task place) other = .putRecord item position →
      other ≠ thread ∧ s.callers other = .putRecord item position := by
    intro other item position there
    rcases eq_or_ne other thread with rfl | different
    · rw [update_self] at there
      cases there
    · exact ⟨different, by rwa [update_of_ne different] at there⟩
  constructor
  case nonneg => exact records.nonneg
  case unfinished => exact fun item open' => records.unfinished item (unfinished item open')
  case issued =>
    intro record member
    rcases List.mem_append.mp member with old | new
    · exact records.issued record old
    · cases List.mem_singleton.mp new
      exact records.unfinished task (.inr (.inr queued))
  case once => exact records.once.append_singleton (records.early thread task place here)
  case known =>
    intro record member
    rcases List.mem_append.mp member with old | new
    · exact records.known record old
    · cases List.mem_singleton.mp new
      exact ⟨task, Line.mem_line (.inr queued), rfl⟩
  case early =>
    intro other item position there record member
    obtain ⟨different, stays⟩ := unrecorded other item position there
    rcases List.mem_append.mp member with old | new
    · exact records.early other item position stays record old
    · cases List.mem_singleton.mp new
      intro same
      have position' := line.place other item position (by rw [stays]; rfl)
      have place' := line.place thread task place (by rw [here]; rfl)
      have equal : task = item := line.number_inj (line.member task (List.mem_of_getElem? place'))
        (line.member item (List.mem_of_getElem? position')) same
      subst equal
      have together := line.place_inj position' place'
      subst together
      exact different (line.apart other thread task task position (by rw [stays]; rfl) (by rw [here]; rfl))
  case queued =>
    intro item member
    rcases records.queued item member with recorded | ⟨other, position, there⟩
    · exact .inl (List.mem_append_left _ recorded)
    · rcases eq_or_ne other thread with rfl | different
      · rw [here] at there
        cases there
        exact .inl (List.mem_append_right _ (List.mem_singleton_self _))
      · exact .inr ⟨other, position, by simp only [goto, update_of_ne different]; exact there⟩
  case working => exact fun item working => List.mem_append_left _ (records.working item working)
  case condemned =>
    intro other taskID there
    rcases eq_or_ne other thread with rfl | different
    · simp only [goto, update_self] at there
      cases there
    · simp only [goto, update_of_ne different] at there
      have before := records.condemned other taskID there
      exact ⟨before.1, fun item open' => before.2 item (unfinished item open')⟩
  case finished =>
    intro item result done record member same
    rcases List.mem_append.mp member with old | new
    · exact records.finished item result done record old same
    · cases List.mem_singleton.mp new
      have placed : item ∈ s.line := by
        simp only [TaskWorker.line, List.mem_append, List.mem_map]
        exact .inl (.inl ⟨(item, result), done, rfl⟩)
      have equal : task = item :=
        line.number_inj (line.unfinished_issued (.inr (.inr queued))) (line.member item placed) same
      subst equal
      exact absurd done ((line.queued_unfinished queued).1 result)

/-- A new work item has no record yet. -/
theorem records_enqueue {s : TaskWorker ι} {thread : ι} {task : WorkTask} (line : s.Line) (records : s.Records)
    (here : s.callers thread = .putWork task) : (s.enqueue thread task).Records := by
  have longer : (s.enqueue thread task).line = s.line ++ [task] := by
    simp [TaskWorker.line, enqueue, goto]
  have unfinished : ∀ item, (s.enqueue thread task).Unfinished item → s.Unfinished item := by
    intro item open'
    simp only [Unfinished, enqueue, goto] at open'
    rcases open' with ⟨other, there⟩ | working | queued
    · rcases eq_or_ne other thread with rfl | different
      · rw [update_self] at there
        cases there
      · rw [update_of_ne different] at there
        exact .inl ⟨other, there⟩
    · exact .inr (.inl working)
    · rcases List.mem_append.mp queued with old | new
      · exact .inr (.inr old)
      · rw [List.mem_singleton.mp new]
        exact .inl ⟨thread, here⟩
  constructor
  case nonneg => exact records.nonneg
  case unfinished => exact fun item open' => records.unfinished item (unfinished item open')
  case issued => exact records.issued
  case once => exact records.once
  case known =>
    intro record member
    obtain ⟨item, placed, number⟩ := records.known record member
    rw [longer]
    exact ⟨item, List.mem_append_left _ placed, number⟩
  case early =>
    intro other item place there record member
    simp only [enqueue, goto] at there
    rcases eq_or_ne other thread with rfl | different
    · rw [update_self] at there
      cases there
      intro same
      obtain ⟨put, placed, number⟩ := records.known record member
      have pending := line.pending other task here
      have equal : put = task := line.number_inj (line.member put placed) pending.1 (number.symm.trans same)
      rw [equal] at placed
      exact pending.2 placed
    · rw [update_of_ne different] at there
      exact records.early other item place there record member
  case queued =>
    intro item member
    simp only [enqueue, goto] at member ⊢
    rcases List.mem_append.mp member with old | new
    · rcases records.queued item old with recorded | ⟨other, place, there⟩
      · exact .inl recorded
      · refine .inr ⟨other, place, ?_⟩
        have different : other ≠ thread := by
          rintro rfl
          rw [here] at there
          cases there
        rwa [update_of_ne different]
    · rw [List.mem_singleton.mp new]
      exact .inr ⟨thread, s.puts, update_self ..⟩
  case working => exact records.working
  case condemned =>
    intro other taskID there
    simp only [enqueue, goto] at there
    rcases eq_or_ne other thread with rfl | different
    · rw [update_self] at there
      cases there
    · rw [update_of_ne different] at there
      have before := records.condemned other taskID there
      exact ⟨before.1, fun item open' => before.2 item (unfinished item open')⟩
  case finished => exact records.finished

/-- A new id is larger than all that are in use. -/
theorem records_issue {s : TaskWorker ι} {thread : ι} {args : PushArgs} (records : s.Records)
    (here : s.callers thread = .generating args) : (s.issue thread args).Records := by
  have current : ∀ taskID number, s.Current taskID number → (s.issue thread args).Current taskID number := by
    intro taskID number before
    have equation := before.1
    refine ⟨?_, before.2⟩
    simp only [issue, List.length_append, List.length_singleton, Nat.cast_add, Nat.cast_one]
    omega
  have unfinished : ∀ item, (s.issue thread args).Unfinished item →
      s.Unfinished item ∨ item = args.task (s.identGenerator + 1) s.issued.length := by
    intro item open'
    simp only [Unfinished, issue, goto] at open'
    rcases open' with ⟨other, there⟩ | holds
    · rcases eq_or_ne other thread with rfl | different
      · rw [update_self] at there
        cases there
        exact .inr rfl
      · rw [update_of_ne different] at there
        exact .inl (.inl ⟨other, there⟩)
    · exact .inl (.inr holds)
  have unrecorded := unrecorded_goto (t := s.issue thread args) (by rw [here]; rfl) rfl rfl
  constructor
  case nonneg =>
    have before := records.nonneg
    simp only [issue]
    omega
  case unfinished =>
    intro item open'
    rcases unfinished item open' with old | rfl
    · exact current _ _ (records.unfinished item old)
    · have before := records.nonneg
      simp only [Current, issue, PushArgs.task, List.length_append, List.length_singleton, Nat.cast_add, Nat.cast_one]
      omega
  case issued => exact fun record member => current _ _ (records.issued record member)
  case once => exact records.once
  case known => exact records.known
  case early => exact fun other item place there => records.early other item place ((unrecorded other item place).mpr there)
  case queued =>
    intro item member
    refine (records.queued item member).imp_right ?_
    rintro ⟨other, place, there⟩
    exact ⟨other, place, (unrecorded other item place).mp there⟩
  case working => exact records.working
  case condemned =>
    intro other taskID there
    simp only [issue, goto] at there
    have elsewhere : other ≠ thread := by
      rintro rfl
      rw [update_self] at there
      cases there
    rw [update_of_ne elsewhere] at there
    have before := records.condemned other taskID there
    refine ⟨by simp only [issue]; omega, fun item open' => ?_⟩
    rcases unfinished item open' with old | rfl
    · exact before.2 item old
    · simp only [PushArgs.task]
      omega
  case finished => exact records.finished

end Callers

/-- `work_inprog_chain` is not emptied in this step. -/
def KeepsRecords : TaskAction ι → Prop
  | .caller _ .empty => False
  | _ => True

theorem keepsRecords_iff (action : TaskAction ι) :
    (∀ step ∈ byCaller action, step.2 ≠ .empty) ↔ KeepsRecords action := by
  cases action with
  | worker action => exact ⟨fun _ => trivial, fun _ _ impossible => by cases impossible⟩
  | caller thread action =>
    cases action with
    | empty => exact ⟨fun keeps => keeps _ rfl rfl, fun impossible => impossible.elim⟩
    | _ =>
      refine ⟨fun _ => trivial, fun _ step same => ?_⟩
      cases same
      exact fun other => by cases other

instance (action : TaskAction ι) : Decidable (KeepsRecords action) :=
  decidable_of_iff _ (keepsRecords_iff action)

section Runs
variable [DecidableEq ι]

/-- Allocations succeed and the records are not emptied. -/
def Pushing (s : TaskWorker ι) (action : TaskAction ι) : Prop := s.AllocationSucceeds action ∧ KeepsRecords action

/-- As `Pushing`, and no wakeup is posted while a work item in front has no record. -/
def PushingInTurn (s : TaskWorker ι) (action : TaskAction ι) : Prop := s.Pushing action ∧ s.InTurn action

instance (s : TaskWorker ι) (action : TaskAction ι) : Decidable (s.Pushing action) := instDecidableAnd

instance [Fintype ι] (s : TaskWorker ι) (action : TaskAction ι) : Decidable (s.PushingInTurn action) := instDecidableAnd

variable [Fintype ι]

theorem records_move {s t : TaskWorker ι} {action : TaskAction ι} (line : s.Line) (balanced : s.queue.Balanced)
    (turn : s.Turn) (records : s.Records) (keeps : KeepsRecords action) (move : Move s action t) : t.Records := by
  cases move with
  | go goes => exact records_go line records goes
  | remove here plain => exact records_evict records here plain
  | generate here => exact records_issue records here
  | putWork here => exact records_enqueue line records here
  | @putRecord thread task place here =>
    have behind := unrecorded_behind balanced turn here
    have placed := line.place thread task place (by rw [here]; rfl)
    exact records_putRecord line records here (line.queued_place placed (by omega))
  | wakeup here =>
    refine records_goto records (by rw [here]; rfl) rfl rfl rfl rfl rfl rfl rfl rfl rfl fun taskID target => ?_
    cases target
  | empty => exact keeps.elim
  | @getWork task rest here queue =>
    refine records_getWork records (by rw [here]; rfl) queue ?_
    have head : task ∈ s.workChain := by
      rw [queue]
      exact List.mem_cons_self
    rcases records.queued task head with recorded | ⟨thread, place, there⟩
    · exact recorded
    · -- the token of the worker belongs to a work item in front of this one
      have behind := unrecorded_behind balanced turn there
      have placed := line.place thread task place (by rw [there]; rfl)
      have first := line.place_inj placed (line.head_place queue)
      rw [here] at behind
      simp only [WorkerPc.consumer, ConsumerPc.token] at behind
      have bound := line.chain_le
      omega
  | preserve here kept => exact records_preserve line records here kept
  | delete here => exact records_delete line records here
  | semWait here | noWork here | emit here | runWork here =>
    refine records_worker records rfl rfl rfl rfl rfl rfl ?_ rfl
    rw [here]
    rfl
  | interrupted => exact records

theorem reach_records {s : TaskWorker ι} (reach : Reach step PushingInTurn start s) : s.Records := by
  induction reach with
  | start => exact records_start
  | next before permitted run ih =>
    have allocates : ∀ (s : TaskWorker ι) action, s.PushingInTurn action → s.AllocationSucceeds action :=
      fun s action permitted => permitted.1.1
    exact records_move (reach_line allocates before) (reach_balanced allocates before)
      (reach_turn allocates (fun s action permitted => permitted.2) before) ih permitted.1.2
      (reach_moves allocates before permitted run)

end Runs

/-- Without a reset every id tells the number of its task. -/
structure Unreset (s : TaskWorker ι) : Prop where
  generator : s.identGenerator = s.issued.length
  ids : ∀ task ∈ s.issued, task.taskID = task.number + 1

section Claims
variable [DecidableEq ι]

theorem unreset_move {s t : TaskWorker ι} {action : TaskAction ι} (unreset : s.Unreset) (keeps : KeepsRecords action)
    (move : Move s action t) : t.Unreset := by
  cases move with
  | generate here =>
    constructor
    · simp [issue, unreset.generator]
    · intro task member
      rcases List.mem_append.mp member with old | new
      · exact unreset.ids task old
      · rw [List.mem_singleton.mp new]
        simp [PushArgs.task, unreset.generator]
  | empty => exact keeps.elim
  | _ => exact ⟨unreset.generator, unreset.ids⟩

theorem reach_unreset {s : TaskWorker ι} (reach : Reach step PushingInTurn start s) : s.Unreset := by
  refine reach_by_moves (fun s action permitted => permitted.1.1) reach ⟨rfl, by simp [start]⟩ ?_
  exact fun s t action unreset permitted move => unreset_move unreset permitted.1.2 move

/-- In every run in which no wakeup overtakes a missing record, the worker runs
only tasks that have their record, and what remains of a finished task never
says that it is in progress. -/
theorem record_before_run [Fintype ι] {s : TaskWorker ι} (reach : Reach step PushingInTurn start s) :
    (∀ task, s.worker = .running task → task.record ∈ s.workInprogChain) ∧
    (∀ task result, (task, result) ∈ s.finished → task.preserved = true → result ≠ .inProg →
      s.taskStatus task.taskID ≠ .inProg) ∧
    (∀ task result, (task, result) ∈ s.finished → task.preserved = false →
      ∀ record ∈ s.workInprogChain, record.taskID ≠ task.taskID) := by
  have line := reach_line (fun s action permitted => permitted.1.1) reach
  have records := reach_records reach
  have unreset := reach_unreset reach
  have current : ∀ task result, (task, result) ∈ s.finished → s.Current task.taskID task.number := by
    intro task result done
    have placed : task ∈ s.line := by
      simp only [TaskWorker.line, List.mem_append, List.mem_map]
      exact .inl (.inl ⟨(task, result), done, rfl⟩)
    have id := unreset.ids task (line.member task placed)
    have generator := unreset.generator
    exact ⟨by omega, by omega⟩
  refine ⟨fun task here => records.working task (by rw [here]; rfl), ?_, ?_⟩
  · intro task result done _ known
    simp only [taskStatus]
    split
    · exact fun impossible => by cases impossible
    · rename_i record found
      obtain ⟨member, same⟩ := getByIdent_record found
      have number := (records.issued record member).number_eq (current task result done) same
      rw [(records.finished task result done record member number).2]
      exact known
  · intro task result done dropped record member same
    have number := (records.issued record member).number_eq (current task result done) same
    have kept := (records.finished task result done record member number).1
    rw [dropped] at kept
    cases kept

end Claims

/-- A `push_task` call up to its first `chain_put`. -/
def putsWork (thread : ι) (args : PushArgs) : List (TaskAction ι) :=
  [.caller thread (.push args true), .caller thread .size, .caller thread .generate, .caller thread (.putWork true)]

/-- The rest of the call up to its wakeup. -/
def putsRecord (thread : ι) : List (TaskAction ι) := [.caller thread (.putRecord true), .caller thread .wakeup]

/-- The worker takes a task and publishes its result. -/
def works (result : RpcResult) : List (TaskAction ι) :=
  [.worker .semWait, .worker .chainGet, .worker (.runWork result), .worker .publish]

def sampleArgs (done : AfterDone) : PushArgs := { workCmd := 3, workData := [], done := done }

/-- Two threads push in turn, and the worker finishes both tasks. -/
theorem record_before_run_two_pushes :
    ∃ s : TaskWorker Bool, s.finished = [((sampleArgs .preserve).task 1 0, .success), ((sampleArgs .delete).task 2 1, .fail)] ∧
      s.taskStatus 1 ≠ .inProg ∧ ∀ record ∈ s.workInprogChain, record.taskID ≠ 2 := by
  obtain ⟨s, reach, done⟩ := exists_reach step PushingInTurn (start : TaskWorker Bool)
    (putsWork false (sampleArgs .preserve) ++ putsWork true (sampleArgs .delete) ++ putsRecord false ++ putsRecord true ++
      works .success ++ [.worker .emit] ++ works .fail)
    (fun s => s.finished = [((sampleArgs .preserve).task 1 0, .success), ((sampleArgs .delete).task 2 1, .fail)])
    (by decide +kernel)
  obtain ⟨_, preserved, dropped⟩ := record_before_run reach
  refine ⟨s, done, ?_, ?_⟩
  · exact preserved ((sampleArgs .preserve).task 1 0) .success (by rw [done]; simp) (by decide) (by decide)
  · exact dropped ((sampleArgs .delete).task 2 1) .fail (by rw [done]; simp) (by decide)

/-- Another thread's wakeup lets the worker take a task that has no record: its
record comes too late to be told, or removed. -/
theorem record_overtaken :
    (∃ s : TaskWorker Bool, Reach step Pushing start s ∧ s.worker = .running ((sampleArgs .preserve).task 1 0) ∧
      ∀ record ∈ s.workInprogChain, record.taskID ≠ 1) ∧
    (∃ s : TaskWorker Bool, Reach step Pushing start s ∧
      (s.finished = [((sampleArgs .preserve).task 1 0, .success)] ∧ s.taskStatus 1 = .inProg)) ∧
    ∃ s : TaskWorker Bool, Reach step Pushing start s ∧
      (s.finished = [((sampleArgs .delete).task 1 0, .success)] ∧ ∃ record ∈ s.workInprogChain, record.taskID = 1) := by
  refine ⟨?_, ?_, ?_⟩
  · exact exists_reach step Pushing (start : TaskWorker Bool)
      (putsWork false (sampleArgs .preserve) ++ putsWork true (sampleArgs .preserve) ++ putsRecord true ++
        [.worker .semWait, .worker .chainGet])
      (fun s => s.worker = .running ((sampleArgs .preserve).task 1 0) ∧ ∀ record ∈ s.workInprogChain, record.taskID ≠ 1)
      (by decide +kernel)
  · exact exists_reach step Pushing (start : TaskWorker Bool)
      (putsWork false (sampleArgs .preserve) ++ putsWork true (sampleArgs .preserve) ++ putsRecord true ++
        works .success ++ putsRecord false)
      (fun s => s.finished = [((sampleArgs .preserve).task 1 0, .success)] ∧ s.taskStatus 1 = .inProg) (by decide +kernel)
  · exact exists_reach step Pushing (start : TaskWorker Bool)
      (putsWork false (sampleArgs .delete) ++ putsWork true (sampleArgs .preserve) ++ putsRecord true ++
        works .success ++ putsRecord false)
      (fun s => s.finished = [((sampleArgs .delete).task 1 0, .success)] ∧ ∃ record ∈ s.workInprogChain, record.taskID = 1)
      (by decide +kernel)

end TaskWorker
end JsonRpcTcp
