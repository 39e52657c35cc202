import JsonRpcTcp.TaskMoves
import JsonRpcTcp.MonoshotQueue

namespace JsonRpcTcp
open Function

namespace CallerPc

/-- Where a thread stands between `chain_put` of its work item and its wakeup. -/
def producer (pc : CallerPc) : ProducerPc := if pc.between.isSome then .waking else .outside

/-- The place of a work item whose record is not in its chain yet. -/
def unrecorded : CallerPc → Option Nat
  | .putRecord _ place => some place
  | _ => none

/-- The place of a work item whose wakeup comes next. -/
def posting : CallerPc → Option Nat
  | .waking _ place => some place
  | _ => none

theorem between_none {pc : CallerPc} (free : pc.task = none) : pc.between = none := by
  cases pc <;> first | rfl | cases free

theorem task_none_of_condemned {pc : CallerPc} {taskID : Int} (condemned : pc.condemned = some taskID) :
    pc.task = none := by
  cases pc <;> first | rfl | cases condemned

end CallerPc

/-- The worker thread as the consumer of `work_chain`. -/
def WorkerPc.consumer : WorkerPc → ConsumerPc
  | .waiting => .waiting
  | .woken => .woken
  | _ => .working

namespace TaskWorker
variable {ι : Type}

theorem Goes.free {s : TaskWorker ι} {pc next : CallerPc} (goes : s.Goes pc next) : pc.task = none := by
  cases goes <;> first | assumption | rfl

theorem Goes.next_free {s : TaskWorker ι} {pc next : CallerPc} (goes : s.Goes pc next) : next.task = none := by
  cases goes with
  | plainly _ plain => exact plain.1
  | condemn _ _ holds => exact holds
  | seeEmpty | seeQuiet => rfl

/-- `work_chain` with the threads that fill it and the worker. -/
def queue (s : TaskWorker ι) : MonoshotQueue ι WorkTask where
  producers := CallerPc.producer ∘ s.callers
  consumer := s.worker.consumer
  chain := s.workChain
  sema := s.sema

/-- Every work item that was ever put into `work_chain`, in that order. -/
def line (s : TaskWorker ι) : List WorkTask := s.finished.map Prod.fst ++ s.worker.task.toList ++ s.workChain

/-- Every work item has one place, and its task was issued once. -/
structure Line (s : TaskWorker ι) : Prop where
  length : s.line.length = s.puts
  numbered : ∀ (number : Nat) (task : WorkTask), s.issued[number]? = some task → task.number = number
  member : ∀ task ∈ s.line, task ∈ s.issued
  nodup : s.line.Nodup
  place : ∀ thread task place, (s.callers thread).between = some (task, place) → s.line[place]? = some task
  apart : ∀ thread other task task' place, (s.callers thread).between = some (task, place) →
    (s.callers other).between = some (task', place) → thread = other
  pending : ∀ thread task, s.callers thread = .putWork task → task ∈ s.issued ∧ task ∉ s.line
  alone : ∀ thread other task, s.callers thread = .putWork task → s.callers other = .putWork task → thread = other

/-- No task was issued and no work item put between the two states. -/
structure SameWork (s t : TaskWorker ι) : Prop where
  line : t.line = s.line
  issued : t.issued = s.issued
  puts : t.puts = s.puts
  between : ∀ thread pair, (t.callers thread).between = some pair → (s.callers thread).between = some pair
  pending : ∀ thread task, t.callers thread = .putWork task → s.callers thread = .putWork task

theorem Line.keep {s t : TaskWorker ι} (line : s.Line) (same : s.SameWork t) : t.Line where
  length := by
    rw [same.line, same.puts]
    exact line.length
  numbered := by
    rw [same.issued]
    exact line.numbered
  member := by
    rw [same.line, same.issued]
    exact line.member
  nodup := by
    rw [same.line]
    exact line.nodup
  place := by
    intro thread task place here
    rw [same.line]
    exact line.place thread task place (same.between _ _ here)
  apart := by
    intro thread other task task' place here there
    exact line.apart thread other task task' place (same.between _ _ here) (same.between _ _ there)
  pending := by
    intro thread task here
    rw [same.line, same.issued]
    exact line.pending thread task (same.pending _ _ here)
  alone := by
    intro thread other task here there
    exact line.alone thread other task (same.pending _ _ here) (same.pending _ _ there)

theorem line_start : (start : TaskWorker ι).Line where
  length := rfl
  numbered := by simp [start]
  member := by simp [start, line, WorkerPc.task]
  nodup := List.nodup_nil
  place := by simp [start, CallerPc.between]
  apart := by simp [start, CallerPc.between]
  pending := by simp [start]
  alone := by simp [start]

/-- A task is known by its number. -/
theorem Line.number_inj {s : TaskWorker ι} (line : s.Line) {task other : WorkTask} (member : task ∈ s.issued)
    (member' : other ∈ s.issued) (same : task.number = other.number) : task = other := by
  obtain ⟨number, found⟩ := List.getElem?_of_mem member
  obtain ⟨number', found'⟩ := List.getElem?_of_mem member'
  rw [line.numbered _ _ found, line.numbered _ _ found'] at same
  subst same
  rw [found] at found'
  exact Option.some.inj found'

theorem Line.number_lt {s : TaskWorker ι} (line : s.Line) {task : WorkTask} (member : task ∈ s.issued) :
    task.number < s.issued.length := by
  obtain ⟨number, found⟩ := List.getElem?_of_mem member
  rw [line.numbered _ _ found]
  exact (List.getElem?_eq_some_iff.mp found).choose

/-- The place of a work item is unique. -/
theorem Line.place_inj {s : TaskWorker ι} (line : s.Line) {task : WorkTask} {place place' : Nat}
    (here : s.line[place]? = some task) (there : s.line[place']? = some task) : place = place' := by
  have bound := (List.getElem?_eq_some_iff.mp here).choose
  exact (List.getElem?_inj bound line.nodup).mp (here.trans there.symm)

theorem Line.chain_le {s : TaskWorker ι} (line : s.Line) : s.workChain.length ≤ s.puts := by
  have length := line.length
  simp only [TaskWorker.line, List.length_append] at length
  omega

theorem Line.queued_place {s : TaskWorker ι} (line : s.Line) {place : Nat} {task : WorkTask}
    (here : s.line[place]? = some task) (late : s.puts ≤ place + s.workChain.length) : task ∈ s.workChain := by
  have front : (s.finished.map Prod.fst ++ s.worker.task.toList).length ≤ place := by
    have length := line.length
    simp only [TaskWorker.line, List.length_append] at length ⊢
    omega
  rw [TaskWorker.line, List.getElem?_append_right front] at here
  exact List.mem_of_getElem? here

/-- The head of the chain is the first work item that was not taken. -/
theorem Line.head_place {s : TaskWorker ι} (line : s.Line) {task : WorkTask} {rest : List WorkTask}
    (queue : s.workChain = task :: rest) : s.line[s.puts - s.workChain.length]? = some task := by
  have length := line.length
  have front : s.puts - s.workChain.length = (s.finished.map Prod.fst ++ s.worker.task.toList).length := by
    simp only [TaskWorker.line, List.length_append] at length ⊢
    omega
  rw [front, TaskWorker.line, List.getElem?_append_right (Nat.le_refl _), queue, Nat.sub_self]
  rfl

theorem sameWork_of_callers {s t : TaskWorker ι} (line : t.line = s.line) (issued : t.issued = s.issued)
    (puts : t.puts = s.puts) (callers : t.callers = s.callers) : s.SameWork t where
  line := line
  issued := issued
  puts := puts
  between := by
    rw [callers]
    exact fun _ _ => id
  pending := by
    rw [callers]
    exact fun _ _ => id

variable [DecidableEq ι]

theorem sameWork_goto {s t : TaskWorker ι} {thread : ι} {next : CallerPc} (free : next.task = none)
    (line : t.line = s.line) (issued : t.issued = s.issued) (puts : t.puts = s.puts)
    (callers : t.callers = update s.callers thread next) : s.SameWork t where
  line := line
  issued := issued
  puts := puts
  between := by
    intro other pair
    rw [callers]
    rcases eq_or_ne other thread with rfl | different
    · rw [update_self, CallerPc.between_none free]
      exact fun impossible => by cases impossible
    · rw [update_of_ne different]
      exact id
  pending := by
    intro other task
    rw [callers]
    rcases eq_or_ne other thread with rfl | different
    · rw [update_self]
      rintro rfl
      cases free
    · rw [update_of_ne different]
      exact id

/-- Only `push_task` issues tasks and puts work items. -/
theorem Move.work {s t : TaskWorker ι} {action : TaskAction ι} (move : Move s action t) :
    s.SameWork t ∨ (∃ thread args, s.callers thread = .generating args ∧ t = s.issue thread args) ∨
      ∃ thread task, s.callers thread = .putWork task ∧ t = s.enqueue thread task := by
  cases move with
  | generate here => exact .inr (.inl ⟨_, _, here, rfl⟩)
  | putWork here => exact .inr (.inr ⟨_, _, here, rfl⟩)
  | go goes => exact .inl <| sameWork_goto goes.next_free rfl rfl rfl rfl
  | remove _ plain => exact .inl <| sameWork_goto plain.1 rfl rfl rfl rfl
  | wakeup | empty => exact .inl <| sameWork_goto rfl rfl rfl rfl rfl
  | @putRecord thread task place here =>
    refine .inl ⟨rfl, rfl, rfl, fun other pair => ?_, fun other task => ?_⟩
    · rcases eq_or_ne other thread with rfl | different
      · simp only [goto, update_self, here]
        exact id
      · simp only [goto, update_of_ne different]
        exact id
    · rcases eq_or_ne other thread with rfl | different
      · simp [goto]
      · simp only [goto, update_of_ne different]
        exact id
  | semWait here | noWork here | emit here =>
    refine .inl (sameWork_of_callers ?_ rfl rfl rfl)
    simp [line, here, WorkerPc.task]
  | interrupted => exact .inl <| sameWork_of_callers rfl rfl rfl rfl
  | getWork here queue =>
    refine .inl (sameWork_of_callers ?_ rfl rfl rfl)
    simp [line, here, queue, WorkerPc.task]
  | runWork here =>
    refine .inl (sameWork_of_callers ?_ rfl rfl rfl)
    simp [line, here, WorkerPc.task]
  | preserve here | delete here =>
    refine .inl (sameWork_of_callers ?_ rfl rfl rfl)
    simp [line, here, WorkerPc.task, removeByIdent]

theorem line_issue {s : TaskWorker ι} (line : s.Line) (thread : ι) (args : PushArgs) :
    (s.issue thread args).Line := by
  have fresh : args.task (s.identGenerator + 1) s.issued.length ∉ s.issued := by
    intro member
    have bound := line.number_lt member
    simp only [PushArgs.task] at bound
    omega
  have between : ∀ other pair, ((s.issue thread args).callers other).between = some pair →
      (s.callers other).between = some pair := by
    intro other pair
    rcases eq_or_ne other thread with rfl | different
    · simp [issue, goto, CallerPc.between]
    · simp only [issue, goto, update_of_ne different]
      exact id
  constructor
  case length => exact line.length
  case numbered =>
    intro number task found
    simp only [issue] at found
    rcases Nat.lt_trichotomy number s.issued.length with old | rfl | beyond
    · rw [List.getElem?_append_left old] at found
      exact line.numbered number task found
    · rw [List.getElem?_concat_length] at found
      rw [← Option.some.inj found]
      rfl
    · rw [List.getElem?_eq_none (by simp only [List.length_append, List.length_singleton]; omega)] at found
      cases found
  case member => exact fun task member => List.mem_append_left _ (line.member task member)
  case nodup => exact line.nodup
  case place => exact fun other task place there => line.place other task place (between other _ there)
  case apart =>
    intro other another task task' place there elsewhere
    exact line.apart other another task task' place (between other _ there) (between another _ elsewhere)
  case pending =>
    intro other task there
    rcases eq_or_ne other thread with rfl | different
    · simp only [issue, goto, update_self] at there
      cases there
      exact ⟨List.mem_append_right _ (List.mem_singleton_self _), fun member => fresh (line.member _ member)⟩
    · simp only [issue, goto, update_of_ne different] at there
      have old := line.pending other task there
      exact ⟨List.mem_append_left _ old.1, old.2⟩
  case alone =>
    intro other another task there elsewhere
    simp only [issue, goto, update_apply] at there elsewhere
    split_ifs at there elsewhere with same same' same'
    · rw [same, same']
    · cases there
      exact absurd (line.pending another _ elsewhere).1 fresh
    · cases elsewhere
      exact absurd (line.pending other _ there).1 fresh
    · exact line.alone other another task there elsewhere

theorem line_enqueue {s : TaskWorker ι} {thread : ι} {task : WorkTask} (line : s.Line)
    (here : s.callers thread = .putWork task) : (s.enqueue thread task).Line := by
  have longer : (s.enqueue thread task).line = s.line ++ [task] := by
    simp [TaskWorker.line, enqueue, goto]
  have pending := line.pending thread task here
  have early : ∀ other pair, (s.callers other).between = some pair → pair.2 < s.puts := by
    intro other pair there
    have found := line.place other pair.1 pair.2 there
    rw [← line.length]
    exact (List.getElem?_eq_some_iff.mp found).choose
  constructor
  case length =>
    rw [longer, List.length_append, line.length]
    rfl
  case numbered => exact line.numbered
  case member =>
    rw [longer]
    intro other member
    rcases List.mem_append.mp member with old | new
    · exact line.member other old
    · rw [List.mem_singleton.mp new]
      exact pending.1
  case nodup =>
    rw [longer]
    exact List.nodup_append.mpr ⟨line.nodup, List.nodup_singleton _, by
      rintro other member _ new rfl
      rw [List.mem_singleton.mp new] at member
      exact pending.2 member⟩
  case place =>
    rw [longer]
    intro other item place there
    rcases eq_or_ne other thread with rfl | different
    · simp only [enqueue, goto, update_self, CallerPc.between] at there
      cases there
      rw [← line.length, List.getElem?_concat_length]
    · simp only [enqueue, goto, update_of_ne different] at there
      have found := line.place other item place there
      rw [List.getElem?_append_left (List.getElem?_eq_some_iff.mp found).choose]
      exact found
  case apart =>
    intro other another item item' place there elsewhere
    simp only [enqueue, goto, update_apply] at there elsewhere
    split_ifs at there elsewhere with same same' same'
    · rw [same, same']
    · cases there
      exact absurd (early another _ elsewhere) (Nat.lt_irrefl _)
    · cases elsewhere
      exact absurd (early other _ there) (Nat.lt_irrefl _)
    · exact line.apart other another item item' place there elsewhere
  case pending =>
    rw [longer]
    intro other item there
    rcases eq_or_ne other thread with rfl | different
    · simp only [enqueue, goto, update_self] at there
      cases there
    · simp only [enqueue, goto, update_of_ne different] at there
      have old := line.pending other item there
      refine ⟨old.1, fun member => ?_⟩
      rcases List.mem_append.mp member with before | new
      · exact old.2 before
      · rw [List.mem_singleton.mp new] at there
        exact different (line.alone other thread task there here)
  case alone =>
    intro other another item there elsewhere
    simp only [enqueue, goto, update_apply] at there elsewhere
    split_ifs at there elsewhere
    exact line.alone other another item there elsewhere

theorem line_move {s t : TaskWorker ι} {action : TaskAction ι} (line : s.Line) (move : Move s action t) : t.Line := by
  rcases move.work with same | ⟨thread, args, _, rfl⟩ | ⟨thread, task, here, rfl⟩
  · exact line.keep same
  · exact line_issue line thread args
  · exact line_enqueue line here

/-- A calling thread that stays on its side of the chain changes nothing for the queue. -/
theorem queue_goto {s t : TaskWorker ι} {thread : ι} {next : CallerPc}
    (side : (s.callers thread).producer = next.producer) (callers : t.callers = update s.callers thread next)
    (worker : t.worker = s.worker) (chain : t.workChain = s.workChain) (sema : t.sema = s.sema) :
    t.queue = s.queue := by
  simp only [queue, callers, worker, chain, sema, comp_update, ← side]
  congr 1
  exact update_eq_self thread _

/-- Every move is a step of the queue, or the queue does not see it. -/
theorem Move.queue {s t : TaskWorker ι} {action : TaskAction ι} (move : Move s action t) :
    t.queue = s.queue ∨ ∃ queued, s.queue.step queued = some t.queue := by
  cases move with
  | go goes =>
    refine .inl (queue_goto ?_ rfl rfl rfl rfl)
    simp [CallerPc.producer, CallerPc.between_none goes.free, CallerPc.between_none goes.next_free]
  | remove here plain =>
    refine .inl (queue_goto ?_ rfl rfl rfl rfl)
    simp [CallerPc.producer, CallerPc.between_none plain.1,
      CallerPc.between_none (CallerPc.task_none_of_condemned here)]
  | generate here | empty here | putRecord here =>
    refine .inl (queue_goto ?_ rfl rfl rfl rfl)
    simp [here, CallerPc.producer, CallerPc.between]
  | @putWork thread task here =>
    refine .inr ⟨.chainPut thread task, onlyIf_eq_some.mpr ⟨?_, ?_⟩⟩
    · simp [TaskWorker.queue, here, CallerPc.producer, CallerPc.between]
    · simp only [TaskWorker.queue, enqueue, goto, comp_update]
      rfl
  | @wakeup thread task place here =>
    refine .inr ⟨.wakeup thread, onlyIf_eq_some.mpr ⟨?_, ?_⟩⟩
    · simp [TaskWorker.queue, here, CallerPc.producer, CallerPc.between]
    · simp only [TaskWorker.queue, goto, comp_update]
      rfl
  | semWait here posted =>
    refine .inr ⟨.semWait, onlyIf_eq_some.mpr ⟨⟨?_, posted⟩, rfl⟩⟩
    simp [TaskWorker.queue, here, WorkerPc.consumer]
  | interrupted => exact .inl rfl
  | noWork here none =>
    refine .inr ⟨.chainGet, ?_⟩
    simp [MonoshotQueue.step, onlyIf, TaskWorker.queue, here, none, WorkerPc.consumer]
  | getWork here queue =>
    refine .inr ⟨.chainGet, ?_⟩
    simp [MonoshotQueue.step, onlyIf, TaskWorker.queue, here, queue, WorkerPc.consumer]
  | runWork here | preserve here =>
    refine .inl ?_
    simp [TaskWorker.queue, here, WorkerPc.consumer]
  | delete here | emit here =>
    refine .inr ⟨.callbackReturns, onlyIf_eq_some.mpr ⟨?_, rfl⟩⟩
    simp [TaskWorker.queue, here, WorkerPc.consumer]

variable {allow : TaskWorker ι → TaskAction ι → Prop}

/-- Every run of the task worker is a run of its queue. -/
theorem reach_queue (allocates : ∀ s action, allow s action → s.AllocationSucceeds action) {s : TaskWorker ι}
    (reach : Reach step allow start s) :
    Reach MonoshotQueue.step (fun _ _ => True) MonoshotQueue.start s.queue := by
  refine reach.simulation queue fun s t action before permitted run => ?_
  rcases (reach_moves allocates before permitted run).queue with same | ⟨queued, taken⟩
  · exact .inl same
  · exact .inr ⟨queued, trivial, taken⟩

theorem reach_line (allocates : ∀ s action, allow s action → s.AllocationSucceeds action) {s : TaskWorker ι}
    (reach : Reach step allow start s) : s.Line :=
  reach_by_moves allocates reach line_start fun _ _ _ line _ move => line_move line move

/-- The step of a caller, with its thread. -/
def byCaller : TaskAction ι → Option (ι × CallerAction)
  | .caller thread action => some (thread, action)
  | .worker _ => none

/-- No thread posts its wakeup while a work item in front of its own has no record. -/
def InTurn (s : TaskWorker ι) : TaskAction ι → Prop
  | .caller thread .wakeup => ∀ other, ∀ place ∈ (s.callers thread).posting,
      ∀ unrecorded ∈ (s.callers other).unrecorded, place ≤ unrecorded
  | _ => True

/-- Nothing behind a work item without a record has had its wakeup. -/
def Turn (s : TaskWorker ι) : Prop :=
  ∀ thread task place, s.callers thread = .putRecord task place → ∀ later, place ≤ later → later < s.puts →
    ∃ other item, (s.callers other).between = some (item, later)

theorem turn_goto {s t : TaskWorker ι} {thread : ι} {next : CallerPc} (turn : s.Turn)
    (recorded : next.unrecorded = none)
    (stays : ∀ pair, (s.callers thread).between = some pair → next.between = some pair)
    (callers : t.callers = update s.callers thread next) (puts : t.puts = s.puts) : t.Turn := by
  intro mover task place here later behind before
  rw [puts] at before
  rw [callers] at here ⊢
  have elsewhere : mover ≠ thread := by
    rintro rfl
    rw [update_self] at here
    rw [here] at recorded
    cases recorded
  rw [update_of_ne elsewhere] at here
  obtain ⟨other, item, there⟩ := turn mover task place here later behind before
  refine ⟨other, item, ?_⟩
  rcases eq_or_ne other thread with rfl | different
  · rw [update_self]
    exact stays _ there
  · rw [update_of_ne different]
    exact there

theorem turn_enqueue {s : TaskWorker ι} {thread : ι} {task : WorkTask} (turn : s.Turn)
    (here : s.callers thread = .putWork task) : (s.enqueue thread task).Turn := by
  intro mover item place there later behind before
  simp only [enqueue, goto] at there before ⊢
  rcases Nat.lt_or_ge later s.puts with old | new
  · have elsewhere : mover ≠ thread := by
      rintro rfl
      rw [update_self] at there
      cases there
      omega
    rw [update_of_ne elsewhere] at there
    obtain ⟨other, found, between⟩ := turn mover item place there later behind old
    have different : other ≠ thread := by
      rintro rfl
      rw [here] at between
      cases between
    exact ⟨other, found, by rw [update_of_ne different]; exact between⟩
  · have last : later = s.puts := by omega
    exact ⟨thread, task, by rw [update_self, last]; rfl⟩

theorem turn_wakeup {s t : TaskWorker ι} {thread : ι} {task : WorkTask} {place : Nat} (line : s.Line) (turn : s.Turn)
    (here : s.callers thread = .waking task place) (inTurn : s.InTurn (.caller thread .wakeup)) {next : CallerPc}
    (recorded : next.unrecorded = none) (callers : t.callers = update s.callers thread next)
    (puts : t.puts = s.puts) : t.Turn := by
  intro mover item unrecorded there later behind before
  rw [puts] at before
  rw [callers] at there ⊢
  have elsewhere : mover ≠ thread := by
    rintro rfl
    rw [update_self] at there
    rw [there] at recorded
    cases recorded
  rw [update_of_ne elsewhere] at there
  obtain ⟨other, found, between⟩ := turn mover item unrecorded there later behind before
  -- the work item of this wakeup is in front of the one without a record
  have front : place ≤ unrecorded := by
    refine inTurn mover place ?_ unrecorded ?_
    · rw [here]
      rfl
    · rw [there]
      rfl
  have different : other ≠ thread := by
    rintro rfl
    rw [here] at between
    cases between
    have same : place = unrecorded := by omega
    subst same
    exact elsewhere (line.apart mover other item task place (by rw [there]; rfl) (by rw [here]; rfl))
  exact ⟨other, found, by rw [update_of_ne different]; exact between⟩

theorem turn_move {s t : TaskWorker ι} {action : TaskAction ι} (line : s.Line) (turn : s.Turn)
    (inTurn : s.InTurn action) (move : Move s action t) : t.Turn := by
  have free : ∀ {pc next : CallerPc}, pc.task = none → ∀ pair, pc.between = some pair → next.between = some pair := by
    intro pc next holds pair between
    rw [CallerPc.between_none holds] at between
    cases between
  have recorded : ∀ {next : CallerPc}, next.task = none → next.unrecorded = none := by
    intro next holds
    cases next <;> first | rfl | cases holds
  cases move with
  | go goes => exact turn_goto turn (recorded goes.next_free) (free goes.free) rfl rfl
  | remove here plain =>
    exact turn_goto turn (recorded plain.1) (free (CallerPc.task_none_of_condemned here)) rfl rfl
  | generate here | empty here =>
    refine turn_goto turn rfl (free ?_) rfl rfl
    rw [here]
    rfl
  | putWork here => exact turn_enqueue turn here
  | putRecord here =>
    refine turn_goto turn rfl (fun pair between => ?_) rfl rfl
    rw [here] at between
    exact between
  | wakeup here => exact turn_wakeup line turn here inTurn rfl rfl rfl
  | _ => exact turn

theorem reach_turn (allocates : ∀ s action, allow s action → s.AllocationSucceeds action)
    (inTurn : ∀ s action, allow s action → s.InTurn action) {s : TaskWorker ι}
    (reach : Reach step allow start s) : s.Turn := by
  have initial : (start : TaskWorker ι).Turn := by
    intro thread task place here
    cases here
  have preserved : ∀ s t action, s.Line ∧ s.Turn → allow s action → Move s action t → t.Line ∧ t.Turn := by
    intro s t action both permitted move
    exact ⟨line_move both.1 move, turn_move both.1 both.2 (inTurn s action permitted) move⟩
  exact (reach_by_moves allocates reach ⟨line_start, initial⟩ preserved).2

section Counting
variable [Fintype ι]

omit [DecidableEq ι] [Fintype ι] in
/-- Only a wakeup can be out of turn. -/
theorem inTurn_iff (s : TaskWorker ι) (action : TaskAction ι) :
    (∀ step ∈ byCaller action, step.2 = .wakeup → ∀ other, ∀ place ∈ (s.callers step.1).posting,
      ∀ unrecorded ∈ (s.callers other).unrecorded, place ≤ unrecorded) ↔ s.InTurn action := by
  cases action with
  | worker action => exact ⟨fun _ => trivial, fun _ _ impossible => by cases impossible⟩
  | caller thread action =>
    cases action with
    | wakeup =>
      refine ⟨fun turn => turn _ rfl rfl, fun turn step same _ => ?_⟩
      cases same
      exact turn
    | _ =>
      refine ⟨fun _ => trivial, fun _ step same wakeup => ?_⟩
      cases same
      cases wakeup

instance (s : TaskWorker ι) (action : TaskAction ι) : Decidable (s.InTurn action) :=
  decidable_of_iff _ (s.inTurn_iff action)

theorem reach_balanced (allocates : ∀ s action, allow s action → s.AllocationSucceeds action) {s : TaskWorker ι}
    (reach : Reach step allow start s) : s.queue.Balanced :=
  MonoshotQueue.reach_balanced (reach_queue allocates reach)

omit [DecidableEq ι] in
/-- All tokens belong to work items in front of one without a record. -/
theorem unrecorded_behind {s : TaskWorker ι} (balanced : s.queue.Balanced) (turn : s.Turn)
    {thread : ι} {task : WorkTask} {place : Nat} (here : s.callers thread = .putRecord task place) :
    s.puts + s.sema + s.worker.consumer.token ≤ place + s.workChain.length := by
  have length := balanced.length
  simp only [queue] at length
  have holders : (Finset.Ico place s.puts).card ≤ s.queue.between.card := by
    refine Finset.card_le_card_of_surjOn (fun other => ((s.callers other).between.map Prod.snd).getD 0) ?_
    intro later member
    rw [Finset.coe_Ico] at member
    obtain ⟨other, item, between⟩ := turn thread task place here later member.1 member.2
    refine ⟨other, ?_, by simp only [between, Option.map_some, Option.getD_some]⟩
    simp [MonoshotQueue.between, queue, CallerPc.producer, between]
  rw [Nat.card_Ico] at holders
  simp only [queue] at holders
  omega

end Counting
end TaskWorker
end JsonRpcTcp
