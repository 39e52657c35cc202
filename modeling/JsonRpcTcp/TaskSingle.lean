import JsonRpcTcp.Lib.Keyed
import JsonRpcTcp.TaskMoves

namespace JsonRpcTcp
open Function

namespace CallerPc

/-- The task that has an id and no record. -/
def ahead : CallerPc → List WorkTask
  | .putWork task | .putRecord task _ | .undoing task => [task]
  | _ => []

/-- The task whose work item is in `work_chain` without a record. -/
def loose : CallerPc → List WorkTask
  | .putRecord task _ | .undoing task => [task]
  | _ => []

/-- The work items in `work_chain` for which no wakeup was posted. -/
def unposted : CallerPc → Nat
  | .putRecord _ _ | .undoing _ | .waking _ _ => 1
  | _ => 0

/-- What `get_task_status` returns. -/
def report : CallerPc → Option (Int × RpcResult)
  | .dropping taskID taskSts | .returning (.status taskID taskSts) => some (taskID, taskSts)
  | _ => none

/-- The thread holds no task and has no record to remove. -/
def Free (pc : CallerPc) : Prop := pc.task = none ∧ pc.condemned = none

theorem Free.ahead {pc : CallerPc} (free : pc.Free) : pc.ahead = [] ∧ pc.loose = [] ∧ pc.unposted = 0 := by
  obtain ⟨none, _⟩ := free
  cases pc <;> first | exact ⟨rfl, rfl, rfl⟩ | cases none

end CallerPc

/-- The wakeup that the worker has taken and not used. -/
def WorkerPc.woke : WorkerPc → Nat
  | .woken => 1
  | _ => 0

/-- What the life of a task consists of. -/
inductive TaskNews where
  | pushed (taskID : Int)
  | ran (taskID : Int) (result : RpcResult)
  | finished (taskID : Int) (preserved : Bool)
  | polled (taskID : Int) (taskSts : RpcResult)
  | evicted (taskID : Int)
  deriving DecidableEq, Repr

def TaskNews.taskID : TaskNews → Int
  | .pushed taskID | .ran taskID _ | .finished taskID _ | .polled taskID _ | .evicted taskID => taskID

namespace TaskWorker

/-- The news of a step. -/
def newsOf (s : TaskWorker Unit) : TaskAction Unit → List TaskNews
  | .caller _ (.putRecord true) =>
    match s.callers () with
    | .putRecord task _ => [.pushed task.taskID]
    | _ => []
  | .caller _ .readStatus =>
    match s.callers () with
    | .reading taskID => [.polled taskID (s.taskStatus taskID)]
    | _ => []
  | .caller _ .evictRemove =>
    match s.callers () with
    | .removing _ victim => [.evicted victim]
    | _ => []
  | .worker (.runWork result) =>
    match s.worker with
    | .running task => [.ran task.taskID result]
    | _ => []
  | .worker .publish =>
    match s.worker with
    | .publishing task _ => [.finished task.taskID task.preserved]
    | _ => []
  | _ => []

/-- What the thread knows when it goes on: the size it has just read, that nothing can be evicted, or
that nothing was found pending. -/
def Checked (s : TaskWorker Unit) (action : CallerAction) : CallerPc → Prop
  | .scanning _ => action = .evictSize ∧ maxInprogTasks ≤ s.workInprogChain.length
  | .generating _ => s.workInprogChain.length < maxInprogTasks ∨ ∀ record ∈ s.workInprogChain, record.taskSts = .inProg
  | .searching false => s.workChain = []
  | .deciding false => s.callers () = .searching false ∧ s.inProgress = false
  | .returning (.reset .success) => False
  | _ => True

/-- The thread does the steps of this inductive type, and the worker goes on as in `Move`.
Unlike there a step may find no memory. -/
inductive Does (s : TaskWorker Unit) : TaskAction Unit → TaskWorker Unit → Prop
  | walk {action next} (free : (s.callers ()).Free) (goes : next.Free)
      (silent : s.newsOf (.caller () action) = [] ∧ next.report = none) (checked : s.Checked action next) :
      Does s (.caller () action) (s.goto () next)
  | pick {args victim} (here : s.callers () = .scanning args) (found : s.victim = some victim) :
      Does s (.caller () .evictScan) (s.goto () (.removing args victim))
  | evict {args victim} (here : s.callers () = .removing args victim) :
      Does s (.caller () .evictRemove) ((s.removeByIdent victim).goto () (.evicting args))
  | generate {args} (here : s.callers () = .generating args) (bound : s.identGenerator < 2 ^ 31 - 1) :
      Does s (.caller () .generate) (s.issue () args)
  | putWork {task} (here : s.callers () = .putWork task) : Does s (.caller () (.putWork true)) (s.enqueue () task)
  | noWork {task} (here : s.callers () = .putWork task) :
      Does s (.caller () (.putWork false)) (s.goto () (.returning (.pushed (-1) task.taskID)))
  | putRecord {task place} (here : s.callers () = .putRecord task place) :
      Does s (.caller () (.putRecord true))
        { s.goto () (.waking task place) with workInprogChain := s.workInprogChain ++ [task.record] }
  | noRecord {task place} (here : s.callers () = .putRecord task place) :
      Does s (.caller () (.putRecord false)) (s.goto () (.undoing task))
  | undo {task} (here : s.callers () = .undoing task) :
      Does s (.caller () .undo)
        { s.goto () (.returning (.pushed (-1) task.taskID)) with
          workChain := s.workChain.eraseP fun other => other.taskID == task.taskID }
  | wakeup {task place} (here : s.callers () = .waking task place) :
      Does s (.caller () .wakeup) { s.goto () (.returning (.pushed 0 task.taskID)) with sema := s.sema + 1 }
  | read {taskID} (here : s.callers () = .reading taskID)
      (early : s.taskStatus taskID = .inProg ∨ s.getByIdent taskID = none) :
      Does s (.caller () .readStatus) (s.goto () (.returning (.status taskID (s.taskStatus taskID))))
  | readLast {taskID record} (here : s.callers () = .reading taskID) (found : s.getByIdent taskID = some record)
      (done : record.taskSts ≠ .inProg) :
      Does s (.caller () .readStatus) (s.goto () (.dropping taskID record.taskSts))
  | drop {taskID taskSts} (here : s.callers () = .dropping taskID taskSts) :
      Does s (.caller () .dropRecord)
        ((s.removeByIdent taskID).goto () (.returning (.status taskID taskSts)))
  | empty (here : s.callers () = .deciding false) :
      Does s (.caller () .empty)
        { s.goto () (.returning (.reset .success)) with workInprogChain := [], identGenerator := 0 }
  | work {action t} (move : Move s (.worker action) t) : Does s (.worker action) t

section Steps
variable {s t : TaskWorker Unit} {action : CallerAction} {args : PushArgs}

theorem Does.go {pc next : CallerPc} (here : s.callers () = pc) (free : pc.Free) (goes : next.Free)
    (silent : s.newsOf (.caller () action) = [] ∧ next.report = none) (checked : s.Checked action next) :
    Does s (.caller () action) (s.goto () next) := by
  subst here
  exact .walk free goes silent checked

theorem does_idle (here : s.callers () = .idle) (run : s.callerAt () .idle action = some t) :
    Does s (.caller () action) t := by
  cases action with
  | push args alloc =>
    cases run
    cases alloc <;> exact .go here ⟨rfl, rfl⟩ ⟨rfl, rfl⟩ ⟨rfl, rfl⟩ trivial
  | status taskID =>
    cases run
    exact .go here ⟨rfl, rfl⟩ ⟨rfl, rfl⟩ ⟨rfl, rfl⟩ trivial
  | reset =>
    cases run
    exact .go here ⟨rfl, rfl⟩ ⟨rfl, rfl⟩ ⟨rfl, rfl⟩ trivial
  | _ => cases run

theorem does_sizing (here : s.callers () = .sizing args) (run : s.callerAt () (.sizing args) action = some t) :
    Does s (.caller () action) t := by
  cases action with
  | size =>
    cases run
    split_ifs with full
    · exact .go here ⟨rfl, rfl⟩ ⟨rfl, rfl⟩ ⟨rfl, rfl⟩ trivial
    · exact .go here ⟨rfl, rfl⟩ ⟨rfl, rfl⟩ ⟨rfl, rfl⟩ (.inl (by omega))
  | _ => cases run

theorem does_evicting (here : s.callers () = .evicting args) (run : s.callerAt () (.evicting args) action = some t) :
    Does s (.caller () action) t := by
  cases action with
  | evictSize =>
    cases run
    split_ifs with full
    · exact .go here ⟨rfl, rfl⟩ ⟨rfl, rfl⟩ ⟨rfl, rfl⟩ ⟨rfl, full⟩
    · exact .go here ⟨rfl, rfl⟩ ⟨rfl, rfl⟩ ⟨rfl, rfl⟩ (.inl (by omega))
  | _ => cases run

/-- The scan for a victim, as long as no victim has an id below 0. -/
theorem does_scanning (positive : ∀ victim, s.victim = some victim → 0 ≤ victim) (here : s.callers () = .scanning args)
    (run : s.callerAt () (.scanning args) action = some t) : Does s (.caller () action) t := by
  cases action with
  | evictScan =>
    cases run
    cases found : s.victim with
    | none =>
      have busy := List.find?_eq_none.mp (Option.map_eq_none_iff.mp found)
      refine .go here ⟨rfl, rfl⟩ ⟨rfl, rfl⟩ ⟨rfl, rfl⟩ (.inr fun record member => ?_)
      simpa using busy record member
    | some victim =>
      dsimp only
      rw [if_neg (by have nonneg := positive victim found; omega)]
      exact .pick here found
  | _ => cases run

theorem does_putWork {task : WorkTask} (here : s.callers () = .putWork task)
    (run : s.callerAt () (.putWork task) action = some t) : Does s (.caller () action) t := by
  cases action with
  | putWork put =>
    cases put <;> cases run
    · exact .noWork here
    · exact .putWork here
  | _ => cases run

theorem does_putRecord {task : WorkTask} {place : Nat} (here : s.callers () = .putRecord task place)
    (run : s.callerAt () (.putRecord task place) action = some t) : Does s (.caller () action) t := by
  cases action with
  | putRecord put =>
    cases put <;> cases run
    · exact .noRecord here
    · exact .putRecord here
  | _ => cases run

theorem does_reading {taskID : Int} (here : s.callers () = .reading taskID)
    (run : s.callerAt () (.reading taskID) action = some t) : Does s (.caller () action) t := by
  cases action with
  | readStatus =>
    cases run
    cases found : s.getByIdent taskID with
    | none =>
      have status : s.taskStatus taskID = .taskIdNotFound := by rw [taskStatus, found]
      have read := Does.read here (.inr found)
      rw [status] at read
      exact read
    | some record =>
      have status : s.taskStatus taskID = record.taskSts := by rw [taskStatus, found]
      dsimp only
      split_ifs with early
      · have read := Does.read here (.inl (status.trans early))
        rw [status, early] at read
        exact read
      · exact .readLast here found early
  | _ => cases run

theorem does_polling (here : s.callers () = .polling) (run : s.callerAt () .polling action = some t) :
    Does s (.caller () action) t := by
  cases action with
  | pendingSize =>
    cases run
    cases queue : s.workChain with
    | nil => exact .go here ⟨rfl, rfl⟩ ⟨rfl, rfl⟩ ⟨rfl, rfl⟩ queue
    | cons task rest => exact .go here ⟨rfl, rfl⟩ ⟨rfl, rfl⟩ ⟨rfl, rfl⟩ trivial
  | _ => cases run

theorem does_searching {busy : Bool} (here : s.callers () = .searching busy)
    (run : s.callerAt () (.searching busy) action = some t) : Does s (.caller () action) t := by
  cases action with
  | pendingScan =>
    cases run
    cases busy with
    | true => exact .go here ⟨rfl, rfl⟩ ⟨rfl, rfl⟩ ⟨rfl, rfl⟩ trivial
    | false =>
      cases quiet : s.inProgress with
      | true => exact .go here ⟨rfl, rfl⟩ ⟨rfl, rfl⟩ ⟨rfl, rfl⟩ trivial
      | false => exact .go here ⟨rfl, rfl⟩ ⟨rfl, rfl⟩ ⟨rfl, rfl⟩ ⟨here, quiet⟩
  | _ => cases run

theorem does_deciding {busy : Bool} (here : s.callers () = .deciding busy)
    (run : s.callerAt () (.deciding busy) action = some t) : Does s (.caller () action) t := by
  cases busy <;> cases action with
  | giveUp | retry => first | (cases run; exact .go here ⟨rfl, rfl⟩ ⟨rfl, rfl⟩ ⟨rfl, rfl⟩ trivial) | cases run
  | empty => first | (cases run; exact .empty here) | cases run
  | _ => cases run

/-- Every step is one of these, as long as no victim has an id below 0. -/
theorem does_of_step {action : TaskAction Unit} (positive : ∀ victim, s.victim = some victim → 0 ≤ victim)
    (run : s.step action = some t) : Does s action t := by
  cases action with
  | worker action => exact .work (workerStep_moves run)
  | caller thread action =>
    have at' : s.callerAt () (s.callers ()) action = some t := run
    cases here : s.callers () <;> rw [here] at at'
    case idle => exact does_idle here at'
    case sizing => exact does_sizing here at'
    case evicting => exact does_evicting here at'
    case scanning => exact does_scanning positive here at'
    case putWork => exact does_putWork here at'
    case putRecord => exact does_putRecord here at'
    case reading => exact does_reading here at'
    case polling => exact does_polling here at'
    case searching => exact does_searching here at'
    case deciding => exact does_deciding here at'
    case removing =>
      cases action <;> cases at'
      exact .evict here
    case generating =>
      cases action <;> try cases at'
      obtain ⟨bound, rfl⟩ := onlyIf_eq_some.mp at'
      exact .generate here bound
    case undoing =>
      cases action <;> cases at'
      exact .undo here
    case waking =>
      cases action <;> cases at'
      exact .wakeup here
    case dropping =>
      cases action <;> cases at'
      exact .drop here
    case returning =>
      cases action <;> cases at'
      exact .go here ⟨rfl, rfl⟩ ⟨rfl, rfl⟩ ⟨rfl, rfl⟩ trivial

end Steps

/-- The ids of the records, and that of the task whose record is still to come. -/
def ids (s : TaskWorker Unit) : List Int :=
  s.workInprogChain.map TaskRecord.taskID ++ (s.callers ()).ahead.map WorkTask.taskID

/-- The records of the tasks that are done stand in front of those of the tasks that are
running or queued, all in the order in which they were pushed. Only a record of the first kind
is about to be removed. -/
structure Lined (s : TaskWorker Unit) (done : List TaskRecord) (pending : List WorkTask) : Prop where
  chain : s.workInprogChain = done ++ pending.map WorkTask.record
  queue : s.worker.task.toList ++ s.workChain = pending ++ (s.callers ()).loose
  sorted : s.ids.Pairwise (· < ·)
  bounded : ∀ id ∈ s.ids, 0 < id ∧ id ≤ s.identGenerator
  nonneg : 0 ≤ s.identGenerator
  balance : s.sema + s.worker.woke + (s.callers ()).unposted = s.workChain.length
  condemned : ∀ taskID, (s.callers ()).condemned = some taskID → ∃ record ∈ done, record.taskID = taskID

@[simp] theorem goto_callers (s : TaskWorker Unit) (pc : CallerPc) : (s.goto () pc).callers () = pc := by
  simp [goto]

variable {s t : TaskWorker Unit} {done : List TaskRecord} {pending : List WorkTask}

theorem lined_start : (start : TaskWorker Unit).Lined [] [] where
  chain := rfl
  queue := rfl
  sorted := .nil
  bounded := fun _ member => absurd member List.not_mem_nil
  nonneg := le_rfl
  balance := rfl
  condemned := fun _ impossible => by cases impossible

/-- A record is known by its id. -/
theorem Lined.once (lined : s.Lined done pending) : Keyed TaskRecord.taskID s.workInprogChain := by
  have records := (List.pairwise_append.mp lined.sorted).1
  exact (List.pairwise_map.mp records).imp fun less => ne_of_lt less

theorem Lined.getByIdent_iff (lined : s.Lined done pending) {taskID : Int} {record : TaskRecord} :
    s.getByIdent taskID = some record ↔ record ∈ s.workInprogChain ∧ record.taskID = taskID := by
  constructor
  · exact getByIdent_record
  · rintro ⟨member, same⟩
    cases found : s.getByIdent taskID with
    | none =>
      have other := List.find?_eq_none.mp found record member
      rw [same] at other
      simp at other
    | some another =>
      obtain ⟨member', same'⟩ := getByIdent_record found
      rw [lined.once.eq_of_key member member' (same.trans same'.symm)]

/-- A record that is not in progress is one of a task that is done. -/
theorem Lined.mem_done (lined : s.Lined done pending) {record : TaskRecord} (member : record ∈ s.workInprogChain)
    (ended : record.taskSts ≠ .inProg) : record ∈ done := by
  rw [lined.chain] at member
  rcases List.mem_append.mp member with old | running
  · exact old
  · obtain ⟨task, _, rfl⟩ := List.mem_map.mp running
    exact absurd rfl ended

/-- The victim of an eviction has a record that is done. -/
theorem Lined.victim_done (lined : s.Lined done pending) {victim : Int} (found : s.victim = some victim) :
    ∃ record ∈ done, record.taskID = victim := by
  obtain ⟨record, member, same, ended⟩ := victim_record found
  exact ⟨record, lined.mem_done member ended, same⟩

theorem Lined.victim_pos (lined : s.Lined done pending) {victim : Int} (found : s.victim = some victim) :
    0 ≤ victim := by
  obtain ⟨record, member, same⟩ := lined.victim_done found
  have listed : record.taskID ∈ s.ids := by
    refine List.mem_append_left _ (List.mem_map_of_mem ?_)
    rw [lined.chain]
    exact List.mem_append_left _ member
  have bound := (lined.bounded _ listed).1
  omega

/-- The thread goes on and keeps its work item. -/
theorem Lined.goto (lined : s.Lined done pending) {next : CallerPc}
    (ahead : next.ahead.Sublist (s.callers ()).ahead)
    (loose : next.loose = (s.callers ()).loose) (unposted : next.unposted = (s.callers ()).unposted)
    (condemned : ∀ taskID, next.condemned = some taskID → ∃ record ∈ done, record.taskID = taskID) :
    (s.goto () next).Lined done pending := by
  have ids : (s.goto () next).ids.Sublist s.ids := by
    unfold TaskWorker.ids
    rw [goto_callers]
    exact List.Sublist.append (List.Sublist.refl _) (ahead.map _)
  refine ⟨lined.chain, ?_, lined.sorted.sublist ids, fun id member => lined.bounded id (ids.subset member),
    lined.nonneg, ?_, ?_⟩
  · rw [goto_callers, loose]
    exact lined.queue
  · rw [goto_callers, unposted]
    exact lined.balance
  · rw [goto_callers]
    exact condemned

theorem Lined.walk (lined : s.Lined done pending) {next : CallerPc} (free : (s.callers ()).Free) (goes : next.Free) :
    (s.goto () next).Lined done pending := by
  obtain ⟨_, loose, unposted⟩ := free.ahead
  obtain ⟨none, loose', unposted'⟩ := goes.ahead
  refine lined.goto ?_ (loose'.trans loose.symm) (unposted'.trans unposted.symm) fun taskID target => ?_
  · rw [none]
    exact List.nil_sublist _
  · rw [goes.2] at target
    cases target

theorem Lined.pick (lined : s.Lined done pending) {args : PushArgs} {victim : Int} (here : s.callers () = .scanning args)
    (found : s.victim = some victim) : (s.goto () (.removing args victim)).Lined done pending := by
  refine lined.goto (List.nil_sublist _) ?_ ?_ fun taskID target => ?_
  · rw [here]
    rfl
  · rw [here]
    rfl
  · cases target
    exact lined.victim_done found

theorem Lined.noWork (lined : s.Lined done pending) {task : WorkTask} (here : s.callers () = .putWork task) :
    (s.goto () (.returning (.pushed (-1) task.taskID))).Lined done pending := by
  refine lined.goto (List.nil_sublist _) ?_ ?_ fun _ impossible => by cases impossible
  · rw [here]
    rfl
  · rw [here]
    rfl

theorem Lined.noRecord (lined : s.Lined done pending) {task : WorkTask} {place : Nat}
    (here : s.callers () = .putRecord task place) : (s.goto () (.undoing task)).Lined done pending := by
  refine lined.goto ?_ ?_ ?_ fun _ impossible => by cases impossible
  · rw [here]
    exact List.Sublist.refl _
  · rw [here]
    rfl
  · rw [here]
    rfl

theorem Lined.readLast (lined : s.Lined done pending) {taskID : Int} {record : TaskRecord}
    (here : s.callers () = .reading taskID) (found : s.getByIdent taskID = some record)
    (ended : record.taskSts ≠ .inProg) : (s.goto () (.dropping taskID record.taskSts)).Lined done pending := by
  obtain ⟨member, same⟩ := getByIdent_record found
  refine lined.goto (List.nil_sublist _) ?_ ?_ fun other target => ?_
  · rw [here]
    rfl
  · rw [here]
    rfl
  · cases target
    exact ⟨record, lined.mem_done member ended, same⟩

/-- The record of a task that is done is removed. -/
theorem Lined.remove (lined : s.Lined done pending) {taskID : Int} {next : CallerPc}
    (here : (s.callers ()).condemned = some taskID) (goes : next.Free) :
    ((s.removeByIdent taskID).goto () next).Lined (done.eraseP fun record => record.taskID == taskID) pending := by
  obtain ⟨record, member, same⟩ := lined.condemned taskID here
  have test : (record.taskID == taskID) = true := beq_iff_eq.mpr same
  obtain ⟨none, loose', unposted'⟩ := goes.ahead
  have before : (s.callers ()).loose = [] ∧ (s.callers ()).unposted = 0 := by
    cases pc : s.callers () <;> rw [pc] at here <;> first | exact ⟨rfl, rfl⟩ | cases here
  have chain : (s.removeByIdent taskID).workInprogChain =
      (done.eraseP fun record => record.taskID == taskID) ++ pending.map WorkTask.record := by
    unfold removeByIdent
    dsimp only
    rw [lined.chain]
    exact List.eraseP_append_left (p := fun record => record.taskID == taskID) test _ member
  have ids : ((s.removeByIdent taskID).goto () next).ids.Sublist s.ids := by
    unfold TaskWorker.ids
    rw [goto_callers, none, List.map_nil, List.append_nil]
    exact (List.Sublist.map _ List.eraseP_sublist).trans (List.sublist_append_left _ _)
  refine ⟨chain, ?_, lined.sorted.sublist ids, fun id member => lined.bounded id (ids.subset member), lined.nonneg,
    ?_, ?_⟩
  · rw [goto_callers, loose', ← before.1]
    exact lined.queue
  · rw [goto_callers, unposted', ← before.2]
    exact lined.balance
  · rw [goto_callers, goes.2]
    exact fun _ impossible => by cases impossible

/-- A new id is higher than all others. -/
theorem Lined.generate (lined : s.Lined done pending) {args : PushArgs} (here : s.callers () = .generating args) :
    (s.issue () args).Lined done pending := by
  have callers : (s.issue () args).callers () = .putWork (args.task (s.identGenerator + 1) s.issued.length) :=
    goto_callers s _
  have before : s.ids = s.workInprogChain.map TaskRecord.taskID := by
    unfold TaskWorker.ids
    rw [here]
    exact List.append_nil _
  have ids : (s.issue () args).ids = s.ids ++ [s.identGenerator + 1] := by
    rw [before]
    unfold TaskWorker.ids
    rw [callers]
    rfl
  have nonneg := lined.nonneg
  have generator : (s.issue () args).identGenerator = s.identGenerator + 1 := rfl
  refine ⟨lined.chain, ?_, ?_, ?_, ?_, ?_, ?_⟩
  · have queue := lined.queue
    rw [here] at queue
    rw [callers]
    exact queue
  · rw [ids, List.pairwise_append]
    refine ⟨lined.sorted, List.pairwise_singleton _ _, fun id member last new => ?_⟩
    have bound := (lined.bounded id member).2
    rw [List.mem_singleton.mp new]
    omega
  · intro id member
    rw [ids] at member
    rw [generator]
    rcases List.mem_append.mp member with old | new
    · have bound := lined.bounded id old
      omega
    · rw [List.mem_singleton.mp new]
      omega
  · rw [generator]
    omega
  · have balance := lined.balance
    rw [here] at balance
    rw [callers]
    exact balance
  · rw [callers]
    exact fun _ impossible => by cases impossible

theorem Lined.enqueue (lined : s.Lined done pending) {task : WorkTask} (here : s.callers () = .putWork task) :
    (s.enqueue () task).Lined done pending := by
  have callers : (s.enqueue () task).callers () = .putRecord task s.puts := goto_callers s _
  have ids : (s.enqueue () task).ids = s.ids := by
    unfold TaskWorker.ids
    rw [callers, here]
    rfl
  have queue := lined.queue
  have balance := lined.balance
  rw [here] at queue balance
  refine ⟨lined.chain, ?_, ids ▸ lined.sorted, ids ▸ lined.bounded, lined.nonneg, ?_, ?_⟩
  · have chain : (s.enqueue () task).worker.task.toList ++ (s.enqueue () task).workChain =
        (s.worker.task.toList ++ s.workChain) ++ [task] := (List.append_assoc _ _ _).symm
    rw [chain, queue, callers]
    exact congrArg (· ++ [task]) (List.append_nil _)
  · have length : (s.enqueue () task).workChain.length = s.workChain.length + 1 := List.length_append
    rw [callers, length, ← balance]
    rfl
  · rw [callers]
    exact fun _ impossible => by cases impossible

/-- The record is put behind those of the other tasks in progress. -/
theorem Lined.putRecord (lined : s.Lined done pending) {task : WorkTask} {place : Nat}
    (here : s.callers () = .putRecord task place) :
    Lined { s.goto () (.waking task place) with workInprogChain := s.workInprogChain ++ [task.record] } done
      (pending ++ [task]) := by
  have queue := lined.queue
  have balance := lined.balance
  rw [here] at queue balance
  have ids : ids { s.goto () (.waking task place) with workInprogChain := s.workInprogChain ++ [task.record] } = s.ids := by
    unfold TaskWorker.ids
    rw [here]
    dsimp only
    rw [goto_callers, List.map_append]
    exact List.append_nil _
  refine ⟨?_, ?_, ids ▸ lined.sorted, ids ▸ lined.bounded, lined.nonneg, ?_, ?_⟩
  · dsimp only
    rw [lined.chain, List.map_append, List.append_assoc]
    rfl
  · dsimp only
    rw [goto_callers]
    exact queue.trans (List.append_nil _).symm
  · dsimp only
    rw [goto_callers]
    exact balance
  · dsimp only
    rw [goto_callers]
    exact fun _ impossible => by cases impossible

theorem Lined.wakeup (lined : s.Lined done pending) {task : WorkTask} {place : Nat}
    (here : s.callers () = .waking task place) :
    Lined { s.goto () (.returning (.pushed 0 task.taskID)) with sema := s.sema + 1 } done pending := by
  have queue := lined.queue
  have balance := lined.balance
  rw [here] at queue balance
  have ids : ids { s.goto () (.returning (.pushed 0 task.taskID)) with sema := s.sema + 1 } = s.ids := by
    unfold TaskWorker.ids
    rw [here]
    dsimp only
    rw [goto_callers]
    rfl
  refine ⟨lined.chain, ?_, ids ▸ lined.sorted, ids ▸ lined.bounded, lined.nonneg, ?_, ?_⟩
  · dsimp only
    rw [goto_callers]
    exact queue
  · have one : CallerPc.unposted (.waking task place) = 1 := rfl
    have posted : s.sema + 1 + s.worker.woke + 0 = s.workChain.length := by omega
    dsimp only
    rw [goto_callers]
    exact posted
  · dsimp only
    rw [goto_callers]
    exact fun _ impossible => by cases impossible

/-- The work item behind all others is not in progress. -/
theorem split_last {α : Type} {front chain pending : List α} {last : α} (queue : front ++ chain = pending ++ [last])
    (some : chain ≠ []) : ∃ rest, chain = rest ++ [last] ∧ front ++ rest = pending := by
  rcases List.eq_nil_or_concat chain with none | ⟨rest, other, rfl⟩
  · exact absurd none some
  · rw [List.concat_eq_append, ← List.append_assoc] at queue
    obtain ⟨same, equal⟩ := List.append_inj' queue rfl
    rw [List.concat_eq_append, List.singleton_inj.mp equal]
    exact ⟨rest, rfl, same⟩

theorem Lined.undo (lined : s.Lined done pending) {task : WorkTask} (here : s.callers () = .undoing task) :
    Lined { s.goto () (.returning (.pushed (-1) task.taskID)) with
      workChain := s.workChain.eraseP fun other => other.taskID == task.taskID } done pending := by
  have queue := lined.queue
  have balance := lined.balance
  have sorted := lined.sorted
  unfold TaskWorker.ids at sorted
  rw [here] at queue balance sorted
  have one : CallerPc.unposted (.undoing task) = 1 := rfl
  have some : s.workChain ≠ [] := by
    intro none
    rw [none, List.length_nil] at balance
    omega
  obtain ⟨rest, chain, same⟩ := split_last queue some
  have other : ∀ task' ∈ rest, ¬ (task'.taskID == task.taskID) = true := by
    intro task' member equal
    have recorded : task'.taskID ∈ s.workInprogChain.map TaskRecord.taskID := by
      rw [lined.chain, ← same, List.map_append, List.map_append, List.map_append]
      refine List.mem_append_right _ (List.mem_append_right _ ?_)
      rw [List.map_map]
      exact List.mem_map.mpr ⟨task', member, rfl⟩
    have less := (List.pairwise_append.mp sorted).2.2 _ recorded task.taskID List.mem_cons_self
    have same := beq_iff_eq.mp equal
    omega
  have erased : (s.workChain.eraseP fun other => other.taskID == task.taskID) = rest := by
    have last : [task].eraseP (fun other => other.taskID == task.taskID) = [] := by simp
    rw [chain, List.eraseP_append_right _ other, last, List.append_nil]
  rw [erased]
  have ids : (ids { s.goto () (.returning (.pushed (-1) task.taskID)) with workChain := rest }).Sublist s.ids := by
    unfold TaskWorker.ids
    dsimp only
    rw [goto_callers]
    exact List.Sublist.append (List.Sublist.refl _) (List.nil_sublist _)
  refine ⟨lined.chain, ?_, lined.sorted.sublist ids, fun id member => lined.bounded id (ids.subset member),
    lined.nonneg, ?_, ?_⟩
  · dsimp only
    rw [goto_callers]
    exact same.trans (List.append_nil _).symm
  · rw [chain, List.length_append, List.length_singleton] at balance
    have left : s.sema + s.worker.woke + 0 = rest.length := by omega
    dsimp only
    rw [goto_callers]
    exact left
  · dsimp only
    rw [goto_callers]
    exact fun _ impossible => by cases impossible

/-- The worker goes on and the records stay. -/
theorem Lined.worker (lined : s.Lined done pending) (callers : t.callers = s.callers)
    (chain : t.workInprogChain = s.workInprogChain) (generator : t.identGenerator = s.identGenerator)
    (queue : t.worker.task.toList ++ t.workChain = s.worker.task.toList ++ s.workChain)
    (balance : t.sema + t.worker.woke + s.workChain.length = s.sema + s.worker.woke + t.workChain.length) :
    t.Lined done pending := by
  have ids : t.ids = s.ids := by
    unfold TaskWorker.ids
    rw [callers, chain]
  have before := lined.balance
  refine ⟨chain.trans lined.chain, ?_, ids ▸ lined.sorted, ?_, generator ▸ lined.nonneg, ?_, ?_⟩
  · rw [queue, callers]
    exact lined.queue
  · rw [ids, generator]
    exact lined.bounded
  · rw [callers]
    omega
  · rw [callers]
    exact lined.condemned

theorem loose_le_unposted (pc : CallerPc) : pc.loose.length ≤ pc.unposted := by
  cases pc <;> simp [CallerPc.loose, CallerPc.unposted]

/-- The task that runs is the oldest one that is in progress. -/
theorem Lined.pending_head (lined : s.Lined done pending) {task : WorkTask} (working : s.worker.task = some task)
    (busy : s.worker.woke = 0) : ∃ rest, pending = task :: rest ∧ s.workChain = rest ++ (s.callers ()).loose := by
  have queue := lined.queue
  have balance := lined.balance
  have few := loose_le_unposted (s.callers ())
  rw [working, Option.toList_some, List.singleton_append] at queue
  cases here : pending with
  | nil =>
    rw [here, List.nil_append] at queue
    rw [← queue, List.length_cons] at few
    omega
  | cons first rest =>
    rw [here, List.cons_append] at queue
    obtain ⟨same, rest'⟩ := List.cons_eq_cons.mp queue
    exact ⟨rest, by rw [same], rest'⟩

/-- The record of the task that runs, between the others. -/
theorem Lined.others (lined : s.Lined done pending) {task : WorkTask} {rest : List WorkTask}
    (here : pending = task :: rest) : s.workInprogChain = done ++ task.record :: rest.map WorkTask.record ∧
      (∀ record ∈ done, record.taskID ≠ task.taskID) ∧
        ∀ record ∈ rest.map WorkTask.record, record.taskID ≠ task.taskID := by
  have chain := lined.chain
  rw [here, List.map_cons] at chain
  have once := lined.once
  rw [chain] at once
  obtain ⟨_, behind, apart⟩ := List.pairwise_append.mp once
  refine ⟨chain, fun record member => apart record member _ List.mem_cons_self, fun record member => ?_⟩
  exact ((List.pairwise_cons.mp behind).1 record member).symm

/-- The record of a preserved task that has ended. -/
def endedRecord (task : WorkTask) (result : RpcResult) : TaskRecord :=
  { task.record with taskSts := result, percentComplete := 100 }

theorem Lined.preserve (lined : s.Lined done pending) {task : WorkTask} {result : RpcResult}
    (here : s.worker = .publishing task result) :
    ∃ rest, pending = task :: rest ∧
      s.writeResult task result = done ++ [endedRecord task result] ++ rest.map WorkTask.record ∧
      Lined { s with worker := .emitting task result, workInprogChain := s.writeResult task result
                     finished := s.finished ++ [(task, result)] } (done ++ [endedRecord task result]) rest := by
  obtain ⟨rest, first, queue⟩ := lined.pending_head (by rw [here]; rfl) (by rw [here]; rfl)
  obtain ⟨chain, front, back⟩ := lined.others first
  have written : s.writeResult task result = done ++ [endedRecord task result] ++ rest.map WorkTask.record := by
    unfold writeResult
    have unchanged : ∀ records : List TaskRecord, (∀ record ∈ records, record.taskID ≠ task.taskID) →
        records.map (fun record => if record.taskID = task.taskID then
          { record with taskSts := result, percentComplete := 100 } else record) = records := by
      intro records others
      refine (List.map_congr_left fun record member => ?_).trans (List.map_id records)
      exact if_neg (others record member)
    rw [lined.once.modify_eq_map, chain, List.map_append, List.map_cons, unchanged _ front, unchanged _ back,
      List.append_assoc]
    exact congrArg (fun record => done ++ record :: rest.map WorkTask.record) (if_pos rfl)
  have ids : ids { s with worker := .emitting task result, workInprogChain := s.writeResult task result
                          finished := s.finished ++ [(task, result)] } = s.ids := by
    unfold TaskWorker.ids
    dsimp only
    rw [written, chain]
    simp [endedRecord]
  have balance := lined.balance
  rw [here] at balance
  refine ⟨rest, first, written, written, queue, ids ▸ lined.sorted, ids ▸ lined.bounded, lined.nonneg, balance, ?_⟩
  intro taskID target
  obtain ⟨record, member, same⟩ := lined.condemned taskID target
  exact ⟨record, List.mem_append_left _ member, same⟩

theorem Lined.delete (lined : s.Lined done pending) {task : WorkTask} {result : RpcResult}
    (here : s.worker = .publishing task result) :
    ∃ rest, pending = task :: rest ∧
      (s.removeByIdent task.taskID).workInprogChain = done ++ rest.map WorkTask.record ∧
      Lined { s.removeByIdent task.taskID with worker := .waiting, finished := s.finished ++ [(task, result)] } done rest := by
  obtain ⟨rest, first, queue⟩ := lined.pending_head (by rw [here]; rfl) (by rw [here]; rfl)
  obtain ⟨chain, front, _⟩ := lined.others first
  have removed : (s.removeByIdent task.taskID).workInprogChain = done ++ rest.map WorkTask.record := by
    have own : (task.record.taskID == task.taskID) = true := beq_iff_eq.mpr rfl
    have others : ∀ record ∈ done, ¬ (record.taskID == task.taskID) = true :=
      fun record member same => front record member (beq_iff_eq.mp same)
    have erased : (task.record :: rest.map WorkTask.record).eraseP (fun record => record.taskID == task.taskID) =
        rest.map WorkTask.record := List.eraseP_cons_of_pos own
    unfold removeByIdent
    dsimp only
    rw [chain, List.eraseP_append_right _ others, erased]
  have ids : (ids { s.removeByIdent task.taskID with worker := .waiting, finished := s.finished ++ [(task, result)] }).Sublist
      s.ids := by
    unfold TaskWorker.ids
    exact List.Sublist.append (List.Sublist.map _ List.eraseP_sublist) (List.Sublist.refl _)
  have balance := lined.balance
  rw [here] at balance
  exact ⟨rest, first, removed, removed, queue, lined.sorted.sublist ids,
    fun id member => lined.bounded id (ids.subset member), lined.nonneg, balance, lined.condemned⟩

theorem Lined.semWait (lined : s.Lined done pending) (here : s.worker = .waiting) (posted : 0 < s.sema) :
    Lined { s with worker := .woken, sema := s.sema - 1 } done pending := by
  refine lined.worker rfl rfl rfl (by rw [here]; rfl) ?_
  have before : s.worker.woke = 0 := by
    rw [here]
    rfl
  have after : s.sema - 1 + 1 + s.workChain.length = s.sema + s.worker.woke + s.workChain.length := by omega
  exact after

theorem Lined.getWork (lined : s.Lined done pending) {task : WorkTask} {rest : List WorkTask}
    (here : s.worker = .woken) (queue : s.workChain = task :: rest) :
    Lined { s with worker := .running task, workChain := rest } done pending := by
  have woke : s.worker.woke = 1 := by
    rw [here]
    rfl
  refine lined.worker rfl rfl rfl ?_ ?_
  · rw [here, queue]
    rfl
  · have less : s.sema + 0 + (rest.length + 1) = s.sema + 1 + rest.length := by omega
    rw [queue, List.length_cons, woke]
    exact less

theorem Lined.runWork (lined : s.Lined done pending) {task : WorkTask} (here : s.worker = .running task)
    (result : RpcResult) : Lined { s with worker := .publishing task result } done pending :=
  lined.worker rfl rfl rfl (by rw [here]; rfl) (by rw [here]; rfl)

theorem Lined.emit (lined : s.Lined done pending) {task : WorkTask} {result : RpcResult}
    (here : s.worker = .emitting task result) :
    Lined { s with worker := .waiting
                   events := s.events ++ [{ evntArg := task.taskID, evntArg2 := result, number := task.number }] }
      done pending :=
  lined.worker rfl rfl rfl (by rw [here]; rfl) (by rw [here]; rfl)

/-- The worker that was woken finds a work item. -/
theorem Lined.some_work (lined : s.Lined done pending) (here : s.worker = .woken) : s.workChain ≠ [] := by
  intro none
  have balance := lined.balance
  rw [here, none, List.length_nil] at balance
  exact absurd balance (by simp [WorkerPc.woke])

theorem Lined.work (lined : s.Lined done pending) {action : WorkerAction} (move : Move s (.worker action) t) :
    ∃ done' pending', t.Lined done' pending' := by
  cases move with
  | semWait here posted => exact ⟨done, pending, lined.semWait here posted⟩
  | interrupted => exact ⟨done, pending, lined⟩
  | noWork here none => exact absurd none (lined.some_work here)
  | getWork here queue => exact ⟨done, pending, lined.getWork here queue⟩
  | runWork here => exact ⟨done, pending, lined.runWork here _⟩
  | preserve here _ =>
    obtain ⟨rest, _, _, after⟩ := lined.preserve here
    exact ⟨_, rest, after⟩
  | delete here _ =>
    obtain ⟨rest, _, _, after⟩ := lined.delete here
    exact ⟨done, rest, after⟩
  | emit here => exact ⟨done, pending, lined.emit here⟩

theorem woke_of_task {worker : WorkerPc} {task : WorkTask} (working : worker.task = some task) : worker.woke = 0 := by
  cases worker <;> first | rfl | cases working

/-- The task that is running has its record. -/
theorem Lined.working (lined : s.Lined done pending) {task : WorkTask} (working : s.worker.task = some task) :
    task.record ∈ s.workInprogChain := by
  obtain ⟨rest, first, _⟩ := lined.pending_head working (woke_of_task working)
  rw [(lined.others first).1]
  exact List.mem_append_right _ List.mem_cons_self

/-- What the thread has seen still holds. -/
structure Seen (s : TaskWorker Unit) : Prop where
  empty : (s.callers ()).sawEmpty = true → s.workChain = []
  quiet : s.callers () = .deciding false → s.inProgress = false
  reset : s.callers () = .returning (.reset .success) → s.workInprogChain = []

/-- The thread goes to a point at which it knows nothing of the chains. -/
theorem seen_of_blind (blind : (s.callers ()).sawEmpty = false) : s.Seen where
  empty := by
    intro sees
    rw [blind] at sees
    cases sees
  quiet := by
    intro here
    rw [here] at blind
    cases blind
  reset := by
    intro here
    rw [here] at blind
    cases blind

theorem seen_goto {next : CallerPc} (blind : next.sawEmpty = false) (there : t.callers () = next) : t.Seen :=
  seen_of_blind (by rw [there]; exact blind)

theorem Seen.same (seen : s.Seen) (callers : t.callers = s.callers) (chain : t.workInprogChain = s.workInprogChain)
    (workChain : t.workChain = s.workChain) : t.Seen where
  empty := by
    rw [callers, workChain]
    exact seen.empty
  quiet := by
    rw [callers, inProgress, chain]
    exact seen.quiet
  reset := by
    rw [callers, chain]
    exact seen.reset

/-- A running task keeps `reset_task_id_and_chain` from going on. -/
theorem Seen.of_working (seen : s.Seen) (lined : s.Lined done pending) {task : WorkTask}
    (working : s.worker.task = some task) :
    s.callers () ≠ .deciding false ∧ s.callers () ≠ .returning (.reset .success) := by
  have recorded := lined.working working
  refine ⟨fun here => ?_, fun here => ?_⟩
  · have quiet := List.any_eq_false.mp (seen.quiet here) _ recorded
    exact quiet (by simp [WorkTask.record])
  · rw [seen.reset here] at recorded
    cases recorded

/-- While the thread waits for its reset, the worker publishes into records that
it has not looked at yet. -/
theorem Seen.publish (seen : s.Seen) (lined : s.Lined done pending) {task : WorkTask}
    (working : s.worker.task = some task) (callers : t.callers = s.callers) (workChain : t.workChain = s.workChain) :
    t.Seen where
  empty := by
    rw [callers, workChain]
    exact seen.empty
  quiet := by
    rw [callers]
    exact fun here => absurd here (seen.of_working lined working).1
  reset := by
    rw [callers]
    exact fun here => absurd here (seen.of_working lined working).2

theorem Seen.work (seen : s.Seen) (lined : s.Lined done pending) {action : WorkerAction}
    (move : Move s (.worker action) t) : t.Seen := by
  cases move with
  | getWork here queue =>
    refine seen_of_blind (Bool.eq_false_iff.mpr fun sees => ?_)
    rw [seen.empty sees] at queue
    cases queue
  | preserve here => exact seen.publish lined (by rw [here]; rfl) rfl rfl
  | delete here => exact seen.publish lined (by rw [here]; rfl) rfl rfl
  | _ => exact seen.same rfl rfl rfl

/-- The thread goes on with what it has just seen. -/
theorem Seen.walk (seen : s.Seen) {action : CallerAction} {next : CallerPc} (checked : s.Checked action next) :
    (s.goto () next).Seen := by
  have there := goto_callers s next
  by_cases blind : next.sawEmpty = false
  · exact seen_goto blind there
  · cases next with
    | searching busy =>
      cases busy with
      | true => exact absurd rfl blind
      | false =>
        refine ⟨fun _ => checked, fun here => ?_, fun here => ?_⟩ <;> rw [there] at here <;> cases here
    | deciding busy =>
      cases busy with
      | true => exact absurd rfl blind
      | false =>
        have empty := seen.empty (by rw [checked.1]; rfl)
        refine ⟨fun _ => empty, fun _ => checked.2, fun here => ?_⟩
        rw [there] at here
        cases here
    | returning result =>
      cases result with
      | reset result => cases result <;> first | exact checked.elim | exact absurd rfl blind
      | _ => exact absurd rfl blind
    | _ => exact absurd rfl blind

theorem Seen.does (seen : s.Seen) (lined : s.Lined done pending) {action : TaskAction Unit} (does : Does s action t) :
    t.Seen := by
  cases does with
  | walk _ _ _ checked => exact seen.walk checked
  | empty here =>
    refine ⟨fun _ => seen.empty (by rw [here]; rfl), fun there => ?_, fun _ => rfl⟩
    dsimp only at there
    rw [goto_callers] at there
    cases there
  | work move => exact seen.work lined move
  | evict | drop => exact seen_goto rfl (goto_callers _ _)
  | _ => exact seen_goto rfl (goto_callers s _)

/-- A reset that has found nothing pending leaves nothing behind. -/
theorem Lined.empty (lined : s.Lined done pending) (seen : s.Seen) (here : s.callers () = .deciding false) :
    s.worker.task = none ∧ s.workChain = [] ∧
      Lined { s.goto () (.returning (.reset .success)) with workInprogChain := [], identGenerator := 0 } [] [] := by
  have workChain := seen.empty (by rw [here]; rfl)
  have idle : s.worker.task = none := by
    by_contra working
    obtain ⟨task, working⟩ := Option.ne_none_iff_exists'.mp working
    exact (seen.of_working lined working).1 here
  have balance := lined.balance
  rw [here] at balance
  have ids : ids { s.goto () (.returning (.reset .success)) with workInprogChain := [], identGenerator := 0 } = [] := by
    unfold TaskWorker.ids
    dsimp only
    rw [goto_callers]
    rfl
  refine ⟨idle, workChain, rfl, ?_, ids ▸ List.Pairwise.nil, ?_, le_rfl, ?_, ?_⟩
  · have none : s.worker.task.toList ++ s.workChain = [] := by
      rw [idle, workChain]
      rfl
    dsimp only
    rw [goto_callers]
    exact none
  · rw [ids]
    exact fun _ member => absurd member List.not_mem_nil
  · dsimp only
    rw [goto_callers]
    exact balance
  · dsimp only
    rw [goto_callers]
    exact fun _ impossible => by cases impossible

theorem Lined.does (lined : s.Lined done pending) (seen : s.Seen) {action : TaskAction Unit} (does : Does s action t) :
    ∃ done' pending', t.Lined done' pending' := by
  cases does with
  | walk free goes => exact ⟨done, pending, lined.walk free goes⟩
  | pick here found => exact ⟨done, pending, lined.pick here found⟩
  | evict here => exact ⟨_, pending, lined.remove (by rw [here]; rfl) ⟨rfl, rfl⟩⟩
  | generate here _ => exact ⟨done, pending, lined.generate here⟩
  | putWork here => exact ⟨done, pending, lined.enqueue here⟩
  | noWork here => exact ⟨done, pending, lined.noWork here⟩
  | putRecord here => exact ⟨done, _, lined.putRecord here⟩
  | noRecord here => exact ⟨done, pending, lined.noRecord here⟩
  | undo here => exact ⟨done, pending, lined.undo here⟩
  | wakeup here => exact ⟨done, pending, lined.wakeup here⟩
  | read here _ => exact ⟨done, pending, lined.walk (by rw [here]; exact ⟨rfl, rfl⟩) ⟨rfl, rfl⟩⟩
  | readLast here found ended => exact ⟨done, pending, lined.readLast here found ended⟩
  | drop here => exact ⟨_, pending, lined.remove (by rw [here]; rfl) ⟨rfl, rfl⟩⟩
  | empty here => exact ⟨[], [], (lined.empty seen here).2.2⟩
  | work move => exact lined.work move

def Anything {ι : Type} (_ : TaskWorker ι) (_ : TaskAction ι) : Prop := True

instance {ι : Type} (s : TaskWorker ι) (action : TaskAction ι) : Decidable (s.Anything action) := instDecidableTrue

/-- Every run with one calling thread. -/
theorem reach_lined (reach : Reach step Anything start s) : (∃ done pending, s.Lined done pending) ∧ s.Seen := by
  induction reach with
  | start => exact ⟨⟨[], [], lined_start⟩, seen_of_blind rfl⟩
  | next _ _ run ih =>
    obtain ⟨⟨done, pending, lined⟩, seen⟩ := ih
    have does := does_of_step (fun _ found => lined.victim_pos found) run
    exact ⟨lined.does seen does, seen.does lined does⟩

end TaskWorker
end JsonRpcTcp
