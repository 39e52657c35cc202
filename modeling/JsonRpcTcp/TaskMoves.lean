import JsonRpcTcp.TaskStep

namespace JsonRpcTcp
open Function

namespace CallerPc

/-- The task of a `push_task` call that has its id. -/
def task : CallerPc → Option WorkTask
  | .putWork task | .putRecord task _ | .undoing task | .waking task _ => some task
  | _ => none

/-- The work item that was put into `work_chain` and whose wakeup was not posted. -/
def between : CallerPc → Option (WorkTask × Nat)
  | .putRecord task place | .waking task place => some (task, place)
  | _ => none

/-- The id whose record is to be removed. -/
def condemned : CallerPc → Option Int
  | .removing _ victim => some victim
  | .dropping taskID _ => some taskID
  | _ => none

/-- `reset_task_id_and_chain` found `work_chain` empty, or is about to return success. -/
def sawEmpty : CallerPc → Bool
  | .searching busy | .deciding busy => !busy
  | .returning (.reset .success) => true
  | _ => false

/-- The thread holds no task and knows nothing of the chains. -/
def Plain (pc : CallerPc) : Prop := pc.task = none ∧ pc.condemned = none ∧ pc.sawEmpty = false

end CallerPc

/-- The task that the worker has taken and whose result is not published. -/
def WorkerPc.task : WorkerPc → Option WorkTask
  | .running task | .publishing task _ => some task
  | _ => none

namespace TaskWorker
variable {ι : Type}

/-- A move of a calling thread that leaves the chains as they are. -/
inductive Goes (s : TaskWorker ι) : CallerPc → CallerPc → Prop
  | plainly {pc next} (free : pc.task = none) (plain : next.Plain) : Goes s pc next
  | condemn {pc next taskID record} (free : pc.task = none) (target : next.condemned = some taskID)
      (holds : next.task = none) (member : record ∈ s.workInprogChain) (same : record.taskID = taskID)
      (done : record.taskSts ≠ .inProg) : Goes s pc next
  | seeEmpty (empty : s.workChain = []) : Goes s .polling (.searching false)
  | seeQuiet (quiet : s.inProgress = false) : Goes s (.searching false) (.deciding false)

/-- The victim of an eviction has a record that is not in progress. -/
theorem victim_record {s : TaskWorker ι} {victim : Int} (found : s.victim = some victim) :
    ∃ record ∈ s.workInprogChain, record.taskID = victim ∧ record.taskSts ≠ .inProg := by
  obtain ⟨record, search, same⟩ := Option.map_eq_some_iff.mp found
  refine ⟨record, List.mem_of_find?_eq_some search, same, ?_⟩
  have done := List.find?_some search
  exact bne_iff_ne.mp done

theorem getByIdent_record {s : TaskWorker ι} {taskID : Int} {record : TaskRecord}
    (found : s.getByIdent taskID = some record) : record ∈ s.workInprogChain ∧ record.taskID = taskID := by
  have same := List.find?_some found
  exact ⟨List.mem_of_find?_eq_some found, beq_iff_eq.mp same⟩

/-- A thread that goes elsewhere does not take a push back. -/
theorem Goes.forward {s : TaskWorker ι} {pc next : CallerPc} (goes : s.Goes pc next) (task : WorkTask) :
    next ≠ .undoing task := by
  rintro rfl
  cases goes with
  | plainly _ plain => cases plain.1
  | condemn _ _ holds => cases holds

variable [DecidableEq ι]

/-- The thread has its id. -/
def issue (s : TaskWorker ι) (thread : ι) (args : PushArgs) : TaskWorker ι :=
  { s.goto thread (.putWork (args.task (s.identGenerator + 1) s.issued.length)) with
    identGenerator := s.identGenerator + 1
    issued := s.issued ++ [args.task (s.identGenerator + 1) s.issued.length] }

/-- The thread has put its work item. -/
def enqueue (s : TaskWorker ι) (thread : ι) (task : WorkTask) : TaskWorker ι :=
  { s.goto thread (.putRecord task s.puts) with workChain := s.workChain ++ [task], puts := s.puts + 1 }

/-- What the threads can do in one step while allocations succeed. -/
inductive Move (s : TaskWorker ι) : TaskAction ι → TaskWorker ι → Prop
  | go {thread action next} (goes : s.Goes (s.callers thread) next) : Move s (.caller thread action) (s.goto thread next)
  | remove {thread action taskID next} (here : (s.callers thread).condemned = some taskID) (plain : next.Plain) :
      Move s (.caller thread action) ((s.removeByIdent taskID).goto thread next)
  | generate {thread args} (here : s.callers thread = .generating args) (bound : s.identGenerator < 2 ^ 31 - 1) :
      Move s (.caller thread .generate) (s.issue thread args)
  | putWork {thread task} (here : s.callers thread = .putWork task) :
      Move s (.caller thread (.putWork true)) (s.enqueue thread task)
  | putRecord {thread task place} (here : s.callers thread = .putRecord task place) :
      Move s (.caller thread (.putRecord true))
        { s.goto thread (.waking task place) with workInprogChain := s.workInprogChain ++ [task.record] }
  | wakeup {thread task place} (here : s.callers thread = .waking task place) :
      Move s (.caller thread .wakeup) { s.goto thread (.returning (.pushed 0 task.taskID)) with sema := s.sema + 1 }
  | empty {thread} (here : s.callers thread = .deciding false) :
      Move s (.caller thread .empty)
        { s.goto thread (.returning (.reset .success)) with workInprogChain := [], identGenerator := 0 }
  | semWait (here : s.worker = .waiting) (posted : 0 < s.sema) :
      Move s (.worker .semWait) { s with worker := .woken, sema := s.sema - 1 }
  | interrupted : Move s (.worker .interrupted) s
  | noWork (here : s.worker = .woken) (none : s.workChain = []) :
      Move s (.worker .chainGet) { s with worker := .waiting }
  | getWork {task rest} (here : s.worker = .woken) (queue : s.workChain = task :: rest) :
      Move s (.worker .chainGet) { s with worker := .running task, workChain := rest }
  | runWork {task result} (here : s.worker = .running task) :
      Move s (.worker (.runWork result)) { s with worker := .publishing task result }
  | preserve {task result} (here : s.worker = .publishing task result) (kept : task.preserved = true) :
      Move s (.worker .publish)
        { s with worker := .emitting task result, workInprogChain := s.writeResult task result
                 finished := s.finished ++ [(task, result)] }
  | delete {task result} (here : s.worker = .publishing task result) (dropped : task.preserved = false) :
      Move s (.worker .publish)
        { s.removeByIdent task.taskID with worker := .waiting, finished := s.finished ++ [(task, result)] }
  | emit {task result} (here : s.worker = .emitting task result) :
      Move s (.worker .emit)
        { s with worker := .waiting
                 events := s.events ++ [{ evntArg := task.taskID, evntArg2 := result, number := task.number }] }

/-- Every step of a calling thread that does not take a push back is one of the moves. -/
theorem callerAt_moves {s t : TaskWorker ι} {thread : ι} {pc : CallerPc} {action : CallerAction}
    (here : s.callers thread = pc) (forward : ∀ task, pc ≠ .undoing task) (put : action.put = true)
    (run : s.callerAt thread pc action = some t) : Move s (.caller thread action) t := by
  have go : ∀ {next}, s.Goes pc next → Move s (.caller thread action) (s.goto thread next) := by
    intro next goes
    subst here
    exact .go goes
  unfold callerAt at run
  split at run
  case h_1 args alloc =>
    cases put
    cases run
    exact go (.plainly rfl ⟨rfl, rfl, rfl⟩)
  case h_2 args =>
    cases run
    split_ifs
    · exact go (.plainly rfl ⟨rfl, rfl, rfl⟩)
    · exact go (.plainly rfl ⟨rfl, rfl, rfl⟩)
  case h_3 args =>
    cases run
    split_ifs
    · exact go (.plainly rfl ⟨rfl, rfl, rfl⟩)
    · exact go (.plainly rfl ⟨rfl, rfl, rfl⟩)
  case h_4 args =>
    cases run
    cases found : s.victim with
    | none => exact go (.plainly rfl ⟨rfl, rfl, rfl⟩)
    | some victim =>
      obtain ⟨record, member, same, done⟩ := victim_record found
      dsimp only
      split_ifs
      · exact go (.plainly rfl ⟨rfl, rfl, rfl⟩)
      · exact go (.condemn rfl rfl rfl member same done)
  case h_5 args victim =>
    cases run
    exact .remove (by rw [here]; rfl) ⟨rfl, rfl, rfl⟩
  case h_6 args =>
    obtain ⟨bound, rfl⟩ := onlyIf_eq_some.mp run
    exact .generate here bound
  case h_7 task put =>
    cases put
    cases run
    exact .putWork here
  case h_8 task place put =>
    cases put
    cases run
    exact .putRecord here
  case h_9 task => exact absurd rfl (forward task)
  case h_10 task place =>
    cases run
    exact .wakeup here
  case h_11 taskID =>
    cases run
    exact go (.plainly rfl ⟨rfl, rfl, rfl⟩)
  case h_12 taskID =>
    cases run
    cases found : s.getByIdent taskID with
    | none => exact go (.plainly rfl ⟨rfl, rfl, rfl⟩)
    | some record =>
      obtain ⟨member, same⟩ := getByIdent_record found
      dsimp only
      split_ifs with done
      · exact go (.plainly rfl ⟨rfl, rfl, rfl⟩)
      · exact go (.condemn rfl rfl rfl member same done)
  case h_13 taskID taskSts =>
    cases run
    exact .remove (by rw [here]; rfl) ⟨rfl, rfl, rfl⟩
  case h_14 =>
    cases run
    exact go (.plainly rfl ⟨rfl, rfl, rfl⟩)
  case h_15 =>
    cases run
    cases queue : s.workChain with
    | nil => exact go (.seeEmpty queue)
    | cons task rest => exact go (.plainly rfl ⟨rfl, rfl, rfl⟩)
  case h_16 busy =>
    cases run
    cases busy with
    | true => exact go (.plainly rfl ⟨rfl, rfl, rfl⟩)
    | false =>
      cases quiet : s.inProgress with
      | true => exact go (.plainly rfl ⟨rfl, rfl, rfl⟩)
      | false => exact go (.seeQuiet quiet)
  case h_17 =>
    cases run
    exact go (.plainly rfl ⟨rfl, rfl, rfl⟩)
  case h_18 =>
    cases run
    exact go (.plainly rfl ⟨rfl, rfl, rfl⟩)
  case h_19 =>
    cases run
    exact .empty here
  case h_20 result =>
    cases run
    exact go (.plainly rfl ⟨rfl, rfl, rfl⟩)
  case h_21 => cases run

theorem workerStep_moves {s t : TaskWorker ι} {action : WorkerAction} (run : s.workerStep action = some t) :
    Move s (.worker action) t := by
  cases action <;> simp only [workerStep] at run
  case semWait =>
    obtain ⟨⟨here, posted⟩, rfl⟩ := onlyIf_eq_some.mp run
    exact .semWait here posted
  case interrupted =>
    obtain ⟨_, rfl⟩ := onlyIf_eq_some.mp run
    exact .interrupted
  case chainGet =>
    split at run
    case h_1 none =>
      obtain ⟨here, rfl⟩ := onlyIf_eq_some.mp run
      exact .noWork here none
    case h_2 task rest queue =>
      obtain ⟨here, rfl⟩ := onlyIf_eq_some.mp run
      exact .getWork here queue
  case runWork result =>
    split at run
    case h_1 task here =>
      cases run
      exact .runWork here
    case h_2 => cases run
  case publish =>
    split at run
    case h_1 task result here =>
      cases run
      split_ifs with kept
      · exact .preserve here kept
      · exact .delete here (Bool.eq_false_iff.mpr kept)
    case h_2 => cases run
  case emit =>
    split at run
    case h_1 task result here =>
      cases run
      exact .emit here
    case h_2 => cases run

theorem step_moves {s t : TaskWorker ι} {action : TaskAction ι}
    (forward : ∀ thread task, s.callers thread ≠ .undoing task)
    (permitted : s.AllocationSucceeds action) (run : s.step action = some t) : Move s action t := by
  cases action with
  | caller thread action => exact callerAt_moves rfl (forward thread) permitted run
  | worker action => exact workerStep_moves run

theorem Move.forward {s t : TaskWorker ι} {action : TaskAction ι} (move : Move s action t)
    (forward : ∀ thread task, s.callers thread ≠ .undoing task) (thread : ι) (task : WorkTask) :
    t.callers thread ≠ .undoing task := by
  have moved : ∀ {mover next}, (∀ task, next ≠ .undoing task) →
      update s.callers mover next thread ≠ .undoing task := by
    intro mover next other
    rcases eq_or_ne thread mover with rfl | different
    · rw [update_self]
      exact other task
    · rw [update_of_ne different]
      exact forward thread task
  cases move with
  | go goes => exact moved goes.forward
  | remove _ plain => exact moved (by rintro _ rfl; cases plain.1)
  | generate | putWork | putRecord | wakeup | empty => exact moved (by simp)
  | _ => exact forward thread task

variable {allow : TaskWorker ι → TaskAction ι → Prop}

/-- While allocations succeed no push is taken back, so every step is a move. -/
theorem reach_moves (allocates : ∀ s action, allow s action → s.AllocationSucceeds action) {s t : TaskWorker ι}
    {action : TaskAction ι} (reach : Reach step allow start s) (permitted : allow s action)
    (run : s.step action = some t) : Move s action t := by
  have forward : ∀ thread task, s.callers thread ≠ .undoing task := by
    induction reach generalizing t action with
    | start => exact fun _ _ impossible => by cases impossible
    | next _ allowed taken ih =>
      exact (step_moves (ih allowed taken) (allocates _ _ allowed) taken).forward (ih allowed taken)
  exact step_moves forward (allocates _ _ permitted) run

/-- A property that every move preserves holds in every reachable state. -/
theorem reach_by_moves (allocates : ∀ s action, allow s action → s.AllocationSucceeds action)
    {holds : TaskWorker ι → Prop} {s : TaskWorker ι} (reach : Reach step allow start s) (initial : holds start)
    (preserved : ∀ s t action, holds s → allow s action → Move s action t → holds t) : holds s := by
  induction reach with
  | start => exact initial
  | next before permitted run ih => exact preserved _ _ _ ih permitted (reach_moves allocates before permitted run)

end TaskWorker
end JsonRpcTcp
