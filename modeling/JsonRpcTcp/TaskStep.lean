import JsonRpcTcp.TaskState
import JsonRpcTcp.Lib.Reach

namespace JsonRpcTcp
open Function

/-- The steps of a calling thread. `alloc` and `put` say whether the objects are
allocated and whether `chain_put` finds memory for its holder. -/
inductive CallerAction where
  | push (args : PushArgs) (alloc : Bool)
  | size
  | evictSize
  | evictScan
  | evictRemove
  | generate
  | putWork (put : Bool)
  | putRecord (put : Bool)
  | undo
  | wakeup
  | status (taskID : Int)
  | readStatus
  | dropRecord
  | reset
  | pendingSize
  | pendingScan
  | giveUp
  | retry
  | empty
  | leave
  deriving DecidableEq, Repr

/-- The steps of the worker thread. `result` is what `run_work` returns. -/
inductive WorkerAction where
  | semWait
  | interrupted
  | chainGet
  | runWork (result : RpcResult)
  | publish
  | emit
  deriving DecidableEq, Repr

inductive TaskAction (ι : Type) where
  | caller (thread : ι) (action : CallerAction)
  | worker (action : WorkerAction)
  deriving Repr

/-- Whether the allocations of a step succeed. -/
def CallerAction.put : CallerAction → Bool
  | .push _ alloc => alloc
  | .putWork put | .putRecord put => put
  | _ => true

namespace TaskWorker
variable {ι : Type} [DecidableEq ι]

/-- The calling thread moves on. -/
def goto (s : TaskWorker ι) (thread : ι) (pc : CallerPc) : TaskWorker ι :=
  { s with callers := update s.callers thread pc }

/-- `chain_generate_ident`. Overflow of `ident_generator` is undefined in the
source, so there is no such step. -/
def generate (s : TaskWorker ι) (thread : ι) (args : PushArgs) : Option (TaskWorker ι) :=
  let task := args.task (s.identGenerator + 1) s.issued.length
  onlyIf (s.identGenerator < 2 ^ 31 - 1)
    { s.goto thread (.putWork task) with identGenerator := s.identGenerator + 1, issued := s.issued ++ [task] }

/-- One step of a calling thread at a program point. How long
`reset_task_id_and_chain` waits is left open: it may give up at any time. -/
def callerAt (s : TaskWorker ι) (thread : ι) : CallerPc → CallerAction → Option (TaskWorker ι)
  | .idle, .push args alloc => some (s.goto thread (if alloc then .sizing args else .returning (.pushed (-1) 0)))
  | .sizing args, .size =>
    some (s.goto thread (if s.workInprogChain.length ≥ maxInprogTasks then .evicting args else .generating args))
  | .evicting args, .evictSize =>
    some (s.goto thread (if s.workInprogChain.length ≥ maxInprogTasks then .scanning args else .generating args))
  | .scanning args, .evictScan =>
    some (s.goto thread (match s.victim with
      | none => .generating args
      | some victim => if victim < 0 then .generating args else .removing args victim))
  | .removing args victim, .evictRemove => some ((s.removeByIdent victim).goto thread (.evicting args))
  | .generating args, .generate => s.generate thread args
  | .putWork task, .putWork put =>
    some (if put then { s.goto thread (.putRecord task s.puts) with workChain := s.workChain ++ [task], puts := s.puts + 1 }
      else s.goto thread (.returning (.pushed (-1) task.taskID)))
  | .putRecord task place, .putRecord put =>
    some (if put then { s.goto thread (.waking task place) with workInprogChain := s.workInprogChain ++ [task.record] }
      else s.goto thread (.undoing task))
  | .undoing task, .undo =>
    some { s.goto thread (.returning (.pushed (-1) task.taskID)) with
           workChain := s.workChain.eraseP fun other => other.taskID == task.taskID }
  | .waking task _, .wakeup => some { s.goto thread (.returning (.pushed 0 task.taskID)) with sema := s.sema + 1 }
  | .idle, .status taskID => some (s.goto thread (.reading taskID))
  | .reading taskID, .readStatus =>
    some (s.goto thread (match s.getByIdent taskID with
      | none => .returning (.status taskID .taskIdNotFound)
      | some record => if record.taskSts = .inProg then .returning (.status taskID .inProg)
        else .dropping taskID record.taskSts))
  | .dropping taskID taskSts, .dropRecord =>
    some ((s.removeByIdent taskID).goto thread (.returning (.status taskID taskSts)))
  | .idle, .reset => some (s.goto thread .polling)
  | .polling, .pendingSize => some (s.goto thread (.searching (0 < s.workChain.length)))
  | .searching busy, .pendingScan => some (s.goto thread (.deciding (busy || s.inProgress)))
  | .deciding true, .giveUp => some (s.goto thread (.returning (.reset .busy)))
  | .deciding true, .retry => some (s.goto thread .polling)
  | .deciding false, .empty =>
    some { s.goto thread (.returning (.reset .success)) with workInprogChain := [], identGenerator := 0 }
  | .returning _, .leave => some (s.goto thread .idle)
  | _, _ => none

def callerStep (s : TaskWorker ι) (thread : ι) (action : CallerAction) : Option (TaskWorker ι) :=
  s.callerAt thread (s.callers thread) action

/-- The result of a preserved task goes into its record, if there is one. -/
def writeResult (s : TaskWorker ι) (task : WorkTask) (result : RpcResult) : List TaskRecord :=
  s.workInprogChain.modify (s.workInprogChain.findIdx fun record => record.taskID == task.taskID)
    fun record => { record with taskSts := result, percentComplete := 100 }

/-- One step of the worker thread: `my_thread_func` and `monoshot_callback_function`. -/
def workerStep (s : TaskWorker ι) : WorkerAction → Option (TaskWorker ι)
  | .semWait => onlyIf (s.worker = .waiting ∧ 0 < s.sema) { s with worker := .woken, sema := s.sema - 1 }
  | .interrupted => onlyIf (s.worker = .waiting) s
  | .chainGet =>
    match s.workChain with
    | [] => onlyIf (s.worker = .woken) { s with worker := .waiting }
    | task :: rest => onlyIf (s.worker = .woken) { s with worker := .running task, workChain := rest }
  | .runWork result =>
    match s.worker with
    | .running task => some { s with worker := .publishing task result }
    | _ => none
  | .publish =>
    match s.worker with
    | .publishing task result =>
      some (if task.preserved then
          { s with worker := .emitting task result, workInprogChain := s.writeResult task result
                   finished := s.finished ++ [(task, result)] }
        else { s.removeByIdent task.taskID with worker := .waiting, finished := s.finished ++ [(task, result)] })
    | _ => none
  | .emit =>
    match s.worker with
    | .emitting task result =>
      some { s with worker := .waiting
                    events := s.events ++ [{ evntArg := task.taskID, evntArg2 := result, number := task.number }] }
    | _ => none

def step (s : TaskWorker ι) : TaskAction ι → Option (TaskWorker ι)
  | .caller thread action => s.callerStep thread action
  | .worker action => s.workerStep action

/-- Allocations and `chain_put` succeed in this step. -/
def AllocationSucceeds (_ : TaskWorker ι) : TaskAction ι → Prop
  | .caller _ action => action.put = true
  | .worker _ => True

instance (s : TaskWorker ι) (action : TaskAction ι) : Decidable (s.AllocationSucceeds action) := by
  unfold AllocationSucceeds
  split <;> infer_instance

end TaskWorker
end JsonRpcTcp
