import JsonRpcTcp.Framer

namespace JsonRpcTcp

/-- `RPC_SRV_RESULT`. -/
inductive RpcResult where
  | success | fail | inProg | busy | notStarted | timeout | argError | memError | busError | actionNotAllowed
  | devNotAccessible | fileNotFound | featureNotAvailable | featureUnsupported | taskIdNotFound | valueOutOfRange
  | fileOpenErr | fileReadErr | fileWriteErr | fileSame | fileDifferent | hostNotReachableErr | resend
  | csExposureErr | csI2cErr | itemNotFound | fileError | devinfoError | fileEmpty | itemDuplicateFound
  | unknownCommand | devnodeAccerr | devnodeOpenerr | offlineNode | unknown | none
  deriving DecidableEq, Repr

/-- `WORK_CMD_AFTER_DONE`. -/
inductive AfterDone where
  | preserve | delete | unknown | none
  deriving DecidableEq, Repr

/-- `ADLIB_ASYNC_RESP_TYPE`. -/
inductive AsyncRespType where
  | poll | trigger | event | unknown | none
  deriving DecidableEq, Repr

/-- `ADTASK_WORKER_MAX_INPROG_TASKS`. -/
def maxInprogTasks : Nat := 256

/-- The arguments of `push_task`. -/
structure PushArgs where
  workCmd : Int
  workData : List Byte
  done : AfterDone
  deriving DecidableEq, Repr

/-- `WORK_CMD_TASK`. `number` is not in the source: the position of the task
among all tasks that were issued an id. -/
structure WorkTask where
  taskID : Int
  percentComplete : Int
  command : Int
  taskSts : RpcResult
  doneAction : AfterDone
  respType : AsyncRespType
  workData : List Byte
  number : Nat
  deriving DecidableEq, Repr

/-- `WORK_CMD_TASK_IN_PROG`. Its `number` is that of its task. -/
structure TaskRecord where
  taskID : Int
  percentComplete : Int
  command : Int
  taskSts : RpcResult
  number : Nat
  deriving DecidableEq, Repr

/-- The work item of a `push_task` call. `resp_type` keeps the value of the
constructor. -/
def PushArgs.task (args : PushArgs) (taskID : Int) (number : Nat) : WorkTask :=
  { taskID := taskID, percentComplete := 0, command := args.workCmd, taskSts := .inProg, doneAction := args.done
    respType := .poll, workData := args.workData, number := number }

/-- The status record that `push_task` makes beside a work item. -/
def WorkTask.record (task : WorkTask) : TaskRecord :=
  { taskID := task.taskID, percentComplete := 0, command := task.command, taskSts := .inProg, number := task.number }

/-- The task as `monoshot_callback_function` treats it after `run_work`. -/
def WorkTask.preserved (task : WorkTask) : Bool :=
  task.respType ≠ .trigger ∧ task.doneAction = .preserve

/-- What a call returns to its caller. -/
inductive CallResult where
  | pushed (code : Int) (taskID : Int)
  | status (taskID : Int) (taskSts : RpcResult)
  | reset (result : RpcResult)
  deriving DecidableEq, Repr

/-- Program points of a thread that calls `push_task`, `get_task_status` or
`reset_task_id_and_chain`. `place` is not in the source: the position of the work
item among all that were put into `work_chain`. -/
inductive CallerPc where
  | idle
  -- push_task and evict_completed_tasks
  | sizing (args : PushArgs)
  | evicting (args : PushArgs)
  | scanning (args : PushArgs)
  | removing (args : PushArgs) (victim : Int)
  | generating (args : PushArgs)
  | putWork (task : WorkTask)
  | putRecord (task : WorkTask) (place : Nat)
  | undoing (task : WorkTask)
  | waking (task : WorkTask) (place : Nat)
  -- get_task_status
  | reading (taskID : Int)
  | dropping (taskID : Int) (taskSts : RpcResult)
  -- reset_task_id_and_chain and tasks_pending
  | polling
  | searching (busy : Bool)
  | deciding (busy : Bool)
  | returning (result : CallResult)
  deriving DecidableEq, Repr

/-- Program points of the worker thread, with the work item it took. -/
inductive WorkerPc where
  | waiting
  | woken
  | running (task : WorkTask)
  | publishing (task : WorkTask) (result : RpcResult)
  | emitting (task : WorkTask) (result : RpcResult)
  deriving DecidableEq, Repr

/-- An event that was emitted, with the task it was emitted for. -/
structure TaskEvent where
  evntArg : Int
  evntArg2 : RpcResult
  number : Nat
  deriving DecidableEq, Repr

/-- `ADTaskWorker` with the threads `ι` that call it and its own thread. -/
structure TaskWorker (ι : Type) where
  callers : ι → CallerPc
  worker : WorkerPc
  workChain : List WorkTask
  workInprogChain : List TaskRecord
  identGenerator : Int
  sema : Nat
  -- history, not in the source: every task issued an id, the number of work items
  -- ever put, every task the worker is done with and every event
  issued : List WorkTask
  puts : Nat
  finished : List (WorkTask × RpcResult)
  events : List TaskEvent

namespace TaskWorker
variable {ι : Type}

/-- The worker thread runs and waits, and both chains are empty. -/
def start : TaskWorker ι where
  callers := fun _ => .idle
  worker := .waiting
  workChain := []
  workInprogChain := []
  identGenerator := 0
  sema := 0
  issued := []
  puts := 0
  finished := []
  events := []

/-- `chain_get_by_ident` of `work_inprog_chain`. -/
def getByIdent (s : TaskWorker ι) (ident : Int) : Option TaskRecord :=
  s.workInprogChain.find? fun record => record.taskID == ident

/-- `chain_remove_by_ident` of `work_inprog_chain`. -/
def removeByIdent (s : TaskWorker ι) (ident : Int) : TaskWorker ι :=
  { s with workInprogChain := s.workInprogChain.eraseP fun record => record.taskID == ident }

/-- The status that `get_task_status` reads under the lock. -/
def taskStatus (s : TaskWorker ι) (taskID : Int) : RpcResult :=
  match s.getByIdent taskID with
  | none => .taskIdNotFound
  | some record => record.taskSts

/-- The victim of `evict_completed_tasks`: the oldest record that is not in progress. -/
def victim (s : TaskWorker ι) : Option Int :=
  (s.workInprogChain.find? fun record => record.taskSts != .inProg).map TaskRecord.taskID

/-- The locked part of `tasks_pending`. -/
def inProgress (s : TaskWorker ι) : Bool :=
  s.workInprogChain.any fun record => record.taskSts == .inProg

end TaskWorker
end JsonRpcTcp
