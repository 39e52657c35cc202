import JsonRpcTcp.Lib.Reach

namespace JsonRpcTcp
open Function

/-- `THRD_STATE`. -/
inductive ThreadState where
  | inactive | active | none
  deriving DecidableEq, Repr

/-- `THRD_TYPE`. -/
inductive ThreadType where
  | monoshot | noblock | none
  deriving DecidableEq, Repr

/-- What is set before the thread is used: its type, whether a callback object is
subscribed, and `init_flag`. -/
structure ThreadConfig where
  thType : ThreadType
  attached : Bool
  initFlag : Bool
  deriving DecidableEq, Repr

/-- Who calls the methods: a thread `ι` of the program, or a pthread of this object
from inside its callback. -/
inductive Caller (ι : Type) where
  | outside (thread : ι)
  | inside (pthread : Nat)
  deriving DecidableEq, Repr

/-- What a call returns. `stopped` keeps how many pthreads had been created when
`stop_thread` joined, which is not in the source. -/
inductive CallReturn where
  | started
  | startFailed
  | stopped (created : Nat)
  | stopRequested
  | notStarted
  | timedOut
  deriving DecidableEq, Repr

/-- `ETIMEDOUT` is 110. -/
def CallReturn.code : CallReturn → Int
  | .started | .stopped _ | .stopRequested => 0
  | .startFailed | .notStarted => -1
  | .timedOut => 110

/-- The value is one of `stop_thread`. -/
def CallReturn.ofStop : CallReturn → Bool
  | .stopped _ | .stopRequested | .notStarted | .timedOut => true
  | _ => false

/-- Who called `join_thread`. `limited` says that there is a time limit. -/
inductive JoinCall where
  | fromStart
  | fromStop (limited : Bool)
  deriving DecidableEq, Repr

/-- Program points of a caller. -/
inductive CallPc where
  | idle
  -- start_thread
  | startLock
  | startCheck
  | startLoad
  | draining
  | storingActive
  | storingFinished
  | creating
  | restoringFinished
  | restoringState
  | marking
  -- stop_thread
  | stopLock (limited : Bool)
  | stopCheck (limited : Bool)
  | stoppingSelf
  | storingInactive (limited : Bool)
  | posting (limited : Bool)
  -- join_thread and what follows it
  | joining (call : JoinCall)
  | sleeping (call : JoinCall)
  | pthreadJoin (call : JoinCall)
  | clearing (call : JoinCall)
  | unlocking (result : CallReturn)
  | returning (result : CallReturn)
  deriving DecidableEq, Repr

/-- Program points of a pthread in `my_thread_func`. -/
inductive PthreadPc where
  | none
  | checking
  | waiting
  | woken
  | callback
  | leaving
  | finishing
  | ended
  deriving DecidableEq, Repr

/-- `ADThread` with its callers and the pthreads it has created. -/
structure ADThread (ι : Type) where
  callers : Caller ι → CallPc
  pthreads : Nat → PthreadPc
  created : Nat
  thread : Nat
  threadState : ThreadState
  started : Bool
  finished : Bool
  oneShotSema : Nat
  ctrlLock : Option (Caller ι)

/-- The steps of a caller. How long `join_thread` waits is left open. -/
inductive CallAction where
  | start
  | stop (limited : Bool)
  | wakeup
  | lock
  | readStarted
  | loadState
  | semTrywait
  | storeState
  | storeFinished
  | pthreadCreate (succeeds : Bool)
  | setStarted
  | semPost
  | loadFinished
  | sleepOver
  | giveUp
  | pthreadJoin
  | clearStarted
  | unlock
  | leave
  deriving DecidableEq, Repr

inductive PthreadAction where
  | loadState
  | semWait
  | interrupted
  | callbackReturns
  | storeState
  | storeFinished
  deriving DecidableEq, Repr

inductive ThreadAction (ι : Type) where
  | call (caller : Caller ι) (action : CallAction)
  | pthread (pthread : Nat) (action : PthreadAction)
  deriving Repr

namespace ADThread
variable {ι : Type} [DecidableEq ι]

/-- `init_common`. -/
def init : ADThread ι where
  callers := fun _ => .idle
  pthreads := fun _ => .none
  created := 0
  thread := 0
  threadState := .inactive
  started := false
  finished := true
  oneShotSema := 0
  ctrlLock := none

def goto (s : ADThread ι) (caller : Caller ι) (pc : CallPc) : ADThread ι :=
  { s with callers := update s.callers caller pc }

def run (s : ADThread ι) (pthread : Nat) (pc : PthreadPc) : ADThread ι :=
  { s with pthreads := update s.pthreads pthread pc }

/-- A pthread calls only from inside its callback. -/
def MayCall (s : ADThread ι) : Caller ι → Prop
  | .outside _ => True
  | .inside pthread => s.pthreads pthread = .callback

instance (s : ADThread ι) (caller : Caller ι) : Decidable (s.MayCall caller) := by
  unfold MayCall
  split <;> infer_instance

/-- One step of a caller at a program point: `start_thread`, `stop_thread`,
`join_thread` and `wakeup_thread`. -/
def callAt (config : ThreadConfig) (s : ADThread ι) (caller : Caller ι) : CallPc → CallAction → Option (ADThread ι)
  | .idle, .start =>
    onlyIf (s.MayCall caller) (s.goto caller (if config.initFlag then .startLock else .returning .startFailed))
  | .startLock, .lock => onlyIf (s.ctrlLock = none) { s.goto caller .startCheck with ctrlLock := some caller }
  | .startCheck, .readStarted => some (s.goto caller (if s.started then .startLoad else .draining))
  | .startLoad, .loadState =>
    some (s.goto caller (if s.threadState = .active then .unlocking .startFailed else .joining .fromStart))
  | .draining, .semTrywait =>
    some (if 0 < s.oneShotSema then { s with oneShotSema := s.oneShotSema - 1 } else s.goto caller .storingActive)
  | .storingActive, .storeState => some { s.goto caller .storingFinished with threadState := .active }
  | .storingFinished, .storeFinished => some { s.goto caller .creating with finished := false }
  | .creating, .pthreadCreate succeeds =>
    some (if succeeds then
        { s.goto caller .marking with pthreads := update s.pthreads s.created .checking, thread := s.created
                                      created := s.created + 1 }
      else s.goto caller .restoringFinished)
  | .restoringFinished, .storeFinished => some { s.goto caller .restoringState with finished := true }
  | .restoringState, .storeState => some { s.goto caller (.unlocking .startFailed) with threadState := .inactive }
  | .marking, .setStarted => some { s.goto caller (.unlocking .started) with started := true }
  | .idle, .stop limited => onlyIf (s.MayCall caller) (s.goto caller (.stopLock limited))
  | .stopLock limited, .lock =>
    onlyIf (s.ctrlLock = none) { s.goto caller (.stopCheck limited) with ctrlLock := some caller }
  | .stopCheck limited, .readStarted =>
    some (s.goto caller (if s.started = false then .unlocking .notStarted
      else if caller = .inside s.thread then .stoppingSelf else .storingInactive limited))
  | .stoppingSelf, .storeState => some { s.goto caller (.unlocking .stopRequested) with threadState := .inactive }
  | .storingInactive limited, .storeState =>
    some { s.goto caller (if config.thType = .monoshot then .posting limited else .joining (.fromStop limited)) with
           threadState := .inactive }
  | .posting limited, .semPost =>
    some { s.goto caller (.joining (.fromStop limited)) with oneShotSema := s.oneShotSema + 1 }
  | .joining call, .loadFinished => some (s.goto caller (if s.finished then .pthreadJoin call else .sleeping call))
  | .sleeping call, .sleepOver => some (s.goto caller (.joining call))
  | .sleeping (.fromStop true), .giveUp => some (s.goto caller (.unlocking .timedOut))
  | .pthreadJoin call, .pthreadJoin => onlyIf (s.pthreads s.thread = .ended) (s.goto caller (.clearing call))
  | .clearing .fromStart, .clearStarted => some { s.goto caller .draining with started := false }
  | .clearing (.fromStop _), .clearStarted =>
    some { s.goto caller (.unlocking (.stopped s.created)) with started := false }
  | .unlocking result, .unlock => some { s.goto caller (.returning result) with ctrlLock := none }
  | .returning _, .leave => some (s.goto caller .idle)
  | .idle, .wakeup =>
    onlyIf (s.MayCall caller)
      (if config.thType = .monoshot then { s with oneShotSema := s.oneShotSema + 1 } else s)
  | _, _ => none

/-- One step of `my_thread_func` at a program point. -/
def pthreadAt (config : ThreadConfig) (s : ADThread ι) (pthread : Nat) :
    PthreadPc → PthreadAction → Option (ADThread ι)
  | .checking, .loadState =>
    some (s.run pthread (if s.threadState ≠ .active then .finishing
      else if config.thType = .monoshot then .waiting
      else if config.attached then .callback else .leaving))
  | .waiting, .semWait =>
    onlyIf (0 < s.oneShotSema) { s.run pthread .woken with oneShotSema := s.oneShotSema - 1 }
  -- EINTR: no work was posted
  | .waiting, .interrupted => some (s.run pthread .checking)
  | .woken, .loadState =>
    some (s.run pthread (if s.threadState ≠ .active then .finishing else if config.attached then .callback else .checking))
  | .callback, .callbackReturns =>
    onlyIf (s.callers (.inside pthread) = .idle)
      (s.run pthread (if config.thType = .monoshot then .checking else .leaving))
  | .leaving, .storeState => some { s.run pthread .finishing with threadState := .inactive }
  | .finishing, .storeFinished => some { s.run pthread .ended with finished := true }
  | _, _ => none

def step (config : ThreadConfig) (s : ADThread ι) : ThreadAction ι → Option (ADThread ι)
  | .call caller action => s.callAt config caller (s.callers caller) action
  | .pthread pthread action => s.pthreadAt config pthread (s.pthreads pthread) action

end ADThread
end JsonRpcTcp
