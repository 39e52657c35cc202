import JsonRpcTcp.Lib.Reach

namespace JsonRpcTcp
open Function

/-! `ADTimer` in active mode: the thread that waits in `wait_for_exit_signal`, the two threads
of the timer, and the other threads of the process, to any of which the kernel can give a
signal. Signals are numbers, as in the source. -/

def sigHup : Nat := 1
def sigInt : Nat := 2
def sigQuit : Nat := 3
def sigAlrm : Nat := 14
def sigTerm : Nat := 15
def sigIo : Nat := 29

/-- The first real-time signal. From here on the kernel keeps every pending instance. -/
def sigRtMin : Nat := 32

/-- What is used of `siginfo_t`. -/
structure SigInfo where
  sig : Nat
  siInt : Int
  deriving DecidableEq, Repr

/-- The signal asks the program to stop. -/
def SigInfo.stops (info : SigInfo) : Bool := info.sig == sigInt || info.sig == sigTerm || info.sig == sigQuit

/-- The signal is left to `notify_registered_signals`. -/
def SigInfo.custom (info : SigInfo) : Bool := !info.stops && info.sig != sigIo && info.sig != sigAlrm

/-- A signal becomes pending for a thread. One instance of a standard signal is enough. -/
def queueSignal (pending : List SigInfo) (info : SigInfo) : List SigInfo :=
  if info.sig < sigRtMin ∧ pending.any (fun other => other.sig == info.sig) then pending else pending ++ [info]

/-- What is fixed before `wait_for_exit_signal` is called: the entries of `custom_sig_chain`,
and `notify_custom_sig` of each subscriber. -/
structure TimerConfig where
  customSigs : List Nat
  subscribers : List Bool
  deriving DecidableEq, Repr

/-- The signals for which the constructor and `register_custom_signal` install the forwarder. -/
def TimerConfig.forwarded (config : TimerConfig) : List Nat :=
  [sigInt, sigTerm, sigQuit, sigHup, sigAlrm, sigIo] ++ config.customSigs

/-- Program points of `wait_for_exit_signal`. -/
inductive WaiterPc where
  | entering
  | blocked
  | registered
  | checking
  | waiting
  | storing
  | notifyingSigio
  | alarm
  | exchanging
  | waking
  | scanning (info : SigInfo) (registrations : List Nat)
  | wakingCustom (info : SigInfo) (registrations : List Nat)
  | leaving
  deriving DecidableEq, Repr

/-- A run of `forward_signal_handler` in a thread, with its local `target` once it is read. -/
structure HandlerRun (ι : Type) where
  thread : ι
  info : SigInfo
  target : Option ι
  deriving DecidableEq, Repr

/-- Program points of a call of `forced_exit`. -/
inductive ExitPc (ι : Type) where
  | outside
  | stored
  | loaded (target : ι)
  deriving DecidableEq, Repr

/-- Program points of `TimerThread`. -/
inductive TickPc where
  | waiting
  | woken
  | notifying
  deriving DecidableEq, Repr

/-- Program points of `CustomSigThread`, with the subscribers it has not called yet. -/
inductive CustomPc where
  | waiting
  | woken
  | notifying (info : SigInfo) (subscribers : List (Bool × Nat))
  deriving DecidableEq, Repr

/-- `ADTimer` with the threads `ι` of the process. -/
structure ADTimer (ι : Type) where
  waiter : WaiterPc
  waiterTid : ι
  receivedUserStopSig : Bool
  stoptimer : Bool
  timerTickPending : Bool
  -- the kernel: what is pending for each thread, and the handlers that run
  pending : ι → List SigInfo
  handlers : List (HandlerRun ι)
  exits : ι → ExitPc ι
  timerSema : Nat
  tick : TickPc
  sigInfoChain : List SigInfo
  customSema : Nat
  custom : CustomPc
  -- history, not in the source: the requests to stop, the signals that the waiting thread
  -- took after it was told to stop, the alarms it took, the passes over the subscribers and
  -- how many alarms there were when the last one began, the custom signals it took, how
  -- many copies of them could not be stored, those that `CustomSigThread` took, and its
  -- calls (subscriber, argument)
  stopRequests : Nat
  takenAfterStop : Nat
  alarms : Nat
  passes : Nat
  covered : Nat
  takenCustom : List SigInfo
  lostCustom : Nat
  popped : List SigInfo
  calls : List (Nat × Int)

/-- The steps of the waiting thread. -/
inductive WaiterAction where
  | block
  | storeTid
  | setitimer
  | loadStopSig
  | sigwaitinfo (info : SigInfo)
  | interrupted
  | storeStopSig
  | notifySigio
  | loadStoptimer
  | exchangeTick
  | wakeTimer
  | scan (stored : Bool)
  | wakeCustom
  deriving DecidableEq, Repr

/-- The steps of `TimerThread` and `CustomSigThread`. -/
inductive TimerThreadAction where
  | timerSemWait
  | clearTick
  | passDone
  | customSemWait
  | chainGet
  | notifyNext
  deriving DecidableEq, Repr

/-- What the kernel does, the forwarder in any thread, and the calls of other threads. -/
inductive SignalAction (ι : Type) where
  | arrive (thread : ι) (info : SigInfo)
  | enterHandler (thread : ι) (info : SigInfo)
  | loadTarget (run : HandlerRun ι)
  | leaveHandler (run : HandlerRun ι) (target : ι)
  | forcedExit (thread : ι)
  | loadWaiter (thread : ι)
  | tgkill (thread : ι)
  | stopTimer
  deriving DecidableEq, Repr

inductive TimerAction (ι : Type) where
  | waiter (action : WaiterAction)
  | thread (action : TimerThreadAction)
  | outside (action : SignalAction ι)
  deriving DecidableEq, Repr

namespace ADTimer
variable {ι : Type}

/-- After the constructor, which the waiting thread `main` has called. -/
def start (main : ι) : ADTimer ι where
  waiter := .entering
  waiterTid := main
  receivedUserStopSig := false
  stoptimer := false
  timerTickPending := false
  pending := fun _ => []
  handlers := []
  exits := fun _ => .outside
  timerSema := 0
  tick := .waiting
  sigInfoChain := []
  customSema := 0
  custom := .waiting
  stopRequests := 0
  takenAfterStop := 0
  alarms := 0
  passes := 0
  covered := 0
  takenCustom := []
  lostCustom := 0
  popped := []
  calls := []

variable [DecidableEq ι] (config : TimerConfig) (main : ι)

/-- A thread has blocked a signal: only the waiting thread does that, at first only for the
custom signals it has registered. -/
def blocks (s : ADTimer ι) (thread : ι) (sig : Nat) : Bool :=
  thread = main && (s.waiter != .entering || config.customSigs.contains sig)

/-- A handler runs on the stack of the waiting thread. -/
def interruptedBy (s : ADTimer ι) (main : ι) : Bool := s.handlers.any fun run => run.thread = main

/-- A signal is sent to a thread. -/
def send (s : ADTimer ι) (thread : ι) (info : SigInfo) : ADTimer ι :=
  { s with pending := update s.pending thread (queueSignal (s.pending thread) info) }

/-- The `switch` of `wait_for_exit_signal`. -/
def dispatch (info : SigInfo) : WaiterPc :=
  if info.stops then .storing
  else if info.sig = sigIo then .notifyingSigio
  else if info.sig = sigAlrm then .alarm
  else .scanning info config.customSigs

/-- One step of the waiting thread. -/
def waiterStep (s : ADTimer ι) : WaiterAction → Option (ADTimer ι)
  | .block => onlyIf (s.waiter = .entering) { s with waiter := .blocked }
  | .storeTid => onlyIf (s.waiter = .blocked) { s with waiter := .registered, waiterTid := main }
  | .setitimer => onlyIf (s.waiter = .registered) { s with waiter := .checking }
  | .loadStopSig =>
    onlyIf (s.waiter = .checking) { s with waiter := if s.receivedUserStopSig then .leaving else .waiting }
  | .sigwaitinfo info =>
    onlyIf (s.waiter = .waiting ∧ info ∈ s.pending main)
      { s with
        pending := update s.pending main ((s.pending main).erase info)
        waiter := dispatch config info
        takenAfterStop := if s.receivedUserStopSig then s.takenAfterStop + 1 else s.takenAfterStop
        takenCustom := if info.custom then s.takenCustom ++ [info] else s.takenCustom }
  | .interrupted => onlyIf (s.waiter = .waiting) { s with waiter := .checking }
  | .storeStopSig => onlyIf (s.waiter = .storing) { s with waiter := .checking, receivedUserStopSig := true }
  | .notifySigio => onlyIf (s.waiter = .notifyingSigio) { s with waiter := .checking }
  | .loadStoptimer =>
    onlyIf (s.waiter = .alarm) { s with waiter := if s.stoptimer then .checking else .exchanging }
  | .exchangeTick =>
    onlyIf (s.waiter = .exchanging)
      { s with timerTickPending := true, alarms := s.alarms + 1
               waiter := if s.timerTickPending then .checking else .waking }
  | .wakeTimer => onlyIf (s.waiter = .waking) { s with waiter := .checking, timerSema := s.timerSema + 1 }
  -- the loop of `notify_registered_signals`: without memory for the copy or its place in
  -- the chain it goes on
  | .scan stored =>
    match s.waiter with
    | .scanning _ [] => some { s with waiter := .checking }
    | .scanning info (sig :: registrations) =>
      some (if info.sig = sig then
          if stored then
            { s with waiter := .wakingCustom info registrations, sigInfoChain := s.sigInfoChain ++ [info] }
          else { s with waiter := .scanning info registrations, lostCustom := s.lostCustom + 1 }
        else { s with waiter := .scanning info registrations })
    | _ => none
  | .wakeCustom =>
    match s.waiter with
    | .wakingCustom info registrations =>
      some { s with waiter := .scanning info registrations, customSema := s.customSema + 1 }
    | _ => none

/-- One step of `TimerThread` or `CustomSigThread`. -/
def threadStep (s : ADTimer ι) : TimerThreadAction → Option (ADTimer ι)
  | .timerSemWait =>
    onlyIf (s.tick = .waiting ∧ 0 < s.timerSema) { s with tick := .woken, timerSema := s.timerSema - 1 }
  | .clearTick =>
    onlyIf (s.tick = .woken)
      { s with tick := .notifying, timerTickPending := false, passes := s.passes + 1, covered := s.alarms }
  | .passDone => onlyIf (s.tick = .notifying) { s with tick := .waiting }
  | .customSemWait =>
    onlyIf (s.custom = .waiting ∧ 0 < s.customSema) { s with custom := .woken, customSema := s.customSema - 1 }
  | .chainGet =>
    match s.sigInfoChain with
    | [] => onlyIf (s.custom = .woken) { s with custom := .waiting }
    | info :: rest => onlyIf (s.custom = .woken)
      { s with custom := .notifying info config.subscribers.zipIdx, sigInfoChain := rest, popped := s.popped ++ [info] }
  | .notifyNext =>
    match s.custom with
    | .notifying _ [] => some { s with custom := .waiting }
    | .notifying info ((notified, number) :: rest) =>
      some { s with custom := .notifying info rest
                    calls := if notified then s.calls ++ [(number, info.siInt)] else s.calls }
    | _ => none

/-- The kernel, the forwarder in any thread, and `forced_exit` and `stop` in the others. -/
def outsideStep (s : ADTimer ι) : SignalAction ι → Option (ADTimer ι)
  | .arrive thread info =>
    onlyIf (info.sig ∈ config.forwarded)
      { s.send thread info with stopRequests := if info.stops then s.stopRequests + 1 else s.stopRequests }
  | .enterHandler thread info =>
    onlyIf (info ∈ s.pending thread ∧ s.blocks config main thread info.sig = false)
      { s with pending := update s.pending thread ((s.pending thread).erase info)
               handlers := s.handlers ++ [{ thread := thread, info := info, target := none }] }
  | .loadTarget run =>
    onlyIf (run ∈ s.handlers ∧ run.target = none)
      { s with handlers := s.handlers.erase run ++ [{ run with target := some s.waiterTid }] }
  | .leaveHandler run target =>
    onlyIf (run ∈ s.handlers ∧ run.target = some target)
      (if run.thread ≠ target then { s.send target run.info with handlers := s.handlers.erase run }
      else if run.info.stops then { s with handlers := s.handlers.erase run, receivedUserStopSig := true }
      else { s with handlers := s.handlers.erase run })
  | .forcedExit thread =>
    onlyIf (s.exits thread = .outside ∧ thread ≠ main)
      { s with exits := update s.exits thread .stored, receivedUserStopSig := true
               stopRequests := s.stopRequests + 1 }
  | .loadWaiter thread =>
    onlyIf (s.exits thread = .stored) { s with exits := update s.exits thread (.loaded s.waiterTid) }
  | .tgkill thread =>
    match s.exits thread with
    | .loaded target =>
      some (if target ≠ thread then
          { s.send target { sig := sigAlrm, siInt := 0 } with exits := update s.exits thread .outside }
        else { s with exits := update s.exits thread .outside })
    | _ => none
  | .stopTimer => some { s with stoptimer := true }

/-- The waiting thread runs only while no handler does on its stack. -/
def step (s : ADTimer ι) : TimerAction ι → Option (ADTimer ι)
  | .waiter action => if s.interruptedBy main then none else s.waiterStep config main action
  | .thread action => s.threadStep config action
  | .outside action => s.outsideStep config main action

end ADTimer
end JsonRpcTcp
