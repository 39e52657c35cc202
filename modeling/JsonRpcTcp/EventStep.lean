import JsonRpcTcp.Framer
import JsonRpcTcp.MonoshotQueue

namespace JsonRpcTcp
open Function

/-- `ADEVNT_MGR_MAX_FAILURES`, `ADEVNT_MGR_FAIL_WINDOW_MS` and `ADEVNT_MGR_MAX_QUEUED`. -/
def maxFailures : Nat := 5
def failWindowMs : Int := 60000
def maxQueued : Nat := 1024

/-- A step drops nothing, or the oldest entry of a full queue. -/
def DropsOldest {α : Type} (queue dropped after : List α) : Prop :=
  after = dropped ∨ ∃ oldest, queue.head? = some oldest ∧ queue.length = maxQueued ∧ after = dropped ++ [oldest]

/-- `EventEntry`, a subscription. `registered` is not in the source: how many events
had been queued when it was registered. -/
structure EventEntry where
  cltToken : Int
  portNum : Int
  eventNum : Int
  srvToken : Int
  ip : List Byte
  deleteFlag : Bool
  failCount : Nat
  firstFailMs : Int
  registered : Nat
  deriving DecidableEq, Repr

/-- `EventProcEntry`. `number` is not in the source: the position of the event among
all that were queued. -/
structure EventProcEntry where
  eventNum : Int
  eventArg : Int
  cltToken : Int
  eventArg2 : Int
  number : Nat
  deriving DecidableEq, Repr

namespace EventEntry

/-- The subscription is one of the targets of the event. -/
def matchesEvent (entry : EventEntry) (event : EventProcEntry) : Bool :=
  entry.eventNum == -1 || entry.eventNum == event.eventNum

/-- `FindDuplicateEntry`. -/
def duplicates (entry other : EventEntry) : Bool :=
  entry.cltToken == other.cltToken && entry.portNum == other.portNum && entry.eventNum == other.eventNum

/-- The entry after `update_failure_counts` has looked at it. -/
def counted (now : Int) (failed delivered : List Int) (entry : EventEntry) : EventEntry :=
  if entry.srvToken ∈ delivered then { entry with failCount := 0 }
  else if entry.srvToken ∈ failed then
    let firstFailMs := if entry.failCount = 0 then now else entry.firstFailMs
    { entry with
      failCount := entry.failCount + 1
      firstFailMs := firstFailMs
      deleteFlag := entry.deleteFlag || (entry.failCount + 1 ≥ maxFailures && now - firstFailMs ≥ failWindowMs) }
  else entry

end EventEntry

/-- `update_failure_counts`, with the time it reads. -/
def updateFailureCounts (now : Int) (failed delivered : List Int) (eventList : List EventEntry) : List EventEntry :=
  if failed = [] ∧ delivered = [] then eventList
  else (eventList.map (EventEntry.counted now failed delivered)).filter fun entry => !entry.deleteFlag

/-- Program points of the notify thread, with its local variables. -/
inductive NotifyPc where
  | waiting
  | woken
  | swapping
  | looping (pending : List EventProcEntry)
  | sending (entry : EventProcEntry) (targets : List EventEntry) (pending : List EventProcEntry)
      (failed delivered : List Int)
  | ended
  deriving DecidableEq, Repr

/-- `ADEvntMgr` with the threads `ι` that call `notify_event` and its notify thread. -/
structure EvntMgr (ι : Type) where
  producers : ι → ProducerPc
  notifier : NotifyPc
  eventList : List EventEntry
  ackToken : Int
  notifyEvent : List EventProcEntry
  sema : Nat
  stopRequested : Bool
  -- history, not in the source: every event that was queued, the numbers of those
  -- dropped from a full queue, and every delivery attempt (subscription, event)
  queued : List EventProcEntry
  dropped : List Nat
  attempts : List (Int × Nat)

inductive EventAction (ι : Type) where
  | notifyEvent (producer : ι) (eventNum eventArg eventArg2 : Int)
  | wakeup (producer : ι)
  | register (entry : EventEntry)
  | unregister (srvToken : Int)
  | stop
  | semWait
  | interrupted
  | checkState
  | swap
  | snapshot
  | callbackReturns
  | sendEvent (delivered : Bool)
  | updateCounts (now : Int)

namespace EvntMgr
variable {ι : Type}

def start : EvntMgr ι where
  producers := fun _ => .outside
  notifier := .waiting
  eventList := []
  ackToken := 0
  notifyEvent := []
  sema := 0
  stopRequested := false
  queued := []
  dropped := []
  attempts := []

/-- `register_event_subscription`, with what it returns. Overflow of `AckToken` is
undefined in the source, so there is no such call. -/
def registerEventSubscription (s : EvntMgr ι) (entry : EventEntry) : EvntMgr ι × Int :=
  if s.eventList.any entry.duplicates then (s, -1)
  else ({ s with
          ackToken := s.ackToken + 1
          eventList := s.eventList ++ [{ entry with
            failCount := 0, firstFailMs := 0, deleteFlag := false, srvToken := s.ackToken + 1
            registered := s.queued.length }] }, 0)

/-- `unregister_event_subscription`, with what it returns. -/
def unregisterEventSubscription (s : EvntMgr ι) (srvToken : Int) : EvntMgr ι × Int :=
  if s.eventList.any (fun entry => entry.srvToken == srvToken) then
    ({ s with eventList := s.eventList.filter fun entry => entry.srvToken != srvToken }, 0)
  else (s, -1)

/-- The locked part of `notify_event`. -/
def queueEvent (s : EvntMgr ι) (eventNum eventArg eventArg2 : Int) : EvntMgr ι :=
  let event : EventProcEntry :=
    { eventNum := eventNum, eventArg := eventArg, cltToken := 0, eventArg2 := eventArg2, number := s.queued.length }
  if s.notifyEvent.length ≥ maxQueued then
    { s with notifyEvent := s.notifyEvent.tail ++ [event], queued := s.queued ++ [event]
             dropped := s.dropped ++ (s.notifyEvent.head?.map EventProcEntry.number).toList }
  else { s with notifyEvent := s.notifyEvent ++ [event], queued := s.queued ++ [event] }

/-- The targets that the notify thread copies for an event. -/
def targets (s : EvntMgr ι) (event : EventProcEntry) : List EventEntry :=
  s.eventList.filter fun entry => entry.matchesEvent event

/-- Back in `my_thread_func` after the callback. -/
def leaveCallback (s : EvntMgr ι) : EvntMgr ι :=
  { s with notifier := if s.stopRequested then .ended else .waiting }

variable [DecidableEq ι]

/-- `notify_event`, the subscriptions, `stop`, and the notify thread. `delivered` says
what `send_event` returns. -/
def step (s : EvntMgr ι) : EventAction ι → Option (EvntMgr ι)
  | .notifyEvent producer eventNum eventArg eventArg2 => onlyIf (s.producers producer = .outside)
      { s.queueEvent eventNum eventArg eventArg2 with producers := update s.producers producer .waking }
  | .wakeup producer => onlyIf (s.producers producer = .waking)
      { s with producers := update s.producers producer .outside, sema := s.sema + 1 }
  | .register entry => onlyIf (s.ackToken < 2 ^ 31 - 1) (s.registerEventSubscription entry).1
  | .unregister srvToken => some (s.unregisterEventSubscription srvToken).1
  | .stop => some { s with stopRequested := true, sema := s.sema + 1 }
  | .semWait => onlyIf (s.notifier = .waiting ∧ 0 < s.sema) { s with notifier := .woken, sema := s.sema - 1 }
  | .interrupted => onlyIf (s.notifier = .waiting) s.leaveCallback
  | .checkState => onlyIf (s.notifier = .woken) { s with notifier := if s.stopRequested then .ended else .swapping }
  | .swap => onlyIf (s.notifier = .swapping) { s with notifier := .looping s.notifyEvent, notifyEvent := [] }
  | .snapshot =>
    match s.notifier with
    | .looping (event :: pending) => some { s with notifier := .sending event (s.targets event) pending [] [] }
    | _ => none
  | .callbackReturns => onlyIf (s.notifier = .looping []) s.leaveCallback
  | .sendEvent delivers =>
    match s.notifier with
    | .sending event (target :: targets) pending failed delivered =>
      some (if s.stopRequested then s.leaveCallback
        else { s with
          notifier := .sending event targets pending (if delivers then failed else failed ++ [target.srvToken])
            (if delivers then delivered ++ [target.srvToken] else delivered)
          attempts := s.attempts ++ [(target.srvToken, event.number)] })
    | _ => none
  | .updateCounts now =>
    match s.notifier with
    | .sending _ [] pending failed delivered =>
      some { s with notifier := .looping pending, eventList := updateFailureCounts now failed delivered s.eventList }
    | _ => none

end EvntMgr
end JsonRpcTcp
