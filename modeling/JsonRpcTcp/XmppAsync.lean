import JsonRpcTcp.Lib.Reach
import JsonRpcTcp.XmppCommands

namespace JsonRpcTcp
open Function

/-- A task that was pushed to the task worker of a service. `sender` is the XMPP sender
of the command that asked for it, or `none` when another client of the service did. -/
structure ServiceTask where
  port : Int
  taskID : Int32
  sender : Option (List Byte)
  deriving DecidableEq, Repr

/-- The command thread between two commands, or while the response to its call is on the
way. `number` is not in the source: the position of the task among all tasks. -/
inductive RequesterPc where
  | idle
  | responding (port : Int) (taskID : Int32) (sender : List Byte) (number : Nat)
  deriving DecidableEq, Repr

/-- The rpc thread between two events, or in `ReceiveEvent` behind `AccessAsyncTaskList`. -/
inductive ReceiverPc where
  | idle
  | reading (entry : AsyncEventEntry) (number : Nat)
  deriving DecidableEq, Repr

/-- The number of the task whose response is on its way. -/
def RequesterPc.number : RequesterPc → Option Nat
  | .responding _ _ _ number => some number
  | .idle => none

/-- The number of the task whose event is being handled. -/
def ReceiverPc.number : ReceiverPc → Option Nat
  | .reading _ number => some number
  | .idle => none

/-- A call of `send_reply` by `RpcResponseCallback`. `number` is that of the event's task. -/
structure CompletionReply where
  replyTo : List Byte
  xmppTID : Int
  text : List Byte
  number : Nat
  deriving DecidableEq, Repr

/-- xmproxy with its command thread and its rpc thread, and the services. An event that is
on its way is the number of its task. -/
structure AsyncSystem where
  mgr : XmppMgr
  requester : RequesterPc
  receiver : ReceiverPc
  identGenerator : Int → Int
  running : List Nat
  events : List Nat
  -- history, not in the source: every task, every entry that was inserted with the number of
  -- its task, every entry that was removed with the number of the event's task, the events
  -- that were taken, those of them that found no inserted entry of their own, those that
  -- are done with, and the completion replies
  issued : List ServiceTask
  inserted : List (AsyncEventEntry × Nat)
  removed : List (AsyncEventEntry × Nat)
  received : List Nat
  early : List Nat
  processed : List Nat
  sent : List CompletionReply

inductive AsyncAction where
  | request (port : Int) (sender : List Byte)
  | otherClient (port : Int)
  | response
  | complete (number : Nat)
  | eventLost (number : Nat)
  | restart (port : Int)
  | reset (port : Int)
  | receiveEvent (number : Nat)
  | taskStatus (connects : Bool) (taskIDResult : List Byte)

namespace AsyncSystem

/-- Services that have just been started. -/
def start (mgr : XmppMgr) : AsyncSystem where
  mgr := { mgr with asyncTasks := ⟨0, []⟩ }
  requester := .idle
  receiver := .idle
  identGenerator := fun _ => 0
  running := []
  events := []
  issued := []
  inserted := []
  removed := []
  received := []
  early := []
  processed := []
  sent := []

/-- The id that the service of a port would hand out next. -/
def nextIdent (s : AsyncSystem) (port : Int) : Int32 := .ofInt (s.identGenerator port + 1)

/-- `push_task` in the service of a port. -/
def pushTask (s : AsyncSystem) (port : Int) (sender : Option (List Byte)) : AsyncSystem :=
  { s with identGenerator := update s.identGenerator port (s.identGenerator port + 1)
           running := s.running ++ [s.issued.length]
           issued := s.issued ++ [⟨port, s.nextIdent port, sender⟩] }

/-- `ident_generator` does not overflow. -/
def hasIdent (s : AsyncSystem) (port : Int) : Prop := s.identGenerator port < 2 ^ 31 - 1

instance (s : AsyncSystem) (port : Int) : Decidable (s.hasIdent port) :=
  inferInstanceAs (Decidable (s.identGenerator port < 2 ^ 31 - 1))

/-- The entry that the command thread inserts for a task. -/
def newEntry (s : AsyncSystem) (port : Int) (taskID : Int32) (sender : List Byte) : AsyncEventEntry :=
  ⟨taskID, port, s.mgr.asyncTasks.counter + 1, sender⟩

/-- The port of a task, for the service that runs it. -/
def portOf (s : AsyncSystem) (number : Nat) : Option Int := s.issued[number]?.map ServiceTask.port

/-- `ReceiveEvent` up to `AccessAsyncTaskList`, for the event of a task. -/
def takeEvent (s : AsyncSystem) (number : Nat) (task : ServiceTask) : AsyncSystem :=
  let known := s.inserted.any fun pair => pair.2 = number
  let s' := { s with events := s.events.erase number, received := s.received ++ [number]
                     early := if known then s.early else s.early ++ [number] }
  match s.mgr.asyncTasks.takeEntry task.taskID task.port with
  -- Entry not Found!!!
  | none => { s' with processed := s.processed ++ [number] }
  | some (entry, tasks) =>
    { s' with mgr := { s.mgr with asyncTasks := tasks }, receiver := .reading entry number
              removed := s.removed ++
                ((s.mgr.asyncTasks.list.filter (AsyncEventEntry.found task.taskID task.port)).map fun gone => (gone, number)) }

/-- The text of `RpcResponseCallback`. -/
def completionText (taskRes : List Byte) (taskID : Int) : List Byte :=
  ascii "return=" ++ taskRes ++ ascii " : " ++ ascii "result=" ++ ascii "taskID=" ++ decimal taskID

def step (s : AsyncSystem) : AsyncAction → Option AsyncSystem
  | .request port sender => onlyIf (s.requester = .idle ∧ s.hasIdent port)
      { s.pushTask port (some sender) with
        requester := .responding port (s.nextIdent port) sender s.issued.length }
  | .otherClient port => onlyIf (s.hasIdent port) (s.pushTask port none)
  | .response =>
    match s.requester with
    | .responding port taskID sender number =>
      some { s with mgr := (s.mgr.taskReply port sender .inProg (decimal taskID.toInt)).mgr, requester := .idle
                    inserted := s.inserted ++ [(s.newEntry port taskID sender, number)] }
    | .idle => none
  -- the work is done and the event is sent
  | .complete number => onlyIf (number ∈ s.running)
      { s with running := s.running.erase number, events := s.events ++ [number] }
  | .eventLost number => onlyIf (number ∈ s.events) { s with events := s.events.erase number }
  -- the tasks that run are lost
  | .restart port =>
    some { s with identGenerator := update s.identGenerator port 0
                  running := s.running.filter fun number => s.portOf number ≠ some port }
  -- reset_task_id_and_chain
  | .reset port => onlyIf (∀ number ∈ s.running, s.portOf number ≠ some port)
      { s with identGenerator := update s.identGenerator port 0 }
  | .receiveEvent number =>
    match s.issued[number]? with
    | some task => onlyIf (s.receiver = .idle ∧ number ∈ s.events) (s.takeEvent number task)
    | none => none
  | .taskStatus connects taskIDResult =>
    match s.receiver with
    | .reading entry number =>
      some { s with receiver := .idle, processed := s.processed ++ [number]
                    sent := if connects then
                        s.sent ++ [⟨entry.replyTo, entry.xmppTID, completionText taskIDResult entry.xmppTID, number⟩]
                      else s.sent }
    | .idle => none

/-- For the next id of a port, xmproxy has no entry, awaits no response, and no event is on
its way. -/
def FreshIdent (s : AsyncSystem) (port : Int) : Prop :=
  (∀ entry ∈ s.mgr.asyncTasks.list, ¬ entry.found (s.nextIdent port) port = true) ∧
    (∀ number ∈ s.events, (s.issued[number]?.map fun task => (task.port, task.taskID)) ≠
      some (port, s.nextIdent port)) ∧
    match s.requester with
    | .responding port' taskID _ _ => (port', taskID) ≠ (port, s.nextIdent port)
    | .idle => True

instance (s : AsyncSystem) (port : Int) : Decidable (s.FreshIdent port) := by
  have responding : Decidable (match s.requester with
      | .responding port' taskID _ _ => (port', taskID) ≠ (port, s.nextIdent port)
      | .idle => True) := by
    cases s.requester with
    | idle => exact inferInstanceAs (Decidable True)
    | responding port' taskID sender number =>
      exact inferInstanceAs (Decidable ((port', taskID) ≠ (port, s.nextIdent port)))
  exact inferInstanceAs (Decidable (_ ∧ _ ∧ _))

/-- The services hand out fresh ids only. -/
def FreshIdents (s : AsyncSystem) : AsyncAction → Prop
  | .request port _ => s.FreshIdent port
  | .otherClient port => s.FreshIdent port
  | _ => True

instance (s : AsyncSystem) (action : AsyncAction) : Decidable (s.FreshIdents action) := by
  cases action with
  | request port sender => exact inferInstanceAs (Decidable (s.FreshIdent port))
  | otherClient port => exact inferInstanceAs (Decidable (s.FreshIdent port))
  | _ => exact inferInstanceAs (Decidable True)

/-- The port and the id of a task, by which xmproxy knows it. -/
def ident (s : AsyncSystem) (number : Nat) : Option (Int × Int32) :=
  s.issued[number]?.map fun task => (task.port, task.taskID)

/-- The event or the response of the task is on its way, or its entry is pending. -/
def Awaited (s : AsyncSystem) (number : Nat) : Prop :=
  number ∈ s.events ∨ s.requester.number = some number ∨ ∃ entry ∈ s.mgr.asyncTasks.list, (entry, number) ∈ s.inserted

instance (s : AsyncSystem) (number : Nat) : Decidable (s.Awaited number) := instDecidableOr

/-- This task gets a fresh id, and no other task gets it as long as the task is awaited. -/
def FreshFor (s : AsyncSystem) (number : Nat) : AsyncAction → Prop
  | .request port _ | .otherClient port =>
    (s.issued.length = number → s.FreshIdent port) ∧
      (s.Awaited number → s.ident number ≠ some (port, s.nextIdent port))
  | _ => True

instance (s : AsyncSystem) (number : Nat) (action : AsyncAction) : Decidable (s.FreshFor number action) := by
  cases action with
  | request port sender | otherClient port => exact instDecidableAnd
  | _ => exact instDecidableTrue

/-- Moreover the rpc thread gets through to the service, for this task. -/
def FreshAndReachable (number : Nat) (s : AsyncSystem) (action : AsyncAction) : Prop :=
  s.FreshFor number action ∧ match action with
    | .taskStatus connects _ => s.receiver.number = some number → connects = true
    | _ => True

instance (number : Nat) (s : AsyncSystem) (action : AsyncAction) : Decidable (s.FreshAndReachable number action) := by
  cases action with
  | taskStatus connects taskIDResult => exact inferInstanceAs (Decidable (_ ∧ (_ → connects = true)))
  | _ => exact inferInstanceAs (Decidable (_ ∧ True))

end AsyncSystem
end JsonRpcTcp
