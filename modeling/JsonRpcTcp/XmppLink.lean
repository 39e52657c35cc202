import JsonRpcTcp.Lib.Reach

namespace JsonRpcTcp
open Function

/-! The connection of the xmproxy service to its XMPP server: the thread of `XmppMgr` that logs in
again and again, and the calls of other threads that end a connection. -/

/-- Program points of the XMPP thread. A login has `loading` and `checking` before and after it. -/
inductive LinkPc where
  | notStarted
  -- thread_callback_function
  | loading
  | checking (sleeps : Nat)
  | sleeping (sleeps : Nat)
  | ended
  -- connect
  | entering
  | creating
  | resetting
  | storingConnected
  | opening
  | receiving
  | loadingRequest (noError : Bool)
  | loadingForced (noError : Bool)
  | disconnecting
  | deleting
  | clearing
  | clearingConnected
  deriving DecidableEq, Repr

/-- Program points of another thread in `set_online_status`, `Stop` or `disconnect`. -/
inductive LinkCallPc where
  | idle
  | storingOnline
  | storingOffline
  | storingForced
  -- disconnect
  | loadingConnected
  | storingRequest
  | polling (timeoutCount : Nat)
  | waiting (timeoutCount : Nat)
  deriving DecidableEq, Repr

/-- What another thread calls. `disconnect` alone is the call of the ping thread. -/
inductive LinkCall where
  | online
  | offline
  | stop
  | disconnect
  deriving DecidableEq, Repr

/-- Where a call begins. -/
def LinkCall.entry : LinkCall → LinkCallPc
  | .online => .storingOnline
  | .offline => .storingOffline
  | .stop => .storingForced
  | .disconnect => .loadingConnected

/-- A step of the XMPP thread may have a result of gloox: whether `j->connect` returned true, or `j->recv`
returned `ConnNoError`. -/
inductive LinkAction (ι : Type) where
  | startThread
  | thread (result : Bool)
  | call (caller : ι) (call : LinkCall)
  | goOn (caller : ι)
  deriving DecidableEq, Repr

/-- `ADXmppProxy` with its threads. `j` is the number of the client that it points at. The last four
fields are not in the source: the clients created and deleted, the `recv` calls and all the steps of the
XMPP thread so far. -/
structure XmppLink (ι : Type) where
  pc : LinkPc
  calls : ι → LinkCallPc
  disconnectNow : Bool
  onDemandDisconnect : Bool
  disconnectRequest : Bool
  connected : Bool
  j : Option Nat
  created : Nat
  deleted : Nat
  recvs : Nat
  turns : Nat

/-- `max_timeout`, in units of 100 ms. -/
def maxTimeout (useBosh : Bool) : Nat := if useBosh then 20 else 50

namespace XmppLink
variable {ι : Type} [DecidableEq ι] (useBosh : Bool)

def start : XmppLink ι where
  pc := .notStarted
  calls := fun _ => .idle
  disconnectNow := false
  onDemandDisconnect := false
  disconnectRequest := false
  connected := false
  j := none
  created := 0
  deleted := 0
  recvs := 0
  turns := 0

variable (s : XmppLink ι)

def goto (pc : LinkPc) : XmppLink ι := { s with pc := pc, turns := s.turns + 1 }

def callGoto (caller : ι) (pc : LinkCallPc) : XmppLink ι := { s with calls := update s.calls caller pc }

/-- `XmppMgr::thread_callback_function` and `ADXmppProxy::connect`. -/
def threadAt (result : Bool) : LinkPc → Option (XmppLink ι)
  | .notStarted | .ended => none
  | .loading => some (s.goto (if s.onDemandDisconnect then .checking 5 else .entering))
  | .entering => some (s.goto (if s.j.isSome then .checking 5 else .creating))
  | .creating => some { s.goto .resetting with j := some s.created, created := s.created + 1 }
  | .resetting => some { s.goto .storingConnected with disconnectRequest := false }
  | .storingConnected => some { s.goto .opening with connected := true }
  | .opening => some (s.goto (if result then .receiving else .deleting))
  | .receiving => some { s.goto (.loadingRequest result) with recvs := s.recvs + 1 }
  | .loadingRequest noError =>
    some (s.goto (if s.disconnectRequest then .disconnecting else .loadingForced noError))
  | .loadingForced noError =>
    some (s.goto (if s.disconnectNow then .disconnecting else if noError then .receiving else .deleting))
  | .disconnecting => some (s.goto .deleting)
  | .deleting => some { s.goto .clearing with deleted := s.deleted + 1 }
  | .clearing => some { s.goto .clearingConnected with j := none }
  | .clearingConnected => some { s.goto (.checking 5) with connected := false }
  | .checking sleeps =>
    some (s.goto (if s.disconnectNow then .ended else if sleeps = 0 then .loading else .sleeping sleeps))
  | .sleeping sleeps => some (s.goto (.checking (sleeps - 1)))

/-- `set_online_status`, `Stop` and `disconnect`. `Stop` then waits for the thread. -/
def callAt (caller : ι) : LinkCallPc → Option (XmppLink ι)
  | .idle => none
  | .storingOnline => some { s.callGoto caller .idle with onDemandDisconnect := false }
  | .storingOffline => some { s.callGoto caller .loadingConnected with onDemandDisconnect := true }
  | .storingForced => some { s.callGoto caller .loadingConnected with disconnectNow := true }
  | .loadingConnected => some (s.callGoto caller (if s.connected then .storingRequest else .idle))
  | .storingRequest => some { s.callGoto caller (.polling 0) with disconnectRequest := true }
  | .polling timeoutCount =>
    some (s.callGoto caller
      (if s.connected = true ∧ timeoutCount < maxTimeout useBosh then .waiting timeoutCount else .idle))
  | .waiting timeoutCount => some (s.callGoto caller (.polling (timeoutCount + 1)))

def step : LinkAction ι → Option (XmppLink ι)
  | .startThread => onlyIf (s.pc = .notStarted) { s with pc := .loading }
  | .thread result => s.threadAt result s.pc
  | .call caller call => onlyIf (s.calls caller = .idle) (s.callGoto caller call.entry)
  | .goOn caller => s.callAt useBosh caller (s.calls caller)

def Anything (_ : XmppLink ι) (_ : LinkAction ι) : Prop := True

/-- Nobody goes online. -/
def StaysOffline (s : XmppLink ι) (action : LinkAction ι) : Prop :=
  ∀ caller, action = .goOn caller → s.calls caller ≠ .storingOnline

/-- Nobody goes offline or stops the thread. -/
def StaysOnline (s : XmppLink ι) (action : LinkAction ι) : Prop :=
  ∀ caller, action = .goOn caller → s.calls caller ≠ .storingOffline ∧ s.calls caller ≠ .storingForced

instance (s : XmppLink ι) (action : LinkAction ι) : Decidable (s.Anything action) := instDecidableTrue

instance [Fintype ι] (s : XmppLink ι) (action : LinkAction ι) : Decidable (s.StaysOffline action) :=
  inferInstanceAs (Decidable (∀ caller, action = .goOn caller → s.calls caller ≠ .storingOnline))

end XmppLink

namespace LinkPc

/-- The thread goes to log in, and `connected` is not set yet. -/
def logsIn : LinkPc → Bool
  | .entering | .creating | .resetting | .storingConnected => true
  | _ => false

/-- There is a client. -/
def hasClient : LinkPc → Bool
  | .resetting | .storingConnected | .opening | .receiving | .loadingRequest _ | .loadingForced _
  | .disconnecting | .deleting => true
  | _ => false

def hasPointer (pc : LinkPc) : Bool := pc.hasClient || pc == .clearing

/-- Where `connected` is set. -/
def isConnected : LinkPc → Bool
  | .opening | .receiving | .loadingRequest _ | .loadingForced _ | .disconnecting | .deleting | .clearing
  | .clearingConnected => true
  | _ => false

/-- The steps to the end of the thread, once it is forced to disconnect. -/
def stopTurns : LinkPc → Nat
  | .ended => 0
  | .checking _ => 1
  | .sleeping _ | .clearingConnected => 2
  | .clearing => 3
  | .deleting => 4
  | .disconnecting => 5
  | .loadingForced _ => 6
  | .loadingRequest _ => 7
  | .receiving => 8
  | .opening => 9
  | .storingConnected => 10
  | .resetting => 11
  | .creating => 12
  | .entering => 13
  | .loading => 14
  | .notStarted => 15

/-- Clients that it may still make. -/
def stopClients : LinkPc → Nat
  | .notStarted | .loading | .entering | .creating => 1
  | _ => 0

/-- Calls of `recv` that it may still make. -/
def stopRecvs : LinkPc → Nat
  | .notStarted | .loading | .entering | .creating | .resetting | .storingConnected | .opening | .receiving => 1
  | _ => 0

/-- Clients that the thread may still make when it is to stay offline. -/
def offlineClients : LinkPc → Nat
  | .entering | .creating => 1
  | _ => 0

/-- Calls of `recv` before the thread looks at a request to disconnect. -/
def requestRecvs : LinkPc → Nat
  | .opening | .receiving | .loadingForced _ => 1
  | _ => 0

/-- The steps to the end of a session that is to end. -/
def requestTurns : LinkPc → Nat
  | .opening | .loadingForced _ => 7
  | .receiving => 6
  | .loadingRequest _ => 5
  | .disconnecting => 4
  | .deleting => 3
  | .clearing => 2
  | .clearingConnected => 1
  | _ => 0

/-- The steps to the next client. -/
def loginTurns : LinkPc → Nat
  | .creating => 1
  | .entering => 2
  | .loading => 3
  | .checking sleeps => 2 * sleeps + 4
  | .sleeping sleeps => 2 * (sleeps - 1) + 5
  | .clearingConnected => 15
  | _ => 0

end LinkPc

/-- The polls of a `disconnect` that has begun or slept before one. -/
def LinkCallPc.polls : LinkCallPc → Nat
  | .polling timeoutCount => timeoutCount
  | .waiting timeoutCount => timeoutCount + 1
  | _ => 0

namespace XmppLink
variable {ι : Type} {s t : XmppLink ι}

section Thread
variable {result : Bool}

/-- What a step of the XMPP thread leaves alone. -/
theorem threadAt_frame (moved : s.threadAt result s.pc = some t) :
    t.calls = s.calls ∧ t.disconnectNow = s.disconnectNow ∧ t.onDemandDisconnect = s.onDemandDisconnect ∧
      t.turns = s.turns + 1 := by
  unfold threadAt at moved
  split at moved <;> cases moved <;> exact ⟨rfl, rfl, rfl, rfl⟩

/-- What the fields are at each point of the XMPP thread, and at most so many polls. -/
structure Lifetime (useBosh : Bool) (s : XmppLink ι) : Prop where
  client : s.created = s.deleted + s.pc.hasClient.toNat
  pointer : s.j = if s.pc.hasPointer then some (s.created - 1) else none
  connected : s.connected = s.pc.isConnected
  sleeps : ∀ sleeps, s.pc = .checking sleeps ∨ s.pc = .sleeping sleeps → sleeps ≤ 5
  ended : s.pc = .ended → s.disconnectNow = true
  polls : ∀ caller, (s.calls caller).polls ≤ maxTimeout useBosh

theorem threadAt_lifetime {useBosh : Bool} (life : s.Lifetime useBosh) (moved : s.threadAt result s.pc = some t) :
    t.Lifetime useBosh := by
  have polls := (threadAt_frame moved).1 ▸ life.polls
  obtain ⟨client, pointer, connected, sleeps, -, -⟩ := life
  unfold threadAt at moved
  split at moved <;> rename_i pc <;> rw [pc] at client pointer connected sleeps <;> cases moved
  all_goals
    refine ⟨?_, ?_, ?_, ?_, ?_, polls⟩ <;>
      grind [goto, LinkPc.hasClient, LinkPc.hasPointer, LinkPc.isConnected]

/-- A thread that is forced to disconnect ends: what it may still do only shrinks. -/
structure Stopping (s t : XmppLink ι) : Prop where
  forced : t.disconnectNow = true
  turns : t.turns + t.pc.stopTurns ≤ s.turns + s.pc.stopTurns
  clients : t.created + t.pc.stopClients ≤ s.created + s.pc.stopClients
  recvs : t.recvs + t.pc.stopRecvs ≤ s.recvs + s.pc.stopRecvs

theorem Stopping.trans {u : XmppLink ι} (first : s.Stopping t) (second : t.Stopping u) : s.Stopping u where
  forced := second.forced
  turns := second.turns.trans first.turns
  clients := second.clients.trans first.clients
  recvs := second.recvs.trans first.recvs

theorem threadAt_stopping (forced : s.disconnectNow = true) (moved : s.threadAt result s.pc = some t) :
    s.Stopping t := by
  unfold threadAt at moved
  split at moved <;> rename_i pc <;> cases moved
  all_goals
    refine ⟨forced, ?_, ?_, ?_⟩ <;>
      grind [goto, LinkPc.stopTurns, LinkPc.stopClients, LinkPc.stopRecvs]

/-- The thread stays away from the server, but for the client it may be making already. -/
structure Offline (s t : XmppLink ι) : Prop where
  flag : t.onDemandDisconnect = true
  clients : t.created + t.pc.offlineClients ≤ s.created + s.pc.offlineClients
  out : s.pc.logsIn = false → t.pc.logsIn = false

theorem Offline.trans {u : XmppLink ι} (first : s.Offline t) (second : t.Offline u) : s.Offline u where
  flag := second.flag
  clients := second.clients.trans first.clients
  out outside := second.out (first.out outside)

theorem threadAt_offline (flag : s.onDemandDisconnect = true) (moved : s.threadAt result s.pc = some t) :
    s.Offline t := by
  unfold threadAt at moved
  split at moved <;> rename_i pc <;> cases moved
  all_goals
    refine ⟨flag, ?_, ?_⟩ <;> grind [goto, LinkPc.offlineClients, LinkPc.logsIn]

/-- A session that is asked to end ends. -/
structure Ending (s t : XmppLink ι) : Prop where
  request : t.disconnectRequest = true
  recvs : t.recvs + t.pc.requestRecvs ≤ s.recvs + s.pc.requestRecvs
  turns : t.pc.isConnected = true → s.pc.isConnected = true ∧ t.turns + t.pc.requestTurns ≤ s.turns + s.pc.requestTurns

theorem Ending.trans {u : XmppLink ι} (first : s.Ending t) (second : t.Ending u) : s.Ending u where
  request := second.request
  recvs := second.recvs.trans first.recvs
  turns inside := by
    obtain ⟨before, later⟩ := second.turns inside
    exact ⟨(first.turns before).1, later.trans (first.turns before).2⟩

theorem threadAt_ending (outside : s.pc.logsIn = false) (request : s.disconnectRequest = true)
    (moved : s.threadAt result s.pc = some t) : s.Ending t := by
  unfold threadAt at moved
  split at moved <;> rename_i pc <;> cases moved
  all_goals
    refine ⟨?_, ?_, ?_⟩ <;>
      grind [goto, LinkPc.requestRecvs, LinkPc.requestTurns, LinkPc.isConnected, LinkPc.logsIn]

theorem threadAt_keeps (outside : s.pc.logsIn = false) (moved : s.threadAt result s.pc = some t) :
    (s.connected = false → t.connected = false) ∧ (s.disconnectRequest = true → t.disconnectRequest = true) := by
  unfold threadAt at moved
  split at moved <;> rename_i pc <;> cases moved
  all_goals constructor <;> grind [goto, LinkPc.logsIn]

/-- The thread on its way to the next client, if it has not made one. -/
def LoggingIn (s t : XmppLink ι) : Prop :=
  s.created < t.created ∨ t.created = s.created ∧ t.pc ≠ .notStarted ∧ t.pc ≠ .ended ∧ t.pc.hasPointer = false ∧
    t.turns + t.pc.loginTurns ≤ s.turns + s.pc.loginTurns

theorem threadAt_created (moved : s.threadAt result s.pc = some t) : s.created ≤ t.created := by
  unfold threadAt at moved
  split at moved <;> cases moved <;> first | exact le_rfl | exact Nat.le_succ _

theorem threadAt_loggingIn (away : s.onDemandDisconnect = false) (free : s.disconnectNow = false)
    (pointer : s.j = none) (out : s.pc.hasPointer = false) (moved : s.threadAt result s.pc = some t) :
    s.LoggingIn t := by
  unfold threadAt at moved
  split at moved <;> rename_i pc <;> cases moved
  all_goals
    unfold LoggingIn
    grind [goto, LinkPc.loginTurns, LinkPc.hasPointer, LinkPc.hasClient]

/-- What the steps of other threads leave alone, and the flags that they do not take back. -/
structure Beside (s t : XmppLink ι) : Prop where
  pc : t.pc = s.pc
  connected : t.connected = s.connected
  j : t.j = s.j
  created : t.created = s.created
  deleted : t.deleted = s.deleted
  recvs : t.recvs = s.recvs
  turns : t.turns = s.turns
  forced : s.disconnectNow = true → t.disconnectNow = true
  request : s.disconnectRequest = true → t.disconnectRequest = true

theorem Beside.stopping (beside : s.Beside t) (forced : s.disconnectNow = true) : s.Stopping t where
  forced := beside.forced forced
  turns := by rw [beside.turns, beside.pc]
  clients := by rw [beside.created, beside.pc]
  recvs := by rw [beside.recvs, beside.pc]

theorem Beside.offline (beside : s.Beside t) (flag : t.onDemandDisconnect = true) : s.Offline t where
  flag := flag
  clients := by rw [beside.created, beside.pc]
  out outside := beside.pc ▸ outside

theorem Beside.ending (beside : s.Beside t) (request : s.disconnectRequest = true) : s.Ending t where
  request := beside.request request
  recvs := by rw [beside.recvs, beside.pc]
  turns inside := by
    rw [beside.turns, beside.pc]
    exact ⟨beside.pc ▸ inside, le_rfl⟩

/-- An offline call that found nobody logging in has not looked or stored yet, or it found the session
over, or the session is asked to end. -/
def Asked (caller : ι) (t : XmppLink ι) : Prop :=
  t.calls caller = .loadingConnected ∨ t.calls caller = .storingRequest ∨ t.connected = false ∨
    t.disconnectRequest = true

theorem Beside.asked {caller : ι} (beside : s.Beside t) (asked : s.connected = false ∨ s.disconnectRequest = true) :
    t.Asked caller := by
  rcases asked with closed | request
  · exact Or.inr (Or.inr (Or.inl (beside.connected.trans closed)))
  · exact Or.inr (Or.inr (Or.inr (beside.request request)))

theorem Beside.lifetime {useBosh : Bool} (beside : s.Beside t) (life : s.Lifetime useBosh)
    (polls : ∀ caller, (t.calls caller).polls ≤ maxTimeout useBosh) : t.Lifetime useBosh where
  client := by
    rw [beside.created, beside.deleted, beside.pc]
    exact life.client
  pointer := by
    rw [beside.j, beside.created, beside.pc]
    exact life.pointer
  connected := by
    rw [beside.connected, beside.pc]
    exact life.connected
  sleeps := beside.pc ▸ life.sleeps
  ended ended := beside.forced (life.ended (beside.pc ▸ ended))
  polls := polls

end Thread

section Calls
variable [DecidableEq ι] {useBosh : Bool} {caller : ι}

theorem callGoto_beside (s : XmppLink ι) (caller : ι) (pc : LinkCallPc) : s.Beside (s.callGoto caller pc) :=
  ⟨rfl, rfl, rfl, rfl, rfl, rfl, rfl, id, id⟩

theorem callAt_beside (moved : s.callAt useBosh caller (s.calls caller) = some t) : s.Beside t := by
  unfold callAt at moved
  split at moved <;> cases moved
  case h_2 | h_3 | h_5 | h_7 | h_8 => exact ⟨rfl, rfl, rfl, rfl, rfl, rfl, rfl, id, id⟩
  case h_4 => exact ⟨rfl, rfl, rfl, rfl, rfl, rfl, rfl, fun _ => rfl, id⟩
  case h_6 => exact ⟨rfl, rfl, rfl, rfl, rfl, rfl, rfl, id, fun _ => rfl⟩

theorem callAt_polls (few : (s.calls caller).polls ≤ maxTimeout useBosh)
    (moved : s.callAt useBosh caller (s.calls caller) = some t) : (t.calls caller).polls ≤ maxTimeout useBosh := by
  unfold callAt at moved
  split at moved <;> rename_i here <;> rw [here] at few <;> cases moved <;>
    simp only [callGoto, update_self] <;> grind [LinkCallPc.polls]

theorem callAt_other {other : ι} (different : other ≠ caller)
    (moved : s.callAt useBosh caller (s.calls caller) = some t) : t.calls other = s.calls other := by
  unfold callAt at moved
  split at moved <;> cases moved <;> exact update_of_ne different _ _

theorem step_lifetime {action : LinkAction ι} (life : s.Lifetime useBosh) (moved : step useBosh s action = some t) :
    t.Lifetime useBosh := by
  cases action with
  | startThread =>
    obtain ⟨here, rfl⟩ := onlyIf_eq_some.mp moved
    obtain ⟨client, pointer, connected, -, -, polls⟩ := life
    rw [here] at client pointer connected
    exact ⟨client, pointer, connected, by simp, by simp, polls⟩
  | thread result => exact threadAt_lifetime life moved
  | call caller call =>
    obtain ⟨-, rfl⟩ := onlyIf_eq_some.mp moved
    refine (callGoto_beside s caller call.entry).lifetime life fun other => ?_
    by_cases same : other = caller
    · subst same
      cases call <;> simp [callGoto, LinkCall.entry, LinkCallPc.polls]
    · simp only [callGoto, update_of_ne same]
      exact life.polls other
  | goOn caller =>
    refine (callAt_beside moved).lifetime life fun other => ?_
    by_cases same : other = caller
    · exact same ▸ callAt_polls (life.polls caller) moved
    · exact callAt_other same moved ▸ life.polls other

theorem reach_lifetime (reach : Reach (step useBosh) Anything start s) : s.Lifetime useBosh := by
  refine reach.invariant ?_ fun _ _ _ life _ moved => step_lifetime life moved
  refine ⟨rfl, rfl, rfl, ?_, ?_, fun _ => Nat.zero_le _⟩ <;> simp [start]

/-- Every step of a thread that is forced to disconnect. -/
theorem step_stopping {action : LinkAction ι} (forced : s.disconnectNow = true)
    (moved : step useBosh s action = some t) : s.Stopping t := by
  cases action with
  | startThread =>
    obtain ⟨here, rfl⟩ := onlyIf_eq_some.mp moved
    refine ⟨forced, ?_, ?_, ?_⟩ <;> rw [here] <;> simp [LinkPc.stopTurns, LinkPc.stopClients, LinkPc.stopRecvs]
  | thread result => exact threadAt_stopping forced moved
  | call caller call =>
    obtain ⟨-, rfl⟩ := onlyIf_eq_some.mp moved
    exact (callGoto_beside s caller call.entry).stopping forced
  | goOn caller => exact (callAt_beside moved).stopping forced

theorem reach_stopping (forced : s.disconnectNow = true) (run : Reach (step useBosh) Anything s t) :
    s.Stopping t := by
  induction run with
  | start => exact ⟨forced, le_rfl, le_rfl, le_rfl⟩
  | next _ _ moved ih => exact ih.trans (step_stopping ih.forced moved)

/-- Every step while nobody goes online. -/
theorem step_offline {action : LinkAction ι} (flag : s.onDemandDisconnect = true) (stays : s.StaysOffline action)
    (moved : step useBosh s action = some t) : s.Offline t := by
  cases action with
  | startThread =>
    obtain ⟨here, rfl⟩ := onlyIf_eq_some.mp moved
    refine ⟨flag, ?_, ?_⟩ <;> rw [here] <;> simp [LinkPc.offlineClients, LinkPc.logsIn]
  | thread result => exact threadAt_offline flag moved
  | call caller call =>
    obtain ⟨-, rfl⟩ := onlyIf_eq_some.mp moved
    exact (callGoto_beside s caller call.entry).offline flag
  | goOn caller =>
    refine (callAt_beside moved).offline ?_
    have elsewhere := stays caller rfl
    change s.callAt useBosh caller (s.calls caller) = some t at moved
    unfold callAt at moved
    split at moved <;> cases moved
    case h_2 here => exact absurd here elsewhere
    case h_3 => rfl
    all_goals exact flag

theorem reach_offline (flag : s.onDemandDisconnect = true) (run : Reach (step useBosh) StaysOffline s t) :
    s.Offline t := by
  induction run with
  | start => exact ⟨flag, le_rfl, id⟩
  | next _ stays moved ih => exact ih.trans (step_offline ih.flag stays moved)

theorem step_ending {action : LinkAction ι} (outside : s.pc.logsIn = false) (request : s.disconnectRequest = true)
    (moved : step useBosh s action = some t) : s.Ending t := by
  cases action with
  | startThread =>
    obtain ⟨here, rfl⟩ := onlyIf_eq_some.mp moved
    refine ⟨request, ?_, ?_⟩ <;> rw [here] <;> simp [LinkPc.requestRecvs, LinkPc.isConnected]
  | thread result => exact threadAt_ending outside request moved
  | call caller call =>
    obtain ⟨-, rfl⟩ := onlyIf_eq_some.mp moved
    exact (callGoto_beside s caller call.entry).ending request
  | goOn caller => exact (callAt_beside moved).ending request

/-- A request to disconnect stays while nobody goes online and the thread is not logging in already. -/
theorem reach_ending (flag : s.onDemandDisconnect = true) (outside : s.pc.logsIn = false)
    (request : s.disconnectRequest = true) (run : Reach (step useBosh) StaysOffline s t) : s.Ending t := by
  induction run with
  | start => exact ⟨request, le_rfl, fun inside => ⟨inside, le_rfl⟩⟩
  | next before _ moved ih => exact ih.trans (step_ending ((reach_offline flag before).out outside) ih.request moved)

theorem step_asked {action : LinkAction ι} (outside : s.pc.logsIn = false) (asked : s.Asked caller)
    (moved : step useBosh s action = some t) : t.Asked caller := by
  cases action with
  | startThread =>
    obtain ⟨-, rfl⟩ := onlyIf_eq_some.mp moved
    exact asked
  | thread result =>
    obtain ⟨closed, request⟩ := threadAt_keeps outside moved
    unfold Asked
    rw [(threadAt_frame moved).1]
    exact asked.imp_right (Or.imp_right (Or.imp closed request))
  | call other call =>
    obtain ⟨idle, rfl⟩ := onlyIf_eq_some.mp moved
    by_cases same : other = caller
    · subst same
      unfold Asked at asked
      rw [idle] at asked
      exact (callGoto_beside s other call.entry).asked (by simpa using asked)
    · unfold Asked callGoto
      simp only [update_of_ne (Ne.symm same)]
      exact asked
  | goOn other =>
    change s.callAt useBosh other (s.calls other) = some t at moved
    have beside := callAt_beside moved
    by_cases same : other = caller
    · subst same
      rcases asked with looking | storing | settled
      · rw [looking] at moved
        cases moved
        by_cases connected : s.connected = true
        · exact Or.inr (Or.inl (by simp [callGoto, connected]))
        · exact beside.asked (Or.inl (Bool.eq_false_iff.mpr connected))
      · rw [storing] at moved
        cases moved
        exact Or.inr (Or.inr (Or.inr rfl))
      · exact beside.asked settled
    · unfold Asked
      rw [callAt_other (Ne.symm same) moved, beside.connected]
      exact asked.imp_right (Or.imp_right (Or.imp_right beside.request))

theorem reach_asked (flag : s.onDemandDisconnect = true) (outside : s.pc.logsIn = false)
    (looking : s.calls caller = .loadingConnected) (run : Reach (step useBosh) StaysOffline s t) : t.Asked caller := by
  induction run with
  | start => exact Or.inl looking
  | next before _ moved ih => exact step_asked ((reach_offline flag before).out outside) ih moved

/-- Every step of a thread that is to log in again. -/
theorem step_loggingIn {u : XmppLink ι} {action : LinkAction ι} (life : t.Lifetime useBosh)
    (away : t.onDemandDisconnect = false) (free : t.disconnectNow = false) (before : s.LoggingIn t)
    (moved : step useBosh t action = some u) : s.LoggingIn u := by
  cases action with
  | startThread =>
    obtain ⟨here, rfl⟩ := onlyIf_eq_some.mp moved
    rcases before with made | ⟨-, begun, -⟩
    · exact Or.inl made
    · exact absurd here begun
  | thread result =>
    rcases before with made | ⟨same, begun, ended, out, turns⟩
    · exact Or.inl (made.trans_le (threadAt_created moved))
    · have pointer : t.j = none := by
        rw [life.pointer, out]
        rfl
      rcases threadAt_loggingIn away free pointer out moved with made | ⟨same', begun', ended', out', turns'⟩
      · exact Or.inl (same ▸ made)
      · exact Or.inr ⟨same'.trans same, begun', ended', out', turns'.trans turns⟩
  | call caller call =>
    obtain ⟨-, rfl⟩ := onlyIf_eq_some.mp moved
    exact before
  | goOn caller =>
    have beside := callAt_beside moved
    unfold LoggingIn
    rw [beside.created, beside.pc, beside.turns]
    exact before

theorem step_online {action : LinkAction ι} (stays : s.StaysOnline action)
    (moved : step useBosh s action = some t) :
    (s.onDemandDisconnect = false → t.onDemandDisconnect = false) ∧
      (s.disconnectNow = false → t.disconnectNow = false) := by
  cases action with
  | startThread =>
    obtain ⟨-, rfl⟩ := onlyIf_eq_some.mp moved
    exact ⟨id, id⟩
  | thread result =>
    obtain ⟨-, forced, away, -⟩ := threadAt_frame moved
    exact ⟨away.trans, forced.trans⟩
  | call caller call =>
    obtain ⟨-, rfl⟩ := onlyIf_eq_some.mp moved
    exact ⟨id, id⟩
  | goOn caller =>
    obtain ⟨offline, stop⟩ := stays caller rfl
    change s.callAt useBosh caller (s.calls caller) = some t at moved
    unfold callAt at moved
    split at moved <;> cases moved
    case h_2 => exact ⟨fun _ => rfl, id⟩
    case h_3 here => exact absurd here offline
    case h_4 here => exact absurd here stop
    all_goals exact ⟨id, id⟩

theorem reach_online (away : s.onDemandDisconnect = false) (free : s.disconnectNow = false)
    (run : Reach (step useBosh) StaysOnline s t) : t.onDemandDisconnect = false ∧ t.disconnectNow = false := by
  induction run with
  | start => exact ⟨away, free⟩
  | next _ stays moved ih =>
    obtain ⟨offline, forced⟩ := step_online stays moved
    exact ⟨offline ih.1, forced ih.2⟩

theorem reach_loggingIn (reach : Reach (step useBosh) Anything start s) (away : s.onDemandDisconnect = false)
    (free : s.disconnectNow = false) (begun : s.pc ≠ .notStarted) (pointer : s.j = none)
    (run : Reach (step useBosh) StaysOnline s t) : s.LoggingIn t := by
  have life := reach_lifetime reach
  induction run with
  | start =>
    refine Or.inr ⟨rfl, begun, fun ended => ?_, ?_, le_rfl⟩
    · exact absurd (life.ended ended) (free ▸ Bool.false_ne_true)
    · have here := life.pointer
      rw [pointer] at here
      by_contra inside
      rw [eq_true_of_ne_false inside] at here
      cases here
  | next before _ moved ih =>
    obtain ⟨offline, forced⟩ := reach_online away free before
    have lifeThere := reach_lifetime (reach.trans (before.mono fun _ _ _ => trivial))
    exact step_loggingIn lifeThere offline forced ih moved

theorem loginTurns_le {pc : LinkPc} (sleeps : ∀ sleeps, pc = .checking sleeps ∨ pc = .sleeping sleeps → sleeps ≤ 5) :
    pc.loginTurns ≤ 15 := by
  cases pc <;> simp [LinkPc.loginTurns] at sleeps ⊢ <;> omega

theorem loginTurns_pos {pc : LinkPc} (begun : pc ≠ .notStarted) (ended : pc ≠ .ended) (out : pc.hasPointer = false) :
    0 < pc.loginTurns := by
  cases pc <;> simp_all [LinkPc.loginTurns, LinkPc.hasPointer, LinkPc.hasClient]

/-- A session is not over as long as there are steps to it. -/
theorem requestTurns_pos {pc : LinkPc} (inside : pc.isConnected = true) : 0 < pc.requestTurns := by
  cases pc <;> simp_all [LinkPc.requestTurns, LinkPc.isConnected]

/-- The flags are followed in every run. A thread that is forced to disconnect makes at most one more
`recv` and one more client and ends. While it is to stay offline the thread makes no client but the one
that it may be about to make; if it was not, then an offline call has the session end that it finds, after
at most one more `recv` and within 7 steps. While it is to stay online it makes a client within 15 steps. -/
theorem link_follows_flags {s : XmppLink ι} (reach : Reach (step useBosh) Anything start s) :
    s.Lifetime useBosh ∧
      (s.disconnectNow = true → ∀ t, Reach (step useBosh) Anything s t →
        t.turns ≤ s.turns + 15 ∧ t.created ≤ s.created + 1 ∧ t.recvs ≤ s.recvs + 1) ∧
      (s.onDemandDisconnect = true → ∀ t, Reach (step useBosh) StaysOffline s t →
        t.created ≤ s.created + 1 ∧
        (s.pc.logsIn = false → t.created ≤ s.created ∧
          (∀ caller, s.calls caller = .loadingConnected → t.Asked caller) ∧
          (s.disconnectRequest = true →
            t.recvs ≤ s.recvs + 1 ∧ (t.connected = true → t.turns < s.turns + 7)))) ∧
      (s.onDemandDisconnect = false → s.disconnectNow = false → s.pc ≠ .notStarted → s.j = none →
        ∀ t, Reach (step useBosh) StaysOnline s t → s.turns + 15 ≤ t.turns → s.created < t.created) := by
  have life := reach_lifetime reach
  refine ⟨life, fun forced t run => ?_, fun flag t run => ?_, fun away free begun pointer t run late => ?_⟩
  · have stopping := reach_stopping forced run
    have turns : s.pc.stopTurns ≤ 15 := by cases s.pc <;> simp [LinkPc.stopTurns]
    have clients : s.pc.stopClients ≤ 1 := by cases s.pc <;> simp [LinkPc.stopClients]
    have recvs : s.pc.stopRecvs ≤ 1 := by cases s.pc <;> simp [LinkPc.stopRecvs]
    have := stopping.turns
    have := stopping.clients
    have := stopping.recvs
    omega
  · have clients := (reach_offline flag run).clients
    have one : s.pc.offlineClients ≤ 1 := by cases s.pc <;> simp [LinkPc.offlineClients]
    refine ⟨by omega,
      fun outside => ⟨?_, fun caller looking => reach_asked flag outside looking run, fun request => ?_⟩⟩
    · have none : s.pc.offlineClients = 0 := by
        cases pc : s.pc <;> rw [pc] at outside <;> first | rfl | cases outside
      omega
    · have ending := reach_ending flag outside request run
      have recvs : s.pc.requestRecvs ≤ 1 := by cases s.pc <;> simp [LinkPc.requestRecvs]
      have turns : s.pc.requestTurns ≤ 7 := by cases s.pc <;> simp [LinkPc.requestTurns]
      have := ending.recvs
      refine ⟨by omega, fun connected => ?_⟩
      have lifeThere := reach_lifetime (reach.trans (run.mono fun _ _ _ => trivial))
      have inside : t.pc.isConnected = true := lifeThere.connected ▸ connected
      have left := requestTurns_pos inside
      have := (ending.turns inside).2
      omega
  · rcases reach_loggingIn reach away free begun pointer run with made | ⟨-, begun', ended', out', turns⟩
    · exact made
    · have := loginTurns_le life.sleeps
      have := loginTurns_pos begun' ended' out'
      omega

/-- The thread is in `recv` when the offline call comes. -/
theorem link_follows_flags_offline : ∃ s t : XmppLink Bool, s.calls false = .loadingConnected ∧ s.connected = true ∧
    Reach (step false) StaysOffline s t ∧ t.connected = false ∧ t.created ≤ s.created ∧ t.Asked false := by
  obtain ⟨s, t, reach, ⟨looking, flag, outside, connected⟩, run, closed⟩ :=
    exists_reach_then (step false) Anything StaysOffline (start : XmppLink Bool)
      [.startThread, .thread true, .thread true, .thread true, .thread true, .thread true, .thread true,
        .call false .offline, .goOn false]
      [.goOn false, .goOn false, .thread true, .thread true, .thread true, .thread true, .thread true, .thread true]
      (fun s => s.calls false = .loadingConnected ∧ s.onDemandDisconnect = true ∧ s.pc.logsIn = false ∧
        s.connected = true)
      (fun t => t.connected = false) (by decide +kernel)
  obtain ⟨clients, asked, -⟩ := ((link_follows_flags reach).2.2.1 flag t run).2 outside
  exact ⟨s, t, looking, connected, run, closed, clients, asked false looking⟩

end Calls
end XmppLink
end JsonRpcTcp
