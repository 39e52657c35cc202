import JsonRpcTcp.Lib.Decimal
import JsonRpcTcp.Lib.TextStream
import JsonRpcTcp.JsonChecker

namespace JsonRpcTcp

/-! `EventMonitor` of the sysmgr service, and what it knows of its subscriptions. -/

/-- `EvntMonitEntry`. -/
structure EvntMonitEntry where
  ip : List Byte
  port : Int32
  srvToken : Int32
  evntType : Int32
  subscription : Int32
  subscriptionSts : Bool
  deriving DecidableEq, Repr

/-- A request of `SUBSCRIBE_EVENT`. `place` is not in the source: it is the place of the entry. -/
structure SubscribeCall where
  place : Nat
  ip : List Byte
  port : Int32
  cltToken : Int32
  evntNum : Int32
  srcPort : Int32
  deriving DecidableEq, Repr

/-- A request of `UNSUBSCRIBE_EVENT`. -/
structure UnsubscribeCall where
  place : Nat
  ip : List Byte
  port : Int32
  srvToken : Int32
  deriving DecidableEq, Repr

structure EventMonitor where
  evntMonitorConfigFile : List Byte
  eventMonitList : List EvntMonitEntry
  deriving DecidableEq, Repr

namespace EventMonitor

/-- A line of the list file. A word that is missing is empty, and a number read from it is 0. -/
def readEntry (line : List Byte) : EvntMonitEntry :=
  let (strip, iss) := (TextStream.ofText line).word isSpaceByte
  let (strport, iss) := iss.word isSpaceByte
  let (strsrvtoken, iss) := iss.word isSpaceByte
  let (strevnttyp, _) := iss.word isSpaceByte
  { ip := strip, port := atoi strport, srvToken := atoi strsrvtoken, evntType := atoi strevnttyp, subscription := -1
    subscriptionSts := false }

/-- `LoadEventMonitList`, with the text of the list file. -/
def loadEventMonitList (listFile file : List Byte) : List EvntMonitEntry :=
  if listFile = [] then [] else (TextStream.lines 0x0a file).map readEntry

/-- The body of the loop of `SubscribeEvents`. The token is what the server returned, if it did. -/
def subscribeEntry (place : Nat) (token : Option Int32) (pEntry : EvntMonitEntry) :
    EvntMonitEntry × List SubscribeCall :=
  if pEntry.subscriptionSts = false then
    let pEntry := { pEntry with subscription := -1 }
    let pEntry := { pEntry with subscription := token.getD pEntry.subscription }
    ({ pEntry with subscriptionSts := pEntry.subscription ≠ -1 },
      [{ place := place, ip := pEntry.ip, port := pEntry.port, cltToken := pEntry.srvToken, evntNum := pEntry.evntType,
         srcPort := 40001 }])
  else (pEntry, [])

/-- The loop of `SubscribeEvents`. Its body works on a copy of the entry. -/
def subscribeLoop (tokens : Nat → Option Int32) : Nat → List EvntMonitEntry → List EvntMonitEntry × List SubscribeCall
  | _, [] => ([], [])
  | place, entry :: rest =>
    let (_, calls) := subscribeEntry place (tokens place) entry
    let (rest, further) := subscribeLoop tokens (place + 1) rest
    (entry :: rest, calls ++ further)

/-- `SubscribeEvents`, with the tokens that the servers return. -/
def subscribeEvents (tokens : Nat → Option Int32) (list : List EvntMonitEntry) :
    List EvntMonitEntry × List SubscribeCall :=
  subscribeLoop tokens 0 list

/-- The loop of `UnSubscribeEvents`, on copies as well. -/
def unSubscribeLoop : Nat → List EvntMonitEntry → List UnsubscribeCall
  | _, [] => []
  | place, entry :: rest =>
    (if entry.subscriptionSts = true then
      [{ place := place, ip := entry.ip, port := entry.port, srvToken := entry.subscription }] else []) ++
      unSubscribeLoop (place + 1) rest

/-- `UnSubscribeEvents`. -/
def unSubscribeEvents (list : List EvntMonitEntry) : List UnsubscribeCall := unSubscribeLoop 0 list

/-- The first entry with the token is no longer subscribed. -/
def disableEntry (myToken : Int32) : List EvntMonitEntry → List EvntMonitEntry
  | [] => []
  | entry :: rest =>
    if entry.srvToken = myToken then { entry with subscriptionSts := false } :: rest
    else entry :: disableEntry myToken rest

/-- `ReceiveEvent`. -/
def receiveEvent (s : EventMonitor) (myToken evntNum : Int32) : EventMonitor :=
  if s.evntMonitorConfigFile = [] then s
  else if evntNum = 1 then { s with eventMonitList := disableEntry myToken s.eventMonitList }
  else s

/-- `ReSubscribeEvents`. -/
def reSubscribeEvents (s : EventMonitor) (tokens : Nat → Option Int32) : EventMonitor × List SubscribeCall :=
  let (list, calls) := subscribeEvents tokens s.eventMonitList
  ({ s with eventMonitList := list }, calls)

/-- The destructor. -/
def destroy (s : EventMonitor) : List UnsubscribeCall :=
  if s.evntMonitorConfigFile = [] then [] else unSubscribeEvents s.eventMonitList

end EventMonitor

/-- What happens to a monitor. -/
inductive MonitorAction where
  | reSubscribeEvents (tokens : Nat → Option Int32)
  | receiveEvent (myToken evntNum : Int32)

/-- A monitor, and for each place the token of the last attempt to subscribe, if the server returned one
and did not shut down since. -/
structure MonitorRun where
  monitor : EventMonitor
  live : Nat → Option Int32

namespace MonitorRun

/-- A server granted the subscription when it returned a token that is not -1. -/
def granted (token : Option Int32) : Option Int32 := token.filter fun token => token ≠ -1

/-- The attempts that were made, with their outcomes. -/
def attempted (live : Nat → Option Int32) (calls : List SubscribeCall) (tokens : Nat → Option Int32) (place : Nat) :
    Option Int32 :=
  if place ∈ calls.map SubscribeCall.place then granted (tokens place) else live place

/-- The server whose events have the token has shut down. -/
def shutDown (live : Nat → Option Int32) (list : List EvntMonitEntry) (token : Int32) (place : Nat) : Option Int32 :=
  if (list[place]?.map EvntMonitEntry.srvToken) = some token then none else live place

/-- The constructor. -/
def create (configFile file : List Byte) (tokens : Nat → Option Int32) : MonitorRun :=
  if configFile = [] then { monitor := { evntMonitorConfigFile := configFile, eventMonitList := [] }, live := fun _ => none }
  else
    let (list, calls) := EventMonitor.subscribeEvents tokens (EventMonitor.loadEventMonitList configFile file)
    { monitor := { evntMonitorConfigFile := configFile, eventMonitList := list }
      live := attempted (fun _ => none) calls tokens }

def step (r : MonitorRun) : MonitorAction → MonitorRun
  | .reSubscribeEvents tokens =>
    let (monitor, calls) := r.monitor.reSubscribeEvents tokens
    { monitor := monitor, live := attempted r.live calls tokens }
  | .receiveEvent myToken evntNum =>
    { monitor := r.monitor.receiveEvent myToken evntNum
      live := if evntNum = 1 then shutDown r.live r.monitor.eventMonitList myToken else r.live }

/-- A whole run. -/
def run (configFile file : List Byte) (tokens : Nat → Option Int32) (actions : List MonitorAction) : MonitorRun :=
  actions.foldl step (create configFile file tokens)

/-- The unsubscriptions of the live entries, each with its own token. -/
def liveUnsubscriptions (r : MonitorRun) : Nat → List EvntMonitEntry → List UnsubscribeCall
  | _, [] => []
  | place, entry :: rest =>
    (r.live place).toList.map (fun token => { place := place, ip := entry.ip, port := entry.port, srvToken := token }) ++
      liveUnsubscriptions r (place + 1) rest

/-- The monitor keeps track of its subscriptions: an entry has the status and the token of a live
subscription exactly when there is one, another attempt is made only where there is none, and at the end
each live one is unsubscribed with its own token. -/
structure KeepsTrack (r : MonitorRun) : Prop where
  status : ∀ place entry, r.monitor.eventMonitList[place]? = some entry → ∀ token,
    (entry.subscriptionSts = true ∧ entry.subscription = token) ↔ r.live place = some token
  resubscribes : ∀ tokens, ∀ call ∈ (r.monitor.reSubscribeEvents tokens).2, r.live call.place = none
  unsubscribes : r.monitor.destroy = liveUnsubscriptions r 0 r.monitor.eventMonitList

/-! What the servers granted, from the outcomes and the events alone. -/

/-- The subscription that the outcomes and events leave to an entry at a place, with its token. -/
def grant (place : Nat) (srvToken : Int32) (before : Option Int32) : MonitorAction → Option Int32
  | .reSubscribeEvents tokens => granted (tokens place)
  | .receiveEvent myToken evntNum => if evntNum = 1 ∧ srvToken = myToken then none else before

def lastGrant (place : Nat) (srvToken : Int32) (tokens : Nat → Option Int32) (actions : List MonitorAction) :
    Option Int32 :=
  actions.foldl (grant place srvToken) (granted (tokens place))

end MonitorRun

namespace EventMonitor

/-- No entry has the status of a subscription. -/
def Idle (list : List EvntMonitEntry) : Prop := ∀ entry ∈ list, entry.subscriptionSts = false

theorem Idle.tail {entry : EvntMonitEntry} {rest : List EvntMonitEntry} (idle : Idle (entry :: rest)) : Idle rest :=
  fun other member => idle other (List.mem_cons_of_mem entry member)

theorem loadEventMonitList_idle (listFile file : List Byte) : Idle (loadEventMonitList listFile file) := by
  intro entry member
  unfold loadEventMonitList at member
  by_cases empty : listFile = []
  · rw [if_pos empty] at member
    cases member
  · rw [if_neg empty] at member
    obtain ⟨line, _, same⟩ := List.mem_map.mp member
    rw [← same]
    rfl

/-- The loop leaves the list as it is: what it writes, it writes into copies. -/
theorem subscribeLoop_list (tokens : Nat → Option Int32) (list : List EvntMonitEntry) (place : Nat) :
    (subscribeLoop tokens place list).1 = list := by
  induction list generalizing place with
  | nil => rfl
  | cons entry rest ih =>
    have tail := ih (place + 1)
    show entry :: (subscribeLoop tokens (place + 1) rest).1 = entry :: rest
    rw [tail]

/-- So that it asks every server. -/
theorem subscribeLoop_places (tokens : Nat → Option Int32) {list : List EvntMonitEntry} (idle : Idle list)
    (place : Nat) :
    (subscribeLoop tokens place list).2.map SubscribeCall.place = List.range' place list.length := by
  induction list generalizing place with
  | nil => rfl
  | cons entry rest ih =>
    have tail := ih idle.tail (place + 1)
    have first : (subscribeEntry place (tokens place) entry).2.map SubscribeCall.place = [place] := by
      rw [subscribeEntry, if_pos (idle entry List.mem_cons_self)]
      rfl
    show ((subscribeEntry place (tokens place) entry).2 ++ (subscribeLoop tokens (place + 1) rest).2).map
      SubscribeCall.place = List.range' place (rest.length + 1)
    rw [List.map_append, first, tail, List.range'_succ, List.singleton_append]

theorem disableEntry_idle (myToken : Int32) {list : List EvntMonitEntry} (idle : Idle list) :
    disableEntry myToken list = list := by
  induction list with
  | nil => rfl
  | cons entry rest ih =>
    unfold disableEntry
    by_cases found : entry.srvToken = myToken
    · have already := idle entry List.mem_cons_self
      rw [if_pos found, ← already]
    · rw [if_neg found, ih idle.tail]

theorem unSubscribeLoop_idle {list : List EvntMonitEntry} (idle : Idle list) (place : Nat) :
    unSubscribeLoop place list = [] := by
  induction list generalizing place with
  | nil => rfl
  | cons entry rest ih =>
    have off : ¬ entry.subscriptionSts = true := by
      rw [idle entry List.mem_cons_self]
      exact Bool.false_ne_true
    rw [unSubscribeLoop, if_neg off, ih idle.tail, List.append_nil]

theorem reSubscribeEvents_monitor (s : EventMonitor) (tokens : Nat → Option Int32) :
    (s.reSubscribeEvents tokens).1 = s := by
  have same := subscribeLoop_list tokens s.eventMonitList 0
  show { s with eventMonitList := (subscribeLoop tokens 0 s.eventMonitList).1 } = s
  rw [same]

theorem receiveEvent_idle {s : EventMonitor} (idle : Idle s.eventMonitList) (myToken evntNum : Int32) :
    s.receiveEvent myToken evntNum = s := by
  unfold receiveEvent
  rw [disableEntry_idle myToken idle]
  split_ifs <;> rfl

end EventMonitor

namespace MonitorRun
open EventMonitor

/-- The tokens that the servers returned, in a run that never gets into the list. -/
structure Untouched (list : List EvntMonitEntry) (last : Nat → Int32 → Option Int32) (r : MonitorRun) : Prop where
  entries : r.monitor.eventMonitList = list
  live : ∀ place entry, list[place]? = some entry → r.live place = last place entry.srvToken
  outside : ∀ place, list[place]? = none → r.live place = none

/-- Every server is asked, and nothing else. -/
theorem attempted_idle {list : List EvntMonitEntry} (idle : Idle list) (live : Nat → Option Int32)
    (tokens : Nat → Option Int32) (place : Nat) :
    attempted live (subscribeEvents tokens list).2 tokens place =
      if place < list.length then granted (tokens place) else live place := by
  have places := subscribeLoop_places tokens idle 0
  have inside : place ∈ (subscribeEvents tokens list).2.map SubscribeCall.place ↔ place < list.length := by
    show place ∈ (subscribeLoop tokens 0 list).2.map SubscribeCall.place ↔ place < list.length
    rw [places, List.mem_range'_1]
    omega
  unfold attempted
  simp only [inside]

theorem create_untouched (configFile file : List Byte) (tokens : Nat → Option Int32) :
    (create configFile file tokens).Untouched (loadEventMonitList configFile file) fun place _ => granted (tokens place) := by
  unfold create
  by_cases empty : configFile = []
  · have nothing : loadEventMonitList configFile file = [] := if_pos empty
    rw [if_pos empty, nothing]
    refine ⟨rfl, ?_, fun _ _ => rfl⟩
    intro place entry impossible
    cases impossible
  · rw [if_neg empty]
    have attempts := attempted_idle (loadEventMonitList_idle configFile file) (fun _ => none) tokens
    refine ⟨subscribeLoop_list tokens _ 0, ?_, ?_⟩
    · intro place entry found
      obtain ⟨inside, _⟩ := List.getElem?_eq_some_iff.mp found
      exact (attempts place).trans (if_pos inside)
    · intro place beyond
      have outside := List.getElem?_eq_none_iff.mp beyond
      exact (attempts place).trans (if_neg (by omega))

/-- One more action. -/
theorem Untouched.step {list : List EvntMonitEntry} {last : Nat → Int32 → Option Int32} {r : MonitorRun}
    (before : r.Untouched list last) (idle : Idle list) (action : MonitorAction) :
    (r.step action).Untouched list fun place srvToken => grant place srvToken (last place srvToken) action := by
  have idle' : Idle r.monitor.eventMonitList := by
    rw [before.entries]
    exact idle
  cases action with
  | reSubscribeEvents tokens =>
    have same := reSubscribeEvents_monitor r.monitor tokens
    have attempts := attempted_idle idle' r.live tokens
    have size : r.monitor.eventMonitList.length = list.length := congrArg List.length before.entries
    refine ⟨?_, ?_, ?_⟩
    · show (r.monitor.reSubscribeEvents tokens).1.eventMonitList = list
      rw [same]
      exact before.entries
    · intro place entry found
      obtain ⟨inside, _⟩ := List.getElem?_eq_some_iff.mp found
      exact (attempts place).trans (if_pos (by omega))
    · intro place beyond
      have outside := List.getElem?_eq_none_iff.mp beyond
      have kept := (attempts place).trans (if_neg (by omega))
      exact kept.trans (before.outside place beyond)
  | receiveEvent myToken evntNum =>
    have same := receiveEvent_idle idle' myToken evntNum
    refine ⟨?_, ?_, ?_⟩
    · show (r.monitor.receiveEvent myToken evntNum).eventMonitList = list
      rw [same]
      exact before.entries
    · intro place entry found
      show (if evntNum = 1 then shutDown r.live r.monitor.eventMonitList myToken else r.live) place =
        if evntNum = 1 ∧ entry.srvToken = myToken then none else last place entry.srvToken
      by_cases shuts : evntNum = 1
      · rw [if_pos shuts, shutDown, before.entries, found, Option.map_some]
        by_cases own : entry.srvToken = myToken
        · rw [if_pos (congrArg some own), if_pos ⟨shuts, own⟩]
        · rw [if_neg fun same => own (Option.some.inj same), if_neg fun both => own both.2]
          exact before.live place entry found
      · rw [if_neg shuts, if_neg fun both => shuts both.1]
        exact before.live place entry found
    · intro place beyond
      show (if evntNum = 1 then shutDown r.live r.monitor.eventMonitList myToken else r.live) place = none
      by_cases shuts : evntNum = 1
      · rw [if_pos shuts, shutDown, before.outside place beyond, ite_self]
      · rw [if_neg shuts]
        exact before.outside place beyond

theorem Untouched.run {list : List EvntMonitEntry} (idle : Idle list) (actions : List MonitorAction)
    {last : Nat → Int32 → Option Int32} {r : MonitorRun} (before : r.Untouched list last) :
    (actions.foldl MonitorRun.step r).Untouched list fun place srvToken =>
      actions.foldl (grant place srvToken) (last place srvToken) := by
  induction actions generalizing r last with
  | nil => exact before
  | cons action actions ih => exact ih (before.step idle action)

theorem liveUnsubscriptions_none {r : MonitorRun} (none : ∀ place, r.live place = none) (list : List EvntMonitEntry)
    (place : Nat) : liveUnsubscriptions r place list = [] := by
  induction list generalizing place with
  | nil => rfl
  | cons entry rest ih =>
    have tail := ih (place + 1)
    rw [liveUnsubscriptions, none place, tail]
    rfl

/-- A monitor keeps track of its subscriptions exactly as long as it has none. -/
theorem keepsTrack_iff (configFile file : List Byte) (tokens : Nat → Option Int32) (actions : List MonitorAction) :
    (run configFile file tokens actions).KeepsTrack ↔
      ∀ place entry, (loadEventMonitList configFile file)[place]? = some entry →
        lastGrant place entry.srvToken tokens actions = none := by
  have idle := loadEventMonitList_idle configFile file
  have untouched := (create_untouched configFile file tokens).run idle actions
  have same : (run configFile file tokens actions).monitor.eventMonitList = loadEventMonitList configFile file :=
    untouched.entries
  constructor
  · intro tracks place entry found
    have granted : (run configFile file tokens actions).live place = lastGrant place entry.srvToken tokens actions :=
      untouched.live place entry found
    cases held : lastGrant place entry.srvToken tokens actions with
    | none => rfl
    | some token =>
      rw [← same] at found
      rw [held] at granted
      obtain ⟨on, _⟩ := (tracks.status place entry found token).mpr granted
      have member := List.mem_of_getElem? found
      rw [same] at member
      rw [idle entry member] at on
      cases on
  · intro nothing
    have none : ∀ place, (run configFile file tokens actions).live place = none := by
      intro place
      cases found : (loadEventMonitList configFile file)[place]? with
      | none => exact untouched.outside place found
      | some entry => exact (untouched.live place entry found).trans (nothing place entry found)
    have idle' : Idle (run configFile file tokens actions).monitor.eventMonitList := by
      rw [same]
      exact idle
    refine ⟨?_, fun _ call _ => none call.place, ?_⟩
    · intro place entry found token
      constructor
      · rintro ⟨on, _⟩
        rw [idle' entry (List.mem_of_getElem? found)] at on
        cases on
      · intro held
        rw [none place] at held
        cases held
    · rw [liveUnsubscriptions_none none]
      unfold destroy unSubscribeEvents
      rw [unSubscribeLoop_idle idle', ite_self]

/-- A list with one server, whose token is 7. -/
def sampleConfig : List Byte := ascii "monitor.cfg"

def sampleFile : List Byte := ascii "10.0.0.1 42513 13100 -1\n"

/-- The server has granted the subscription, and the entry has no token and no status: the server is asked
again, and it is not told when the monitor goes. -/
theorem granted_subscription_is_forgotten :
    (run sampleConfig sampleFile (fun _ => some 7) []).live 0 = some 7 ∧
      (run sampleConfig sampleFile (fun _ => some 7) []).monitor.eventMonitList.map
        (fun entry => (entry.subscriptionSts, entry.subscription)) = [(false, -1)] ∧
      ((run sampleConfig sampleFile (fun _ => some 7) []).monitor.reSubscribeEvents fun _ => none).2.map
        SubscribeCall.place = [0] ∧
      (run sampleConfig sampleFile (fun _ => some 7) []).monitor.destroy = [] ∧
      ¬ (run sampleConfig sampleFile (fun _ => some 7) []).KeepsTrack := by
  have live : (run sampleConfig sampleFile (fun _ => some 7) []).live 0 = some 7 := by decide +kernel
  refine ⟨live, by decide +kernel, by decide +kernel, by decide +kernel, ?_⟩
  intro tracks
  have again : ∃ call ∈ ((run sampleConfig sampleFile (fun _ => some 7) []).monitor.reSubscribeEvents fun _ => none).2,
      call.place = 0 := by decide +kernel
  obtain ⟨call, member, place⟩ := again
  have free := tracks.resubscribes (fun _ => none) call member
  rw [place, live] at free
  cases free

end MonitorRun
end JsonRpcTcp
