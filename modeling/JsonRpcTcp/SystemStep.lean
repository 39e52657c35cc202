import JsonRpcTcp.ProxyAnswers
import JsonRpcTcp.ServerFifo
import JsonRpcTcp.ServerFraming

namespace JsonRpcTcp

/-- A service: the network server, the proxy that is its consumer and the mapper
attached to the proxy. `framed` is not in the source: the messages framed on each
connection. -/
structure System where
  server : Server
  proxy : Proxy
  framed : Nat → List (List Byte)

inductive SystemAction where
  | server (action : ServerAction)
  | proxy (action : ProxyAction)
  deriving Repr

namespace System
variable (ds : Descriptors) (lib : JsonC) (rpcCallList : List RpcCommand)

def start (clientIdent : Nat) : System where
  server := Server.start ds clientIdent
  proxy := Proxy.start
  framed := fun _ => []

/-- The calls of `schedule_response` that put a response into `response_chain`. -/
def deliver (server : Server) : List Reply → Option Server
  | [] => some server
  | reply :: rest =>
    (server.outsideStep (.schedule reply.response.request reply.response.data true)).bind (deliver · rest)

/-- One step of one thread. `on_data_arrival` runs on the listen thread: it takes
a request when it has dealt with the one before, and returns when it has dealt
with all. Only the proxy schedules responses. -/
def step (s : System) : SystemAction → Option System
  | .server (.outside (.schedule ..)) => none
  | .server (.listen (.takeRequest fd paused caller req)) =>
    (s.server.step ds (.listen (.takeRequest fd paused caller req))).bind fun server =>
      (s.proxy.step lib rpcCallList (.arrival (.take req))).map fun proxy => { s with server := server, proxy := proxy }
  | .server (.listen (.notifyDone fd paused caller)) =>
    (s.server.step ds (.listen (.notifyDone fd paused caller))).bind fun server =>
      onlyIf (s.proxy.pc = .idle) { s with server := server }
  | .server action =>
    (s.server.step ds action).map fun server =>
      { s with server := server, framed := s.server.framedAfter s.framed action }
  | .proxy (.arrival (.take _)) => none
  | .proxy action =>
    (s.proxy.step lib rpcCallList action).bind fun proxy =>
      (deliver s.server (proxy.scheduled.drop s.proxy.scheduled.length)).map fun server =>
        { s with server := server, proxy := proxy }

/-- Allocations and `chain_put` succeed in this step. -/
def AllocationSucceeds (_ : System) : SystemAction → Prop
  | .server action => action.put = true
  | .proxy action => action.put = true

instance (s : System) (action : SystemAction) : Decidable (s.AllocationSucceeds action) := by
  unfold AllocationSucceeds
  split <;> infer_instance

/-- A second call behind the sample call, in the same chunk. -/
def secondCall : Request := { Proxy.sampleCall with ident := 2, serial := 1 }

/-- A client connects and sends both calls, and the listen thread takes them from
the framer. -/
def receiving : List ServerAction :=
  Server.greeting ++
  [.listen (.select [7]), .listen (.startReceive 7 []), .listen (.recv 7 [] 0 (Proxy.sampleText ++ Proxy.sampleText)),
   .listen (.checkConnection 7 (.receive 2 [])), .listen (.admission 7 Server.sampleClient 0 (.receive 2 [])),
   .listen (.queueRequest 7 Server.sampleClient 0 (.receive 2 []) true),
   .listen (.admission 7 Server.sampleClient 1 (.receive 2 [])),
   .listen (.queueRequest 7 Server.sampleClient 1 (.receive 2 []) true),
   .listen (.admission 7 Server.sampleClient 2 (.receive 2 []))]

/-- `on_data_arrival` hands both calls over. -/
def calling : List SystemAction :=
  receiving.map .server ++
  [.server (.listen (.takeRequest 7 false (.receive 2 []) Proxy.sampleCall))] ++
  (Proxy.handingOver 0 Proxy.sampleCall).map .proxy ++
  [.server (.listen (.takeRequest 7 false (.receive 2 []) secondCall))] ++
  (Proxy.handingOver 1 secondCall).map .proxy

/-- The text of the response to either call. -/
def answerText : List Byte :=
  ascii "\x7b \"jsonrpc\": \"2.0\", \"result\": \x7b \"return\": \"fail\", \"errorType\": \"Success\" \x7d, \"id\": 7 \x7d"

def answerTo (req : Request) : Response :=
  { sockDescriptor := 7, cltid := 1, data := answerText, request := req }

/-- The response thread sends a response whole. -/
def sending (req : Request) : List SystemAction :=
  [.server (.respond (.chainGet (answerTo req))), .server (.respond (.checkDead (answerTo req) false)),
   .server (.respond (.dup (answerTo req) (some 8))),
   .server (.respond (.send (answerTo req) 8 0 0 answerText.length)),
   .server (.respond (.sendWaited (answerTo req) 8 0 0)), .server (.respond (.closeDup (answerTo req) 8)),
   .server (.respond (.responseDone (answerTo req)))]

/-- What one step does to the server and to the proxy. -/
inductive Move (s : System) : SystemAction → System → Prop
  | server {action server} (run : s.server.step ds action = some server) (quiet : action.answers = none)
      (stays : server.taken = s.server.taken ∧ server.unanswered = s.server.unanswered ∧
        server.scheduled = s.server.scheduled) :
      Move s (.server action) { s with server := server, framed := s.server.framedAfter s.framed action }
  | take {fd paused caller req server proxy}
      (run : s.server.step ds (.listen (.takeRequest fd paused caller req)) = some server)
      (taken : s.proxy.step lib rpcCallList (.arrival (.take req)) = some proxy) :
      Move s (.server (.listen (.takeRequest fd paused caller req))) { s with server := server, proxy := proxy }
  | proxy {action server proxy} (run : s.proxy.step lib rpcCallList action = some proxy)
      (quiet : ∀ req, action ≠ .arrival (.take req))
      (delivered : deliver s.server (proxy.scheduled.drop s.proxy.scheduled.length) = some server) :
      Move s (.proxy action) { s with server := server, proxy := proxy }

variable {ds lib rpcCallList}

/-- Only `on_data_arrival` takes requests from the server, and only
`schedule_response` answers them. -/
theorem server_stays {s t : Server} {action : ServerAction} (run : s.step ds action = some t)
    (quiet : action.answers = none)
    (takes : ∀ fd paused caller request, action ≠ .listen (.takeRequest fd paused caller request)) :
    t.taken = s.taken ∧ t.unanswered = s.unanswered ∧ t.scheduled = s.scheduled := by
  cases action with
  | listen action =>
    have listens : ∀ fd paused caller request, action ≠ .takeRequest fd paused caller request :=
      fun fd paused caller request same => takes fd paused caller request (congrArg ServerAction.listen same)
    exact (Server.listenStep_consumer run listens).1
  | respond action =>
    have same := (Server.responseStep_frame run).listen
    exact ⟨same.taken, same.unanswered, same.scheduled⟩
  | outside action =>
    cases action <;> first | (cases quiet; done) |
      simp only [Server.step, Server.outsideStep, onlyIf_eq_some, Option.some.injEq] at run
    case requestStop =>
      subst run
      exact ⟨rfl, rfl, rfl⟩
    case stopWake written =>
      obtain ⟨_, rfl⟩ := run
      exact ⟨rfl, rfl, rfl⟩

theorem Move.of_server {s : System} {action : ServerAction} {t : System} (quiet : action.answers = none)
    (takes : ∀ fd paused caller request, action ≠ .listen (.takeRequest fd paused caller request))
    (run : ((s.server.step ds action).map fun server =>
      { s with server := server, framed := s.server.framedAfter s.framed action }) = some t) :
    Move ds lib rpcCallList s (.server action) t := by
  obtain ⟨server, stepped, rfl⟩ := Option.map_eq_some_iff.mp run
  exact .server stepped quiet (server_stays stepped quiet takes)

theorem Move.of_proxy {s : System} {action : ProxyAction} {t : System} (quiet : ∀ req, action ≠ .arrival (.take req))
    (run : ((s.proxy.step lib rpcCallList action).bind fun proxy =>
      (deliver s.server (proxy.scheduled.drop s.proxy.scheduled.length)).map fun server =>
        { s with server := server, proxy := proxy }) = some t) :
    Move ds lib rpcCallList s (.proxy action) t := by
  obtain ⟨proxy, stepped, later⟩ := Option.bind_eq_some_iff.mp run
  obtain ⟨server, delivered, rfl⟩ := Option.map_eq_some_iff.mp later
  exact .proxy stepped quiet delivered

theorem step_moves {s t : System} {action : SystemAction} (run : s.step ds lib rpcCallList action = some t) :
    Move ds lib rpcCallList s action t := by
  cases action with
  | server action =>
    cases action with
    | listen action =>
      cases action
      case takeRequest fd paused caller req =>
        obtain ⟨server, stepped, later⟩ := Option.bind_eq_some_iff.mp run
        obtain ⟨proxy, taken, rfl⟩ := Option.map_eq_some_iff.mp later
        exact .take stepped taken
      case notifyDone fd paused caller =>
        obtain ⟨server, stepped, later⟩ := Option.bind_eq_some_iff.mp run
        obtain ⟨_, rfl⟩ := onlyIf_eq_some.mp later
        exact .server stepped rfl (server_stays stepped rfl (by simp))
      all_goals exact .of_server rfl (by simp) run
    | respond action => exact .of_server rfl (by simp) run
    | outside action =>
      cases action
      case schedule => cases run
      all_goals exact .of_server rfl (by simp) run
  | proxy action =>
    cases action with
    | arrival action =>
      cases action
      case take => cases run
      all_goals exact .of_proxy (by simp) run
    | mapper action => exact .of_proxy (by simp) run
    | reply action => exact .of_proxy (by simp) run

end System
end JsonRpcTcp
