import JsonRpcTcp.ProxyStep

namespace JsonRpcTcp
open Function

namespace Proxy
variable {lib : JsonC} {rpcCallList : List RpcCommand}

/-- The task that `json_process_request` makes. -/
def newTask (s : Proxy) (req : Request) (id : Int) (command : RpcCommand) (access : TaskAccess) : ApiTask :=
  { ident := (s.identGenerator + 1).bmod (2 ^ 32), reqId := id, netData := req, rpcMethod := command,
    access := access, taskResult := .notStarted, jsonRespObj := none, customResultString := [] }

/-- What the proxy can do in one step while allocations succeed. -/
inductive Move (lib : JsonC) (rpcCallList : List RpcCommand) (s : Proxy) : ProxyAction → Proxy → Prop
  | take {req} (here : s.pc = .idle) : Move lib rpcCallList s (.arrival (.take req))
      { s with pc := .processing s.taken.length req, taken := s.taken ++ [req] }
  | turnDown {number req errType id} (here : s.pc = .processing number req)
      (verdict : jsonProcessRequest lib rpcCallList req.data = .refuse errType id) :
      Move lib rpcCallList s (.arrival (.process number req)) { s with pc := .refusing number req errType id }
  | accept {number req id command access} (here : s.pc = .processing number req)
      (verdict : jsonProcessRequest lib rpcCallList req.data = .dispatch id command access) :
      Move lib rpcCallList s (.arrival (.process number req)) { s with pc := .creating number req id command access }
  | refuse {number req errType id message} (here : s.pc = .refusing number req errType id)
      (prints : lib.toJsonString (errorObject id errType) = some message) :
      Move lib rpcCallList s (.arrival (.refuse number req errType id true))
        { s with scheduled := s.scheduled ++ [replyTo number req (errorObject id errType) message], pc := .idle }
  | create {number req id command access} (here : s.pc = .creating number req id command access) :
      Move lib rpcCallList s (.arrival (.create number req id command access true))
        { s with identGenerator := (s.identGenerator + 1).bmod (2 ^ 32)
                 tasks := update s.tasks number (some (s.newTask req id command access))
                 pc := .storing number req id }
  | store {number req id} (here : s.pc = .storing number req id) :
      Move lib rpcCallList s (.arrival (.store number req id true))
        { s with reqRespChain := s.reqRespChain ++ [number], pc := .handingOver number req id }
  | handOver {number req id} (here : s.pc = .handingOver number req id) :
      Move lib rpcCallList s (.arrival (.handOver number req id true))
        { s with reqChain := s.reqChain ++ [number], pc := .waking }
  | wakeMapper (here : s.pc = .waking) :
      Move lib rpcCallList s (.arrival .wakeup) { s with reqSema := s.reqSema + 1, pc := .idle }
  | mapperWait (here : s.mapperPc = .waiting) (posted : 0 < s.reqSema) :
      Move lib rpcCallList s (.mapper .semWait) { s with reqSema := s.reqSema - 1, mapperPc := .woken }
  | noTask (here : s.mapperPc = .woken) (empty : s.reqChain = []) :
      Move lib rpcCallList s (.mapper .chainGet) { s with mapperPc := .waiting }
  | getTask {task rest object} (here : s.mapperPc = .woken) (queue : s.reqChain = task :: rest)
      (live : s.tasks task = some object) :
      Move lib rpcCallList s (.mapper .chainGet)
        { s with reqChain := rest, dataObj := dataFor object, mapperPc := .decoding task }
  | decodeFails {task result written object} (here : s.mapperPc = .decoding task)
      (live : s.tasks task = some object) (failed : result ≠ 0) :
      Move lib rpcCallList s (.mapper (.processJsonToBinary task result written))
        { s with dataObj := written, tasks := update s.tasks task (some (withResult object written))
                 mapperPc := .answering task }
  | decode {task written} (here : s.mapperPc = .decoding task) :
      Move lib rpcCallList s (.mapper (.processJsonToBinary task 0 written))
        { s with dataObj := written, mapperPc := .working task }
  | work {task written} (here : s.mapperPc = .working task) :
      Move lib rpcCallList s (.mapper (.processWork task written))
        { s with dataObj := written, mapperPc := .encoding task }
  | encode {task written object} (here : s.mapperPc = .encoding task) (live : s.tasks task = some object) :
      Move lib rpcCallList s (.mapper (.processBinaryToJson task written))
        { s with dataObj := written, tasks := update s.tasks task (some (withResult object written))
                 mapperPc := .answering task }
  | putIdent {task object} (here : s.mapperPc = .answering task) (live : s.tasks task = some object) :
      Move lib rpcCallList s (.mapper (.putIdent task true))
        { s with respChain := s.respChain ++ [object.ident], mapperPc := .waking }
  | wakeReply (here : s.mapperPc = .waking) :
      Move lib rpcCallList s (.mapper .wakeup) { s with respSema := s.respSema + 1, mapperPc := .waiting }
  | replyWait (here : s.replyPc = .waiting) (posted : 0 < s.respSema) :
      Move lib rpcCallList s (.reply .semWait) { s with respSema := s.respSema - 1, replyPc := .woken }
  | noIdent (here : s.replyPc = .woken) (empty : s.respChain = []) :
      Move lib rpcCallList s (.reply .chainGet) { s with replyPc := .waiting }
  | getIdent {respId rest} (here : s.replyPc = .woken) (queue : s.respChain = respId :: rest) :
      Move lib rpcCallList s (.reply .chainGet) { s with respChain := rest, replyPc := .removing respId }
  | missing {respId} (here : s.replyPc = .removing respId)
      (absent : s.reqRespChain.find? (s.identifies respId) = none) :
      Move lib rpcCallList s (.reply (.removeTask respId)) { s with replyPc := .waiting }
  | removeTask {respId task} (here : s.replyPc = .removing respId)
      (found : s.reqRespChain.find? (s.identifies respId) = some task) :
      Move lib rpcCallList s (.reply (.removeTask respId))
        { s with reqRespChain := s.reqRespChain.eraseP (s.identifies respId), replyPc := .replying task }
  | sendResult {task object message} (here : s.replyPc = .replying task) (live : s.tasks task = some object)
      (prints : lib.toJsonString (resultObject object) = some message) :
      Move lib rpcCallList s (.reply (.sendResult task true))
        { s with scheduled := s.scheduled ++ [replyTo task object.netData (resultObject object) message]
                 replyPc := .releasing task }
  | release {task} (here : s.replyPc = .releasing task) :
      Move lib rpcCallList s (.reply (.release task))
        { s with tasks := update s.tasks task none, replyPc := .waiting }

/-- A response that json-c prints is put into the chain. -/
theorem sendJsonObject_put (documented : lib.Documented) (s : Proxy) (number : Nat) (req : Request) (object : Json) :
    ∃ message, lib.toJsonString object = some message ∧ s.sendJsonObject lib number req object true =
      { s with scheduled := s.scheduled ++ [replyTo number req object message] } := by
  obtain ⟨message, prints⟩ := Option.isSome_iff_exists.mp (documented.prints object)
  refine ⟨message, prints, ?_⟩
  simp only [sendJsonObject, prints, if_true]

theorem arrivalStep_moves (documented : lib.Documented) {s t : Proxy} {action : ArrivalAction}
    (forward : ∀ number req id, s.pc ≠ .undoing number req id) (put : (ProxyAction.arrival action).put = true)
    (run : s.arrivalStep lib rpcCallList action = some t) : Move lib rpcCallList s (.arrival action) t := by
  cases action <;> simp only [arrivalStep, onlyIf_eq_some, Option.bind_eq_some_iff] at run
  case process number req =>
    obtain ⟨here, rfl⟩ := run
    cases verdict : jsonProcessRequest lib rpcCallList req.data with
    | refuse errType id => exact .turnDown here verdict
    | dispatch id command access => exact .accept here verdict
  case refuse number req errType id put =>
    cases put
    obtain ⟨here, rfl⟩ := run
    obtain ⟨message, prints, sent⟩ := s.sendJsonObject_put documented number req (errorObject id errType)
    rw [sent]
    exact .refuse here prints
  case undo number req id =>
    obtain ⟨_, _, here, _⟩ := run
    exact absurd here (forward number req id)
  case create number req id command access allocated =>
    cases put
    obtain ⟨here, rfl⟩ := run
    exact .create here
  case store number req id put =>
    cases put
    obtain ⟨here, rfl⟩ := run
    exact .store here
  case handOver number req id put =>
    cases put
    obtain ⟨here, rfl⟩ := run
    exact .handOver here
  case take req =>
    obtain ⟨here, rfl⟩ := run
    exact .take here
  case wakeup =>
    obtain ⟨here, rfl⟩ := run
    exact .wakeMapper here

theorem mapperStep_moves {s t : Proxy} {action : MapperAction} (put : (ProxyAction.mapper action).put = true)
    (run : s.mapperStep action = some t) : Move lib rpcCallList s (.mapper action) t := by
  cases action <;> simp only [mapperStep, onlyIf_eq_some, Option.bind_eq_some_iff] at run
  case semWait =>
    obtain ⟨⟨here, posted⟩, rfl⟩ := run
    exact .mapperWait here posted
  case chainGet =>
    split at run
    case h_1 empty =>
      obtain ⟨here, rfl⟩ := onlyIf_eq_some.mp run
      exact .noTask here empty
    case h_2 task rest queue =>
      obtain ⟨object, live, found⟩ := Option.bind_eq_some_iff.mp run
      obtain ⟨here, rfl⟩ := onlyIf_eq_some.mp found
      exact .getTask here queue live
  case processJsonToBinary task result written =>
    obtain ⟨object, live, here, rfl⟩ := run
    split_ifs with failed
    · exact .decodeFails here live failed
    · rw [not_not.mp failed]
      exact .decode here
  case processWork task written =>
    obtain ⟨here, rfl⟩ := run
    exact .work here
  case processBinaryToJson task written =>
    obtain ⟨object, live, here, rfl⟩ := run
    exact .encode here live
  case putIdent task put =>
    cases put
    obtain ⟨object, live, here, rfl⟩ := run
    exact .putIdent here live
  case wakeup =>
    obtain ⟨here, rfl⟩ := run
    exact .wakeReply here

theorem replyStep_moves (documented : lib.Documented) {s t : Proxy} {action : ReplyAction}
    (put : (ProxyAction.reply action).put = true) (run : s.replyStep lib action = some t) :
    Move lib rpcCallList s (.reply action) t := by
  cases action <;> simp only [replyStep, onlyIf_eq_some, Option.bind_eq_some_iff] at run
  case semWait =>
    obtain ⟨⟨here, posted⟩, rfl⟩ := run
    exact .replyWait here posted
  case chainGet =>
    split at run
    case h_1 empty =>
      obtain ⟨here, rfl⟩ := onlyIf_eq_some.mp run
      exact .noIdent here empty
    case h_2 respId rest queue =>
      obtain ⟨here, rfl⟩ := onlyIf_eq_some.mp run
      exact .getIdent here queue
  case removeTask respId =>
    split at run
    case h_1 absent =>
      obtain ⟨here, rfl⟩ := onlyIf_eq_some.mp run
      exact .missing here absent
    case h_2 task found =>
      obtain ⟨here, rfl⟩ := onlyIf_eq_some.mp run
      exact .removeTask here found
  case sendResult task put =>
    cases put
    obtain ⟨object, live, here, rfl⟩ := run
    obtain ⟨message, prints, sent⟩ := s.sendJsonObject_put documented task object.netData (resultObject object)
    rw [sent]
    exact .sendResult here live prints
  case release task =>
    obtain ⟨here, rfl⟩ := run
    exact .release here

theorem step_moves (documented : lib.Documented) {s t : Proxy} {action : ProxyAction}
    (forward : ∀ number req id, s.pc ≠ .undoing number req id) (permitted : s.AllocationSucceeds action)
    (run : s.step lib rpcCallList action = some t) : Move lib rpcCallList s action t := by
  cases action with
  | arrival action => exact arrivalStep_moves documented forward permitted run
  | mapper action => exact mapperStep_moves permitted run
  | reply action => exact replyStep_moves documented permitted run

/-- No step is taken back while allocations succeed. -/
theorem Move.forward {s t : Proxy} {action : ProxyAction} (move : Move lib rpcCallList s action t)
    (forward : ∀ number req id, s.pc ≠ .undoing number req id) (number : Nat) (req : Request) (id : Int) :
    t.pc ≠ .undoing number req id := by
  cases move <;> first | exact forward number req id | simp

theorem reach_forward (documented : lib.Documented) {s : Proxy}
    (reach : Reach (step lib rpcCallList) AllocationSucceeds start s) :
    ∀ number req id, s.pc ≠ .undoing number req id := by
  induction reach with
  | start => exact fun _ _ _ impossible => by cases impossible
  | next _ permitted run ih => exact (step_moves documented ih permitted run).forward ih

/-- A property that every move preserves holds in every reachable state. -/
theorem reach_by_moves (documented : lib.Documented) {holds : Proxy → Prop} {s : Proxy}
    (reach : Reach (step lib rpcCallList) AllocationSucceeds start s) (initial : holds start)
    (preserved : ∀ s t action, holds s → Move lib rpcCallList s action t → holds t) : holds s := by
  induction reach with
  | start => exact initial
  | next before permitted run ih =>
    exact preserved _ _ _ ih (step_moves documented (reach_forward documented before) permitted run)

end Proxy
end JsonRpcTcp
