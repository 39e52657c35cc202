import JsonRpcTcp.ProxyState
import JsonRpcTcp.Lib.Reach

namespace JsonRpcTcp
open Function

/-- What the listen thread does next in `on_data_arrival`. The arguments repeat
the program point, except for the results of allocations and `chain_put`. -/
inductive ArrivalAction where
  | take (req : Request)
  | process (number : Nat) (req : Request)
  | refuse (number : Nat) (req : Request) (errType : RpcError) (jsonReqId : Int) (put : Bool)
  | create (number : Nat) (req : Request) (jsonReqId : Int) (rpcMethod : RpcCommand) (access : TaskAccess)
      (allocated : Bool)
  | store (number : Nat) (req : Request) (jsonReqId : Int) (put : Bool)
  | handOver (number : Nat) (req : Request) (jsonReqId : Int) (put : Bool)
  | wakeup
  | undo (number : Nat) (req : Request) (jsonReqId : Int)
  deriving DecidableEq, Repr

/-- What the mapper's thread does next. The handlers may write anything into
`DataObj`. -/
inductive MapperAction where
  | semWait
  | chainGet
  | processJsonToBinary (task : Nat) (result : Int) (written : JsonDataComm)
  | processWork (task : Nat) (written : JsonDataComm)
  | processBinaryToJson (task : Nat) (written : JsonDataComm)
  | putIdent (task : Nat) (put : Bool)
  | wakeup
  deriving Repr

inductive ReplyAction where
  | semWait
  | chainGet
  | removeTask (respId : Int)
  | sendResult (task : Nat) (put : Bool)
  | release (task : Nat)
  deriving DecidableEq, Repr

inductive ProxyAction where
  | arrival (action : ArrivalAction)
  | mapper (action : MapperAction)
  | reply (action : ReplyAction)
  deriving Repr

/-- The result of the allocation or `chain_put` in an action. -/
def ProxyAction.put : ProxyAction → Bool
  | .arrival (.refuse _ _ _ _ put) | .arrival (.create _ _ _ _ _ put) | .arrival (.store _ _ _ put)
  | .arrival (.handOver _ _ _ put) | .mapper (.putIdent _ put) | .reply (.sendResult _ put) => put
  | _ => true

namespace Proxy
variable (lib : JsonC) (rpcCallList : List RpcCommand)

/-- `identify_chain_element` for an element of `ReqRespChain`. -/
def identifies (s : Proxy) (ident : Int) (task : Nat) : Bool := (s.tasks task).any fun object => object.ident == ident

/-- The response that `schedule_response` makes from the socket and the connection
id of a request. -/
def replyTo (number : Nat) (req : Request) (object : Json) (message : List Byte) : Reply where
  number := number
  object := object
  response := { sockDescriptor := req.sockDescriptor, cltid := req.cltid, data := message, request := req }

/-- `send_json_object` and the `chain_put` of `schedule_response`. -/
def sendJsonObject (s : Proxy) (number : Nat) (req : Request) (object : Json) (put : Bool) : Proxy :=
  match lib.toJsonString object with
  | none => s
  | some message =>
    if put then { s with scheduled := s.scheduled ++ [replyTo number req object message] } else s

/-- One step of the listen thread. The task ident wraps around like an int. -/
def arrivalStep (s : Proxy) : ArrivalAction → Option Proxy
  | .take req =>
    onlyIf (s.pc = .idle) { s with pc := .processing s.taken.length req, taken := s.taken ++ [req] }
  | .process number req =>
    onlyIf (s.pc = .processing number req)
      { s with pc := match jsonProcessRequest lib rpcCallList req.data with
          | .refuse errType id => .refusing number req errType id
          | .dispatch id command access => .creating number req id command access }
  | .refuse number req errType id put =>
    onlyIf (s.pc = .refusing number req errType id)
      { s.sendJsonObject lib number req (errorObject id errType) put with pc := .idle }
  | .create number req id command access allocated =>
    onlyIf (s.pc = .creating number req id command access)
      (if allocated then
        { s with
          identGenerator := (s.identGenerator + 1).bmod (2 ^ 32)
          tasks := update s.tasks number (some
            { ident := (s.identGenerator + 1).bmod (2 ^ 32), reqId := id, netData := req, rpcMethod := command,
              access := access, taskResult := .notStarted, jsonRespObj := none, customResultString := [] })
          pc := .storing number req id }
      else { s with pc := .refusing number req .internalError id })
  | .store number req id put =>
    onlyIf (s.pc = .storing number req id)
      (if put then { s with reqRespChain := s.reqRespChain ++ [number], pc := .handingOver number req id }
      else { s with tasks := update s.tasks number none, pc := .refusing number req .internalError id })
  | .handOver number req id put =>
    onlyIf (s.pc = .handingOver number req id)
      (if put then { s with reqChain := s.reqChain ++ [number], pc := .waking }
      else { s with pc := .undoing number req id })
  | .wakeup => onlyIf (s.pc = .waking) { s with reqSema := s.reqSema + 1, pc := .idle }
  | .undo number req id =>
    (s.tasks number).bind fun object =>
      onlyIf (s.pc = .undoing number req id)
        { s with reqRespChain := s.reqRespChain.eraseP (s.identifies object.ident)
                 tasks := update s.tasks number none
                 pc := .refusing number req .internalError id }

/-- `DataObj` as `monoshot_callback_function` fills it for a task. -/
def dataFor (object : ApiTask) : JsonDataComm :=
  { reqId := object.reqId, cmdIndex := object.rpcMethod.methodIndex, mapperResult := .unknown, workerResult := -1,
    socketData := object.netData.data, jsonRespObj := object.jsonRespObj,
    customResultString := object.customResultString, cltport := object.netData.port, ip := object.netData.ip,
    sockId := object.netData.cltid, sockDescr := object.netData.sockDescriptor }

/-- What the mapper's thread copies back from `DataObj`. The custom result is
written in place. -/
def withResult (object : ApiTask) (data : JsonDataComm) : ApiTask :=
  { object with taskResult := data.mapperResult, jsonRespObj := data.jsonRespObj
                customResultString := data.customResultString }

/-- One step of the mapper's thread. Without a live task behind its pointer it
has none. -/
def mapperStep (s : Proxy) : MapperAction → Option Proxy
  | .semWait => onlyIf (s.mapperPc = .waiting ∧ 0 < s.reqSema) { s with reqSema := s.reqSema - 1, mapperPc := .woken }
  | .chainGet =>
    match s.reqChain with
    | [] => onlyIf (s.mapperPc = .woken) { s with mapperPc := .waiting }
    | task :: rest =>
      (s.tasks task).bind fun object =>
        onlyIf (s.mapperPc = .woken)
          { s with reqChain := rest, dataObj := dataFor object, mapperPc := .decoding task }
  | .processJsonToBinary task result written =>
    (s.tasks task).bind fun object =>
      onlyIf (s.mapperPc = .decoding task)
        (if result ≠ 0 then
          { s with dataObj := written, tasks := update s.tasks task (some (withResult object written))
                   mapperPc := .answering task }
        else { s with dataObj := written, mapperPc := .working task })
  | .processWork task written =>
    onlyIf (s.mapperPc = .working task) { s with dataObj := written, mapperPc := .encoding task }
  | .processBinaryToJson task written =>
    (s.tasks task).bind fun object =>
      onlyIf (s.mapperPc = .encoding task)
        { s with dataObj := written, tasks := update s.tasks task (some (withResult object written))
                 mapperPc := .answering task }
  | .putIdent task put =>
    (s.tasks task).bind fun object =>
      onlyIf (s.mapperPc = .answering task)
        (if put then { s with respChain := s.respChain ++ [object.ident], mapperPc := .waking }
        else { s with mapperPc := .waiting })
  | .wakeup => onlyIf (s.mapperPc = .waking) { s with respSema := s.respSema + 1, mapperPc := .waiting }

/-- One step of the thread that sends the results. -/
def replyStep (s : Proxy) : ReplyAction → Option Proxy
  | .semWait => onlyIf (s.replyPc = .waiting ∧ 0 < s.respSema) { s with respSema := s.respSema - 1, replyPc := .woken }
  | .chainGet =>
    match s.respChain with
    | [] => onlyIf (s.replyPc = .woken) { s with replyPc := .waiting }
    | respId :: rest => onlyIf (s.replyPc = .woken) { s with respChain := rest, replyPc := .removing respId }
  | .removeTask respId =>
    match s.reqRespChain.find? (s.identifies respId) with
    | none => onlyIf (s.replyPc = .removing respId) { s with replyPc := .waiting }
    | some task =>
      onlyIf (s.replyPc = .removing respId)
        { s with reqRespChain := s.reqRespChain.eraseP (s.identifies respId), replyPc := .replying task }
  | .sendResult task put =>
    (s.tasks task).bind fun object =>
      onlyIf (s.replyPc = .replying task)
        { s.sendJsonObject lib task object.netData (resultObject object) put with replyPc := .releasing task }
  | .release task =>
    onlyIf (s.replyPc = .releasing task) { s with tasks := update s.tasks task none, replyPc := .waiting }

def step (s : Proxy) : ProxyAction → Option Proxy
  | .arrival action => s.arrivalStep lib rpcCallList action
  | .mapper action => s.mapperStep action
  | .reply action => s.replyStep lib action

/-- Allocations and `chain_put` succeed in this step. -/
def AllocationSucceeds (_ : Proxy) (action : ProxyAction) : Prop := action.put = true

instance (s : Proxy) (action : ProxyAction) : Decidable (s.AllocationSucceeds action) :=
  inferInstanceAs (Decidable (action.put = true))

/-- A call of the method `get`. -/
def sampleText : List Byte := ascii "\x7b\"id\":7,\"method\":\"get\"\x7d"

def sampleCommand : RpcCommand := { method := ascii "get", methodIndex := 3 }

def sampleCall : Request :=
  { ident := 1, sockDescriptor := 7, port := 40000, ip := [], cltid := 1, data := sampleText, serial := 0,
    arrivedOn := [0] }

mutual

/-- A value as `JSON_C_TO_STRING_SPACED` prints it, for texts without escapes. -/
def spaced : Json → List Byte
  | .null => ascii "null"
  | .boolean true => ascii "true"
  | .boolean false => ascii "false"
  | .double text => text
  | .int n => ascii (toString n)
  | .string text => ascii "\"" ++ text ++ ascii "\""
  | .array elements => ascii "[ " ++ spacedElements elements ++ ascii " ]"
  | .object members => ascii "\x7b " ++ spacedMembers members ++ ascii " \x7d"

def spacedElements : List Json → List Byte
  | [] => []
  | [element] => spaced element
  | element :: rest => spaced element ++ ascii ", " ++ spacedElements rest

def spacedMembers : List (List Byte × Json) → List Byte
  | [] => []
  | [(key, value)] => ascii "\"" ++ key ++ ascii "\": " ++ spaced value
  | (key, value) :: rest => ascii "\"" ++ key ++ ascii "\": " ++ spaced value ++ ascii ", " ++ spacedMembers rest

end

/-- json-c as far as the sample call and its response need it. -/
def sampleLib : JsonC where
  tokenerParse text :=
    if text = sampleText then some (.object [(ascii "id", .int 7), (ascii "method", .string (ascii "get"))]) else none
  getString
    | .string text => some text
    | value => some (spaced value)
  getInt
    | .int n => max (-2 ^ 31) (min n (2 ^ 31 - 1))
    | _ => 0
  toJsonString value := some (spaced value)

theorem sampleLib_documented : sampleLib.Documented where
  getInt_int n low high := by
    simp only [sampleLib]
    omega
  getString_int _ := rfl
  prints _ := rfl

/-- The listen thread hands a call like the sample over to the mapper. -/
def handingOver (number : Nat) (req : Request) : List ProxyAction :=
  [.arrival (.process number req), .arrival (.create number req 7 sampleCommand .sync true),
   .arrival (.store number req 7 true), .arrival (.handOver number req 7 true), .arrival .wakeup]

/-- The mapper and the reply thread answer it. -/
def working (number : Nat) (ident : Int) : List ProxyAction :=
  [.mapper .semWait, .mapper .chainGet, .mapper (.processJsonToBinary number 0 noData),
   .mapper (.processWork number noData),
   .mapper (.processBinaryToJson number { noData with mapperResult := .success }), .mapper (.putIdent number true),
   .mapper .wakeup, .reply .semWait, .reply .chainGet, .reply (.removeTask ident), .reply (.sendResult number true),
   .reply (.release number)]

end Proxy
end JsonRpcTcp
