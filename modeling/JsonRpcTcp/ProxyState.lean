import JsonRpcTcp.JsonChecker
import JsonRpcTcp.ServerState

namespace JsonRpcTcp

/-- A value of json-c, which represents `null` by a null pointer. A double keeps
the text it was parsed from. -/
inductive Json where
  | null
  | boolean (value : Bool)
  | double (text : List Byte)
  | int (value : Int)
  | string (text : List Byte)
  | array (elements : List Json)
  | object (members : List (List Byte × Json))
  deriving Repr

namespace Json

/-- The member of an object under a name. json-c keeps one for each name. -/
def member : Json → List Byte → Option Json
  | .object members, key => members.lookup key
  | _, _ => none

/-- `json_object_object_get`: a null pointer also for a member that is `null`. -/
def objectGet (value : Json) (key : List Byte) : Option Json :=
  match value.member key with
  | some .null => none
  | found => found

end Json

/-- The functions of json-c that the proxy calls, on values that are no null
pointer. -/
structure JsonC where
  tokenerParse : List Byte → Option Json
  getString : Json → Option (List Byte)
  getInt : Json → Int
  toJsonString : Json → Option (List Byte)

/-- What json-c documents of them while it finds memory: integers in the range of
an int keep their value, and every value has a text. -/
structure JsonC.Documented (lib : JsonC) : Prop where
  getInt_int : ∀ n : Int, -2 ^ 31 ≤ n → n < 2 ^ 31 → lib.getInt (.int n) = n
  getString_int : ∀ n : Int, (lib.getString (.int n)).isSome = true
  prints : ∀ value, (lib.toJsonString value).isSome = true

/-- `JSON_RPC_ERR_TYPE`. -/
inductive RpcError where
  | parseError | invalidReq | methodNotFound | invalidParams | internalError | unknownError
  deriving DecidableEq, Repr

namespace RpcError

def code : RpcError → Int
  | .parseError => -32700
  | .invalidReq => -32600
  | .methodNotFound => -32601
  | .invalidParams => -32602
  | .internalError => -32603
  | .unknownError => -33000

def message : RpcError → List Byte
  | .parseError => ascii "Parse error."
  | .invalidReq => ascii "Invalid Request."
  | .methodNotFound => ascii "Method not found."
  | .invalidParams => ascii "Invalid params."
  | .internalError | .unknownError => ascii "Internal error."

/-- Whether the response repeats the id of the request. -/
def keepsId : RpcError → Bool
  | .methodNotFound | .invalidParams => true
  | _ => false

end RpcError

/-- `CMD_TASK_RESULT`. -/
inductive TaskResult where
  | fail | success | invalidParam | devTimeout | devErr | memFail | inProgress | notStarted | actualValue | unknown
  deriving DecidableEq, Repr

/-- `CMD_TASK_ACC`. -/
inductive TaskAccess where
  | sync | async | none
  deriving DecidableEq, Repr

/-- `ADJsonRpcCommand`: a method that a mapper registered. Its `pProducer` is the
proxy that holds it and its `pParent` the mapper. -/
structure RpcCommand where
  method : List Byte
  methodIndex : Int
  deriving DecidableEq, Repr

/-- `JSON_RPC_METHOD_NAME_MAX_LENGTH`. -/
def methodNameMaxLength : Nat := 256

/-- `JSON_RPC_METHOD_RESP_MAX_LENGTH`, also the size of `result_string`. -/
def methodRespMaxLength : Nat := 1100

/-- `attach_rpc_method` of the proxy: its result and the method list. -/
def attachRpcMethod (rpcCallList : List RpcCommand) (methodName : List Byte) (methodIndex : Int) :
    Int × List RpcCommand :=
  if methodName.length ≥ methodNameMaxLength then (-1, rpcCallList)
  else (0, rpcCallList ++ [{ method := methodName, methodIndex := methodIndex }])

/-- `is_this_method_registered`. -/
def isThisMethodRegistered (rpcCallList : List RpcCommand) (rpcMethod : List Byte) : Option RpcCommand :=
  rpcCallList.find? fun command => command.method == rpcMethod

section
variable (lib : JsonC) (rpcCallList : List RpcCommand)

/-- `json_object_get_string` of a member, as a C string. -/
def memberString (object : Json) (key : List Byte) : Option (List Byte) :=
  ((object.objectGet key).bind lib.getString).map cString

/-- `get_jsonrpc_method`. -/
def getJsonrpcMethod (object : Json) : Option RpcCommand := do
  let method ← memberString lib object (ascii "method")
  if method.length ≥ methodNameMaxLength then none
  else isThisMethodRegistered rpcCallList method

/-- `get_jsonrpc_acc`. -/
def getJsonrpcAcc (object : Json) : TaskAccess :=
  match memberString lib object (ascii "access") with
  | none => .sync
  | some access => if access = ascii "async" then .async else .sync

/-- `get_jsonrpc_id`: the id, or `none` where the source returns -1. -/
def getJsonrpcId (object : Json) : Option Int := do
  let id ← object.objectGet (ascii "id")
  let _ ← lib.getString id
  return lib.getInt id

/-- What becomes of a request: an error response with a `json_req_id`, or a task
for the mapper. -/
inductive RequestVerdict where
  | refuse (errType : RpcError) (jsonReqId : Int)
  | dispatch (jsonReqId : Int) (rpcMethod : RpcCommand) (access : TaskAccess)
  deriving DecidableEq, Repr

/-- `json_process_request` up to the allocation of the task. -/
def jsonProcessRequest (data : List Byte) : RequestVerdict :=
  if data.head? = some 0x5b then .refuse .invalidReq 0
  else if jsonCheckerFunction data ≠ 0 then .refuse .parseError 0
  else match lib.tokenerParse (cString data) with
    | none => .refuse .parseError 0
    | some object => match getJsonrpcId lib object with
      | none => .refuse .invalidReq 0
      | some id => match getJsonrpcMethod lib rpcCallList object with
        | none => .refuse .methodNotFound id
        | some command => .dispatch id command (getJsonrpcAcc lib object)

end

/-- The object of `json_send_error_response_string`. -/
def errorObject (id : Int) (errType : RpcError) : Json :=
  .object [(ascii "jsonrpc", .string (ascii "2.0")),
    (ascii "error", .object [(ascii "code", .int errType.code), (ascii "message", .string errType.message)]),
    (ascii "id", if errType.keepsId then .int id else .null)]

/-- `api_task_obj`. -/
structure ApiTask where
  ident : Int
  reqId : Int
  netData : Request
  rpcMethod : RpcCommand
  access : TaskAccess
  taskResult : TaskResult
  jsonRespObj : Option Json
  customResultString : List Byte
  deriving Repr

/-- The `result_string` of `json_send_new_result`. -/
def resultString (task : ApiTask) : List Byte :=
  (match task.taskResult with
    | .fail => ascii "Fail"
    | .success => ascii "Success"
    | .invalidParam => ascii "ParamError"
    | .devTimeout => ascii "Timeout"
    | .devErr => ascii "DevError"
    | .memFail => ascii "MemError"
    | .inProgress => ascii "InProgress"
    | .actualValue => cString task.customResultString
    | .unknown | .notStarted => ascii "Unknown").take (methodRespMaxLength - 1)

/-- The object of `json_send_result_response_string` for a task. -/
def resultObject (task : ApiTask) : Json :=
  .object [(ascii "jsonrpc", .string (ascii "2.0")),
    (ascii "result", task.jsonRespObj.getD
      (.object [(ascii "return", .string (ascii "fail")), (ascii "errorType", .string (resultString task))])),
    (ascii "id", .int task.reqId)]

/-- `JsonDataCommObj`, by which the mapper's thread talks to the handlers. -/
structure JsonDataComm where
  reqId : Int
  cmdIndex : Int
  mapperResult : TaskResult
  workerResult : Int
  socketData : List Byte
  jsonRespObj : Option Json
  customResultString : List Byte
  cltport : Int
  ip : List Byte
  sockId : Int
  sockDescr : Nat
  deriving Repr

/-- Program points of the listen thread inside `on_data_arrival`, with the
position of the request among those taken. A task object is named by the
position of its request. -/
inductive ArrivalPc where
  | idle
  | processing (number : Nat) (req : Request)
  | refusing (number : Nat) (req : Request) (errType : RpcError) (jsonReqId : Int)
  | creating (number : Nat) (req : Request) (jsonReqId : Int) (rpcMethod : RpcCommand) (access : TaskAccess)
  | storing (number : Nat) (req : Request) (jsonReqId : Int)
  | handingOver (number : Nat) (req : Request) (jsonReqId : Int)
  | waking
  | undoing (number : Nat) (req : Request) (jsonReqId : Int)
  deriving DecidableEq, Repr

/-- Program points of the mapper's `ReqThread`, with its task. -/
inductive MapperPc where
  | waiting
  | woken
  | decoding (task : Nat)
  | working (task : Nat)
  | encoding (task : Nat)
  | answering (task : Nat)
  | waking
  deriving DecidableEq, Repr

/-- Program points of the proxy's `RespThread`. -/
inductive ReplyPc where
  | waiting
  | woken
  | removing (respId : Int)
  | replying (task : Nat)
  | releasing (task : Nat)
  deriving DecidableEq, Repr

/-- A call of `schedule_response` that put its response into the chain, with the
position of the request it was made for. -/
structure Reply where
  number : Nat
  object : Json
  response : Response
  deriving Repr

/-- `ADJsonRpcProxy` and the `ADJsonRpcMapper` attached to it, with the objects
they share: the semaphores of their threads count the wakeups not consumed. -/
structure Proxy where
  pc : ArrivalPc
  mapperPc : MapperPc
  dataObj : JsonDataComm
  replyPc : ReplyPc
  tasks : Nat → Option ApiTask
  identGenerator : Int
  reqRespChain : List Nat
  reqChain : List Nat
  reqSema : Nat
  respChain : List Int
  respSema : Nat
  -- history, not in the source: every request taken and every response scheduled
  taken : List Request
  scheduled : List Reply

namespace Proxy

/-- `DataObj` before the first request. -/
def noData : JsonDataComm :=
  { reqId := 0, cmdIndex := 0, mapperResult := .unknown, workerResult := -1, socketData := [],
    jsonRespObj := none, customResultString := [], cltport := 0, ip := [], sockId := 0, sockDescr := 0 }

/-- Both threads run and wait, and every chain is empty. -/
def start : Proxy where
  pc := .idle
  mapperPc := .waiting
  dataObj := noData
  replyPc := .waiting
  tasks := fun _ => none
  identGenerator := 0
  reqRespChain := []
  reqChain := []
  reqSema := 0
  respChain := []
  respSema := 0
  taken := []
  scheduled := []

end Proxy
end JsonRpcTcp
