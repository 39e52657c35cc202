import JsonRpcTcp.ClientStep
import JsonRpcTcp.Lib.Decimal
import JsonRpcTcp.Lib.Upsert
import JsonRpcTcp.MiddlewareRpc

namespace JsonRpcTcp

/-! What a call of `ADJsonRpcClient` sends, and what its caller gets out of the response. -/

/-- `json_object_object_add`, which replaces a member of that name. -/
def Json.objectAdd (object : Json) (key : List Byte) (value : Json) : Json :=
  match object with
  | .object members => .object (upsert Prod.fst key (fun _ => (key, value)) (key, value) members)
  | other => other

/-- What a call passes as an int or as a C string. -/
inductive RpcValue where
  | int (value : Int32)
  | string (text : List Byte)
  deriving DecidableEq, Repr

namespace RpcValue

/-- `json_object_new_int` and `json_object_new_string`. -/
def toJson : RpcValue → Json
  | .int value => .int value.toInt
  | .string text => .string (cString text)

/-- The text that `json_object_get_string` gives for it. -/
def text : RpcValue → List Byte
  | .int value => decimal value.toInt
  | .string text => cString text

end RpcValue

/-- A name with a value. -/
abbrev RpcArg := List Byte × RpcValue

def Json.addAll (object : Json) (args : List RpcArg) : Json :=
  args.foldl (fun object arg => object.objectAdd arg.1 arg.2.toJson) object

/-- The request of a call. No two of its arguments have the same name, and it fits in the
tables of the server. -/
structure ClientCall where
  method : List Byte
  args : List RpcArg
  noZero : (0 : Byte) ∉ method
  short : method.length < methodNameMaxLength
  distinct : (args.map Prod.fst).Nodup

namespace ClientCall

/-- `main_object` before it has parameters and an id. -/
def header (call : ClientCall) : Json :=
  ((Json.object []).objectAdd (ascii "jsonrpc") (.string (ascii "2.0"))).objectAdd (ascii "method")
    (.string (cString call.method))

/-- The overloads of `prepare_json_request`, and its variants by other names. The one
without parameters leaves `params` out. -/
def prepareJsonRequest (call : ClientCall) (id : Int32) : Json :=
  (if call.args = [] then call.header
    else call.header.objectAdd (ascii "params") ((Json.object []).addAll call.args)).objectAdd (ascii "id") (.int id.toInt)

end ClientCall

section Client
variable (lib : JsonC) (outSize : Nat) (jsonString : List Byte)

/-- `store_request`: `tx_id` and `tx_msg`. Without memory for the text it has no result. -/
def storeRequest (request : Json) : Option (Int × List Byte) :=
  (lib.toJsonString request).map fun text => (((request.objectGet (ascii "id")).map lib.getInt).getD (-1), text)

/-- `set_output_size`. -/
def setOutputSize (size : Nat) : Nat := max 1 (min size methodRespMaxLength)

/-- `copy_out`. -/
def copyOut (src : List Byte) : List Byte := (cString src).take (outSize - 1)

/-- The parameters of a response behind its result, up to the first that is missing. -/
def readParams {α : Type} (read : Json → Option α) (object : Json) : List (List Byte) → List α
  | [] => []
  | name :: rest =>
    match (object.objectGet name).bind read with
    | none => []
    | some value => value :: readParams read object rest

/-- The functions `find_json_result_…`: the result and as many of the parameters as there
are. `none` is a return value of -1. -/
def findJsonResultAnd {α : Type} (read : Json → Option α) (names : List (List Byte)) : Option (List Byte × List α) := do
  let newObj ← lib.tokenerParse (cString jsonString)
  let newObj1 ← newObj.objectGet (ascii "result")
  let _ ← lib.getString newObj1
  let newObj2 ← newObj1.objectGet (ascii "return")
  let text ← lib.getString newObj2
  return (copyOut outSize text, readParams read newObj1 names)

/-- `find_json_result`. -/
def findJsonResult : Option (List Byte) :=
  (findJsonResultAnd lib outSize jsonString (fun _ => none (α := Unit)) []).map Prod.fst

/-- `find_json_result_and_single_string_param` for a string. -/
def findJsonResultAndSingleStringParam (name : List Byte) : Option (List Byte × List (List Byte)) :=
  findJsonResultAnd lib outSize jsonString (fun value => (lib.getString value).map (copyOut outSize)) [name]

/-- `find_json_result_and_single_string_param` for an int. -/
def findJsonResultAndSingleIntParam (name : List Byte) : Option (List Byte × List Int32) :=
  findJsonResultAnd lib outSize jsonString
    (fun value => (lib.getString value).map fun _ => Int32.ofInt (lib.getInt value)) [name]

/-- `find_json_result_and_two_int_param` and `find_json_result_and_four_int_param`. -/
def findJsonResultAndIntParams (names : List (List Byte)) : Option (List Byte × List Int32) :=
  findJsonResultAnd lib outSize jsonString (fun value => (lib.getString value).map atoi) names

end Client

/-- The results before `RPC_SRV_RESULT_NONE`, in the order of the table. -/
def rpcServerResults : List RpcResult :=
  [.success, .fail, .inProg, .busy, .notStarted, .timeout, .argError, .memError, .busError, .actionNotAllowed,
    .devNotAccessible, .fileNotFound, .featureNotAvailable, .featureUnsupported, .taskIdNotFound, .valueOutOfRange,
    .fileOpenErr, .fileReadErr, .fileWriteErr, .fileSame, .fileDifferent, .hostNotReachableErr, .resend,
    .csExposureErr, .csI2cErr, .itemNotFound, .fileError, .devinfoError, .fileEmpty, .itemDuplicateFound,
    .unknownCommand, .devnodeAccerr, .devnodeOpenerr, .offlineNode, .unknown]

/-- `convert_string_to_server_result`. -/
def convertStringToServerResult (resultString : List Byte) : RpcResult :=
  (rpcServerResults.find? fun result => result.text = cString resultString).getD .unknown

section Calls
variable (lib : JsonC) (outSize : Nat)

/-- What the setters return for the text of the response, which is empty if there was none. -/
def setterResult (rxJson : List Byte) : RpcResult :=
  (findJsonResult lib outSize rxJson).elim .unknown convertStringToServerResult

/-- What the getters return: the result, and the values of the parameters that were there. -/
def getterResult {α : Type} (found : Option (List Byte × List α)) : RpcResult × List α :=
  found.elim (.unknown, []) fun values => (convertStringToServerResult values.1, values.2)

/-- `get_string_type`, whose value is `NotFound` at first. -/
def getStringType (rxJson paramName : List Byte) : RpcResult × List Byte :=
  let found := getterResult (findJsonResultAndSingleStringParam lib outSize rxJson paramName)
  (found.1, found.2.headD (copyOut outSize (ascii "NotFound")))

/-- `get_four_int_type`, whose variables keep their values where the response has none. -/
def getFourIntType (rxJson : List Byte) (params : List (List Byte × Int32)) : RpcResult × List Int32 :=
  let found := getterResult (findJsonResultAndIntParams lib outSize rxJson (params.map Prod.fst))
  (found.1, found.2 ++ (params.map Prod.snd).drop found.2.length)

end Calls

/-- A response of a mapper. None of its parameters has the name of the result or of another
one. -/
structure RpcReply where
  result : RpcResult
  params : List RpcArg
  distinct : (ascii "return" :: params.map Prod.fst).Nodup

/-- The overloads of `prepare_result_string`. -/
def RpcReply.prepareResultString (reply : RpcReply) : Json :=
  ((Json.object []).objectAdd (ascii "return")
    (.string (Middleware.convertServerResultToString reply.result))).addAll reply.params

/-- `JSON_STRING_TO_INT`. -/
def jsonStringToInt (lib : JsonC) (data name : List Byte) : Option Int32 :=
  (findSingleParam lib data name paramValueSize).map atoi

/-! The members of an object that was put together. -/

namespace Json
variable {key other : List Byte} {value object : Json} {args : List RpcArg}

def IsObject (value : Json) : Prop := ∃ members, value = .object members

theorem isObject_new (members : List (List Byte × Json)) : (Json.object members).IsObject := ⟨members, rfl⟩

theorem IsObject.objectAdd (isObject : object.IsObject) : (object.objectAdd key value).IsObject := by
  obtain ⟨members, rfl⟩ := isObject
  exact isObject_new _

theorem IsObject.addAll (isObject : object.IsObject) : (object.addAll args).IsObject := by
  induction args generalizing object with
  | nil => exact isObject
  | cons arg args ih => exact ih isObject.objectAdd

theorem lookup_eq_find (members : List (List Byte × Json)) (key : List Byte) :
    members.lookup key = (members.find? fun entry => entry.1 = key).map Prod.snd := by
  induction members with
  | nil => rfl
  | cons entry members ih =>
    obtain ⟨name, value⟩ := entry
    by_cases here : name = key
    · subst here
      simp
    · have other : (key == name) = false := beq_eq_false_iff_ne.mpr (Ne.symm here)
      rw [List.lookup_cons, other, List.find?_cons_of_neg (by simpa using here)]
      exact ih

theorem member_objectAdd (isObject : object.IsObject) :
    (object.objectAdd key value).member other = if other = key then some value else object.member other := by
  obtain ⟨members, rfl⟩ := isObject
  simp only [Json.objectAdd, member, lookup_eq_find]
  rw [find_upsert Prod.fst key _ _ members (fun _ _ => rfl) rfl other]
  split_ifs with same
  · cases members.find? fun entry => entry.1 = key <;> rfl
  · rfl

theorem member_objectAdd_self (isObject : object.IsObject) : (object.objectAdd key value).member key = some value :=
  (member_objectAdd isObject).trans (if_pos rfl)

theorem member_objectAdd_other (isObject : object.IsObject) (different : other ≠ key) :
    (object.objectAdd key value).member other = object.member other :=
  (member_objectAdd isObject).trans (if_neg different)

/-- The members under other names stay. -/
theorem member_addAll_other (isObject : object.IsObject) (absent : key ∉ args.map Prod.fst) :
    (object.addAll args).member key = object.member key := by
  induction args generalizing object with
  | nil => rfl
  | cons arg args ih =>
    obtain ⟨here, there⟩ := List.ne_and_not_mem_of_not_mem_cons absent
    exact (ih isObject.objectAdd there).trans (member_objectAdd_other isObject here)

theorem member_addAll (isObject : object.IsObject) (distinct : (args.map Prod.fst).Nodup) {arg : RpcArg}
    (member : arg ∈ args) : (object.addAll args).member arg.1 = some arg.2.toJson := by
  induction args generalizing object with
  | nil => exact absurd member List.not_mem_nil
  | cons first args ih =>
    rw [List.map_cons, List.nodup_cons] at distinct
    rcases List.mem_cons.mp member with rfl | later
    · exact (member_addAll_other isObject.objectAdd distinct.1).trans (member_objectAdd_self isObject)
    · exact ih isObject.objectAdd distinct.2 later

theorem objectGet_of_member {found : Json} (there : object.member key = some found) (present : found ≠ .null) :
    object.objectGet key = some found := by
  unfold objectGet
  rw [there]
  cases found <;> first | rfl | exact absurd rfl present

theorem objectGet_of_no_member (missing : object.member key = none) : object.objectGet key = none := by
  unfold objectGet
  rw [missing]

end Json

theorem RpcValue.toJson_ne_null (value : RpcValue) : value.toJson ≠ .null := by
  cases value <;> exact Json.noConfusion

end JsonRpcTcp
