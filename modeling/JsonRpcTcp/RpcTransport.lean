import JsonRpcTcp.CheckerFraming
import JsonRpcTcp.CheckerLanguage
import JsonRpcTcp.ProxyAnswers
import JsonRpcTcp.RpcCalls

namespace JsonRpcTcp
open JsonText

/-- What json-c documents of the functions that take a value apart. -/
structure JsonC.Reads (lib : JsonC) : Prop where
  getString_string : ∀ text, lib.getString (.string text) = some text
  getString_int : ∀ n : Int32, lib.getString (.int n.toInt) = some (decimal n.toInt)
  getString_object : ∀ members, (lib.getString (.object members)).isSome = true
  getInt_int : ∀ n : Int32, lib.getInt (.int n.toInt) = n.toInt

/-- json-c prints an object without real numbers as such a JSON text, from which it parses
the same object. -/
structure JsonC.Transmits (lib : JsonC) (object : Json) (text : List Byte) : Prop where
  prints : lib.toJsonString object = some text
  isText : IsText Integer 2 text
  noZero : (0 : Byte) ∉ text
  opens : text.head? = some 0x7b
  closes : text.getLast? = some 0x7d
  parses : lib.tokenerParse text = some object

theorem checkerNumber_of_integer {text rest : List Byte} (integer : Integer text rest) : CheckerNumber text rest := by
  have unsigned : ∀ {text}, Natural text rest → Unsigned text rest := by
    intro text natural
    cases natural with
    | zero => exact .zero rest
    | positive first nonzero digits => exact .whole first nonzero digits (.none (.none rest))
  cases integer with
  | natural natural => exact .positive (unsigned natural)
  | negative natural => exact .negative (unsigned natural)

namespace JsonC.Transmits
variable {lib : JsonC} {object : Json} {text : List Byte}

theorem cString_eq (transmits : lib.Transmits object text) : cString text = text := cString_of_no_zero transmits.noZero

theorem accepted (transmits : lib.Transmits object text) : jsonCheckerFunction text = 0 := by
  have checked : IsText CheckerNumber 19 text :=
    transmits.isText.mono (fun _ _ => checkerNumber_of_integer) (by decide)
  refine jsonCheckerFunction_eq_zero.mpr ?_
  rw [transmits.cString_eq]
  exact (JsonChecker.finishes_go (by decide)).mpr checked

/-- The checker accepts it, so it is one message for the framer. -/
theorem isMessage (transmits : lib.Transmits object text) : IsMessage text := by
  obtain ⟨leading, message, trailing, shape, whole, before, after⟩ := jsonCheckerFunction_accepts transmits.accepted
  have trimmed : Trimmed isBlank text := by
    constructor
    · rw [transmits.opens]
      rfl
    · rw [transmits.closes]
      rfl
  rw [transmits.cString_eq] at shape
  have same : message = text := by
    rw [← trim_of_trimmed trimmed, shape, trim_between whole.trimmed before after]
  exact same ▸ whole

end JsonC.Transmits

open Framer FramerCall in
/-- Messages that are sent one behind the other arrive as they are, in any chunks. -/
theorem delivered_messages {maxMsg : Nat} {texts : List (List Byte)} (messages : ∀ text ∈ texts, IsMessage text)
    (fit : ∀ text ∈ texts, text.length ≤ maxMsg) {calls : List FramerCall} (sent : stream calls = texts.flatten) :
    (performAll (Framer.new maxMsg) calls).1 ++ (performAll (Framer.new maxMsg) calls).2.ready = texts ∧
      (performAll (Framer.new maxMsg) calls).2.hasError = false := by
  have represents := performAll_represents calls (represents_new maxMsg)
  rw [Transducer.resume_some, List.nil_append, List.nil_append] at represents
  obtain ⟨emitted, failed, -⟩ := represents.observed
  have ofTexts : ∀ part ∈ texts.map fun text => (([] : List Byte), text), part.1 = [] ∧ part.2 ∈ texts := by
    intro part member
    obtain ⟨text, inside, rfl⟩ := List.mem_map.mp member
    exact ⟨rfl, inside⟩
  obtain ⟨t, run, -⟩ := @MessageScan.run_parts maxMsg (texts.map fun text => ([], text)) MessageScan.idle ⟨rfl, rfl⟩
    (fun part member => messages _ (ofTexts part member).2)
    (fun part member c inside => by
      rw [(ofTexts part member).1] at inside
      exact absurd inside List.not_mem_nil)
    (fun part member => fit _ (ofTexts part member).2)
  have joined : (texts.map fun text => (([] : List Byte), text)).flatMap (fun part => part.1 ++ part.2) = stream calls := by
    rw [sent, List.flatMap_map, ← List.flatMap_id]
    rfl
  rw [joined] at run
  rw [run] at emitted failed
  refine ⟨emitted.trans ?_, failed⟩
  rw [List.map_map]
  exact List.map_id texts

/-! The members of requests and responses. -/

namespace ClientCall
variable {call : ClientCall} {id : Int32}

theorem header_isObject : call.header.IsObject := (Json.isObject_new []).objectAdd.objectAdd

/-- The members under other names than that of the id. -/
theorem prepareJsonRequest_member {key : List Byte} (other : key ≠ ascii "id") :
    (call.prepareJsonRequest id).member key =
      if key = ascii "params" ∧ call.args ≠ [] then some ((Json.object []).addAll call.args)
      else call.header.member key := by
  unfold prepareJsonRequest
  by_cases empty : call.args = []
  · rw [if_pos empty, Json.member_objectAdd_other header_isObject other, if_neg (by simp [empty])]
  · rw [if_neg empty, Json.member_objectAdd_other header_isObject.objectAdd other,
      Json.member_objectAdd header_isObject]
    by_cases params : key = ascii "params"
    · rw [if_pos params, if_pos ⟨params, empty⟩]
    · rw [if_neg params, if_neg (by simp [params])]

theorem prepareJsonRequest_id : (call.prepareJsonRequest id).objectGet (ascii "id") = some (.int id.toInt) := by
  refine Json.objectGet_of_member (Json.member_objectAdd_self ?_) Json.noConfusion
  split_ifs
  · exact header_isObject
  · exact header_isObject.objectAdd

theorem prepareJsonRequest_method :
    (call.prepareJsonRequest id).objectGet (ascii "method") = some (.string (cString call.method)) := by
  refine Json.objectGet_of_member ?_ Json.noConfusion
  rw [prepareJsonRequest_member (by decide +kernel), if_neg (not_and_of_not_left _ (by decide +kernel))]
  exact Json.member_objectAdd_self (Json.isObject_new []).objectAdd

theorem prepareJsonRequest_access : (call.prepareJsonRequest id).objectGet (ascii "access") = none := by
  refine Json.objectGet_of_no_member ?_
  rw [prepareJsonRequest_member (by decide +kernel), if_neg (not_and_of_not_left _ (by decide +kernel))]
  unfold header
  rw [Json.member_objectAdd_other (Json.isObject_new []).objectAdd (by decide +kernel),
    Json.member_objectAdd_other (Json.isObject_new []) (by decide +kernel)]
  rfl

theorem prepareJsonRequest_params (some : call.args ≠ []) :
    (call.prepareJsonRequest id).objectGet (ascii "params") = Option.some ((Json.object []).addAll call.args) := by
  obtain ⟨members, same⟩ := @Json.IsObject.addAll _ call.args (Json.isObject_new [])
  refine Json.objectGet_of_member ?_ (same ▸ Json.noConfusion)
  rw [prepareJsonRequest_member (by decide +kernel), if_pos ⟨rfl, some⟩]

/-- A parameter of the request, wherever the call has arguments. -/
theorem objectGet_params {object : Json} {name : List Byte} (args : call.args ≠ [])
    (found : ((Json.object []).addAll call.args).objectGet name = some object) {lib : JsonC} (reads : lib.Reads)
    {text : List Byte} (sent : lib.Transmits (call.prepareJsonRequest id) text) :
    paramText lib text name = lib.getString object := by
  obtain ⟨members, same⟩ := @Json.IsObject.addAll _ call.args (Json.isObject_new [])
  obtain ⟨printed, prints⟩ := Option.isSome_iff_exists.mp (reads.getString_object members)
  have params := @prepareJsonRequest_params call id args
  rw [same] at found params
  unfold paramText
  simp only [sent.cString_eq, sent.parses, Option.bind_eq_bind, Option.bind_some, params, found, prints]

end ClientCall

namespace RpcValue
variable {lib : JsonC}

theorem getString_toJson (reads : lib.Reads) (value : RpcValue) : lib.getString value.toJson = some value.text := by
  cases value with
  | int value => exact reads.getString_int value
  | string text => exact reads.getString_string (cString text)

end RpcValue

/-- One call with its request, the answer that a mapper gives to it, and its response. -/
structure Exchange (lib : JsonC) (rpcCallList : List RpcCommand) where
  call : ClientCall
  reqId : Int32
  request : List Byte
  sent : lib.Transmits (call.prepareJsonRequest reqId) request
  rpcMethod : RpcCommand
  registered : isThisMethodRegistered rpcCallList call.method = some rpcMethod
  reply : RpcReply
  task : ApiTask
  ofRequest : task.reqId = reqId.toInt
  ofReply : task.jsonRespObj = some reply.prepareResultString
  response : List Byte
  replied : lib.Transmits (resultObject task) response

/-- How the client sees a result. -/
def RpcResult.reported (result : RpcResult) : RpcResult := if result = .none then .unknown else result

namespace Exchange
variable {lib : JsonC} {rpcCallList : List RpcCommand} (e : Exchange lib rpcCallList) (outSize : Nat)

/-- The server takes out of the request what the client put into it. -/
structure Served : Prop where
  stored : storeRequest lib (e.call.prepareJsonRequest e.reqId) = some (e.reqId.toInt, e.request)
  dispatched : jsonProcessRequest lib rpcCallList e.request = .dispatch e.reqId.toInt e.rpcMethod .sync
  texts : ∀ arg ∈ e.call.args, findSingleParam lib e.request arg.1 paramValueSize = some (keptText arg.2.text)
  ints : ∀ name value, (name, .int value) ∈ e.call.args → jsonStringToInt lib e.request name = some value
  missing : ∀ name ∉ e.call.args.map Prod.fst, findSingleParam lib e.request name paramValueSize = none

/-- The client takes out of the response what the mapper put into it, and takes it for no
other response. -/
structure Received : Prop where
  matched : ∀ txId, RpcClient.isMatch lib e.response txId = true ↔ txId = e.reqId.toInt
  result : setterResult lib outSize e.response = e.reply.result.reported
  texts : ∀ arg ∈ e.reply.params,
    getStringType lib outSize e.response arg.1 = (e.reply.result.reported, copyOut outSize arg.2.text)
  missing : ∀ name ∉ ascii "return" :: e.reply.params.map Prod.fst,
    getStringType lib outSize e.response name = (e.reply.result.reported, copyOut outSize (ascii "NotFound"))
  ints : ∀ slots values,
    List.Forall₂ (fun slot value => (slot.1, RpcValue.int value) ∈ e.reply.params) slots values →
      getFourIntType lib outSize e.response slots = (e.reply.result.reported, values)

end Exchange

section Serving
variable {lib : JsonC} {rpcCallList : List RpcCommand} {e : Exchange lib rpcCallList}

theorem Exchange.paramText_member (reads : lib.Reads) {arg : RpcArg} (member : arg ∈ e.call.args) :
    paramText lib e.request arg.1 = some arg.2.text := by
  have found := Json.objectGet_of_member (Json.member_addAll (Json.isObject_new []) e.call.distinct member)
    arg.2.toJson_ne_null
  exact (ClientCall.objectGet_params (List.ne_nil_of_mem member) found reads e.sent).trans
    (arg.2.getString_toJson reads)

theorem Exchange.paramText_missing {name : List Byte} (missing : name ∉ e.call.args.map Prod.fst) :
    paramText lib e.request name = none := by
  unfold paramText
  rw [e.sent.cString_eq, e.sent.parses]
  by_cases args : e.call.args = []
  · have none : (e.call.prepareJsonRequest e.reqId).objectGet (ascii "params") = Option.none := by
      refine Json.objectGet_of_no_member ?_
      rw [ClientCall.prepareJsonRequest_member (by decide +kernel), if_neg (by simp [args])]
      unfold ClientCall.header
      rw [Json.member_objectAdd_other (Json.isObject_new []).objectAdd (by decide +kernel),
        Json.member_objectAdd_other (Json.isObject_new []) (by decide +kernel)]
      rfl
    simp only [Option.bind_eq_bind, Option.bind_some, none, Option.bind_none]
  · have absent : ((Json.object []).addAll e.call.args).objectGet name = none :=
      Json.objectGet_of_no_member (Json.member_addAll_other (Json.isObject_new []) missing)
    simp only [Option.bind_eq_bind, Option.bind_some, ClientCall.prepareJsonRequest_params args, absent,
      Option.bind_none, Option.bind_fun_none]

theorem Exchange.dispatched (reads : lib.Reads) :
    jsonProcessRequest lib rpcCallList e.request = .dispatch e.reqId.toInt e.rpcMethod .sync := by
  have id : getJsonrpcId lib (e.call.prepareJsonRequest e.reqId) = some e.reqId.toInt := by
    unfold getJsonrpcId
    simp only [ClientCall.prepareJsonRequest_id, Option.bind_eq_bind, Option.bind_some, reads.getString_int,
      reads.getInt_int]
    rfl
  have method : getJsonrpcMethod lib rpcCallList (e.call.prepareJsonRequest e.reqId) = some e.rpcMethod := by
    have named : memberString lib (e.call.prepareJsonRequest e.reqId) (ascii "method") = some e.call.method := by
      unfold memberString
      have text := cString_of_no_zero e.call.noZero
      rw [ClientCall.prepareJsonRequest_method, Option.bind_some, reads.getString_string, Option.map_some, text, text]
    unfold getJsonrpcMethod
    simp only [named, Option.bind_eq_bind, Option.bind_some, if_neg (Nat.not_le.mpr e.call.short), e.registered]
  have access : getJsonrpcAcc lib (e.call.prepareJsonRequest e.reqId) = .sync := by
    unfold getJsonrpcAcc memberString
    rw [ClientCall.prepareJsonRequest_access]
    rfl
  have object : e.request.head? ≠ some 0x5b := by
    rw [e.sent.opens]
    decide
  unfold jsonProcessRequest
  rw [if_neg object, if_neg (not_not_intro e.sent.accepted), e.sent.cString_eq, e.sent.parses]
  simp only [id, method, access]

theorem Exchange.served (reads : lib.Reads) : e.Served where
  stored := by
    unfold storeRequest
    rw [e.sent.prints, Option.map_some, ClientCall.prepareJsonRequest_id, Option.map_some, reads.getInt_int]
    rfl
  dispatched := e.dispatched reads
  texts arg member := by rw [findSingleParam_eq, e.paramText_member reads member, Option.map_some]
  ints name value member := by
    have whole : WholeText (decimal value.toInt) := by
      have short := decimal_int32_length value
      refine ⟨?_, ?_⟩
      · intro zero
        rcases decimal_bytes _ _ zero with digit | sign
        · exact absurd digit (by decide)
        · exact absurd sign (by decide)
      · have room : paramValueSize = 255 := rfl
        omega
    rw [jsonStringToInt, findSingleParam_eq, e.paramText_member reads member, Option.map_some, Option.map_some]
    exact congrArg some ((congrArg atoi (keptText_eq_iff.mpr whole)).trans (atoi_decimal value))
  missing name absent := by rw [findSingleParam_eq, e.paramText_missing absent, Option.map_none]

end Serving

namespace RpcResult

theorem text_short (result : RpcResult) : (0 : Byte) ∉ result.text ∧ result.text.length < 20 := by
  cases result <;> decide +kernel

theorem convert_text (result : RpcResult) :
    convertStringToServerResult (Middleware.convertServerResultToString result) = result.reported := by
  cases result <;> decide +kernel

end RpcResult

theorem copyOut_of_short {outSize : Nat} {text : List Byte} (noZero : (0 : Byte) ∉ text) (short : text.length < outSize) :
    copyOut outSize text = text := by
  rw [copyOut, cString_of_no_zero noZero]
  exact List.take_of_length_le (by omega)

/-- The text of a result comes back where there is room for it. -/
theorem convert_copyOut {outSize : Nat} (room : 20 ≤ outSize) (result : RpcResult) :
    convertStringToServerResult (copyOut outSize (Middleware.convertServerResultToString result)) = result.reported := by
  have short : (0 : Byte) ∉ Middleware.convertServerResultToString result ∧
      (Middleware.convertServerResultToString result).length < 20 := by
    unfold Middleware.convertServerResultToString
    split_ifs
    · exact RpcResult.unknown.text_short
    · exact result.text_short
  rw [copyOut_of_short short.1 (by omega)]
  exact result.convert_text

/-- Any size that has room for them, as far as the buffers go. -/
theorem room_setOutputSize {size : Nat} (room : 20 ≤ size) : 20 ≤ setOutputSize size := by
  have most : 20 ≤ methodRespMaxLength := by decide
  unfold setOutputSize
  omega

section Receiving
variable {lib : JsonC} {rpcCallList : List RpcCommand} {e : Exchange lib rpcCallList} {outSize : Nat}

namespace RpcReply
variable {reply : RpcReply}

theorem header_isObject : ((Json.object []).objectAdd (ascii "return")
    (.string (Middleware.convertServerResultToString reply.result))).IsObject := (Json.isObject_new []).objectAdd

theorem isObject (reply : RpcReply) : reply.prepareResultString.IsObject := header_isObject.addAll

theorem return_member : reply.prepareResultString.objectGet (ascii "return") =
    some (.string (Middleware.convertServerResultToString reply.result)) := by
  refine Json.objectGet_of_member ?_ Json.noConfusion
  refine (Json.member_addAll_other header_isObject ?_).trans (Json.member_objectAdd_self (Json.isObject_new []))
  exact (List.nodup_cons.mp reply.distinct).1

theorem param_member {arg : RpcArg} (member : arg ∈ reply.params) :
    reply.prepareResultString.objectGet arg.1 = some arg.2.toJson :=
  Json.objectGet_of_member (Json.member_addAll header_isObject (List.nodup_cons.mp reply.distinct).2 member)
    arg.2.toJson_ne_null

theorem missing_member {name : List Byte} (missing : name ∉ ascii "return" :: reply.params.map Prod.fst) :
    reply.prepareResultString.objectGet name = none := by
  obtain ⟨notReturn, noParam⟩ := List.ne_and_not_mem_of_not_mem_cons missing
  refine Json.objectGet_of_no_member ((Json.member_addAll_other header_isObject noParam).trans ?_)
  exact Json.member_objectAdd_other (Json.isObject_new []) notReturn

end RpcReply

theorem Exchange.response_result : (resultObject e.task).objectGet (ascii "result") = some e.reply.prepareResultString := by
  obtain ⟨members, same⟩ := e.reply.isObject
  refine Json.objectGet_of_member ?_ ?_
  · unfold resultObject
    rw [e.ofReply]
    rfl
  · rw [same]
    exact Json.noConfusion

/-- What the client finds in the response. -/
theorem Exchange.found (reads : lib.Reads) {α : Type} (read : Json → Option α) (names : List (List Byte)) :
    findJsonResultAnd lib outSize e.response read names =
      some (copyOut outSize (Middleware.convertServerResultToString e.reply.result),
        readParams read e.reply.prepareResultString names) := by
  obtain ⟨members, same⟩ := e.reply.isObject
  obtain ⟨printed, prints⟩ := Option.isSome_iff_exists.mp (reads.getString_object members)
  rw [← same] at prints
  unfold findJsonResultAnd
  simp only [e.replied.cString_eq, e.replied.parses, Option.bind_eq_bind, Option.bind_some, e.response_result, prints,
    RpcReply.return_member, reads.getString_string]
  rfl

theorem Exchange.matched (reads : lib.Reads) (txId : Int) :
    RpcClient.isMatch lib e.response txId = true ↔ txId = e.reqId.toInt := by
  have id : (resultObject e.task).objectGet (ascii "id") = some (.int e.reqId.toInt) := by
    refine Json.objectGet_of_member ?_ Json.noConfusion
    rw [resultObject_id, e.ofRequest]
  unfold RpcClient.isMatch
  rw [e.replied.cString_eq, e.replied.parses]
  simp only [id, Option.all_some, reads.getInt_int, beq_iff_eq]
  exact eq_comm

/-- All of the ints that the caller has a variable for. -/
theorem Exchange.readParams_ints (reads : lib.Reads) {slots : List (List Byte × Int32)} {values : List Int32}
    (there : List.Forall₂ (fun slot value => (slot.1, RpcValue.int value) ∈ e.reply.params) slots values) :
    readParams (fun value => (lib.getString value).map atoi) e.reply.prepareResultString (slots.map Prod.fst) = values := by
  induction there with
  | nil => rfl
  | @cons slot value slots values here _ ih =>
    have found : (e.reply.prepareResultString.objectGet slot.1).bind (fun value => (lib.getString value).map atoi) =
        some value := by
      rw [RpcReply.param_member here, Option.bind_some, RpcValue.getString_toJson reads, Option.map_some]
      exact congrArg some (atoi_decimal value)
    simp only [List.map_cons, readParams, found, ih]

theorem Exchange.received (reads : lib.Reads) (room : 20 ≤ outSize) : e.Received outSize where
  matched := e.matched reads
  result := by
    unfold setterResult findJsonResult
    rw [e.found reads, Option.map_some, Option.elim_some]
    exact convert_copyOut room e.reply.result
  texts arg member := by
    have text : (e.reply.prepareResultString.objectGet arg.1).bind
        (fun value => (lib.getString value).map (copyOut outSize)) = some (copyOut outSize arg.2.text) := by
      rw [RpcReply.param_member member, Option.bind_some, arg.2.getString_toJson reads, Option.map_some]
    unfold getStringType findJsonResultAndSingleStringParam getterResult
    simp only [e.found reads, Option.elim_some, readParams, text, List.headD_cons, convert_copyOut room]
  missing name absent := by
    unfold getStringType findJsonResultAndSingleStringParam getterResult
    simp only [e.found reads, Option.elim_some, readParams, RpcReply.missing_member absent, Option.bind_none,
      List.headD_nil, convert_copyOut room]
  ints slots values there := by
    have length := there.length_eq
    have all : (slots.map Prod.snd).drop values.length = [] := by
      rw [← length, ← List.length_map (f := Prod.snd)]
      exact List.drop_length
    unfold getFourIntType findJsonResultAndIntParams getterResult
    simp only [e.found reads, Option.elim_some, e.readParams_ints reads there, all, List.append_nil, convert_copyOut room]

end Receiving

section Sample
variable {depth : Nat} {rest : List Byte}

theorem many_digits {text : List Byte} (digits : ∀ c ∈ text, isDigitByte c = true) (rest : List Byte) :
    Many isDigitByte (text ++ rest) rest := by
  induction text with
  | nil => exact .none rest
  | cons c text ih =>
    exact .more (digits c List.mem_cons_self) (ih fun d member => digits d (List.mem_cons_of_mem _ member))

theorem natural_decimal (n : Nat) (rest : List Byte) : Natural (decimalNat n ++ rest) rest := by
  have digits := decimalNat_digits n
  by_cases zero : n = 0
  · subst zero
    exact .zero rest
  · have front := decimalNat_head zero
    cases text : decimalNat n with
    | nil => exact absurd text (decimalNat_ne_nil n)
    | cons c tail =>
      rw [text] at digits front
      exact .positive (digits c List.mem_cons_self) (fun same => front (congrArg some same))
        (many_digits (fun d member => digits d (List.mem_cons_of_mem _ member)) rest)

theorem integer_decimal (n : Int) (rest : List Byte) : Integer (decimal n ++ rest) rest := by
  unfold decimal
  split_ifs
  · exact .negative (natural_decimal n.natAbs rest)
  · exact .natural (natural_decimal n.natAbs rest)

theorem derives_int {n : Int} (printed : Proxy.spaced (.int n) = decimal n) (rest : List Byte) :
    Derives Integer .value depth (Proxy.spaced (.int n) ++ rest) rest := by
  rw [printed]
  exact .number (integer_decimal n rest)

theorem derives_string {text : List Byte} (plain : ∀ c ∈ text, isPlain c = true) :
    Derives Integer .value depth (Proxy.spaced (.string text) ++ rest) rest := by
  have shape : Proxy.spaced (.string text) ++ rest = 0x22 :: (text ++ 0x22 :: rest) := by
    simp [Proxy.spaced, show ascii "\"" = [0x22] from rfl]
  rw [shape]
  exact .string (chars_append text plain rest)

theorem derives_members {members : List (List Byte × Json)} (nonempty : members ≠ [])
    (each : ∀ entry ∈ members, (∀ c ∈ entry.1, isPlain c = true) ∧
      ∀ rest, Derives Integer .value depth (Proxy.spaced entry.2 ++ rest) rest) :
    Derives Integer .members depth (0x20 :: (Proxy.spacedMembers members ++ 0x20 :: 0x7d :: rest)) rest := by
  have blank : ∀ {text : List Byte}, Blanks (0x20 :: text) text := .more rfl (.none _)
  have first : ∀ {key : List Byte} {value : Json} {text : List Byte}, (∀ c ∈ key, isPlain c = true) →
      (∀ rest, Derives Integer .value depth (Proxy.spaced value ++ rest) rest) →
      Derives Integer .member depth (0x20 :: 0x22 :: (key ++ 0x22 :: 0x3a :: 0x20 :: (Proxy.spaced value ++ text))) text :=
    fun plain derives => .member blank (chars_append _ plain _) (.none _) blank (derives _)
  have quote : ascii "\"" = [0x22] := rfl
  have colon : ascii "\": " = [0x22, 0x3a, 0x20] := rfl
  have comma : ascii ", " = [0x2c, 0x20] := rfl
  induction members with
  | nil => exact absurd rfl nonempty
  | cons entry members ih =>
    obtain ⟨plain, derives⟩ := each entry List.mem_cons_self
    obtain ⟨key, value⟩ := entry
    cases members with
    | nil =>
      have shape : Proxy.spacedMembers [(key, value)] ++ 0x20 :: 0x7d :: rest =
          0x22 :: (key ++ 0x22 :: 0x3a :: 0x20 :: (Proxy.spaced value ++ 0x20 :: 0x7d :: rest)) := by
        simp [Proxy.spacedMembers, quote, colon]
      rw [shape]
      exact .lastMember (first plain derives) blank
    | cons next members =>
      have more := ih (List.cons_ne_nil _ _) fun entry member => each entry (List.mem_cons_of_mem _ member)
      have shape : Proxy.spacedMembers ((key, value) :: next :: members) ++ 0x20 :: 0x7d :: rest =
          0x22 :: (key ++ 0x22 :: 0x3a :: 0x20 :: (Proxy.spaced value ++ 0x2c :: 0x20 ::
            (Proxy.spacedMembers (next :: members) ++ 0x20 :: 0x7d :: rest))) := by
        simp [Proxy.spacedMembers, quote, colon, comma]
      rw [shape]
      exact .members (first plain derives) (.none _) more

theorem derives_object {members : List (List Byte × Json)} (nonempty : members ≠ [])
    (each : ∀ entry ∈ members, (∀ c ∈ entry.1, isPlain c = true) ∧
      ∀ rest, Derives Integer .value depth (Proxy.spaced entry.2 ++ rest) rest) :
    Derives Integer .container (depth + 1) (Proxy.spaced (.object members) ++ rest) rest := by
  have shape : Proxy.spaced (.object members) ++ rest =
      0x7b :: 0x20 :: (Proxy.spacedMembers members ++ 0x20 :: 0x7d :: rest) := by
    simp [Proxy.spaced, show ascii "\x7b " = [0x7b, 0x20] from rfl, show ascii " \x7d" = [0x20, 0x7d] from rfl]
  rw [shape]
  exact .object (derives_members nonempty each)

/-- An object of ints, strings that need no escapes, and such objects in it. -/
def Json.plain : Nat → Json → Bool
  | _, .int n => Proxy.spaced (.int n) == decimal n
  | _, .string text => text.all isPlain
  | depth + 1, .object members =>
    !members.isEmpty && members.all fun entry => entry.1.all isPlain && Json.plain depth entry.2
  | _, _ => false

theorem derives_plain {value : Json} (plain : value.plain depth = true) (rest : List Byte) :
    Derives Integer .value depth (Proxy.spaced value ++ rest) rest := by
  induction depth generalizing value rest with
  | zero =>
    cases value with
    | int n => exact derives_int (beq_iff_eq.mp plain) rest
    | string text => exact derives_string (List.all_eq_true.mp plain)
    | _ => cases plain
  | succ depth ih =>
    cases value with
    | int n => exact derives_int (beq_iff_eq.mp plain) rest
    | string text => exact derives_string (List.all_eq_true.mp plain)
    | object members =>
      simp only [Json.plain, Bool.and_eq_true, Bool.not_eq_true', List.isEmpty_eq_false_iff, List.all_eq_true] at plain
      exact .nested (derives_object plain.1 fun entry member => ⟨(plain.2 entry member).1, ih (plain.2 entry member).2⟩)
    | _ => cases plain

theorem isText_plain {members : List (List Byte × Json)} (plain : (Json.object members).plain (depth + 1) = true) :
    IsText Integer (depth + 1) (Proxy.spaced (.object members)) := by
  simp only [Json.plain, Bool.and_eq_true, Bool.not_eq_true', List.isEmpty_eq_false_iff, List.all_eq_true] at plain
  have derives := @derives_object depth [] members plain.1 fun entry member =>
    ⟨(plain.2 entry member).1, derives_plain (plain.2 entry member).2⟩
  rw [List.append_nil] at derives
  exact ⟨_, _, .none _, derives, .none _⟩

end Sample

theorem objectAdd_new {members : List (List Byte × Json)} {key : List Byte} (absent : key ∉ members.map Prod.fst)
    (value : Json) : (Json.object members).objectAdd key value = .object (members ++ [(key, value)]) := by
  have nowhere : members.find? (fun entry => entry.1 = key) = none := by
    rw [List.find?_eq_none]
    intro entry member same
    exact absent (of_decide_eq_true same ▸ List.mem_map_of_mem member)
  refine congrArg Json.object (if_neg ?_)
  rw [nowhere]
  exact Bool.false_ne_true

/-- Members with new names come behind the ones that are there. -/
theorem addAll_new {members : List (List Byte × Json)} {args : List RpcArg}
    (distinct : (members.map Prod.fst ++ args.map Prod.fst).Nodup) :
    (Json.object members).addAll args = .object (members ++ args.map fun arg => (arg.1, arg.2.toJson)) := by
  induction args generalizing members with
  | nil => exact congrArg Json.object (List.append_nil members).symm
  | cons arg args ih =>
    have absent : arg.1 ∉ members.map Prod.fst ++ args.map Prod.fst :=
      (List.nodup_cons.mp (List.nodup_middle.mp distinct)).1
    have added := objectAdd_new (fun member => absent (List.mem_append_left _ member)) arg.2.toJson
    have rest := @ih (members ++ [(arg.1, arg.2.toJson)]) (by simpa using distinct)
    calc (Json.object members).addAll (arg :: args)
      _ = (Json.object (members ++ [(arg.1, arg.2.toJson)])).addAll args := congrArg (Json.addAll · args) added
      _ = .object (members ++ (arg :: args).map fun arg => (arg.1, arg.2.toJson)) := by
        rw [rest, List.append_assoc]
        rfl

/-- A request, written out. -/
theorem prepareJsonRequest_members (call : ClientCall) (nonempty : call.args ≠ []) (id : Int32) :
    call.prepareJsonRequest id =
      .object [(ascii "jsonrpc", .string (ascii "2.0")), (ascii "method", .string (cString call.method)),
        (ascii "params", .object (call.args.map fun arg => (arg.1, arg.2.toJson))), (ascii "id", .int id.toInt)] := by
  have params := @addAll_new [] call.args call.distinct
  have paramsNew : ascii "params" ∉ [ascii "jsonrpc", ascii "method"] := by decide +kernel
  have idNew : ascii "id" ∉ [ascii "jsonrpc", ascii "method", ascii "params"] := by decide +kernel
  unfold ClientCall.prepareJsonRequest ClientCall.header
  rw [if_neg nonempty, params, objectAdd_new (by decide +kernel), objectAdd_new (by decide +kernel),
    objectAdd_new paramsNew, objectAdd_new idNew]
  rfl

/-- The result of a response, written out. -/
theorem prepareResultString_members (reply : RpcReply) :
    reply.prepareResultString =
      .object ((ascii "return", .string (Middleware.convertServerResultToString reply.result)) ::
        reply.params.map fun arg => (arg.1, arg.2.toJson)) := by
  unfold RpcReply.prepareResultString
  rw [objectAdd_new (by decide +kernel)]
  exact addAll_new reply.distinct

/-- A setter that also takes a text. -/
def sampleClientCall : ClientCall where
  method := ascii "set"
  args := [(ascii "level", .int (-5)), (ascii "name", .string (ascii "lamp"))]
  noZero := by decide +kernel
  short := by decide +kernel
  distinct := by decide +kernel

def sampleRequest : Json :=
  .object [(ascii "jsonrpc", .string (ascii "2.0")), (ascii "method", .string (ascii "set")),
    (ascii "params", .object [(ascii "level", .int (-5)), (ascii "name", .string (ascii "lamp"))]), (ascii "id", .int 3)]

def sampleReply : RpcReply where
  result := .inProg
  params := [(ascii "taskId", .int 12)]
  distinct := by decide +kernel

def sampleTask : ApiTask where
  ident := 1
  reqId := 3
  netData := Proxy.sampleCall
  rpcMethod := { method := ascii "set", methodIndex := 20 }
  access := .sync
  taskResult := .success
  jsonRespObj := some sampleReply.prepareResultString
  customResultString := []

def sampleResponse : Json :=
  .object [(ascii "jsonrpc", .string (ascii "2.0")),
    (ascii "result", .object [(ascii "return", .string (ascii "InProgress")), (ascii "taskId", .int 12)]),
    (ascii "id", .int 3)]

/-- json-c as far as some objects need it. -/
def sampleTransport (known : List Json) : JsonC where
  tokenerParse text := known.find? fun value => text = Proxy.spaced value
  getString
    | .string text => some text
    | .int n => some (decimal n)
    | value => some (Proxy.spaced value)
  getInt
    | .int n => n
    | _ => 0
  toJsonString value := some (Proxy.spaced value)

theorem sampleTransport_reads (known : List Json) : (sampleTransport known).Reads where
  getString_string _ := rfl
  getString_int _ := rfl
  getString_object _ := rfl
  getInt_int _ := rfl

theorem sampleTransport_sends {before after : List Json} {members : List (List Byte × Json)}
    (plain : (Json.object members).plain 2 = true) (noZero : (0 : Byte) ∉ Proxy.spaced (.object members))
    (ends : (Proxy.spaced (.object members)).head? = some 0x7b ∧ (Proxy.spaced (.object members)).getLast? = some 0x7d)
    (first : ∀ value ∈ before, Proxy.spaced (.object members) ≠ Proxy.spaced value) :
    (sampleTransport (before ++ .object members :: after)).Transmits (.object members) (Proxy.spaced (.object members)) where
  prints := rfl
  isText := isText_plain plain
  noZero := noZero
  opens := ends.1
  closes := ends.2
  parses := by
    dsimp only [sampleTransport]
    rw [List.find?_append, List.find?_eq_none.mpr fun value member => by simpa using first value member,
      List.find?_cons_of_pos (by simp)]
    rfl

theorem sampleRequest_eq : sampleClientCall.prepareJsonRequest 3 = sampleRequest :=
  prepareJsonRequest_members sampleClientCall (List.cons_ne_nil _ _) 3

theorem sampleResponse_eq : resultObject sampleTask = sampleResponse := by
  have result : sampleReply.prepareResultString = _ := prepareResultString_members sampleReply
  unfold resultObject sampleTask
  simp only [Option.getD_some, result]
  rfl

theorem sampleRequest_sent :
    (sampleTransport [sampleRequest, sampleResponse]).Transmits sampleRequest (Proxy.spaced sampleRequest) :=
  @sampleTransport_sends [] [sampleResponse] _ (by decide +kernel) (by decide +kernel) (by decide +kernel) (by simp)

theorem sampleResponse_sent :
    (sampleTransport [sampleRequest, sampleResponse]).Transmits sampleResponse (Proxy.spaced sampleResponse) :=
  @sampleTransport_sends [sampleRequest] [] _ (by decide +kernel) (by decide +kernel) (by decide +kernel)
    (List.forall_mem_singleton.mpr (by decide +kernel))

def sampleExchange : Exchange (sampleTransport [sampleRequest, sampleResponse]) [sampleTask.rpcMethod] where
  call := sampleClientCall
  reqId := 3
  request := Proxy.spaced sampleRequest
  sent := sampleRequest_eq ▸ sampleRequest_sent
  rpcMethod := sampleTask.rpcMethod
  registered := by decide +kernel
  reply := sampleReply
  task := sampleTask
  ofRequest := rfl
  ofReply := rfl
  response := Proxy.spaced sampleResponse
  replied := sampleResponse_eq ▸ sampleResponse_sent

end JsonRpcTcp
