import JsonRpcTcp.EventReceiver
import JsonRpcTcp.RpcTransport

namespace JsonRpcTcp

/-! The RPCs of the event manager: what a client puts into a call is what the manager of the service
works on, and what comes back is what it returned. -/

/-- `RPCMGR_EVENT_PACKET`. -/
structure EventPacket where
  cltToken : Int32
  portNum : Int32
  eventNum : Int32
  srvToken : Int32
  ip : List Byte
  eventArg : Int32
  eventArg2 : Int32
  deriving DecidableEq, Repr

namespace EventRpc

/-! The calls of the clients. -/

def intArg (name : List Byte) (value : Int32) : RpcArg := (name, .int value)

/-- The arguments of `subscribe_event`. `SUBSCRIBE_EVENT` passes all of them. -/
def subscribeArgs (cltToken : Int32) (port evntNum : Option Int32) : List RpcArg :=
  intArg (ascii "cltToken") cltToken :: ((port.map (intArg (ascii "port"))).toList ++
    (evntNum.map (intArg (ascii "evntNum"))).toList)

/-- The arguments of `unsubscribe_event`, from `UNSUBSCRIBE_EVENT`. -/
def unsubscribeArgs (srvToken : Int32) : List RpcArg := [intArg (ascii "srvToken") srvToken]

/-- The arguments of `notify_event`. `NOTIFY_EVENT` and `ADEvntNotifier` pass all of them. -/
def notifyArgs (evntNum : Int32) (evntArg evntArg2 : Option Int32) : List RpcArg :=
  intArg (ascii "evntNum") evntNum :: ((evntArg.map (intArg (ascii "evntArg1"))).toList ++
    (evntArg2.map (intArg (ascii "evntArg2"))).toList)

/-- The arguments of `process_event`. `send_event` passes all of them. -/
def processArgs (cltToken evntNum : Int32) (evntArg evntArg2 : Option Int32) : List RpcArg :=
  intArg (ascii "cltToken") cltToken :: notifyArgs evntNum evntArg evntArg2

/-- `set_three_int_get_one_int`, with what its variable holds before. -/
def setThreeIntGetOneInt (lib : JsonC) (outSize : Nat) (rxJson paramName : List Byte) (value : Int32) :
    RpcResult × Int32 :=
  let found := getterResult (findJsonResultAndSingleIntParam lib outSize rxJson paramName)
  (found.1, found.2.headD value)

/-- What `send_event` returns after a connect that succeeded. -/
def sendEvent (lib : JsonC) (outSize : Nat) (rxJson : List Byte) : Int :=
  if setterResult lib outSize rxJson = .success then 0 else -1

/-! The handlers of the service. -/

section Decoders
variable (lib : JsonC) (data : List Byte)

/-- `JSON_STRING_TO_INT` in a decoder. -/
def intParam (name : List Byte) : Except TaskResult Int32 :=
  match jsonStringToInt lib data name with
  | none => .error .invalidParam
  | some value => .ok value

/-- A parameter that may be missing. -/
def optionalInt (name : List Byte) : Except TaskResult Int32 :=
  match findSingleParam lib data name paramValueSize with
  | none => .ok (-1)
  | some _ => intParam lib data name

/-- `PREPARE_JSON_REQUEST`. The packet is what memory held, if there was memory. -/
def prepareJsonRequest (memory : Option EventPacket) : Except TaskResult EventPacket :=
  match memory with
  | none => .error .memFail
  | some packet => .ok packet

variable (memory : Option EventPacket)

/-- `json_to_bin_event_subscribe`, with the address of the client. -/
def jsonToBinEventSubscribe (ip : List Byte) : Except TaskResult EventPacket := do
  let packet ← prepareJsonRequest memory
  let cltToken ← intParam lib data (ascii "cltToken")
  let portNum ← optionalInt lib data (ascii "port")
  let eventNum ← optionalInt lib data (ascii "evntNum")
  return { packet with cltToken := cltToken, portNum := portNum, eventNum := eventNum, ip := ip }

def jsonToBinEventUnsubscribe : Except TaskResult EventPacket := do
  let packet ← prepareJsonRequest memory
  let srvToken ← intParam lib data (ascii "srvToken")
  return { packet with srvToken := srvToken }

def jsonToBinEventNotify : Except TaskResult EventPacket := do
  let packet ← prepareJsonRequest memory
  let eventNum ← intParam lib data (ascii "evntNum")
  let eventArg ← optionalInt lib data (ascii "evntArg1")
  let eventArg2 ← optionalInt lib data (ascii "evntArg2")
  return { packet with eventNum := eventNum, eventArg := eventArg, eventArg2 := eventArg2 }

def jsonToBinEventProcess : Except TaskResult EventPacket := do
  let packet ← prepareJsonRequest memory
  let cltToken ← intParam lib data (ascii "cltToken")
  let eventNum ← intParam lib data (ascii "evntNum")
  let eventArg ← optionalInt lib data (ascii "evntArg1")
  let eventArg2 ← optionalInt lib data (ascii "evntArg2")
  return { packet with cltToken := cltToken, eventNum := eventNum, eventArg := eventArg, eventArg2 := eventArg2 }

end Decoders

section Handlers
variable {ι : Type} (packet : EventPacket) (s : EvntMgr ι)

/-- The subscription of a packet. `register_event_subscription` sets the fields that it does not have. -/
def subscription : EventEntry where
  cltToken := packet.cltToken.toInt
  portNum := packet.portNum.toInt
  eventNum := packet.eventNum.toInt
  srvToken := 0
  ip := packet.ip
  deleteFlag := false
  failCount := 0
  firstFailMs := 0
  registered := 0

/-- `process_event_subscribe`, if there is memory for the entry. -/
def processEventSubscribe (memory : Bool) : EvntMgr ι × EventPacket × RpcResult :=
  if memory = false then (s, packet, .fail)
  else
    let registered := s.registerEventSubscription (subscription packet)
    if registered.2 = 0 then (registered.1, { packet with srvToken := Int32.ofInt registered.1.ackToken }, .success)
    else if registered.2 = -1 then (registered.1, packet, .itemDuplicateFound)
    else (registered.1, packet, .fail)

def processEventUnsubscribe : EvntMgr ι × RpcResult :=
  let removed := s.unregisterEventSubscription packet.srvToken.toInt
  (removed.1, if removed.2 = 0 then .success else if removed.2 = -1 then .itemNotFound else .fail)

/-- `process_event_notify`. `notify_event` returns 0, after it has woken the notify thread. -/
def processEventNotify : EvntMgr ι × RpcResult :=
  (s.queueEvent packet.eventNum.toInt packet.eventArg.toInt packet.eventArg2.toInt, .success)

/-- `process_event_process`, with what `process_event` queues. -/
def processEventProcess : EventProcEntry × RpcResult :=
  ({ eventNum := packet.eventNum.toInt, eventArg := packet.eventArg.toInt, cltToken := packet.cltToken.toInt
     eventArg2 := packet.eventArg2.toInt, number := 0 }, .success)

end Handlers

/-- `PREPARE_JSON_RESP`. -/
def prepareJsonResp (result : RpcResult) : RpcReply := ⟨result, [], List.nodup_singleton _⟩

/-- `bin_to_json_event_subscribe`. -/
def binToJsonEventSubscribe (packet : EventPacket) (result : RpcResult) : RpcReply :=
  if result = .success ∨ result = .inProg then
    ⟨result, [intArg (ascii "srvToken") packet.srvToken],
      (by decide +kernel : [ascii "return", ascii "srvToken"].Nodup)⟩
  else prepareJsonResp result

section Served
variable {lib : JsonC} {rpcCallList : List RpcCommand} {e : Exchange lib rpcCallList} {name : List Byte}

theorem intParam_member {value : Int32} (served : e.Served) (member : intArg name value ∈ e.call.args) :
    intParam lib e.request name = .ok value := by
  unfold intParam
  rw [served.ints name value member]

/-- A parameter that the client left out is -1. -/
theorem optionalInt_arg {value : Option Int32} (before after : List RpcArg) (served : e.Served)
    (args : e.call.args = before ++ ((value.map (intArg name)).toList ++ after))
    (elsewhere : name ∉ (before ++ after).map Prod.fst) :
    optionalInt lib e.request name = .ok (value.getD (-1)) := by
  unfold optionalInt
  cases value with
  | none =>
    have missing : name ∉ e.call.args.map Prod.fst := args ▸ elsewhere
    rw [served.missing name missing, Option.getD_none]
  | some value =>
    have member : intArg name value ∈ e.call.args := by simp [args]
    have text : findSingleParam lib e.request name paramValueSize = _ := served.texts _ member
    rw [text]
    exact intParam_member served member

theorem names : ascii "port" ≠ ascii "cltToken" ∧ ascii "evntNum" ≠ ascii "cltToken" ∧
    ascii "evntArg1" ≠ ascii "cltToken" ∧ ascii "evntArg1" ≠ ascii "evntNum" ∧ ascii "evntArg2" ≠ ascii "cltToken" ∧
    ascii "evntArg2" ≠ ascii "evntNum" := by
  decide +kernel

theorem optional_names {other : List Byte} (value : Option Int32) (different : name ≠ other) :
    name ∉ (value.map (intArg other)).toList.map Prod.fst := by
  cases value with
  | none => exact List.not_mem_nil
  | some value => simpa [intArg] using different

/-- The last two of the arguments may be missing. -/
theorem optional_decoded {first second : List Byte} {one two : Option Int32} (given : List RpcArg) (served : e.Served)
    (args : e.call.args = given ++ ((one.map (intArg first)).toList ++ (two.map (intArg second)).toList))
    (different : first ≠ second) (noFirst : first ∉ given.map Prod.fst) (noSecond : second ∉ given.map Prod.fst) :
    optionalInt lib e.request first = .ok (one.getD (-1)) ∧ optionalInt lib e.request second = .ok (two.getD (-1)) := by
  constructor
  · refine optionalInt_arg given _ served args ?_
    rw [List.map_append, List.mem_append]
    exact not_or_intro noFirst (optional_names two different)
  · have regrouped : e.call.args =
        (given ++ (one.map (intArg first)).toList) ++ ((two.map (intArg second)).toList ++ []) := by
      rw [args, List.append_nil, List.append_assoc]
    refine optionalInt_arg _ _ served regrouped ?_
    rw [List.append_nil, List.map_append, List.mem_append]
    exact not_or_intro noSecond (optional_names one different.symm)

variable (packet : EventPacket)

/-- A call of `subscribe_event` subscribes what it asks for, at the address that it comes from. -/
theorem subscribe_decoded (served : e.Served) {cltToken : Int32} {port evntNum : Option Int32}
    (args : e.call.args = subscribeArgs cltToken port evntNum) (ip : List Byte) :
    jsonToBinEventSubscribe lib e.request (some packet) ip =
      .ok { packet with cltToken := cltToken, portNum := port.getD (-1), eventNum := evntNum.getD (-1), ip := ip } := by
  have clt : intParam lib e.request (ascii "cltToken") = .ok cltToken :=
    intParam_member served (by simp [args, subscribeArgs])
  obtain ⟨portNum, eventNum⟩ := optional_decoded [intArg (ascii "cltToken") cltToken] served args
    (by decide +kernel) (by simp [intArg, names]) (by simp [intArg, names])
  unfold jsonToBinEventSubscribe
  rw [clt, portNum, eventNum]
  rfl

theorem unsubscribe_decoded (served : e.Served) {srvToken : Int32} (args : e.call.args = unsubscribeArgs srvToken) :
    jsonToBinEventUnsubscribe lib e.request (some packet) = .ok { packet with srvToken := srvToken } := by
  have srv : intParam lib e.request (ascii "srvToken") = .ok srvToken :=
    intParam_member served (by simp [args, unsubscribeArgs])
  unfold jsonToBinEventUnsubscribe
  rw [srv]
  rfl

theorem notify_decoded (served : e.Served) {evntNum : Int32} {evntArg evntArg2 : Option Int32}
    (args : e.call.args = notifyArgs evntNum evntArg evntArg2) :
    jsonToBinEventNotify lib e.request (some packet) =
      .ok { packet with eventNum := evntNum, eventArg := evntArg.getD (-1), eventArg2 := evntArg2.getD (-1) } := by
  have num : intParam lib e.request (ascii "evntNum") = .ok evntNum :=
    intParam_member served (by simp [args, notifyArgs])
  obtain ⟨arg, arg2⟩ := optional_decoded [intArg (ascii "evntNum") evntNum] served args
    (by decide +kernel) (by simp [intArg, names]) (by simp [intArg, names])
  unfold jsonToBinEventNotify
  rw [num, arg, arg2]
  rfl

theorem process_decoded (served : e.Served) {cltToken evntNum : Int32} {evntArg evntArg2 : Option Int32}
    (args : e.call.args = processArgs cltToken evntNum evntArg evntArg2) :
    jsonToBinEventProcess lib e.request (some packet) =
      .ok { packet with cltToken := cltToken, eventNum := evntNum, eventArg := evntArg.getD (-1)
                        eventArg2 := evntArg2.getD (-1) } := by
  have clt : intParam lib e.request (ascii "cltToken") = .ok cltToken :=
    intParam_member served (by simp [args, processArgs])
  have num : intParam lib e.request (ascii "evntNum") = .ok evntNum :=
    intParam_member served (by simp [args, processArgs, notifyArgs])
  obtain ⟨arg, arg2⟩ := optional_decoded [intArg (ascii "cltToken") cltToken, intArg (ascii "evntNum") evntNum]
    served args (by decide +kernel) (by simp [intArg, names]) (by simp [intArg, names])
  unfold jsonToBinEventProcess
  rw [clt, num, arg, arg2]
  rfl

variable {outSize : Nat}

/-- The int of a response, or what the variable held before. -/
theorem int_received (reads : lib.Reads) (room : 20 ≤ outSize) (old : Int32) :
    (∀ value, intArg name value ∈ e.reply.params →
      setThreeIntGetOneInt lib outSize e.response name old = (e.reply.result.reported, value)) ∧
    (name ∉ ascii "return" :: e.reply.params.map Prod.fst →
      setThreeIntGetOneInt lib outSize e.response name old = (e.reply.result.reported, old)) := by
  unfold setThreeIntGetOneInt getterResult findJsonResultAndSingleIntParam
  simp only [e.found reads, Option.elim_some, convert_copyOut room, Prod.mk.injEq, true_and, readParams]
  constructor
  · intro value member
    have found : e.reply.prepareResultString.objectGet name = some (.int value.toInt) := RpcReply.param_member member
    simp only [found, Option.bind_some, reads.getString_int, Option.map_some, reads.getInt_int, Int32.ofInt_toInt]
    rfl
  · intro missing
    rw [RpcReply.missing_member missing]
    rfl

/-- What a client gets back from `subscribe_event`. -/
theorem token_received (reads : lib.Reads) (room : 20 ≤ outSize) {decoded : EventPacket} {result : RpcResult}
    (reply : e.reply = binToJsonEventSubscribe decoded result) (old : Int32) :
    setThreeIntGetOneInt lib outSize e.response (ascii "srvToken") old =
      (result.reported, if result = .success ∨ result = .inProg then decoded.srvToken else old) := by
  obtain ⟨there, missing⟩ := @int_received lib rpcCallList e (ascii "srvToken") outSize reads room old
  unfold binToJsonEventSubscribe at reply
  split_ifs at reply ⊢
  · rw [there decoded.srvToken (by simp [reply]), reply]
  · have absent : ascii "srvToken" ∉ [ascii "return"] := by decide +kernel
    rw [missing (by rw [reply]; exact absent), reply]
    rfl

theorem result_received (reads : lib.Reads) (room : 20 ≤ outSize) {result : RpcResult}
    (reply : e.reply = prepareJsonResp result) : setterResult lib outSize e.response = result.reported := by
  rw [(e.received reads room).result, reply]
  rfl

end Served

section Handling
variable {ι : Type} {s : EvntMgr ι}

/-- What `process_event_subscribe` returns. -/
theorem subscribe_handled (decoded : EventPacket) :
    processEventSubscribe decoded s true =
      ((s.registerEventSubscription (subscription decoded)).1,
        if s.eventList.any (subscription decoded).duplicates then (decoded, .itemDuplicateFound)
        else ({ decoded with srvToken := Int32.ofInt (s.ackToken + 1) }, .success)) := by
  unfold processEventSubscribe EvntMgr.registerEventSubscription
  by_cases duplicate : s.eventList.any (subscription decoded).duplicates = true
  · simp [duplicate]
  · simp [duplicate]

/-- How a client sees it. -/
theorem subscribe_answer (decoded : EventPacket) (old : Int32) :
    let served := if s.eventList.any (subscription decoded).duplicates then (decoded, RpcResult.itemDuplicateFound)
      else ({ decoded with srvToken := Int32.ofInt (s.ackToken + 1) }, .success)
    (served.2.reported, if served.2 = .success ∨ served.2 = .inProg then served.1.srvToken else old) =
      if s.eventList.any (subscription decoded).duplicates then (.itemDuplicateFound, old)
      else (.success, Int32.ofInt (s.ackToken + 1)) := by
  by_cases duplicate : s.eventList.any (subscription decoded).duplicates = true
  · simp [duplicate, RpcResult.reported]
  · simp [duplicate, RpcResult.reported]

theorem unsubscribe_handled (decoded : EventPacket) :
    processEventUnsubscribe decoded s =
      ((s.unregisterEventSubscription decoded.srvToken.toInt).1,
        if s.eventList.any (fun entry => entry.srvToken == decoded.srvToken.toInt) then .success
        else .itemNotFound) := by
  unfold processEventUnsubscribe EvntMgr.unregisterEventSubscription
  by_cases found : s.eventList.any (fun entry => entry.srvToken == decoded.srvToken.toInt) = true
  · simp [found]
  · simp [found]

end Handling

/-- A call of an event RPC over the wire does at the service what the call of its event manager
does, with the arguments of the client, -1 for those that it left out, and the client gets its
result: a duplicate subscription or an unknown token is refused, and a new subscription has the
next token. What `send_event` sends to a subscriber is what its `process_event` queues. -/
theorem event_rpcs_arrive {lib : JsonC} (reads : lib.Reads) {rpcCallList : List RpcCommand} {size : Nat}
    (room : 20 ≤ size) {ι : Type} (s : EvntMgr ι) (packet : EventPacket) (ip : List Byte)
    (e : Exchange lib rpcCallList) :
    (∀ cltToken port evntNum, e.call.args = subscribeArgs cltToken port evntNum → ∃ decoded served,
      jsonToBinEventSubscribe lib e.request (some packet) ip = .ok decoded ∧
      processEventSubscribe decoded s true = served ∧
      served.1 = (s.registerEventSubscription (subscription { packet with
        cltToken := cltToken, portNum := port.getD (-1), eventNum := evntNum.getD (-1), ip := ip })).1 ∧
      ∀ old, e.reply = binToJsonEventSubscribe served.2.1 served.2.2 →
        setThreeIntGetOneInt lib (setOutputSize size) e.response (ascii "srvToken") old =
          if s.eventList.any (subscription decoded).duplicates then (.itemDuplicateFound, old)
          else (.success, Int32.ofInt (s.ackToken + 1))) ∧
    (∀ srvToken, e.call.args = unsubscribeArgs srvToken → ∃ decoded served,
      jsonToBinEventUnsubscribe lib e.request (some packet) = .ok decoded ∧
      processEventUnsubscribe decoded s = served ∧
      served.1 = (s.unregisterEventSubscription srvToken.toInt).1 ∧
      (e.reply = prepareJsonResp served.2 → setterResult lib (setOutputSize size) e.response =
        if s.eventList.any (fun entry => entry.srvToken == srvToken.toInt) then .success else .itemNotFound)) ∧
    (∀ evntNum evntArg evntArg2, e.call.args = notifyArgs evntNum evntArg evntArg2 → ∃ decoded served,
      jsonToBinEventNotify lib e.request (some packet) = .ok decoded ∧ processEventNotify decoded s = served ∧
      served.1 = s.queueEvent evntNum.toInt (evntArg.getD (-1)).toInt (evntArg2.getD (-1)).toInt ∧
      (e.reply = prepareJsonResp served.2 → setterResult lib (setOutputSize size) e.response = .success)) ∧
    (∀ cltToken evntNum evntArg evntArg2, e.call.args = processArgs cltToken evntNum evntArg evntArg2 →
      ∃ decoded served, jsonToBinEventProcess lib e.request (some packet) = .ok decoded ∧
        processEventProcess decoded = served ∧
        served.1 = ⟨evntNum.toInt, (evntArg.getD (-1)).toInt, cltToken.toInt, (evntArg2.getD (-1)).toInt, 0⟩ ∧
        (e.reply = prepareJsonResp served.2 → setterResult lib (setOutputSize size) e.response = .success)) ∧
    ∀ (target : EventEntry) (event : EventProcEntry) (cltToken evntNum evntArg evntArg2 : Int32),
      cltToken.toInt = target.cltToken → evntNum.toInt = event.eventNum → evntArg.toInt = event.eventArg →
      evntArg2.toInt = event.eventArg2 → e.call.args = processArgs cltToken evntNum (some evntArg) (some evntArg2) →
      ∃ decoded served, jsonToBinEventProcess lib e.request (some packet) = .ok decoded ∧
        processEventProcess decoded = served ∧ served.1 = { (target.delivery event).event with number := 0 } ∧
        (e.reply = prepareJsonResp served.2 → sendEvent lib (setOutputSize size) e.response = 0) := by
  have served := e.served reads
  have room := room_setOutputSize room
  refine ⟨fun cltToken port evntNum args => ?_, fun srvToken args => ?_, fun evntNum evntArg evntArg2 args => ?_,
    fun cltToken evntNum evntArg evntArg2 args => ?_, fun target event cltToken evntNum evntArg evntArg2 clt num arg arg2 args => ?_⟩
  · refine ⟨_, _, subscribe_decoded packet served args ip, subscribe_handled _, rfl, fun old reply => ?_⟩
    rw [token_received reads room reply old]
    exact subscribe_answer (s := s) _ old
  · refine ⟨_, _, unsubscribe_decoded packet served args, unsubscribe_handled _, rfl, fun reply => ?_⟩
    rw [result_received reads room reply]
    split_ifs <;> rfl
  · refine ⟨_, _, notify_decoded packet served args, rfl, rfl, fun reply => ?_⟩
    exact result_received reads room reply
  · refine ⟨_, _, process_decoded packet served args, rfl, rfl, fun reply => ?_⟩
    exact result_received reads room reply
  · refine ⟨_, _, process_decoded packet served args, rfl, ?_, fun reply => ?_⟩
    · simp only [processEventProcess, Option.getD_some, EventEntry.delivery, clt, num, arg, arg2]
    · unfold sendEvent
      rw [result_received reads room reply]
      rfl

def sampleSubscribe : ClientCall where
  method := ascii "subscribe_event"
  args := subscribeArgs 5 (some 40001) (some 0)
  noZero := by decide +kernel
  short := by decide +kernel
  distinct := by decide +kernel

def sampleSubscribeRequest : Json :=
  .object [(ascii "jsonrpc", .string (ascii "2.0")), (ascii "method", .string (ascii "subscribe_event")),
    (ascii "params",
      .object [(ascii "cltToken", .int 5), (ascii "port", .int 40001), (ascii "evntNum", .int 0)]),
    (ascii "id", .int 4)]

def sampleSubscribed : RpcReply := binToJsonEventSubscribe ⟨5, 40001, 0, 1, ascii "192.168.1.9", 0, 0⟩ .success

def sampleSubscribeTask : ApiTask where
  ident := 1
  reqId := 4
  netData := Proxy.sampleCall
  rpcMethod := { method := ascii "subscribe_event", methodIndex := 11 }
  access := .sync
  taskResult := .success
  jsonRespObj := some sampleSubscribed.prepareResultString
  customResultString := []

def sampleSubscribeResponse : Json :=
  .object [(ascii "jsonrpc", .string (ascii "2.0")),
    (ascii "result", .object [(ascii "return", .string (ascii "Success")), (ascii "srvToken", .int 1)]),
    (ascii "id", .int 4)]

theorem sampleSubscribeRequest_eq : sampleSubscribe.prepareJsonRequest 4 = sampleSubscribeRequest :=
  prepareJsonRequest_members sampleSubscribe (List.cons_ne_nil _ _) 4

theorem sampleSubscribeResponse_eq : resultObject sampleSubscribeTask = sampleSubscribeResponse := by
  have result : sampleSubscribed.prepareResultString = _ := prepareResultString_members sampleSubscribed
  unfold resultObject sampleSubscribeTask
  simp only [Option.getD_some, result]
  rfl

def sampleSubscribeExchange :
    Exchange (sampleTransport [sampleSubscribeRequest, sampleSubscribeResponse]) [sampleSubscribeTask.rpcMethod] where
  call := sampleSubscribe
  reqId := 4
  request := Proxy.spaced sampleSubscribeRequest
  sent := sampleSubscribeRequest_eq ▸ @sampleTransport_sends [] [sampleSubscribeResponse] _ (by decide +kernel)
    (by decide +kernel) (by decide +kernel) (by simp)
  rpcMethod := sampleSubscribeTask.rpcMethod
  registered := by decide +kernel
  reply := sampleSubscribed
  task := sampleSubscribeTask
  ofRequest := rfl
  ofReply := rfl
  response := Proxy.spaced sampleSubscribeResponse
  replied := sampleSubscribeResponse_eq ▸ @sampleTransport_sends [sampleSubscribeRequest] [] _ (by decide +kernel)
    (by decide +kernel) (by decide +kernel) (List.forall_mem_singleton.mpr (by decide +kernel))

/-- The first subscription has the token 1. -/
theorem event_rpcs_arrive_subscribe :
    setThreeIntGetOneInt (sampleTransport [sampleSubscribeRequest, sampleSubscribeResponse]) (setOutputSize 255)
      sampleSubscribeExchange.response (ascii "srvToken") 0 = (.success, 1) := by
  obtain ⟨decoded, _, -, rfl, -, answer⟩ :=
    (event_rpcs_arrive (sampleTransport_reads _) (by decide : 20 ≤ 255) (EvntMgr.start : EvntMgr Unit)
      ⟨0, 0, 0, 0, [], 0, 0⟩ (ascii "192.168.1.9") sampleSubscribeExchange).1 5 (some 40001) (some 0) rfl
  exact answer 0 rfl

end EventRpc
end JsonRpcTcp
