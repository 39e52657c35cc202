import JsonRpcTcp.ProxyPipeline

namespace JsonRpcTcp
open Function

/-- The error code of a response. -/
def Json.errorCode (response : Json) : Option Int :=
  match (response.member (ascii "error")).bind fun error => error.member (ascii "code") with
  | some (.int code) => some code
  | _ => none

theorem errorObject_id (id : Int) (errType : RpcError) :
    (errorObject id errType).member (ascii "id") = some (if errType.keepsId then .int id else .null) := rfl

theorem errorObject_errorCode (id : Int) (errType : RpcError) :
    (errorObject id errType).errorCode = some errType.code := rfl

theorem resultObject_id (task : ApiTask) : (resultObject task).member (ascii "id") = some (.int task.reqId) := rfl

theorem resultObject_errorCode (task : ApiTask) : (resultObject task).errorCode = none := rfl

section
variable {lib : JsonC} {rpcCallList : List RpcCommand}

/-- A request with an integer id is dispatched or refused under this id. -/
theorem jsonProcessRequest_id (documented : lib.Documented) {data : List Byte} {object : Json} {n : Int}
    (opening : data.head? = some 0x7b) (checked : jsonCheckerFunction data = 0)
    (parsed : lib.tokenerParse (cString data) = some object) (id : object.objectGet (ascii "id") = some (.int n))
    (low : -2 ^ 31 ≤ n) (high : n < 2 ^ 31) :
    jsonProcessRequest lib rpcCallList data = .refuse .methodNotFound n ∨
      ∃ command access, jsonProcessRequest lib rpcCallList data = .dispatch n command access := by
  have notArray : data.head? ≠ some 0x5b := by
    rw [opening]
    decide
  obtain ⟨text, hasText⟩ := Option.isSome_iff_exists.mp (documented.getString_int n)
  have known : getJsonrpcId lib object = some n := by
    simp [getJsonrpcId, id, hasText, documented.getInt_int n low high]
  unfold jsonProcessRequest
  rw [if_neg notArray, if_neg (not_not.mpr checked), parsed]
  dsimp only
  rw [known]
  dsimp only
  cases getJsonrpcMethod lib rpcCallList object with
  | none => exact Or.inl rfl
  | some command => exact Or.inr ⟨command, _, rfl⟩

theorem IsAnswer.id (documented : lib.Documented) {req : Request} {response object : Json} {n : Int}
    (answer : IsAnswer lib rpcCallList req response) (opening : req.data.head? = some 0x7b)
    (checked : jsonCheckerFunction req.data = 0) (parsed : lib.tokenerParse (cString req.data) = some object)
    (id : object.objectGet (ascii "id") = some (.int n)) (low : -2 ^ 31 ≤ n) (high : n < 2 ^ 31) :
    response.member (ascii "id") = some (.int n) := by
  unfold IsAnswer at answer
  rcases jsonProcessRequest_id documented opening checked parsed id low high with
    verdict | ⟨command, access, verdict⟩ <;> rw [verdict] at answer
  · rw [answer, errorObject_id]
    rfl
  · obtain ⟨task, same, rfl⟩ := answer
    rw [resultObject_id, same]

theorem IsAnswer.null {req : Request} {response : Json} (answer : IsAnswer lib rpcCallList req response)
    (failed : response.errorCode = some (-32700) ∨ response.errorCode = some (-32600)) :
    response.member (ascii "id") = some .null := by
  unfold IsAnswer at answer
  cases verdict : jsonProcessRequest lib rpcCallList req.data with
  | refuse errType id =>
    rw [verdict] at answer
    rw [answer, errorObject_errorCode] at failed
    rw [answer, errorObject_id]
    cases errType <;> first | rfl | exact absurd failed (by decide)
  | dispatch id command access =>
    rw [verdict] at answer
    obtain ⟨task, _, rfl⟩ := answer
    rw [resultObject_errorCode] at failed
    rcases failed with impossible | impossible <;> cases impossible

namespace Proxy

/-- The responses scheduled for the request at a position. -/
def repliesTo (s : Proxy) (number : Nat) : List Reply := s.scheduled.filter fun reply => reply.number == number

/-- A thread works on the request, or it is in `ReqChain`, or its ident is in
`RespChain`. Being in `ReqRespChain` alone does not count. -/
def InFlight (s : Proxy) (number : Nat) : Prop :=
  s.pc.fresh = some number ∨ s.pc.stored = some number ∨ number ∈ s.reqChain ∨ s.mapperPc.task = some number ∨
    (∃ ident ∈ s.identOf number, ident ∈ s.respChain ∨ s.replyPc.awaited = some ident) ∨
    s.replyPc.task = some number

instance (s : Proxy) (number : Nat) : Decidable (s.InFlight number) := by
  unfold InFlight
  infer_instance

/-- What is in `ReqRespChain` is with one of the threads or in another chain. -/
theorem Pipeline.stored_inFlight {s : Proxy} (pipeline : s.Pipeline lib rpcCallList) {number : Nat}
    (stored : number ∈ s.reqRespChain) : s.InFlight number := by
  obtain ⟨answered, chain, idents⟩ := pipeline.chain
  rw [chain] at stored
  unfold InFlight
  rcases List.mem_append.mp stored with finished | unfinished
  · have ident : s.identOf number ∈ (s.replyPc.awaited.toList ++ s.respChain).map some := by
      rw [← idents]
      exact List.mem_map_of_mem finished
    obtain ⟨ident, member, same⟩ := List.mem_map.mp ident
    have known : ident ∈ s.identOf number := same.symm
    have queued : ∃ ident ∈ s.identOf number, ident ∈ s.respChain ∨ s.replyPc.awaited = some ident := by
      refine ⟨ident, known, ?_⟩
      rcases List.mem_append.mp member with awaited | waiting
      · exact Or.inr (Option.mem_toList.mp awaited)
      · exact Or.inl waiting
    simp only [queued, true_or, or_true]
  · simp only [List.mem_append, Option.mem_toList] at unfinished
    rcases unfinished with (mapper | queued) | handed
    · simp only [mapper, true_or, or_true]
    · simp only [queued, true_or, or_true]
    · simp only [handed, true_or, or_true]

/-- A request that was taken is answered once, or else it is still on its way. -/
theorem Pipeline.count {s : Proxy} (pipeline : s.Pipeline lib rpcCallList) {number : Nat}
    (taken : number < s.taken.length) :
    (s.repliesTo number).length + (s.replyPc.task.toList ++ s.reqRespChain ++ s.pc.fresh.toList).count number = 1 := by
  have total := pipeline.complete.count_eq number
  have split : ((s.sent lib rpcCallList) ++ (s.refused lib rpcCallList)).count number =
      (s.repliesTo number).length := by
    unfold sent refused repliesTo
    rw [← List.map_append, (List.Perm.map _ (List.filter_append_perm _ s.scheduled)).count_eq,
      List.count_eq_countP, List.countP_map, List.countP_eq_length_filter]
    rfl
  rw [List.count_range, if_pos taken] at total
  simp only [line, List.count_append] at total split ⊢
  omega

/-- For every request that the proxy takes at most one response is scheduled, and
exactly one once no thread works on it and no chain holds it. It goes to the
socket and the connection of its request, with the id of the request, or with
`null` after a parse error or an invalid request. -/
theorem exactly_one_response (documented : lib.Documented) {s : Proxy}
    (reach : Reach (step lib rpcCallList) AllocationSucceeds start s) :
    (∀ reply ∈ s.scheduled, reply.number < s.taken.length) ∧
    ∀ number req, s.taken[number]? = some req →
      (s.repliesTo number).length ≤ 1 ∧ (¬ s.InFlight number → (s.repliesTo number).length = 1) ∧
      ∀ reply ∈ s.repliesTo number,
        reply.response.sockDescriptor = req.sockDescriptor ∧ reply.response.cltid = req.cltid ∧
        lib.toJsonString reply.object = some reply.response.data ∧
        (∀ object n, req.data.head? = some 0x7b → jsonCheckerFunction req.data = 0 →
          lib.tokenerParse (cString req.data) = some object → object.objectGet (ascii "id") = some (.int n) →
          -2 ^ 31 ≤ n → n < 2 ^ 31 → reply.object.member (ascii "id") = some (.int n)) ∧
        (reply.object.errorCode = some (-32700) ∨ reply.object.errorCode = some (-32600) →
          reply.object.member (ascii "id") = some .null) := by
  have pipeline := reach_pipeline documented reach
  refine ⟨fun reply member => ?_, fun number req taken => ⟨?_, ?_, ?_⟩⟩
  · exact (List.getElem?_eq_some_iff.mp (pipeline.replies reply member).request).1
  · have total := pipeline.count (List.getElem?_eq_some_iff.mp taken).1
    omega
  · intro landed
    have total := pipeline.count (List.getElem?_eq_some_iff.mp taken).1
    have gone : (s.replyPc.task.toList ++ s.reqRespChain ++ s.pc.fresh.toList).count number = 0 := by
      refine List.count_eq_zero.mpr fun member => landed ?_
      simp only [List.mem_append, Option.mem_toList] at member
      rcases member with (replying | stored) | fresh
      · exact Or.inr (Or.inr (Or.inr (Or.inr (Or.inr replying))))
      · exact pipeline.stored_inFlight stored
      · exact Or.inl fresh
    omega
  · intro reply member
    obtain ⟨scheduled, named⟩ := List.mem_filter.mp member
    obtain ⟨request, address, text, answer⟩ := pipeline.replies reply scheduled
    have same : reply.response.request = req := by
      rw [beq_iff_eq.mp named, taken] at request
      exact (Option.some.inj request).symm
    rw [same] at address answer
    refine ⟨address.1, address.2, text, ?_, answer.null⟩
    intro object n opening checked parsed id low high
    exact answer.id documented opening checked parsed id low high

theorem exactly_one_response_call :
    ∃ s : Proxy, s.taken = [sampleCall] ∧ ¬ s.InFlight 0 ∧ (s.repliesTo 0).length = 1 ∧
      ∀ reply ∈ s.repliesTo 0, reply.response.sockDescriptor = 7 ∧ reply.response.cltid = 1 ∧
        reply.object.member (ascii "id") = some (.int 7) := by
  obtain ⟨s, reach, taken, landed⟩ := exists_reach (step sampleLib [sampleCommand]) AllocationSucceeds start
    (.arrival (.take sampleCall) :: (handingOver 0 sampleCall ++ working 0 1))
    (fun s => s.taken = [sampleCall] ∧ ¬ s.InFlight 0) (by decide)
  have first : s.taken[0]? = some sampleCall := by rw [taken]; rfl
  obtain ⟨_, once, carries⟩ := (exactly_one_response sampleLib_documented reach).2 0 sampleCall first
  refine ⟨s, taken, landed, once landed, ?_⟩
  intro reply member
  obtain ⟨sock, cltid, _, id, _⟩ := carries reply member
  exact ⟨sock, cltid, id _ 7 rfl (by decide) rfl rfl (by decide) (by decide)⟩

end Proxy
end
end JsonRpcTcp
