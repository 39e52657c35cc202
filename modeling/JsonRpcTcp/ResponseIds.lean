import JsonRpcTcp.ProxyAnswers

namespace JsonRpcTcp
open Function

/-! The ids of the responses, in runs in which allocations may fail as well. -/

/-- The response has a result, or is a method-not-found error. -/
def Json.Answered (response : Json) : Prop := response.errorCode = none ∨ response.errorCode = some (-32601)

instance (response : Json) : Decidable response.Answered := inferInstanceAs (Decidable (_ ∨ _))

section
variable (lib : JsonC) (rpcCallList : List RpcCommand)

/-- The id in the text of a request. -/
def RequestId (req : Request) (id : Json) : Prop :=
  ∃ object, lib.tokenerParse (cString req.data) = some object ∧ object.objectGet (ascii "id") = some id

/-- What the listen thread knows of the request it works on, whatever was allocated. -/
def ArrivalPc.Refers (taken : List Request) : ArrivalPc → Prop
  | .processing number req | .storing number req _ | .handingOver number req _ | .undoing number req _ =>
    taken[number]? = some req
  | .refusing number req errType id =>
    taken[number]? = some req ∧ (errType = .internalError ∨ jsonProcessRequest lib rpcCallList req.data = .refuse errType id)
  | .creating number req id command access =>
    taken[number]? = some req ∧ jsonProcessRequest lib rpcCallList req.data = .dispatch id command access
  | _ => True

/-- A scheduled response is an internal error, or an answer to the request at its position. -/
structure Reply.Made (taken : List Request) (reply : Reply) : Prop where
  request : taken[reply.number]? = some reply.response.request
  address : reply.response.sockDescriptor = reply.response.request.sockDescriptor ∧
    reply.response.cltid = reply.response.request.cltid
  answer : reply.object.errorCode = some (-32603) ∨ IsAnswer lib rpcCallList reply.response.request reply.object

/-- Every task and every response was made for a request. -/
structure Proxy.Identified (s : Proxy) : Prop where
  tasks : ∀ number object, s.tasks number = some object → object.Serves lib rpcCallList s.taken number
  pc : s.pc.Refers lib rpcCallList s.taken
  replies : ∀ reply ∈ s.scheduled, reply.Made lib rpcCallList s.taken

end

namespace Proxy
variable {lib : JsonC} {rpcCallList : List RpcCommand}

theorem identified_start : start.Identified lib rpcCallList where
  tasks := by
    intro number object impossible
    cases impossible
  pc := trivial
  replies := by
    intro reply member
    cases member

/-- A response is scheduled, or nothing happens. -/
theorem sendJsonObject_replies {s : Proxy} {number : Nat} {req : Request} {object : Json} (put : Bool)
    (replies : ∀ reply ∈ s.scheduled, reply.Made lib rpcCallList s.taken) (request : s.taken[number]? = some req)
    (answer : object.errorCode = some (-32603) ∨ IsAnswer lib rpcCallList req object) :
    (s.sendJsonObject lib number req object put).taken = s.taken ∧
      (s.sendJsonObject lib number req object put).tasks = s.tasks ∧
      ∀ reply ∈ (s.sendJsonObject lib number req object put).scheduled, reply.Made lib rpcCallList s.taken := by
  unfold sendJsonObject
  cases lib.toJsonString object with
  | none => exact ⟨rfl, rfl, replies⟩
  | some message =>
    cases put with
    | false => exact ⟨rfl, rfl, replies⟩
    | true =>
      refine ⟨rfl, rfl, ?_⟩
      intro reply member
      rcases List.mem_append.mp member with old | new
      · exact replies reply old
      · rw [List.mem_singleton.mp new]
        exact ⟨request, ⟨rfl, rfl⟩, answer⟩

/-- The tasks of a state in which one of them was written. -/
theorem tasks_update {taken : List Request} {tasks : Nat → Option ApiTask} {number : Nat} {written : Option ApiTask}
    (serves : ∀ other object, tasks other = some object → object.Serves lib rpcCallList taken other)
    (new : ∀ object, written = some object → object.Serves lib rpcCallList taken number) :
    ∀ other object, update tasks number written other = some object → object.Serves lib rpcCallList taken other := by
  intro other object found
  by_cases same : other = number
  · subst same
    rw [update_self] at found
    exact new object found
  · rw [update_of_ne same] at found
    exact serves other object found

theorem Identified.arrivalStep {s t : Proxy} {action : ArrivalAction} (before : s.Identified lib rpcCallList)
    (run : s.arrivalStep lib rpcCallList action = some t) : t.Identified lib rpcCallList := by
  have known := before.pc
  cases action <;> simp only [Proxy.arrivalStep, onlyIf_eq_some, Option.bind_eq_some_iff] at run
  case take req =>
    obtain ⟨here, rfl⟩ := run
    refine ⟨?_, List.getElem?_concat_length, ?_⟩
    · intro number object found
      have serves := before.tasks number object found
      exact ⟨taken_later req serves.request, serves.verdict⟩
    · intro reply member
      have made := before.replies reply member
      exact ⟨taken_later req made.request, made.address, made.answer⟩
  case process number req =>
    obtain ⟨here, rfl⟩ := run
    rw [here] at known
    refine ⟨before.tasks, ?_, before.replies⟩
    cases verdict : jsonProcessRequest lib rpcCallList req.data with
    | refuse errType id => exact ⟨known, Or.inr verdict⟩
    | dispatch id command access => exact ⟨known, verdict⟩
  case refuse number req errType id put =>
    obtain ⟨here, rfl⟩ := run
    rw [here] at known
    obtain ⟨request, reason⟩ := known
    have answer : (errorObject id errType).errorCode = some (-32603) ∨
        IsAnswer lib rpcCallList req (errorObject id errType) := by
      rcases reason with internal | verdict
      · rw [internal]
        exact Or.inl rfl
      · unfold IsAnswer
        rw [verdict]
        exact Or.inr rfl
    obtain ⟨taken, tasks, replies⟩ := sendJsonObject_replies put before.replies request answer
    refine ⟨?_, trivial, ?_⟩
    · show ∀ other object, (s.sendJsonObject lib number req (errorObject id errType) put).tasks other = some object →
        object.Serves lib rpcCallList (s.sendJsonObject lib number req (errorObject id errType) put).taken other
      rw [taken, tasks]
      exact before.tasks
    · show ∀ reply ∈ (s.sendJsonObject lib number req (errorObject id errType) put).scheduled,
        reply.Made lib rpcCallList (s.sendJsonObject lib number req (errorObject id errType) put).taken
      rw [taken]
      exact replies
  case create number req id command access allocated =>
    obtain ⟨here, rfl⟩ := run
    rw [here] at known
    obtain ⟨request, verdict⟩ := known
    cases allocated with
    | false => exact ⟨before.tasks, ⟨request, Or.inl rfl⟩, before.replies⟩
    | true =>
      refine ⟨tasks_update before.tasks ?_, request, before.replies⟩
      intro object made
      rw [← Option.some.inj made]
      exact ⟨request, verdict⟩
  case store number req id put =>
    obtain ⟨here, rfl⟩ := run
    rw [here] at known
    cases put with
    | false =>
      refine ⟨tasks_update before.tasks ?_, ⟨known, Or.inl rfl⟩, before.replies⟩
      intro object impossible
      cases impossible
    | true => exact ⟨before.tasks, known, before.replies⟩
  case handOver number req id put =>
    obtain ⟨here, rfl⟩ := run
    rw [here] at known
    cases put with
    | false => exact ⟨before.tasks, known, before.replies⟩
    | true => exact ⟨before.tasks, trivial, before.replies⟩
  case wakeup =>
    obtain ⟨here, rfl⟩ := run
    exact ⟨before.tasks, trivial, before.replies⟩
  case undo number req id =>
    obtain ⟨object, live, here, rfl⟩ := run
    rw [here] at known
    refine ⟨tasks_update before.tasks ?_, ⟨known, Or.inl rfl⟩, before.replies⟩
    intro object impossible
    cases impossible

/-- The mapper's thread changes nothing of a task but its results. -/
theorem Identified.written {s : Proxy} {task : Nat} {object : ApiTask} (before : s.Identified lib rpcCallList)
    (live : s.tasks task = some object) (data : JsonDataComm) :
    ∀ other later, update s.tasks task (some (withResult object data)) other = some later →
      later.Serves lib rpcCallList s.taken other := by
  refine tasks_update before.tasks ?_
  intro later made
  rw [← Option.some.inj made]
  have serves := before.tasks task object live
  exact ⟨serves.request, serves.verdict⟩

theorem Identified.mapperStep {s t : Proxy} {action : MapperAction} (before : s.Identified lib rpcCallList)
    (run : s.mapperStep action = some t) : t.Identified lib rpcCallList := by
  cases action <;> simp only [Proxy.mapperStep, onlyIf_eq_some, Option.bind_eq_some_iff] at run
  case semWait =>
    obtain ⟨_, rfl⟩ := run
    exact ⟨before.tasks, before.pc, before.replies⟩
  case chainGet =>
    split at run
    · obtain ⟨_, rfl⟩ := onlyIf_eq_some.mp run
      exact ⟨before.tasks, before.pc, before.replies⟩
    · obtain ⟨object, _, found⟩ := Option.bind_eq_some_iff.mp run
      obtain ⟨_, rfl⟩ := onlyIf_eq_some.mp found
      exact ⟨before.tasks, before.pc, before.replies⟩
  case processJsonToBinary task result written =>
    obtain ⟨object, live, _, rfl⟩ := run
    by_cases failed : result ≠ 0
    · rw [if_pos failed]
      exact ⟨before.written live written, before.pc, before.replies⟩
    · rw [if_neg failed]
      exact ⟨before.tasks, before.pc, before.replies⟩
  case processWork task written =>
    obtain ⟨_, rfl⟩ := run
    exact ⟨before.tasks, before.pc, before.replies⟩
  case processBinaryToJson task written =>
    obtain ⟨object, live, _, rfl⟩ := run
    exact ⟨before.written live written, before.pc, before.replies⟩
  case putIdent task put =>
    obtain ⟨object, live, _, rfl⟩ := run
    cases put with
    | false => exact ⟨before.tasks, before.pc, before.replies⟩
    | true => exact ⟨before.tasks, before.pc, before.replies⟩
  case wakeup =>
    obtain ⟨_, rfl⟩ := run
    exact ⟨before.tasks, before.pc, before.replies⟩

theorem Identified.replyStep {s t : Proxy} {action : ReplyAction} (before : s.Identified lib rpcCallList)
    (run : s.replyStep lib action = some t) : t.Identified lib rpcCallList := by
  cases action <;> simp only [Proxy.replyStep, onlyIf_eq_some, Option.bind_eq_some_iff] at run
  case semWait =>
    obtain ⟨_, rfl⟩ := run
    exact ⟨before.tasks, before.pc, before.replies⟩
  case chainGet =>
    split at run
    · obtain ⟨_, rfl⟩ := onlyIf_eq_some.mp run
      exact ⟨before.tasks, before.pc, before.replies⟩
    · obtain ⟨_, rfl⟩ := onlyIf_eq_some.mp run
      exact ⟨before.tasks, before.pc, before.replies⟩
  case removeTask respId =>
    split at run
    · obtain ⟨_, rfl⟩ := onlyIf_eq_some.mp run
      exact ⟨before.tasks, before.pc, before.replies⟩
    · obtain ⟨_, rfl⟩ := onlyIf_eq_some.mp run
      exact ⟨before.tasks, before.pc, before.replies⟩
  case sendResult task put =>
    obtain ⟨object, live, _, rfl⟩ := run
    have serves := before.tasks task object live
    have answer : IsAnswer lib rpcCallList object.netData (resultObject object) := by
      unfold IsAnswer
      rw [serves.verdict]
      exact ⟨object, rfl, rfl⟩
    obtain ⟨taken, tasks, replies⟩ := sendJsonObject_replies put before.replies serves.request (Or.inr answer)
    refine ⟨?_, ?_, ?_⟩
    · show ∀ other later, (s.sendJsonObject lib task object.netData (resultObject object) put).tasks other = some later →
        later.Serves lib rpcCallList (s.sendJsonObject lib task object.netData (resultObject object) put).taken other
      rw [taken, tasks]
      exact before.tasks
    · have same : (s.sendJsonObject lib task object.netData (resultObject object) put).pc = s.pc := by
        unfold sendJsonObject
        split
        · rfl
        · split_ifs <;> rfl
      show (s.sendJsonObject lib task object.netData (resultObject object) put).pc.Refers lib rpcCallList
        (s.sendJsonObject lib task object.netData (resultObject object) put).taken
      rw [same, taken]
      exact before.pc
    · show ∀ reply ∈ (s.sendJsonObject lib task object.netData (resultObject object) put).scheduled,
        reply.Made lib rpcCallList (s.sendJsonObject lib task object.netData (resultObject object) put).taken
      rw [taken]
      exact replies
  case release task =>
    obtain ⟨_, rfl⟩ := run
    refine ⟨tasks_update before.tasks ?_, before.pc, before.replies⟩
    intro object impossible
    cases impossible

theorem reach_identified {s : Proxy} (reach : Reach (step lib rpcCallList) (fun _ _ => True) start s) :
    s.Identified lib rpcCallList := by
  refine reach.invariant identified_start ?_
  intro s t action before _ run
  cases action with
  | arrival action => exact before.arrivalStep run
  | mapper action => exact before.mapperStep run
  | reply action => exact before.replyStep run

end Proxy

section
variable {lib : JsonC} {rpcCallList : List RpcCommand}

/-- An id that was accepted is the int that json-c makes of the id in the request. -/
theorem getJsonrpcId_eq {object : Json} {n : Int} (accepted : getJsonrpcId lib object = some n) :
    ∃ id, object.objectGet (ascii "id") = some id ∧ n = lib.getInt id := by
  unfold getJsonrpcId at accepted
  obtain ⟨id, found, rest⟩ := Option.bind_eq_some_iff.mp accepted
  obtain ⟨text, _, same⟩ := Option.bind_eq_some_iff.mp rest
  exact ⟨id, found, (Option.some.inj same).symm⟩

/-- A request that is dispatched, or whose method is not found, goes on under the int of its id. -/
theorem jsonProcessRequest_int {req : Request} {n : Int}
    (verdict : jsonProcessRequest lib rpcCallList req.data = .refuse .methodNotFound n ∨
      ∃ command access, jsonProcessRequest lib rpcCallList req.data = .dispatch n command access) :
    ∃ id, RequestId lib req id ∧ n = lib.getInt id := by
  unfold jsonProcessRequest at verdict
  by_cases isArray : req.data.head? = some 0x5b
  · rw [if_pos isArray] at verdict
    rcases verdict with impossible | ⟨_, _, impossible⟩ <;> cases impossible
  · rw [if_neg isArray] at verdict
    by_cases invalid : jsonCheckerFunction req.data ≠ 0
    · rw [if_pos invalid] at verdict
      rcases verdict with impossible | ⟨_, _, impossible⟩ <;> cases impossible
    · rw [if_neg invalid] at verdict
      cases parsed : lib.tokenerParse (cString req.data) with
      | none =>
        rw [parsed] at verdict
        rcases verdict with impossible | ⟨_, _, impossible⟩ <;> cases impossible
      | some object =>
        rw [parsed] at verdict
        dsimp only at verdict
        cases accepted : getJsonrpcId lib object with
        | none =>
          rw [accepted] at verdict
          rcases verdict with impossible | ⟨_, _, impossible⟩ <;> cases impossible
        | some m =>
          obtain ⟨id, found, same⟩ := getJsonrpcId_eq accepted
          have equal : n = m := by
            rw [accepted] at verdict
            dsimp only at verdict
            cases method : getJsonrpcMethod lib rpcCallList object with
            | none =>
              rw [method] at verdict
              rcases verdict with refused | ⟨_, _, impossible⟩
              · cases refused
                rfl
              · cases impossible
            | some command =>
              rw [method] at verdict
              rcases verdict with impossible | ⟨_, _, dispatched⟩
              · cases impossible
              · cases dispatched
                rfl
          exact ⟨id, ⟨object, parsed, found⟩, equal.trans same⟩

/-- A result or a method-not-found error has the int of the id of its request. -/
theorem IsAnswer.int {req : Request} {response : Json} (answer : IsAnswer lib rpcCallList req response)
    (answered : response.Answered) :
    ∃ id, RequestId lib req id ∧ response.member (ascii "id") = some (.int (lib.getInt id)) := by
  unfold IsAnswer at answer
  cases verdict : jsonProcessRequest lib rpcCallList req.data with
  | refuse errType n =>
    rw [verdict] at answer
    have notFound : errType = .methodNotFound := by
      unfold Json.Answered at answered
      rw [answer, errorObject_errorCode] at answered
      cases errType with
      | methodNotFound => rfl
      | parseError => exact absurd answered (by decide)
      | invalidReq => exact absurd answered (by decide)
      | invalidParams => exact absurd answered (by decide)
      | internalError => exact absurd answered (by decide)
      | unknownError => exact absurd answered (by decide)
    rw [notFound] at verdict answer
    obtain ⟨id, asked, same⟩ := jsonProcessRequest_int (Or.inl verdict)
    refine ⟨id, asked, ?_⟩
    rw [answer, errorObject_id, ← same]
    rfl
  | dispatch n command access =>
    rw [verdict] at answer
    obtain ⟨task, named, made⟩ := answer
    obtain ⟨id, asked, same⟩ := jsonProcessRequest_int (Or.inr ⟨command, access, verdict⟩)
    refine ⟨id, asked, ?_⟩
    rw [made, resultObject_id, named, same]

theorem RequestId.unique {req : Request} {id other : Json} (first : RequestId lib req id)
    (second : RequestId lib req other) : id = other := by
  obtain ⟨object, parsed, found⟩ := first
  obtain ⟨object', parsed', found'⟩ := second
  rw [parsed] at parsed'
  cases parsed'
  rw [found] at found'
  exact Option.some.inj found'

namespace Proxy

/-- A response with a result or a method-not-found error repeats the id of its request as an int, so that
the responses to requests with different integer ids in the range of an int have the ids of their
requests, which differ. -/
theorem responses_correlated (documented : lib.Documented) {s : Proxy}
    (reach : Reach (step lib rpcCallList) (fun _ _ => True) start s) :
    (∀ reply ∈ s.scheduled, s.taken[reply.number]? = some reply.response.request ∧
      reply.response.cltid = reply.response.request.cltid ∧
      (reply.object.Answered → ∃ id, RequestId lib reply.response.request id ∧
        reply.object.member (ascii "id") = some (.int (lib.getInt id)))) ∧
    ∀ first ∈ s.scheduled, ∀ second ∈ s.scheduled, first.object.Answered → second.object.Answered →
      ∀ n m : Int, RequestId lib first.response.request (.int n) → RequestId lib second.response.request (.int m) →
        -2 ^ 31 ≤ n → n < 2 ^ 31 → -2 ^ 31 ≤ m → m < 2 ^ 31 → n ≠ m →
        first.object.member (ascii "id") = some (.int n) ∧ second.object.member (ascii "id") = some (.int m) ∧
          first.object.member (ascii "id") ≠ second.object.member (ascii "id") := by
  have identified := reach_identified reach
  have answers : ∀ reply ∈ s.scheduled, reply.object.Answered → ∃ id, RequestId lib reply.response.request id ∧
      reply.object.member (ascii "id") = some (.int (lib.getInt id)) := by
    intro reply member answered
    rcases (identified.replies reply member).answer with internal | answer
    · unfold Json.Answered at answered
      rw [internal] at answered
      exact absurd answered (by decide)
    · exact answer.int answered
  have carries : ∀ reply ∈ s.scheduled, reply.object.Answered → ∀ n : Int,
      RequestId lib reply.response.request (.int n) → -2 ^ 31 ≤ n → n < 2 ^ 31 →
      reply.object.member (ascii "id") = some (.int n) := by
    intro reply member answered n asked low high
    obtain ⟨id, named, carried⟩ := answers reply member answered
    rw [named.unique asked, documented.getInt_int n low high] at carried
    exact carried
  constructor
  · intro reply member
    have made := identified.replies reply member
    exact ⟨made.request, made.address.2, answers reply member⟩
  · intro first member second member' answered answered' n m asked asked' low high low' high' differ
    have one := carries first member answered n asked low high
    have two := carries second member' answered' m asked' low' high'
    refine ⟨one, two, ?_⟩
    rw [one, two]
    intro same
    exact differ (Json.int.inj (Option.some.inj same))

/-- Calls of a method that nobody registered. -/
def callObject (id : Json) : Json :=
  .object [(ascii "jsonrpc", .string (ascii "2.0")), (ascii "method", .string (ascii "none")), (ascii "id", id)]

def callIds : List Json :=
  [.int 1, .int 2, .string (ascii "a"), .string (ascii "b"), .int 2147483648, .int 2147483649]

/-- json-c on the texts of these calls. -/
def callLib : JsonC :=
  { sampleLib with
    tokenerParse := fun text => (callIds.find? fun id => spaced (callObject id) = text).map callObject }

theorem callLib_documented : callLib.Documented where
  getInt_int := sampleLib_documented.getInt_int
  getString_int := sampleLib_documented.getString_int
  prints := sampleLib_documented.prints

def call (id : Json) : Request :=
  { ident := 1, sockDescriptor := 7, port := 40000, ip := [], cltid := 1, data := spaced (callObject id), serial := 0,
    arrivedOn := [0] }

/-- Two such calls, and the ints that their responses have. -/
def twoCalls (first second : Json) (n m : Int) : List ProxyAction :=
  [.arrival (.take (call first)), .arrival (.process 0 (call first)),
   .arrival (.refuse 0 (call first) .methodNotFound n true),
   .arrival (.take (call second)), .arrival (.process 1 (call second)),
   .arrival (.refuse 1 (call second) .methodNotFound m true)]

/-- The int id of a response. -/
def responseId (response : Json) : Option Int :=
  match response.member (ascii "id") with
  | some (.int n) => some n
  | _ => none

theorem member_of_responseId {response : Json} {n : Int} (carried : responseId response = some n) :
    response.member (ascii "id") = some (.int n) := by
  unfold responseId at carried
  split at carried
  · rename_i found
    rw [found, Option.some.inj carried]
  · cases carried

/-- Two responses were sent, with these ints. -/
def TwoAnswered (first second : Json) (n m : Int) (s : Proxy) : Prop :=
  ∃ one ∈ s.scheduled, ∃ two ∈ s.scheduled, one.response.request = call first ∧ two.response.request = call second ∧
    one.object.Answered ∧ two.object.Answered ∧ responseId one.object = some n ∧ responseId two.object = some m

instance (first second : Json) (n m : Int) : DecidablePred (TwoAnswered first second n m) := by
  intro s
  unfold TwoAnswered
  infer_instance

theorem call_one : RequestId callLib (call (.int 1)) (.int 1) := ⟨callObject (.int 1), rfl, rfl⟩

theorem call_two : RequestId callLib (call (.int 2)) (.int 2) := ⟨callObject (.int 2), rfl, rfl⟩

theorem responses_correlated_calls :
    ∃ s : Proxy, ∃ one ∈ s.scheduled, ∃ two ∈ s.scheduled, one.object.member (ascii "id") = some (.int 1) ∧
      two.object.member (ascii "id") = some (.int 2) := by
  obtain ⟨s, reach, one, member, two, member', request, request', answered, answered', _, _⟩ :=
    exists_reach (step callLib []) (fun _ _ => True) start (twoCalls (.int 1) (.int 2) 1 2)
      (TwoAnswered (.int 1) (.int 2) 1 2) (by decide +kernel)
  have asked : RequestId callLib one.response.request (.int 1) := by
    rw [request]
    exact call_one
  have asked' : RequestId callLib two.response.request (.int 2) := by
    rw [request']
    exact call_two
  obtain ⟨carried, carried', _⟩ := (responses_correlated callLib_documented reach).2 one member two member' answered
    answered' 1 2 asked asked' (by decide) (by decide) (by decide) (by decide) (by decide)
  exact ⟨s, one, member, two, member', carried, carried'⟩

/-- The responses to the ids `"a"` and `"b"` have the id 0, and those to two integers above the range of
an int have the largest int. -/
theorem string_and_large_ids_collide :
    (∃ s : Proxy, Reach (step callLib []) (fun _ _ => True) start s ∧
      ∃ one ∈ s.scheduled, ∃ two ∈ s.scheduled,
        RequestId callLib one.response.request (.string (ascii "a")) ∧
        RequestId callLib two.response.request (.string (ascii "b")) ∧
        one.object.Answered ∧ two.object.Answered ∧
        one.object.member (ascii "id") = two.object.member (ascii "id")) ∧
    ∃ s : Proxy, Reach (step callLib []) (fun _ _ => True) start s ∧
      ∃ one ∈ s.scheduled, ∃ two ∈ s.scheduled,
        RequestId callLib one.response.request (.int 2147483648) ∧
        RequestId callLib two.response.request (.int 2147483649) ∧
        one.object.Answered ∧ two.object.Answered ∧
        one.object.member (ascii "id") = two.object.member (ascii "id") := by
  constructor
  · obtain ⟨s, reach, one, member, two, member', request, request', answered, answered', carried, carried'⟩ :=
      exists_reach (step callLib []) (fun _ _ => True) start (twoCalls (.string (ascii "a")) (.string (ascii "b")) 0 0)
        (TwoAnswered (.string (ascii "a")) (.string (ascii "b")) 0 0) (by decide +kernel)
    refine ⟨s, reach, one, member, two, member', ?_, ?_, answered, answered', ?_⟩
    · rw [request]
      exact ⟨callObject (.string (ascii "a")), rfl, rfl⟩
    · rw [request']
      exact ⟨callObject (.string (ascii "b")), rfl, rfl⟩
    · rw [member_of_responseId carried, member_of_responseId carried']
  · obtain ⟨s, reach, one, member, two, member', request, request', answered, answered', carried, carried'⟩ :=
      exists_reach (step callLib []) (fun _ _ => True) start
        (twoCalls (.int 2147483648) (.int 2147483649) 2147483647 2147483647)
        (TwoAnswered (.int 2147483648) (.int 2147483649) 2147483647 2147483647) (by decide +kernel)
    refine ⟨s, reach, one, member, two, member', ?_, ?_, answered, answered', ?_⟩
    · rw [request]
      exact ⟨callObject (.int 2147483648), rfl, rfl⟩
    · rw [request']
      exact ⟨callObject (.int 2147483649), rfl, rfl⟩
    · rw [member_of_responseId carried, member_of_responseId carried']

end Proxy
end
end JsonRpcTcp
