import JsonRpcTcp.ProxyMoves

namespace JsonRpcTcp
open Function

namespace ArrivalPc

/-- The request that the listen thread has neither answered nor put into
`ReqRespChain`. -/
def fresh : ArrivalPc → Option Nat
  | .processing number _ | .refusing number _ _ _ | .creating number _ _ _ _ | .storing number _ _ => some number
  | _ => none

/-- The task that is in `ReqRespChain` and not yet in `ReqChain`. -/
def stored : ArrivalPc → Option Nat
  | .handingOver number _ _ | .undoing number _ _ => some number
  | _ => none

/-- The task that is in no chain yet. -/
def made : ArrivalPc → Option Nat
  | .storing number _ _ => some number
  | _ => none

theorem fresh_of_made {pc : ArrivalPc} {number : Nat} (made : pc.made = some number) : pc.fresh = some number := by
  cases pc <;> first | exact made | cases made

end ArrivalPc

/-- The task of the mapper's thread. -/
def MapperPc.task : MapperPc → Option Nat
  | .decoding task | .working task | .encoding task | .answering task => some task
  | _ => none

/-- The ident that the reply thread looks for. -/
def ReplyPc.awaited : ReplyPc → Option Int
  | .removing respId => some respId
  | _ => none

/-- The task that the reply thread has to answer. -/
def ReplyPc.task : ReplyPc → Option Nat
  | .replying task => some task
  | _ => none

/-- The request names a registered method and the rest of it is in order. -/
def isDispatched (lib : JsonC) (rpcCallList : List RpcCommand) (req : Request) : Bool :=
  match jsonProcessRequest lib rpcCallList req.data with
  | .refuse .. => false
  | .dispatch .. => true

/-- The task was made for the request at this position. -/
structure ApiTask.Serves (lib : JsonC) (rpcCallList : List RpcCommand) (taken : List Request) (number : Nat)
    (object : ApiTask) : Prop where
  request : taken[number]? = some object.netData
  verdict : jsonProcessRequest lib rpcCallList object.netData.data =
    .dispatch object.reqId object.rpcMethod object.access

/-- The task is still the one it was, up to its results. -/
structure ApiTask.Continues (later object : ApiTask) : Prop where
  ident : later.ident = object.ident
  reqId : later.reqId = object.reqId
  netData : later.netData = object.netData
  rpcMethod : later.rpcMethod = object.rpcMethod
  access : later.access = object.access

theorem ApiTask.Serves.continue {lib : JsonC} {rpcCallList : List RpcCommand} {taken : List Request} {number : Nat}
    {object later : ApiTask} (serves : object.Serves lib rpcCallList taken number) (same : later.Continues object) :
    later.Serves lib rpcCallList taken number where
  request := by
    rw [same.netData]
    exact serves.request
  verdict := by
    rw [same.netData, same.reqId, same.rpcMethod, same.access]
    exact serves.verdict

/-- What the listen thread knows of the request it works on. -/
def ArrivalPc.Knows (lib : JsonC) (rpcCallList : List RpcCommand) (taken : List Request) : ArrivalPc → Prop
  | .processing number req => taken[number]? = some req
  | .refusing number req errType id =>
    taken[number]? = some req ∧ jsonProcessRequest lib rpcCallList req.data = .refuse errType id
  | .creating number req id command access =>
    taken[number]? = some req ∧ jsonProcessRequest lib rpcCallList req.data = .dispatch id command access
  | _ => True

/-- The object is an answer that the source makes for this request. -/
def IsAnswer (lib : JsonC) (rpcCallList : List RpcCommand) (req : Request) (object : Json) : Prop :=
  match jsonProcessRequest lib rpcCallList req.data with
  | .refuse errType id => object = errorObject id errType
  | .dispatch id _ _ => ∃ task : ApiTask, task.reqId = id ∧ object = resultObject task

/-- A scheduled response was made for the request at its position. -/
structure Reply.Answers (lib : JsonC) (rpcCallList : List RpcCommand) (taken : List Request) (reply : Reply) :
    Prop where
  request : taken[reply.number]? = some reply.response.request
  address : reply.response.sockDescriptor = reply.response.request.sockDescriptor ∧
    reply.response.cltid = reply.response.request.cltid
  text : lib.toJsonString reply.object = some reply.response.data
  answer : IsAnswer lib rpcCallList reply.response.request reply.object

namespace Proxy
variable (lib : JsonC) (rpcCallList : List RpcCommand)

def identOf (s : Proxy) (task : Nat) : Option Int := (s.tasks task).map ApiTask.ident

/-- The dispatched requests that were answered, in the order of their answers. -/
def sent (s : Proxy) : List Nat :=
  (s.scheduled.filter fun reply => isDispatched lib rpcCallList reply.response.request).map Reply.number

/-- The requests that were answered by the listen thread itself. -/
def refused (s : Proxy) : List Nat :=
  (s.scheduled.filter fun reply => !isDispatched lib rpcCallList reply.response.request).map Reply.number

/-- The requests on their way through the threads, behind those already sent. -/
def line (s : Proxy) : List Nat :=
  s.sent lib rpcCallList ++ s.replyPc.task.toList ++ s.reqRespChain ++ s.pc.fresh.toList

/-- The chains and the threads hold the requests in the order they were taken.
`ReqRespChain` holds first the tasks whose idents are in `RespChain`, then those
of the mapper. -/
structure Pipeline (s : Proxy) : Prop where
  chain : ∃ answered : List Nat,
    s.reqRespChain = answered ++ (s.mapperPc.task.toList ++ s.reqChain ++ s.pc.stored.toList) ∧
    answered.map s.identOf = (s.replyPc.awaited.toList ++ s.respChain).map some
  live : ∀ number ∈ s.replyPc.task.toList ++ s.reqRespChain ++ s.pc.made.toList,
    ∃ object, s.tasks number = some object ∧ object.Serves lib rpcCallList s.taken number
  released : ∀ number, s.replyPc = .releasing number → number ∈ s.sent lib rpcCallList
  current : s.pc.Knows lib rpcCallList s.taken
  replies : ∀ reply ∈ s.scheduled, reply.Answers lib rpcCallList s.taken
  ordered : (s.line lib rpcCallList).Pairwise (· < ·)
  complete : (s.line lib rpcCallList ++ s.refused lib rpcCallList).Perm (List.range s.taken.length)

variable {lib rpcCallList}

theorem pipeline_start : start.Pipeline lib rpcCallList where
  chain := ⟨[], rfl, rfl⟩
  live := by simp [start, ReplyPc.task, ArrivalPc.made]
  released := by simp [start]
  current := trivial
  replies := by simp [start]
  ordered := List.Pairwise.nil
  complete := List.Perm.refl _

theorem taken_later {taken : List Request} {number : Nat} {req : Request} (later : Request)
    (request : taken[number]? = some req) : (taken ++ [later])[number]? = some req := by
  rw [List.getElem?_append_left (List.getElem?_eq_some_iff.mp request).1]
  exact request

theorem Pipeline.nodup {s : Proxy} (pipeline : s.Pipeline lib rpcCallList) : (s.line lib rpcCallList).Nodup :=
  pipeline.ordered.imp fun less => Nat.ne_of_lt less

/-- A request that the listen thread still works on is in no chain. -/
theorem Pipeline.fresh_unstored {s : Proxy} (pipeline : s.Pipeline lib rpcCallList) {number : Nat}
    (fresh : s.pc.fresh = some number) : number ∉ s.reqRespChain ∧ s.replyPc.task ≠ some number := by
  have nodup := pipeline.nodup
  simp only [line, fresh, Option.toList_some] at nodup
  have apart := (List.nodup_append.mp nodup).2.2
  constructor
  · intro member
    exact apart number (List.mem_append_right _ member) number (List.mem_singleton_self _) rfl
  · intro replying
    refine apart number (List.mem_append_left _ (List.mem_append_right _ ?_)) number (List.mem_singleton_self _) rfl
    simp [replying]

/-- A task that is released is no longer in the chain. -/
theorem Pipeline.released_removed {s : Proxy} (pipeline : s.Pipeline lib rpcCallList) {task : Nat}
    (here : s.replyPc = .releasing task) : task ∉ s.reqRespChain ∧ s.pc.fresh ≠ some task := by
  have sent := pipeline.released task here
  have nodup := pipeline.nodup
  simp only [line, here, ReplyPc.task, Option.toList_none, List.append_nil, List.append_assoc] at nodup
  have apart := (List.nodup_append.mp nodup).2.2
  constructor
  · intro member
    exact apart task sent task (List.mem_append_left _ member) rfl
  · intro fresh
    refine apart task sent task (List.mem_append_right _ ?_) rfl
    simp [fresh]

/-- The first task in `ReqRespChain` is the one that the reply thread looks for. -/
theorem Pipeline.first {s : Proxy} (pipeline : s.Pipeline lib rpcCallList) {respId : Int}
    (here : s.replyPc = .removing respId) :
    ∃ task answered, s.reqRespChain =
        task :: (answered ++ (s.mapperPc.task.toList ++ s.reqChain ++ s.pc.stored.toList)) ∧
      s.identifies respId task = true ∧ answered.map s.identOf = s.respChain.map some := by
  obtain ⟨answered, chain, idents⟩ := pipeline.chain
  simp only [here, ReplyPc.awaited, Option.toList_some, List.singleton_append, List.map_cons] at idents
  cases answered with
  | nil => cases idents
  | cons task rest =>
    obtain ⟨ident, others⟩ := List.cons.inj idents
    refine ⟨task, rest, chain, ?_, others⟩
    obtain ⟨object, live, same⟩ := Option.map_eq_some_iff.mp ident
    simp [identifies, live, same]

/-- Looking for the ident finds that first task and takes it out. -/
theorem Pipeline.removes_first {s : Proxy} (pipeline : s.Pipeline lib rpcCallList) {respId : Int}
    (here : s.replyPc = .removing respId) {task : Nat}
    (found : s.reqRespChain.find? (s.identifies respId) = some task) :
    s.reqRespChain = task :: s.reqRespChain.eraseP (s.identifies respId) := by
  obtain ⟨first, answered, chain, identified, _⟩ := pipeline.first here
  rw [chain, List.find?_cons_of_pos identified] at found
  rw [chain, List.eraseP_cons_of_pos identified, Option.some.inj found]

/-- The tasks that some thread or chain still needs. -/
def held (s : Proxy) : List Nat := s.replyPc.task.toList ++ s.reqRespChain ++ s.pc.made.toList

/-- A task that is still needed stays, up to its results. -/
theorem Move.tasks {s t : Proxy} {action : ProxyAction} (pipeline : s.Pipeline lib rpcCallList)
    (move : Move lib rpcCallList s action t) {number : Nat} (member : number ∈ s.held) {object : ApiTask}
    (live : s.tasks number = some object) : ∃ later, t.tasks number = some later ∧ later.Continues object := by
  have written : ∀ (task : Nat) (old : ApiTask) (data : JsonDataComm), s.tasks task = some old →
      ∃ later, update s.tasks task (some (withResult old data)) number = some later ∧ later.Continues object := by
    intro task old data known
    by_cases same : number = task
    · subst same
      cases Option.some.inj (known.symm.trans live)
      exact ⟨_, update_self .., ⟨rfl, rfl, rfl, rfl, rfl⟩⟩
    · rw [update_of_ne same]
      exact ⟨object, live, ⟨rfl, rfl, rfl, rfl, rfl⟩⟩
  cases move
  case create fresh req id command access here =>
    obtain ⟨unstored, idle⟩ := pipeline.fresh_unstored (show s.pc.fresh = some fresh by rw [here]; rfl)
    have differ : number ≠ fresh := by
      rintro rfl
      simp [held, here, ArrivalPc.made, unstored, idle] at member
    exact ⟨object, (update_of_ne differ _ _).trans live, ⟨rfl, rfl, rfl, rfl, rfl⟩⟩
  case release task here =>
    obtain ⟨removed, notFresh⟩ := pipeline.released_removed here
    have differ : number ≠ task := by
      rintro rfl
      simp only [held, here, ReplyPc.task, Option.toList_none, List.nil_append] at member
      rcases List.mem_append.mp member with stored | made
      · exact removed stored
      · exact notFresh (ArrivalPc.fresh_of_made (Option.mem_toList.mp made))
    exact ⟨object, (update_of_ne differ _ _).trans live, ⟨rfl, rfl, rfl, rfl, rfl⟩⟩
  case decodeFails task result data old here known _ => exact written task old data known
  case encode task data old here known => exact written task old data known
  all_goals exact ⟨object, live, ⟨rfl, rfl, rfl, rfl, rfl⟩⟩

theorem Pipeline.live_stored {s : Proxy} (pipeline : s.Pipeline lib rpcCallList) {number : Nat}
    (stored : number ∈ s.reqRespChain) :
    ∃ object, s.tasks number = some object ∧ object.Serves lib rpcCallList s.taken number :=
  pipeline.live number (List.mem_append_left _ (List.mem_append_right _ stored))

/-- The idents of the tasks in `ReqRespChain` never change. -/
theorem Move.identOf {s t : Proxy} {action : ProxyAction} (pipeline : s.Pipeline lib rpcCallList)
    (move : Move lib rpcCallList s action t) {number : Nat} (stored : number ∈ s.reqRespChain) :
    t.identOf number = s.identOf number := by
  obtain ⟨object, live, _⟩ := pipeline.live_stored stored
  have needed : number ∈ s.held := List.mem_append_left _ (List.mem_append_right _ stored)
  obtain ⟨later, kept, same⟩ := move.tasks pipeline needed live
  simp only [Proxy.identOf, live, kept, Option.map_some, same.ident]

theorem Move.chain {s t : Proxy} {action : ProxyAction} (pipeline : s.Pipeline lib rpcCallList)
    (move : Move lib rpcCallList s action t) :
    ∃ answered : List Nat,
      t.reqRespChain = answered ++ (t.mapperPc.task.toList ++ t.reqChain ++ t.pc.stored.toList) ∧
      answered.map t.identOf = (t.replyPc.awaited.toList ++ t.respChain).map some := by
  obtain ⟨answered, chain, idents⟩ := pipeline.chain
  have kept : answered.map t.identOf = answered.map s.identOf := by
    refine List.map_congr_left fun number member => move.identOf pipeline ?_
    rw [chain]
    exact List.mem_append_left _ member
  cases move
  case store number req id here =>
    refine ⟨answered, ?_, kept.trans idents⟩
    simp [chain, here, ArrivalPc.stored]
  case handOver number req id here =>
    refine ⟨answered, ?_, kept.trans idents⟩
    simp [chain, here, ArrivalPc.stored]
  case getTask task rest object here queue live =>
    refine ⟨answered, ?_, kept.trans idents⟩
    simp [chain, here, queue, MapperPc.task]
  case putIdent task object here live =>
    refine ⟨answered ++ [task], ?_, ?_⟩
    · simp [chain, here, MapperPc.task]
    · have ident : s.identOf task = some object.ident := by simp [Proxy.identOf, live]
      rw [List.map_append, kept, idents]
      simp only [List.map_append, List.map_cons, List.map_nil, List.append_assoc]
      rw [← ident]
      rfl
  case getIdent respId rest here queue =>
    refine ⟨answered, chain, kept.trans (idents.trans ?_)⟩
    simp [here, queue, ReplyPc.awaited]
  case missing respId here absent =>
    obtain ⟨task, _, first, identified, _⟩ := pipeline.first here
    rw [first, List.find?_cons_of_pos identified] at absent
    cases absent
  case removeTask respId task here found =>
    obtain ⟨first, others, whole, identified, rest⟩ := pipeline.first here
    refine ⟨others, ?_, rest⟩
    simp only [whole, List.eraseP_cons_of_pos identified]
  case take | turnDown | accept | refuse | create | wakeMapper =>
    refine ⟨answered, ?_, kept.trans idents⟩
    simp_all [ArrivalPc.stored]
  case mapperWait | noTask | decodeFails | decode | work | encode | wakeReply =>
    refine ⟨answered, ?_, kept.trans idents⟩
    simp_all [MapperPc.task]
  case replyWait | noIdent | sendResult | release =>
    refine ⟨answered, chain, kept.trans (idents.trans ?_)⟩
    simp_all [ReplyPc.awaited]

theorem Pipeline.live_replying {s : Proxy} (pipeline : s.Pipeline lib rpcCallList) {task : Nat} {object : ApiTask}
    (here : s.replyPc = .replying task) (live : s.tasks task = some object) :
    object.Serves lib rpcCallList s.taken task := by
  obtain ⟨other, known, serves⟩ := pipeline.live task (by simp [here, ReplyPc.task])
  cases Option.some.inj (known.symm.trans live)
  exact serves

theorem isDispatched_of_dispatch {req : Request} {id : Int} {command : RpcCommand} {access : TaskAccess}
    (verdict : jsonProcessRequest lib rpcCallList req.data = .dispatch id command access) :
    isDispatched lib rpcCallList req = true := by
  simp only [isDispatched, verdict]

theorem isDispatched_of_refuse {req : Request} {errType : RpcError} {id : Int}
    (verdict : jsonProcessRequest lib rpcCallList req.data = .refuse errType id) :
    isDispatched lib rpcCallList req = false := by
  simp only [isDispatched, verdict]

/-- A step moves requests along the line. Only a new request joins it, at its end,
and only a refused one leaves it, before any other has joined. -/
theorem Move.line {s t : Proxy} {action : ProxyAction} (pipeline : s.Pipeline lib rpcCallList)
    (move : Move lib rpcCallList s action t) :
    (t.line lib rpcCallList = s.line lib rpcCallList ∧ t.refused lib rpcCallList = s.refused lib rpcCallList ∧
      t.taken = s.taken) ∨
    (∃ req, t.line lib rpcCallList = s.line lib rpcCallList ++ [s.taken.length] ∧
      t.refused lib rpcCallList = s.refused lib rpcCallList ∧ t.taken = s.taken ++ [req]) ∨
    (∃ number, s.line lib rpcCallList = t.line lib rpcCallList ++ [number] ∧
      t.refused lib rpcCallList = s.refused lib rpcCallList ++ [number] ∧ t.taken = s.taken) := by
  cases move
  case take req here =>
    refine Or.inr (Or.inl ⟨req, ?_, rfl, rfl⟩)
    simp [Proxy.line, here, ArrivalPc.fresh, sent]
  case refuse number req errType id message here prints =>
    have known := pipeline.current
    rw [here] at known
    have notDispatched := isDispatched_of_refuse known.2
    refine Or.inr (Or.inr ⟨number, ?_, ?_, rfl⟩)
    · simp [Proxy.line, here, ArrivalPc.fresh, sent, replyTo, notDispatched]
    · simp [refused, replyTo, notDispatched]
  case sendResult task object message here live prints =>
    have dispatched := isDispatched_of_dispatch (pipeline.live_replying here live).verdict
    refine Or.inl ⟨?_, ?_, rfl⟩
    · simp [Proxy.line, here, ReplyPc.task, sent, replyTo, dispatched]
    · simp [refused, replyTo, dispatched]
  case removeTask respId task here found =>
    refine Or.inl ⟨?_, rfl, rfl⟩
    have first := pipeline.removes_first here found
    simp only [Proxy.line, here, ReplyPc.task, Option.toList_some, Option.toList_none, List.append_nil, sent]
    rw [List.append_assoc, List.append_assoc, List.append_assoc, List.singleton_append]
    rw [← List.cons_append, ← first]
  case turnDown | accept | create | store | handOver | wakeMapper =>
    refine Or.inl ⟨?_, rfl, rfl⟩
    simp_all [Proxy.line, ArrivalPc.fresh, sent]
  case mapperWait | noTask | getTask | decodeFails | decode | work | encode | putIdent | wakeReply =>
    exact Or.inl ⟨rfl, rfl, rfl⟩
  case replyWait | noIdent | getIdent | missing | release =>
    refine Or.inl ⟨?_, rfl, rfl⟩
    simp_all [Proxy.line, ReplyPc.task, sent]

theorem Pipeline.line_bound {s : Proxy} (pipeline : s.Pipeline lib rpcCallList) {number : Nat}
    (member : number ∈ s.line lib rpcCallList) : number < s.taken.length := by
  have everyone := pipeline.complete.mem_iff.mp (List.mem_append_left _ member)
  exact List.mem_range.mp everyone

theorem Move.ordered {s t : Proxy} {action : ProxyAction} (pipeline : s.Pipeline lib rpcCallList)
    (move : Move lib rpcCallList s action t) : (t.line lib rpcCallList).Pairwise (· < ·) := by
  have ordered := pipeline.ordered
  rcases move.line pipeline with ⟨same, _⟩ | ⟨req, joined, _⟩ | ⟨number, left, _⟩
  · rw [same]
    exact ordered
  · rw [joined]
    refine List.pairwise_append.mpr ⟨ordered, List.pairwise_singleton .., ?_⟩
    intro number member last new
    have bound := pipeline.line_bound member
    rw [List.mem_singleton.mp new]
    exact bound
  · rw [left] at ordered
    exact (List.pairwise_append.mp ordered).1

theorem Move.complete {s t : Proxy} {action : ProxyAction} (pipeline : s.Pipeline lib rpcCallList)
    (move : Move lib rpcCallList s action t) :
    (t.line lib rpcCallList ++ t.refused lib rpcCallList).Perm (List.range t.taken.length) := by
  have complete := pipeline.complete
  rcases move.line pipeline with ⟨same, refused, taken⟩ | ⟨req, joined, refused, taken⟩ |
    ⟨number, left, refused, taken⟩
  · rw [same, refused, taken]
    exact complete
  · rw [joined, refused, taken, List.length_append, List.length_singleton, List.range_succ]
    calc s.line lib rpcCallList ++ [s.taken.length] ++ s.refused lib rpcCallList
      _ = s.line lib rpcCallList ++ ([s.taken.length] ++ s.refused lib rpcCallList) := List.append_assoc ..
      List.Perm _ (s.line lib rpcCallList ++ (s.refused lib rpcCallList ++ [s.taken.length])) :=
        List.Perm.append_left _ List.perm_append_comm
      _ = s.line lib rpcCallList ++ s.refused lib rpcCallList ++ [s.taken.length] := (List.append_assoc ..).symm
      List.Perm _ (List.range s.taken.length ++ [s.taken.length]) := complete.append_right _
  · rw [left] at complete
    rw [refused, taken]
    refine List.Perm.trans ?_ complete
    rw [List.append_assoc]
    exact List.Perm.append_left _ List.perm_append_comm

theorem Move.live {s t : Proxy} {action : ProxyAction} (pipeline : s.Pipeline lib rpcCallList)
    (move : Move lib rpcCallList s action t) :
    ∀ number ∈ t.held, ∃ object, t.tasks number = some object ∧ object.Serves lib rpcCallList t.taken number := by
  intro number member
  have keep : number ∈ s.held →
      ∃ object, t.tasks number = some object ∧ object.Serves lib rpcCallList s.taken number := by
    intro needed
    obtain ⟨object, live, serves⟩ := pipeline.live number needed
    obtain ⟨later, kept, same⟩ := move.tasks pipeline needed live
    exact ⟨later, kept, serves.continue same⟩
  cases move
  case take req here =>
    have needed : number ∈ s.held := by simpa [held, here, ArrivalPc.made] using member
    obtain ⟨object, live, serves⟩ := keep needed
    exact ⟨object, live, taken_later req serves.request, serves.verdict⟩
  case create fresh req id command access here =>
    by_cases same : number = fresh
    · subst same
      have known := pipeline.current
      rw [here] at known
      exact ⟨_, update_self .., known.1, known.2⟩
    · refine keep ?_
      simpa [held, here, ArrivalPc.made, same] using member
  case removeTask respId task here found =>
    refine keep ?_
    have first := pipeline.removes_first here found
    simp only [held, here, ReplyPc.task, Option.toList_none, List.nil_append]
    rw [first]
    simpa [held, ReplyPc.task] using member
  case sendResult task object message here live prints =>
    refine keep ?_
    simp only [held, ReplyPc.task, Option.toList_none, List.nil_append] at member
    rw [held, List.append_assoc]
    exact List.mem_append_right _ member
  case store fresh req id here =>
    refine keep ?_
    simpa [held, here, ArrivalPc.made] using member
  case turnDown | accept | refuse | handOver | wakeMapper =>
    refine keep ?_
    simp_all [held, ArrivalPc.made]
  case mapperWait | noTask | getTask | decodeFails | decode | work | encode | putIdent | wakeReply =>
    exact keep member
  case replyWait | noIdent | getIdent | missing | release =>
    refine keep ?_
    simp_all [held, ReplyPc.task]

theorem Move.released {s t : Proxy} {action : ProxyAction} (pipeline : s.Pipeline lib rpcCallList)
    (move : Move lib rpcCallList s action t) {number : Nat} (after : t.replyPc = .releasing number) :
    number ∈ t.sent lib rpcCallList := by
  cases move
  case sendResult task object message here live prints =>
    cases after
    have dispatched := isDispatched_of_dispatch (pipeline.live_replying here live).verdict
    simp [sent, replyTo, dispatched]
  case refuse other req errType id message here prints =>
    have before := pipeline.released number after
    simp only [sent, List.filter_append, List.map_append]
    exact List.mem_append_left _ before
  all_goals first | exact pipeline.released number after | cases after

theorem Move.current {s t : Proxy} {action : ProxyAction} (pipeline : s.Pipeline lib rpcCallList)
    (move : Move lib rpcCallList s action t) : t.pc.Knows lib rpcCallList t.taken := by
  have known := pipeline.current
  cases move
  case take req here => exact List.getElem?_concat_length
  case turnDown number req errType id here verdict =>
    rw [here] at known
    exact ⟨known, verdict⟩
  case accept number req id command access here verdict =>
    rw [here] at known
    exact ⟨known, verdict⟩
  all_goals first | exact trivial | exact known

theorem Move.replies {s t : Proxy} {action : ProxyAction} (pipeline : s.Pipeline lib rpcCallList)
    (move : Move lib rpcCallList s action t) : ∀ reply ∈ t.scheduled, reply.Answers lib rpcCallList t.taken := by
  have replies := pipeline.replies
  cases move
  case take req here =>
    intro reply member
    obtain ⟨request, address, text, answer⟩ := replies reply member
    exact ⟨taken_later req request, address, text, answer⟩
  case refuse number req errType id message here prints =>
    have known := pipeline.current
    rw [here] at known
    intro reply member
    rcases List.mem_append.mp member with old | new
    · exact replies reply old
    · cases List.mem_singleton.mp new
      refine ⟨known.1, ⟨rfl, rfl⟩, prints, ?_⟩
      simp only [IsAnswer, replyTo, known.2]
  case sendResult task object message here live prints =>
    have serves := pipeline.live_replying here live
    intro reply member
    rcases List.mem_append.mp member with old | new
    · exact replies reply old
    · cases List.mem_singleton.mp new
      refine ⟨serves.request, ⟨rfl, rfl⟩, prints, ?_⟩
      simp only [IsAnswer, replyTo, serves.verdict]
      exact ⟨object, rfl, rfl⟩
  all_goals exact replies

theorem Move.pipeline {s t : Proxy} {action : ProxyAction} (pipeline : s.Pipeline lib rpcCallList)
    (move : Move lib rpcCallList s action t) : t.Pipeline lib rpcCallList where
  chain := move.chain pipeline
  live := move.live pipeline
  released _ after := move.released pipeline after
  current := move.current pipeline
  replies := move.replies pipeline
  ordered := move.ordered pipeline
  complete := move.complete pipeline

theorem reach_pipeline (documented : lib.Documented) {s : Proxy}
    (reach : Reach (step lib rpcCallList) AllocationSucceeds start s) : s.Pipeline lib rpcCallList :=
  reach_by_moves documented reach pipeline_start fun _ _ _ pipeline move => move.pipeline pipeline

end Proxy
end JsonRpcTcp
