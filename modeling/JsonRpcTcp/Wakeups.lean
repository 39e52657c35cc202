import JsonRpcTcp.ProxyMoves
import JsonRpcTcp.TaskQueue

namespace JsonRpcTcp
open Function

/-- The listen thread between `chain_put` into `ReqChain` and its wakeup. -/
def ArrivalPc.producer : ArrivalPc → ProducerPc
  | .waking => .waking
  | _ => .outside

/-- The mapper's thread between `chain_put` into `RespChain` and its wakeup. -/
def MapperPc.producer : MapperPc → ProducerPc
  | .waking => .waking
  | _ => .outside

/-- The mapper's thread as the consumer of `ReqChain`. -/
def MapperPc.consumer : MapperPc → ConsumerPc
  | .waiting => .waiting
  | .woken => .woken
  | _ => .working

/-- The reply thread as the consumer of `RespChain`. -/
def ReplyPc.consumer : ReplyPc → ConsumerPc
  | .waiting => .waiting
  | .woken => .woken
  | _ => .working

namespace Proxy

/-- `ReqChain` with the thread that fills it and the mapper's thread. -/
def reqQueue (s : Proxy) : MonoshotQueue Unit Nat where
  producers := fun _ => s.pc.producer
  consumer := s.mapperPc.consumer
  chain := s.reqChain
  sema := s.reqSema

/-- `RespChain` with the mapper's thread, which fills it, and the reply thread. -/
def respQueue (s : Proxy) : MonoshotQueue Unit Int where
  producers := fun _ => s.mapperPc.producer
  consumer := s.replyPc.consumer
  chain := s.respChain
  sema := s.respSema

variable {lib : JsonC} {rpcCallList : List RpcCommand}

theorem update_unit {β : Type} (f : Unit → β) (value : β) : update f () value = fun _ => value := by
  funext thread
  cases thread
  exact update_self ..

/-- Every move of the proxy is a step of `ReqChain`'s queue, or the queue does not see it. -/
theorem Move.reqQueue {s t : Proxy} {action : ProxyAction} (move : Move lib rpcCallList s action t) :
    t.reqQueue = s.reqQueue ∨ ∃ queued, s.reqQueue.step queued = some t.reqQueue := by
  cases move with
  | @handOver number _ _ here =>
    refine .inr ⟨.chainPut () number, onlyIf_eq_some.mpr ⟨?_, ?_⟩⟩
    · simp [Proxy.reqQueue, here, ArrivalPc.producer]
    · simp [Proxy.reqQueue, update_unit, ArrivalPc.producer]
  | wakeMapper here =>
    refine .inr ⟨.wakeup (), onlyIf_eq_some.mpr ⟨?_, ?_⟩⟩
    · simp [Proxy.reqQueue, here, ArrivalPc.producer]
    · simp [Proxy.reqQueue, update_unit, ArrivalPc.producer]
  | mapperWait here posted =>
    refine .inr ⟨.semWait, onlyIf_eq_some.mpr ⟨⟨?_, posted⟩, rfl⟩⟩
    simp [Proxy.reqQueue, here, MapperPc.consumer]
  | noTask here empty =>
    refine .inr ⟨.chainGet, ?_⟩
    simp [MonoshotQueue.step, onlyIf, Proxy.reqQueue, here, empty, MapperPc.consumer]
  | getTask here queue =>
    refine .inr ⟨.chainGet, ?_⟩
    simp [MonoshotQueue.step, onlyIf, Proxy.reqQueue, here, queue, MapperPc.consumer]
  | wakeReply here =>
    refine .inr ⟨.callbackReturns, onlyIf_eq_some.mpr ⟨?_, rfl⟩⟩
    simp [Proxy.reqQueue, here, MapperPc.consumer]
  | take here | turnDown here | accept here | refuse here | create here | store here | decodeFails here | decode here
  | work here | encode here | putIdent here =>
    refine .inl ?_
    simp [Proxy.reqQueue, here, ArrivalPc.producer, MapperPc.consumer]
  | replyWait | noIdent | getIdent | missing | removeTask | sendResult | release => exact .inl rfl

/-- The same for `RespChain`'s queue. -/
theorem Move.respQueue {s t : Proxy} {action : ProxyAction} (move : Move lib rpcCallList s action t) :
    t.respQueue = s.respQueue ∨ ∃ queued, s.respQueue.step queued = some t.respQueue := by
  cases move with
  | @putIdent _ object here =>
    refine .inr ⟨.chainPut () object.ident, onlyIf_eq_some.mpr ⟨?_, ?_⟩⟩
    · simp [Proxy.respQueue, here, MapperPc.producer]
    · simp [Proxy.respQueue, update_unit, MapperPc.producer]
  | wakeReply here =>
    refine .inr ⟨.wakeup (), onlyIf_eq_some.mpr ⟨?_, ?_⟩⟩
    · simp [Proxy.respQueue, here, MapperPc.producer]
    · simp [Proxy.respQueue, update_unit, MapperPc.producer]
  | replyWait here posted =>
    refine .inr ⟨.semWait, onlyIf_eq_some.mpr ⟨⟨?_, posted⟩, rfl⟩⟩
    simp [Proxy.respQueue, here, ReplyPc.consumer]
  | noIdent here empty =>
    refine .inr ⟨.chainGet, ?_⟩
    simp [MonoshotQueue.step, onlyIf, Proxy.respQueue, here, empty, ReplyPc.consumer]
  | getIdent here queue =>
    refine .inr ⟨.chainGet, ?_⟩
    simp [MonoshotQueue.step, onlyIf, Proxy.respQueue, here, queue, ReplyPc.consumer]
  | missing here | release here =>
    refine .inr ⟨.callbackReturns, onlyIf_eq_some.mpr ⟨?_, rfl⟩⟩
    simp [Proxy.respQueue, here, ReplyPc.consumer]
  | mapperWait here | noTask here | getTask here | decodeFails here | decode here | work here | encode here
  | removeTask here | sendResult here =>
    refine .inl ?_
    simp [Proxy.respQueue, here, MapperPc.producer, ReplyPc.consumer]
  | take | turnDown | accept | refuse | create | store | handOver | wakeMapper => exact .inl rfl

theorem reach_forward_moves (documented : lib.Documented) {s t : Proxy} {action : ProxyAction}
    (reach : Reach (step lib rpcCallList) AllocationSucceeds start s) (permitted : s.AllocationSucceeds action)
    (run : s.step lib rpcCallList action = some t) : Move lib rpcCallList s action t :=
  step_moves documented (reach_forward documented reach) permitted run

theorem reach_reqQueue (documented : lib.Documented) {s : Proxy}
    (reach : Reach (step lib rpcCallList) AllocationSucceeds start s) :
    Reach MonoshotQueue.step (fun _ _ => True) MonoshotQueue.start s.reqQueue := by
  refine reach.simulation Proxy.reqQueue fun s t action before permitted run => ?_
  rcases (reach_forward_moves documented before permitted run).reqQueue with same | ⟨queued, taken⟩
  · exact .inl same
  · exact .inr ⟨queued, trivial, taken⟩

theorem reach_respQueue (documented : lib.Documented) {s : Proxy}
    (reach : Reach (step lib rpcCallList) AllocationSucceeds start s) :
    Reach MonoshotQueue.step (fun _ _ => True) MonoshotQueue.start s.respQueue := by
  refine reach.simulation Proxy.respQueue fun s t action before permitted run => ?_
  rcases (reach_forward_moves documented before permitted run).respQueue with same | ⟨queued, taken⟩
  · exact .inl same
  · exact .inr ⟨queued, trivial, taken⟩

end Proxy

/-- For every chain that a thread empties one element a wakeup, with any number
of threads that fill it, and for the three chains of the program as their
threads use them, every element has its token. -/
theorem no_stranded_work :
    (∀ (ι α : Type) [Fintype ι] [DecidableEq ι] (q : MonoshotQueue ι α),
      Reach MonoshotQueue.step (fun _ _ => True) MonoshotQueue.start q → q.Balanced) ∧
    (∀ (ι : Type) [Fintype ι] [DecidableEq ι] (s : TaskWorker ι),
      Reach TaskWorker.step TaskWorker.AllocationSucceeds TaskWorker.start s → s.queue.Balanced) ∧
    ∀ (lib : JsonC) (rpcCallList : List RpcCommand) (s : Proxy), lib.Documented →
      Reach (Proxy.step lib rpcCallList) Proxy.AllocationSucceeds Proxy.start s →
      s.reqQueue.Balanced ∧ s.respQueue.Balanced := by
  refine ⟨fun ι α _ _ q reach => MonoshotQueue.reach_balanced reach, ?_, ?_⟩
  · intro ι _ _ s reach
    exact TaskWorker.reach_balanced (fun _ _ => id) reach
  · intro lib rpcCallList s documented reach
    exact ⟨MonoshotQueue.reach_balanced (Proxy.reach_reqQueue documented reach),
      MonoshotQueue.reach_balanced (Proxy.reach_respQueue documented reach)⟩

/-- One producer has posted its wakeup, another has not, and the consumer waits. -/
theorem no_stranded_work_two_producers :
    ∃ q : MonoshotQueue Bool Nat, q.sema = 1 ∧ q.producers true = .waking ∧ q.consumer = .waiting ∧ q.Balanced := by
  obtain ⟨q, reach, holds⟩ := exists_reach MonoshotQueue.step (fun _ _ => True) (MonoshotQueue.start : MonoshotQueue Bool Nat)
    [.chainPut false 5, .chainPut true 6, .interrupted, .wakeup false]
    (fun q => q.sema = 1 ∧ q.producers true = .waking ∧ q.consumer = .waiting) (by decide)
  exact ⟨q, holds.1, holds.2.1, holds.2.2, no_stranded_work.1 Bool Nat q reach⟩

end JsonRpcTcp
