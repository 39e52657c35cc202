import JsonRpcTcp.ServerTable
import JsonRpcTcp.ServerFlow

namespace JsonRpcTcp
open Function

/-- The points between two steps of the loop: before `select`, before the next
reported descriptor, the next `accept`, the next `recv` and the next paused
descriptor, and at the loop's condition. -/
def ListenPc.between : ListenPc → Bool
  | .top | .scanning _ | .accepting _ | .receiving .. | .resuming _ | .loopEnd | .exited => true
  | _ => false

/-- The descriptor whose record `close_connection` has begun to remove. -/
def ListenPc.leaving : ListenPc → Option Nat
  | .deregistering fd _ | .closeFd fd _ => some fd
  | _ => none

/-- The two steps of `close_connection` before the descriptor is closed. -/
def ListenAction.leaves : ListenAction → Bool
  | .erasePending .. | .deregister .. => true
  | _ => false

/-- Only `close_connection` begins to remove a record. -/
theorem ListenFlow.leaving {ds : Descriptors} {pc next : ListenPc} {action : ListenAction}
    (flow : ListenFlow ds pc action next) (stays : action.leaves = false) : next.leaving = none := by
  cases flow <;> first | rfl | cases stays

namespace Server
variable {ds : Descriptors}

theorem afterQueueing_leaving (fd queued : Nat) (paused : Bool) (caller : QueueCaller) :
    (afterQueueing fd queued paused caller).leaving = none := by
  unfold afterQueueing
  split_ifs <;> rfl

/-- Every descriptor with a framer has a client record until it is closed. -/
def Registered (s : Server) : Prop :=
  ∀ fd, (s.framers fd).isSome = true → 
    (∃ info ∈ s.clientInfoChain, info.sockDescriptor = fd) ∨ s.pc.leaving = some fd

theorem Registered.keep {s t : Server} (registered : s.Registered)
    (chain : t.clientInfoChain = s.clientInfoChain)
    (framed : ∀ fd, (t.framers fd).isSome = (s.framers fd).isSome)
    (staying : s.pc.leaving = none) : t.Registered := by
  intro fd key
  rw [framed] at key
  rw [chain]
  exact Or.inl ((registered fd key).resolve_right (by simp [staying]))

/-- The records with a given descriptor, after the first of them is removed. -/
theorem mem_eraseP_of_ne {chain : List ClientInfo} {fd : Nat} {info : ClientInfo} (member : info ∈ chain)
    (differ : info.sockDescriptor ≠ fd) :
    info ∈ chain.eraseP fun other => other.sockDescriptor == fd := by
  rw [List.mem_eraseP_of_neg (by simpa using differ)]
  exact member

theorem listenStep_registered {s t : Server} (table : s.Table ds) (registered : s.Registered)
    {action : ListenAction} (allocates : s.AllocationSucceeds (.listen action))
    (run : s.listenStep ds action = some t) : t.Registered := by
  have queueing := table.located.holding
  cases action <;> simp only [listenStep, onlyIf_eq_some] at run
  case register newSd ready conn port ip put =>
    obtain ⟨⟨here, _⟩, rfl⟩ := run
    cases show put = true from allocates
    intro fd key
    left
    by_cases same : fd = newSd
    · exact ⟨_, List.mem_append_right _ (List.mem_singleton_self _), same.symm⟩
    · simp only [register, update_of_ne same] at key
      obtain ⟨info, member, named⟩ := (registered fd key).resolve_right
        (by simp [here, ListenPc.leaving])
      exact ⟨info, List.mem_append_left _ member, named⟩
  case deregister fd ready =>
    obtain ⟨here, rfl⟩ := run
    cases s.getClientInfo fd with
    | none =>
      intro other key
      rcases registered other key with listed | leaving
      · exact Or.inl listed
      · rw [here] at leaving
        exact Or.inr leaving
    | some _ =>
      intro other key
      rcases registered other key with ⟨info, member, named⟩ | leaving
      · by_cases same : other = fd
        · subst same
          exact Or.inr (by dsimp only; rw [here]; rfl)
        · exact Or.inl ⟨info, mem_eraseP_of_ne member (named ▸ same), named⟩
      · exact Or.inr leaving
  case closeSocket fd ready =>
    obtain ⟨here, rfl⟩ := run
    intro other key
    by_cases same : other = fd
    · subst same
      simp at key
    · simp only [update_of_ne same] at key
      rcases registered other key with listed | leaving
      · exact Or.inl listed
      · rw [here] at leaving
        exact absurd (Option.some.inj leaving).symm same
  case erasePending fd ready =>
    obtain ⟨here, rfl⟩ := run
    exact registered.keep rfl (fun _ => rfl) (by rw [here]; rfl)
  case queueRequest fd info queued caller put =>
    obtain ⟨here, rfl⟩ := run
    obtain ⟨entry, holds⟩ := queueing fd info queued caller here
    rcases queueRequest_cases holds info queued caller put with ⟨_, result⟩ | ⟨_, result⟩ <;> rw [result]
    · exact registered.keep rfl (framed_update (by rw [holds.1]; rfl) _) (by rw [here]; rfl)
    · exact registered.keep rfl (framed_update (by rw [holds.1]; rfl) _) (by rw [here]; rfl)
  case recv fd ready conn bytes =>
    obtain ⟨⟨here, _⟩, rfl⟩ := run
    unfold recv
    cases key : s.framers fd with
    | none => exact registered.keep rfl (fun _ => rfl) (by rw [here]; rfl)
    | some entry => exact registered.keep rfl (framed_update (by rw [key]; rfl) _) (by rw [here]; rfl)
  case checkConnection fd caller =>
    obtain ⟨here, rfl⟩ := run
    rcases s.checkConnection_cases fd caller with
      ⟨_, result⟩ | ⟨entry, holds, _, result⟩ | ⟨_, info, _, _, _, result⟩ <;> rw [result]
    · exact registered.keep rfl (fun _ => rfl) (by rw [here]; rfl)
    · exact registered.keep rfl (framed_update (by rw [holds.1]; rfl) _) (by rw [here]; rfl)
    · exact registered.keep rfl (fun _ => rfl) (by rw [here]; rfl)
  case admission fd info queued caller =>
    obtain ⟨here, rfl⟩ := run
    rcases s.admission_cases fd info queued caller with
      ⟨_, result⟩ | ⟨_, _, _, result⟩ | ⟨_, _, _, _, result⟩ | ⟨_, _, _, _, result⟩ <;> rw [result]
    all_goals exact registered.keep rfl (fun _ => rfl) (by rw [here]; rfl)
  case queueReturn fd paused caller =>
    obtain ⟨here, rfl⟩ := run
    cases caller with
    | receive frc ready =>
      simp only [queueReturn]
      split_ifs <;> exact registered.keep rfl (fun _ => rfl) (by rw [here]; rfl)
    | resume cursor =>
      cases paused <;> exact registered.keep rfl (fun _ => rfl) (by rw [here]; rfl)
  case resumeNext cursor fd =>
    obtain ⟨⟨here, _⟩, rfl⟩ := run
    simp only [resumeNext]
    split_ifs <;> exact registered.keep rfl (fun _ => rfl) (by rw [here]; rfl)
  case sendProtocolError fd ready conn count =>
    obtain ⟨⟨here, _⟩, rfl⟩ := run
    split_ifs <;> exact registered.keep rfl (fun _ => rfl) (by rw [here]; rfl)
  case selectFails | acceptFails | recvBlocks | recvEnds | release | loopCheck =>
    obtain ⟨here, rfl⟩ := run
    exact registered.keep rfl (fun _ => rfl) (by rw [here]; rfl)
  all_goals
    obtain ⟨⟨here, _⟩, rfl⟩ := run
    exact registered.keep rfl (fun _ => rfl) (by rw [here]; rfl)

theorem step_registered {s t : Server} (table : s.Table ds) (registered : s.Registered)
    {action : ServerAction} (allocates : s.AllocationSucceeds action) (run : s.step ds action = some t) :
    t.Registered := by
  have elsewhere : t.pc = s.pc → t.framers = s.framers → t.clientInfoChain = s.clientInfoChain →
      t.Registered := by
    intro pc framers chain
    unfold Registered
    rw [pc, framers, chain]
    exact registered
  cases action with
  | listen action => exact listenStep_registered table registered allocates run
  | respond action =>
    have same := (responseStep_frame run).listen
    exact elsewhere same.pc same.framers same.chain
  | outside action =>
    obtain ⟨pc, framers, chain, _⟩ := outsideStep_frame run
    exact elsewhere pc framers chain

theorem reach_registered {allow : Server → ServerAction → Prop}
    (allocates : ∀ s action, allow s action → s.AllocationSucceeds action) {clientIdent : Nat} {s : Server}
    (reach : Reach (step ds) allow (start ds clientIdent) s) : s.Registered :=
  reach.invariant_with (fun _ => reach_table) (fun _ impossible => by cases impossible)
    fun _ _ _ table registered permitted run => step_registered table registered (allocates _ _ permitted) run

/-- Between two steps of the listen loop the client records, the framers and the
two sets of descriptors describe the same connections, each exactly once. -/
theorem connection_table {clientIdent : Nat} {s : Server}
    (reach : Reach (step ds) AllocationSucceeds (start ds clientIdent) s) (between : s.pc.between = true) :
    {fd | ∃ info ∈ s.clientInfoChain, info.sockDescriptor = fd} = {fd | (s.framers fd).isSome = true} ∧
    {fd | (s.framers fd).isSome = true} = ↑(s.masterSet \ {ds.listenSd, ds.wakeIn} ∪ s.pausedFds) ∧
    Disjoint (s.masterSet \ {ds.listenSd, ds.wakeIn}) s.pausedFds ∧
    (∀ fd, (s.framers fd).isSome = true →
      (s.clientInfoChain.filter fun info => info.sockDescriptor = fd).length = 1 ∧ fd < fdSetSize) ∧
    ∀ fd ∈ s.masterSet, fd ≤ s.maxSd := by
  have containers := (reach_table reach).containers
  have registered := reach_registered (fun _ _ allocates => allocates) reach
  have still : s.pc.moving = none ∧ s.pc.leaving = none := by
    cases here : s.pc <;> rw [here] at between <;> first | exact ⟨rfl, rfl⟩ | cases between
  rw [still.1] at containers
  have recorded : ∀ fd, (s.framers fd).isSome = true → ∃ info ∈ s.clientInfoChain, info.sockDescriptor = fd :=
    fun fd key => (registered fd key).resolve_right (by simp [still.2])
  refine ⟨?_, ?_, ?_, ?_, containers.bounded⟩
  · ext fd
    exact ⟨fun ⟨info, member, named⟩ => named ▸ containers.recorded info member, recorded fd⟩
  · ext fd
    have owned := containers.owned fd
    simpa [and_assoc] using owned
  · rw [Finset.disjoint_left]
    intro fd member
    exact (containers.apart fd (Finset.mem_sdiff.mp member).1).1
  · intro fd key
    refine ⟨?_, (containers.client fd key).2.2.1⟩
    obtain ⟨info, member, named⟩ := recorded fd key
    have once := List.count_eq_one_of_mem containers.distinct (List.mem_map_of_mem member)
    rw [named, List.count, List.countP_map] at once
    rw [← List.countP_eq_length_filter, ← once]
    congr 1

theorem connection_table_greeting :
    ∃ s : Server, (s.pc = .top ∧ s.masterSet = {3, 4, 7} ∧ s.maxSd = 7) ∧
      {fd | ∃ info ∈ s.clientInfoChain, info.sockDescriptor = fd} = {fd | (s.framers fd).isSome = true} ∧
      {fd | (s.framers fd).isSome = true} = ↑(s.masterSet \ {3, 4} ∪ s.pausedFds) ∧
      Disjoint (s.masterSet \ {3, 4}) s.pausedFds ∧
      (∀ fd, (s.framers fd).isSome = true →
        (s.clientInfoChain.filter fun info => info.sockDescriptor = fd).length = 1 ∧ fd < fdSetSize) ∧
      ∀ fd ∈ s.masterSet, fd ≤ s.maxSd := by
  obtain ⟨s, reach, here, master, highest⟩ := exists_reach (step sampleDescriptors) AllocationSucceeds
    (start sampleDescriptors 0) greeting (fun s => s.pc = .top ∧ s.masterSet = {3, 4, 7} ∧ s.maxSd = 7)
    (by decide)
  exact ⟨s, ⟨here, master, highest⟩, connection_table reach (by rw [here]; rfl)⟩

end Server
end JsonRpcTcp
