import JsonRpcTcp.ServerTable
import JsonRpcTcp.ServerFlow

namespace JsonRpcTcp
open Function

namespace ListenPc

/-- The descriptor whose framer may hold complete requests: the one that
`queue_framed_requests` works on, that it had to pause, or that is about to be
closed. -/
def undrained : ListenPc → Option Nat
  | .checking fd _ | .admitting fd _ _ _ | .queueing fd _ _ _ | .releasing fd _ _ _ | .releaseWake fd _ _
  | .notifying fd true _ | .returning fd true _ | .protocolError fd _ | .closing fd _ | .deregistering fd _
  | .closeFd fd _ => some fd
  | _ => none

/-- The descriptor whose framer `queue_framed_requests` has emptied. -/
def emptied : ListenPc → Option Nat
  | .notifying fd false _ | .returning fd false _ => some fd
  | _ => none

theorem emptied_of_undrained {pc : ListenPc} {fd : Nat} (undrained : pc.undrained = some fd) : pc.emptied = none := by
  cases pc
  case notifying held paused caller => cases paused <;> first | rfl | cases undrained
  case returning held paused caller => cases paused <;> first | rfl | cases undrained
  all_goals rfl

/-- A request is given up because there is no memory for it. -/
def givingUp : ListenPc → Bool
  | .releasing .. | .releaseWake .. => true
  | _ => false

end ListenPc

/-- Between the actions that touch a framer, no descriptor leaves the hands of
the listen thread with requests in its framer. -/
theorem ListenFlow.undrained {ds : Descriptors} {pc next : ListenPc} {action : ListenAction}
    (flow : ListenFlow ds pc action next) (steady : pc.givingUp = false)
    (idle : action.frames = false ∧ action.sorts = false ∧ action.accounting = false) :
    (∀ fd, pc.undrained = some fd → next.undrained = some fd) ∧
      ∀ fd, next.emptied = some fd → pc.emptied = some fd := by
  obtain ⟨frames, sorts, accounting⟩ := idle
  cases flow
  case takeRequest => exact ⟨fun _ => id, fun _ => id⟩
  case notifyDone fd paused caller => cases paused <;> exact ⟨fun _ => id, fun _ => id⟩
  case sendProtocolError | deregister | deregistered => exact ⟨fun _ => id, by simp [ListenPc.emptied]⟩
  all_goals first | (cases frames; done) | (cases sorts; done) | (cases accounting; done) | (cases steady; done) |
    exact ⟨by simp [ListenPc.undrained], by simp [ListenPc.emptied]⟩

theorem ListenFlow.steady {ds : Descriptors} {pc next : ListenPc} {action : ListenAction}
    (flow : ListenFlow ds pc action next) (steady : pc.givingUp = false)
    (put : (ServerAction.listen action).put = true) : next.givingUp = false := by
  cases flow <;> first | rfl | (cases steady; done) | cases put

namespace Server
variable {ds : Descriptors}

/-- No complete request sits in the framer of a descriptor in `master_set`,
except for the one that the listen thread works on. -/
structure Swept (s : Server) : Prop where
  steady : s.pc.givingUp = false
  idle : ∀ fd ∈ s.masterSet, s.pc.undrained ≠ some fd → s.Drained fd
  emptied : ∀ fd, s.pc.emptied = some fd → s.Drained fd

theorem swept_start (clientIdent : Nat) : (start ds clientIdent).Swept where
  steady := rfl
  idle := by simp [start, Drained]
  emptied := by simp [start, Drained]

theorem Drained.of_eq {s t : Server} {fd : Nat} (drained : s.Drained fd) (same : t.framers fd = s.framers fd) :
    t.Drained fd := by
  intro entry key
  exact drained entry (same ▸ key)

theorem drained_update {s t : Server} {fd : Nat} {entry : FramerEntry}
    (framers : t.framers = update s.framers fd (some entry)) (empty : entry.framer.ready = []) : t.Drained fd := by
  intro found key
  rw [framers, update_self] at key
  cases key
  exact empty

/-- A step that changes the framer of one descriptor, which stays in hand or is
drained. -/
theorem Swept.touch {s t : Server} (swept : s.Swept) (steady : t.pc.givingUp = false) (fd : Nat)
    (masterSet : ∀ other ∈ t.masterSet, other ≠ fd → other ∈ s.masterSet)
    (framers : ∀ other, other ≠ fd → t.framers other = s.framers other)
    (alone : ∀ other, s.pc.undrained = some other → other = fd)
    (idle : fd ∈ t.masterSet → t.pc.undrained ≠ some fd → t.Drained fd)
    (emptied : ∀ other, t.pc.emptied = some other → other = fd ∧ t.Drained fd) : t.Swept where
  steady := steady
  idle other member apart := by
    by_cases same : other = fd
    · subst same
      exact idle member apart
    · have untouched := masterSet other member same
      exact (swept.idle other untouched fun held => same (alone other held)).of_eq (framers other same)
  emptied other here := by
    obtain ⟨rfl, drained⟩ := emptied other here
    exact drained

/-- The descriptor stays in hand. -/
theorem Swept.hold {s t : Server} (swept : s.Swept) (steady : t.pc.givingUp = false) {fd : Nat}
    (masterSet : t.masterSet = s.masterSet) (framers : ∀ other, other ≠ fd → t.framers other = s.framers other)
    (alone : ∀ other, s.pc.undrained = some other → other = fd) (held : t.pc.undrained = some fd) : t.Swept := by
  refine swept.touch steady fd ?_ framers alone (fun _ apart => absurd held apart) ?_
  · intro other member _
    rw [← masterSet]
    exact member
  · intro other emptied
    rw [ListenPc.emptied_of_undrained held] at emptied
    cases emptied

/-- The descriptor is let go, with an empty framer if `select` looks at it again. -/
theorem Swept.letGo {s t : Server} (swept : s.Swept) (steady : t.pc.givingUp = false) {fd : Nat}
    (masterSet : ∀ other ∈ t.masterSet, other ≠ fd → other ∈ s.masterSet)
    (framers : ∀ other, other ≠ fd → t.framers other = s.framers other)
    (alone : ∀ other, s.pc.undrained = some other → other = fd) (drained : fd ∈ t.masterSet → t.Drained fd)
    (emptied : t.pc.emptied = none) : t.Swept := by
  refine swept.touch steady fd masterSet framers alone (fun member _ => drained member) ?_
  intro other same
  rw [emptied] at same
  cases same

/-- `queue_framed_requests` leaves the framer empty and returns. -/
theorem Swept.empty {s t : Server} (swept : s.Swept) (steady : t.pc.givingUp = false) {fd : Nat}
    (masterSet : t.masterSet = s.masterSet) (framers : ∀ other, other ≠ fd → t.framers other = s.framers other)
    (alone : ∀ other, s.pc.undrained = some other → other = fd) (drained : t.Drained fd)
    (emptied : t.pc.emptied = some fd) : t.Swept := by
  refine swept.touch steady fd ?_ framers alone (fun _ _ => drained) ?_
  · intro other member _
    rw [← masterSet]
    exact member
  · intro other same
    rw [emptied] at same
    exact ⟨(Option.some.inj same).symm, drained⟩

/-- A descriptor goes back to `select` only when its framer is empty. -/
theorem queueReturn_swept {s : Server} (table : s.Table ds) (swept : s.Swept) {fd : Nat} {paused : Bool}
  {caller : QueueCaller}
    (here : s.pc = .returning fd paused caller) (steady : (s.queueReturn fd paused caller).pc.givingUp = false) :
    (s.queueReturn fd paused caller).Swept := by
  have alone : ∀ other, s.pc.undrained = some other → other = fd := by
    cases paused <;> simp [here, ListenPc.undrained]
  have drained : paused = false → s.Drained fd := by
    rintro rfl
    exact swept.emptied fd (by rw [here]; rfl)
  cases caller with
  | receive frc ready =>
    simp only [queueReturn] at steady ⊢
    split_ifs at steady ⊢ with failed full
    · exact swept.hold steady rfl (fun _ _ => rfl) alone rfl
    · refine swept.letGo steady ?_ (fun _ _ => rfl) alone ?_ rfl
      · intro other member _
        exact Finset.mem_of_mem_erase member
      · intro member
        exact absurd rfl (Finset.ne_of_mem_erase member)
    · have empty := drained (Bool.eq_false_of_not_eq_true full)
      exact swept.letGo steady (fun _ member _ => member) (fun _ _ => rfl) alone (fun _ => empty) rfl
  | resume cursor =>
    cases paused with
    | true =>
      have outside : fd ∉ s.masterSet := fun member =>
        (table.containers.apart fd member).2 (by rw [here]; rfl)
      exact swept.letGo steady (fun _ member _ => member) (fun _ _ => rfl) alone
        (fun member => absurd member outside) rfl
    | false =>
      refine swept.letGo steady ?_ (fun _ _ => rfl) alone (fun _ => drained rfl) rfl
      intro other member differ
      exact (Finset.mem_insert.mp member).resolve_left differ

theorem listenStep_swept {s t : Server} (table : s.Table ds) (swept : s.Swept) {action : ListenAction}
    (allocates : s.AllocationSucceeds (.listen action)) (run : s.listenStep ds action = some t) : t.Swept := by
  have frame := listenStep_frame run
  have flow := listenStep_flow table.located.holding run
  have steady := flow.steady swept.steady allocates
  by_cases idle : action.frames = false ∧ action.sorts = false ∧ action.accounting = false
  · obtain ⟨undrained, emptied⟩ := flow.undrained swept.steady idle
    have framers := frame.framers idle.1
    refine ⟨steady, ?_, ?_⟩
    · intro fd member apart
      rw [(frame.sets idle.2.1).2] at member
      exact (swept.idle fd member fun here => apart (undrained fd here)).of_eq (by rw [framers])
    · intro fd here
      exact (swept.emptied fd (emptied fd here)).of_eq (by rw [framers])
  cases action <;> first | exact absurd ⟨rfl, rfl, rfl⟩ idle | simp only [listenStep, onlyIf_eq_some] at run
  case register newSd ready conn port ip put =>
    obtain ⟨⟨here, _⟩, rfl⟩ := run
    refine swept.letGo steady ?_ (fun _ differ => update_of_ne differ _ _) (by simp [here, ListenPc.undrained]) ?_ rfl
    · intro other member differ
      exact (Finset.mem_insert.mp member).resolve_left differ
    · intro _
      exact drained_update rfl rfl
  case recv fd ready conn bytes =>
    obtain ⟨⟨here, _⟩, rfl⟩ := run
    have alone : ∀ other, s.pc.undrained = some other → other = fd := by simp [here, ListenPc.undrained]
    unfold recv at steady ⊢
    cases key : s.framers fd with
    | none =>
      rw [key] at steady
      exact swept.hold steady rfl (fun _ _ => rfl) alone rfl
    | some entry =>
      rw [key] at steady
      exact swept.hold steady rfl (fun _ differ => update_of_ne differ _ _) alone rfl
  case checkConnection fd caller =>
    obtain ⟨here, rfl⟩ := run
    have alone : ∀ other, s.pc.undrained = some other → other = fd := by simp [here, ListenPc.undrained]
    rcases s.checkConnection_cases fd caller with
      ⟨drained, result⟩ | ⟨entry, _, _, result⟩ | ⟨_, _, _, _, _, result⟩ <;> rw [result] at steady ⊢
    · exact swept.empty steady rfl (fun _ _ => rfl) alone drained rfl
    · exact swept.empty steady rfl (fun _ differ => update_of_ne differ _ _) alone (drained_update rfl rfl) rfl
    · exact swept.hold steady rfl (fun _ _ => rfl) alone rfl
  case admission fd info queued caller =>
    obtain ⟨here, rfl⟩ := run
    have alone : ∀ other, s.pc.undrained = some other → other = fd := by simp [here, ListenPc.undrained]
    rcases s.admission_cases fd info queued caller with
      ⟨drained, result⟩ | ⟨_, _, _, result⟩ | ⟨_, _, _, _, result⟩ | ⟨_, _, _, _, result⟩ <;>
      rw [result] at steady ⊢
    · rcases afterQueueing_cases fd queued false caller with next | next <;> rw [next] at steady ⊢ <;>
        exact swept.empty steady rfl (fun _ _ => rfl) alone drained rfl
    · exact swept.hold steady rfl (fun _ _ => rfl) alone rfl
    · rcases afterQueueing_cases fd queued true caller with next | next <;> rw [next] at steady ⊢ <;>
        exact swept.hold steady rfl (fun _ _ => rfl) alone rfl
    · exact swept.hold steady rfl (fun _ _ => rfl) alone rfl
  case queueRequest fd info queued caller put =>
    obtain ⟨here, rfl⟩ := run
    obtain ⟨entry, holds⟩ := table.located.holding fd info queued caller here
    have alone : ∀ other, s.pc.undrained = some other → other = fd := by simp [here, ListenPc.undrained]
    rcases queueRequest_cases holds info queued caller put with ⟨_, result⟩ | ⟨_, result⟩ <;>
      rw [result] at steady ⊢ <;>
      exact swept.hold steady rfl (fun _ differ => update_of_ne differ _ _) alone rfl
  case release fd info queued caller =>
    obtain ⟨here, _⟩ := run
    have none := swept.steady
    rw [here] at none
    cases none
  case queueReturn fd paused caller =>
    obtain ⟨here, rfl⟩ := run
    exact queueReturn_swept table swept here steady
  case erasePending fd ready =>
    obtain ⟨here, rfl⟩ := run
    exact swept.hold steady rfl (fun _ _ => rfl) (by simp [here, ListenPc.undrained]) rfl
  case closeSocket fd ready =>
    obtain ⟨here, rfl⟩ := run
    refine swept.letGo steady ?_ (fun _ differ => update_of_ne differ _ _) (by simp [here, ListenPc.undrained]) ?_ rfl
    · intro other member _
      exact Finset.mem_of_mem_erase member
    · intro member
      exact absurd rfl (Finset.ne_of_mem_erase member)
  case resumeNext cursor fd =>
    obtain ⟨⟨here, paused, _⟩, rfl⟩ := run
    have outside : fd ∉ s.masterSet := fun member => (table.containers.apart fd member).1 paused
    have alone : ∀ other, s.pc.undrained = some other → other = fd := by simp [here, ListenPc.undrained]
    simp only [resumeNext] at steady ⊢
    split_ifs at steady ⊢ <;>
      exact swept.letGo steady (fun _ member _ => member) (fun _ _ => rfl) alone (fun member => absurd member outside)
        rfl

theorem step_swept {s t : Server} (table : s.Table ds) (swept : s.Swept) {action : ServerAction}
    (allocates : s.AllocationSucceeds action) (run : s.step ds action = some t) : t.Swept := by
  have elsewhere : t.pc = s.pc → t.framers = s.framers → t.masterSet = s.masterSet → t.Swept := by
    intro pc framers masterSet
    refine ⟨by rw [pc]; exact swept.steady, ?_, ?_⟩
    · intro fd member apart
      rw [masterSet] at member
      rw [pc] at apart
      exact (swept.idle fd member apart).of_eq (by rw [framers])
    · intro fd here
      rw [pc] at here
      exact (swept.emptied fd here).of_eq (by rw [framers])
  cases action with
  | listen action => exact listenStep_swept table swept allocates run
  | respond action =>
    have same := (responseStep_frame run).listen
    exact elsewhere same.pc same.framers same.masterSet
  | outside action =>
    obtain ⟨pc, framers, _, _, masterSet, _⟩ := outsideStep_frame run
    exact elsewhere pc framers masterSet

theorem reach_swept {allow : Server → ServerAction → Prop}
    (allocates : ∀ s action, allow s action → s.AllocationSucceeds action) {clientIdent : Nat} {s : Server}
    (reach : Reach (step ds) allow (start ds clientIdent) s) : s.Swept :=
  reach.invariant_with (fun _ => reach_table) (swept_start clientIdent)
    fun _ _ _ table swept permitted run => step_swept table swept (allocates _ _ permitted) run

end Server
end JsonRpcTcp
