import JsonRpcTcp.ServerAccounting
import JsonRpcTcp.ServerDrained

namespace JsonRpcTcp
open Function

/-- The place in `paused_fds` that `resume_paused_connections` has moved on to
while it calls `queue_framed_requests`. -/
def QueueCaller.cursor : QueueCaller → Option Nat
  | .receive .. => none
  | .resume cursor => some cursor

/-- The place of `resume_paused_connections` in `paused_fds` while it runs. -/
def ListenPc.cursor : ListenPc → Option Nat
  | .resuming cursor => some cursor
  | .checking _ caller | .admitting _ _ _ caller | .queueing _ _ _ caller | .releasing _ _ _ caller
  | .releaseWake _ _ caller | .notifying _ _ caller | .returning _ _ caller => caller.cursor
  | _ => none

/-- The descriptor for which `queue_framed_requests` returns 1. -/
def ListenPc.pausing : ListenPc → Option Nat
  | .notifying fd true _ | .returning fd true _ => some fd
  | _ => none

/-- The response thread has cleared `paused` and not written to the wake pipe yet. -/
def ResponsePc.owesWake : ResponsePc → Bool
  | .shutting _ _ _ true | .dropWake .. | .doneWake => true
  | _ => false

/-- The actions after which the listen thread is at another place of `paused_fds`. -/
def ListenAction.steers (action : ListenAction) : Bool :=
  action.sorts || action.accounting || action.wakes || match action with
    | .resumeDone _ | .deregister .. => true
    | _ => false

/-- No other action makes a descriptor wait or passes one. -/
theorem ListenFlow.waiting {ds : Descriptors} {pc next : ListenPc} {action : ListenAction}
    (flow : ListenFlow ds pc action next) (idle : action.steers = false) :
    (∀ fd, next.pausing = some fd → pc.pausing = some fd) ∧
      ∀ cursor, pc.cursor = some cursor → next.cursor = some cursor := by
  cases flow
  case notifyDone fd paused caller => cases paused <;> exact ⟨fun _ => id, fun _ => id⟩
  case takeRequest => exact ⟨fun _ => id, fun _ => id⟩
  case check | skip | queue | giveUp => exact ⟨by simp [ListenPc.pausing], fun _ => id⟩
  all_goals first | (cases idle; done) | exact ⟨by simp [ListenPc.pausing], by simp [ListenPc.cursor]⟩

/-- Only `drop_connection` and `response_done` make the response thread owe a wake-up. -/
theorem ResponseFlow.owesWake {pc next : ResponsePc} {action : ResponseAction}
    (flow : ResponseFlow pc action next) (quiet : action.wakes = false) (owes : pc.owesWake = true) :
    next.owesWake = true := by
  cases flow <;> first | exact owes | (cases owes; done) | cases quiet

namespace Server
variable {ds : Descriptors}

/-- The descriptor is in `paused_fds`, or the listen thread is about to insert it. -/
def Waits (s : Server) (fd : Nat) : Prop := fd ∈ s.pausedFds ∨ s.pc.pausing = some fd

/-- The pending entry of the descriptor's connection is not marked as paused, or
it no longer exists. -/
def Unpaused (s : Server) (fd : Nat) : Prop :=
  ∀ info p, s.getClientInfo fd = some info → s.pending info.ident = some p → p.paused = false

/-- The wake pipe holds an unread byte, or the response thread is about to write
one, or `resume_paused_connections` is running and has not passed the descriptor. -/
def Awake (s : Server) (fd : Nat) : Prop :=
  0 < s.wakePipe ∨ s.respPc.owesWake = true ∨ ∃ cursor, s.pc.cursor = some cursor ∧ cursor ≤ fd

/-- No descriptor waits for good. -/
def Attended (s : Server) : Prop := ∀ fd, s.Waits fd → s.Unpaused fd → s.Awake fd

/-- The listen thread has seen `end_server` and leaves its loop. -/
def LeftLoop (s : Server) : Prop := s.endServer = true ∧ (s.pc = .loopEnd ∨ s.pc = .exited)

theorem Attended.keep {s t : Server} (attended : s.Attended) (waits : ∀ fd, t.Waits fd → s.Waits fd)
    (unpaused : ∀ fd, t.Waits fd → t.Unpaused fd → s.Unpaused fd)
    (awake : ∀ fd, t.Waits fd → s.Awake fd → t.Awake fd) : t.Attended := by
  intro fd waiting released
  exact awake fd waiting (attended fd (waits fd waiting) (unpaused fd waiting released))

/-- `get_client_info` and `pending` as seen from one descriptor. -/
theorem Unpaused.of_eq {s t : Server} {fd : Nat} (unpaused : t.Unpaused fd)
    (client : t.getClientInfo fd = s.getClientInfo fd)
    (pending : ∀ info, s.getClientInfo fd = some info → t.pending info.ident = s.pending info.ident) :
    s.Unpaused fd := by
  intro info p known key
  exact unpaused info p (client.trans known) ((pending info known).trans key)

theorem getClientInfo_congr {s t : Server} (chain : t.clientInfoChain = s.clientInfoChain) (fd : Nat) :
    t.getClientInfo fd = s.getClientInfo fd := by
  unfold getClientInfo
  rw [chain]

/-- The record at hand is the one that `get_client_info` finds. -/
theorem Table.getClientInfo_held {s : Server} (table : s.Table ds) {fd : Nat} {info : ClientInfo}
    (member : info ∈ s.clientInfoChain) (named : info.sockDescriptor = fd) : s.getClientInfo fd = some info := by
  cases found : s.getClientInfo fd with
  | none =>
    have unlisted := List.find?_eq_none.mp found info member
    exact absurd (by simpa using named) unlisted
  | some other =>
    obtain ⟨listed, socket⟩ := getClientInfo_some found
    rw [table.record_unique listed member (socket.trans named.symm)]

/-- Different descriptors have records with different ids. -/
theorem Identity.ident_ne {s : Server} (identity : s.Identity) {fd other : Nat} {info record : ClientInfo}
    (known : s.getClientInfo fd = some info) (alsoKnown : s.getClientInfo other = some record)
    (differ : fd ≠ other) : info.ident ≠ record.ident := by
  intro same
  obtain ⟨member, socket⟩ := getClientInfo_some known
  obtain ⟨alsoMember, alsoSocket⟩ := getClientInfo_some alsoKnown
  have equal := identity.unique info (identity.issued info member) record (identity.issued record alsoMember) same
  exact differ (socket.symm.trans ((congrArg ClientInfo.sockDescriptor equal).trans alsoSocket))

theorem Awake.of_pc {s t : Server} {fd : Nat} (awake : s.Awake fd) (wakePipe : t.wakePipe = s.wakePipe)
    (respPc : t.respPc = s.respPc)
    (cursor : ∀ cursor, s.pc.cursor = some cursor → cursor ≤ fd → ∃ later, t.pc.cursor = some later ∧ later ≤ fd) :
    t.Awake fd := by
  unfold Awake
  rw [wakePipe, respPc]
  rcases awake with unread | owed | ⟨place, running, ahead⟩
  · exact Or.inl unread
  · exact Or.inr (Or.inl owed)
  · exact Or.inr (Or.inr (cursor place running ahead))

/-- The points at which `resume_paused_connections` does not run have no place in
`paused_fds` to keep. -/
theorem Awake.of_no_cursor {s t : Server} {fd : Nat} (awake : s.Awake fd) (wakePipe : t.wakePipe = s.wakePipe)
    (respPc : t.respPc = s.respPc) (outside : s.pc.cursor = none) : t.Awake fd := by
  refine awake.of_pc wakePipe respPc ?_
  intro cursor running
  rw [outside] at running
  cases running

theorem Waits.of_pausing_none {s : Server} {fd : Nat} (waits : s.Waits fd) (none : s.pc.pausing = none) :
    fd ∈ s.pausedFds := by
  refine waits.resolve_right ?_
  rw [none]
  simp

theorem getClientInfo_eraseP {chain : List ClientInfo} {fd other : Nat} (differ : other ≠ fd) :
    (chain.eraseP fun info => info.sockDescriptor == fd).find? (fun info => info.sockDescriptor == other) =
      chain.find? fun info => info.sockDescriptor == other := by
  induction chain with
  | nil => rfl
  | cons info rest ih =>
    by_cases removed : info.sockDescriptor = fd
    · simp [removed, differ.symm]
    · simp only [List.eraseP_cons, beq_eq_false_iff_ne.mpr removed, List.find?_cons, ih, cond_false]

theorem register_attended {s : Server} (table : s.Table ds) (attended : s.Attended) {newSd : Nat}
    {ready : List Nat} (here : s.pc = .registering newSd ready) {info : ClientInfo}
    (named : info.sockDescriptor = newSd) (put : Bool) : (s.register newSd ready info put).Attended := by
  have differ : ∀ fd ∈ s.pausedFds, fd ≠ newSd := by
    rintro fd member rfl
    have framed := (table.containers.owned fd).mpr (Or.inr (Or.inl member))
    rw [(table.joining_unframed here).1] at framed
    cases framed
  refine attended.keep ?_ ?_ ?_
  · intro fd waits
    exact Or.inl (waits.of_pausing_none rfl)
  · intro fd waits unpaused
    have apart := differ fd (waits.of_pausing_none rfl)
    refine unpaused.of_eq ?_ (fun _ _ => rfl)
    cases put with
    | false => rfl
    | true =>
      have other : (info.sockDescriptor == fd) = false := beq_eq_false_iff_ne.mpr (named ▸ apart.symm)
      simp only [getClientInfo, register, if_true, List.find?_append, List.find?_cons, other, List.find?_nil,
        Option.or_none]
  · intro fd _ awake
    exact awake.of_no_cursor rfl rfl (by rw [here]; rfl)

theorem erasePending_attended {s : Server} (identity : s.Identity) (attended : s.Attended) {fd : Nat}
    {ready : List Nat} (here : s.pc = .closing fd ready) :
    Attended { s with pending := s.closeSection fd, pausedFds := s.pausedFds.erase fd
                      pc := .deregistering fd ready } := by
  refine attended.keep ?_ ?_ ?_
  · intro other waits
    exact Or.inl (Finset.mem_of_mem_erase (waits.of_pausing_none rfl))
  · intro other waits unpaused
    have differ := Finset.ne_of_mem_erase (waits.of_pausing_none rfl)
    refine unpaused.of_eq rfl ?_
    intro info known
    rcases s.closeSection_cases fd info.ident with ⟨kept, _⟩ | ⟨_, record, alsoKnown, same⟩
    · exact kept
    · exact absurd same.symm (identity.ident_ne known alsoKnown differ)
  · intro other _ awake
    exact awake.of_no_cursor rfl rfl (by rw [here]; rfl)

theorem deregister_attended {s : Server} (table : s.Table ds) (attended : s.Attended) {fd : Nat}
    {ready : List Nat} (here : s.pc = .deregistering fd ready) :
    Attended { s with clientInfoChain := s.clientInfoChain.eraseP fun info => info.sockDescriptor == fd } := by
  refine attended.keep (fun _ => id) ?_ (fun _ _ => id)
  intro other waits unpaused
  have paused : other ∈ s.pausedFds := waits.of_pausing_none (by dsimp only; rw [here]; rfl)
  have handled := (table.located.handled fd (by rw [here]; rfl)).1
  have differ : other ≠ fd := by
    rintro rfl
    exact (table.containers.apart other handled).1 paused
  exact unpaused.of_eq (getClientInfo_eraseP differ) (fun _ _ => rfl)

/-- The connection that is paused is marked as such under the lock, so nothing
is lost when the response thread clears the mark before the insertion. -/
theorem admission_attended {s : Server} (table : s.Table ds) (identity : s.Identity) (attended : s.Attended)
    {fd queued : Nat} {info : ClientInfo} {caller : QueueCaller} (here : s.pc = .admitting fd info queued caller) :
    (s.admission fd info queued caller).Attended := by
  obtain ⟨member, named⟩ := identity.held fd info (by rw [here]; rfl)
  have known := table.getClientInfo_held member named
  have place : s.pc.cursor = caller.cursor := by rw [here]; rfl
  have ended : ∀ paused, (afterQueueing fd queued paused caller).cursor = caller.cursor ∧
      ∀ other, (afterQueueing fd queued paused caller).pausing = some other → other = fd ∧ paused = true := by
    intro paused
    rcases afterQueueing_cases fd queued paused caller with next | next <;> rw [next] <;> refine ⟨rfl, ?_⟩ <;>
      intro other same <;> cases paused <;> first | (cases same; done) | exact ⟨(Option.some.inj same).symm, rfl⟩
  have awake : ∀ (t : Server) (other : Nat), t.wakePipe = s.wakePipe → t.respPc = s.respPc →
      t.pc.cursor = caller.cursor → s.Awake other → t.Awake other := by
    intro t other wakePipe respPc cursor awake
    refine awake.of_pc wakePipe respPc ?_
    intro at_ running ahead
    exact ⟨at_, cursor.trans (place.symm.trans running), ahead⟩
  rcases s.admission_cases fd info queued caller with
    ⟨_, result⟩ | ⟨_, _, _, result⟩ | ⟨_, _, _, _, result⟩ | ⟨_, _, _, _, result⟩ <;> rw [result]
  · refine attended.keep ?_ (fun _ _ unpaused => unpaused.of_eq rfl fun _ _ => rfl)
      (fun other _ => awake _ other rfl rfl (ended false).1)
    rintro other (paused | same)
    · exact Or.inl paused
    · cases ((ended false).2 other same).2
  · exact attended.keep (fun other waits => Or.inl (waits.of_pausing_none rfl))
      (fun _ _ unpaused => unpaused.of_eq rfl fun _ _ => rfl) (fun other _ => awake _ other rfl rfl rfl)
  · intro other waits unpaused
    by_cases same : other = fd
    · subst same
      have cleared := unpaused info _ known (update_self ..)
      cases cleared
    · have paused : other ∈ s.pausedFds := by
        rcases waits with paused | pausing
        · exact paused
        · exact absurd ((ended true).2 other pausing).1 same
      refine awake _ other rfl rfl (ended true).1 (attended other (Or.inl paused) (unpaused.of_eq rfl ?_))
      intro record alsoKnown
      exact update_of_ne (identity.ident_ne alsoKnown known same) _ _
  · refine attended.keep (fun other waits => Or.inl (waits.of_pausing_none rfl)) ?_
      (fun other _ => awake _ other rfl rfl rfl)
    intro other _ unpaused
    by_cases same : other = fd
    · subst same
      intro record p found key
      cases known.symm.trans found
      have stored := unpaused info _ known (update_self ..)
      rw [key] at stored
      exact stored
    · refine unpaused.of_eq rfl ?_
      intro record alsoKnown
      exact update_of_ne (identity.ident_ne alsoKnown known same) _ _

theorem queueReturn_attended {s : Server} (attended : s.Attended) {fd : Nat} {paused : Bool}
    {caller : QueueCaller} (here : s.pc = .returning fd paused caller) :
    (s.queueReturn fd paused caller).Attended := by
  have inserted : ∀ other, other ∈ insert fd s.pausedFds → paused = true → s.Waits other := by
    intro other member full
    rcases Finset.mem_insert.mp member with same | old
    · exact Or.inr (by rw [here, full, same]; rfl)
    · exact Or.inl old
  cases caller with
  | receive frc ready =>
    have outside : s.pc.cursor = none := by rw [here]; rfl
    simp only [queueReturn]
    split_ifs with failed full
    · exact attended.keep (fun _ waits => Or.inl (waits.of_pausing_none rfl))
        (fun _ _ unpaused => unpaused.of_eq rfl fun _ _ => rfl) (fun _ _ awake => awake.of_no_cursor rfl rfl outside)
    · exact attended.keep (fun other waits => inserted other (waits.of_pausing_none rfl) full)
        (fun _ _ unpaused => unpaused.of_eq rfl fun _ _ => rfl) (fun _ _ awake => awake.of_no_cursor rfl rfl outside)
    · exact attended.keep (fun _ waits => Or.inl (waits.of_pausing_none rfl))
        (fun _ _ unpaused => unpaused.of_eq rfl fun _ _ => rfl) (fun _ _ awake => awake.of_no_cursor rfl rfl outside)
  | resume cursor =>
    have same : s.pc.cursor = some cursor := by rw [here]; rfl
    have awake : ∀ (t : Server) (other : Nat), t.wakePipe = s.wakePipe → t.respPc = s.respPc →
        t.pc = .resuming cursor → s.Awake other → t.Awake other := by
      intro t other wakePipe respPc there awake
      refine awake.of_pc wakePipe respPc ?_
      intro place running ahead
      rw [same] at running
      exact ⟨place, by rw [there]; exact running, ahead⟩
    cases paused with
    | true =>
      exact attended.keep (fun other waits => inserted other (waits.of_pausing_none rfl) rfl)
        (fun _ _ unpaused => unpaused.of_eq rfl fun _ _ => rfl) (fun other _ => awake _ other rfl rfl rfl)
    | false =>
      exact attended.keep (fun other waits => Or.inl (waits.of_pausing_none rfl))
        (fun _ _ unpaused => unpaused.of_eq rfl fun _ _ => rfl) (fun other _ => awake _ other rfl rfl rfl)

/-- `resume_paused_connections` only passes a descriptor that is marked as
paused, or takes it out of `paused_fds`. -/
theorem resumeNext_attended {s : Server} (attended : s.Attended) {cursor fd : Nat}
    (here : s.pc = .resuming cursor) (lowest : ∀ other ∈ s.pausedFds, cursor ≤ other → fd ≤ other) :
    (s.resumeNext fd).Attended := by
  have beyond : ∀ (t : Server) (other : Nat), t.wakePipe = s.wakePipe → t.respPc = s.respPc →
      t.pc.cursor = some (fd + 1) → other ∈ s.pausedFds → other ≠ fd → s.Awake other → t.Awake other := by
    intro t other wakePipe respPc there member differ awake
    refine awake.of_pc wakePipe respPc ?_
    intro place running ahead
    rw [here] at running
    cases running
    have order := lowest other member ahead
    exact ⟨fd + 1, there, by omega⟩
  have released : ∀ (t : Server) (other : Nat), t.clientInfoChain = s.clientInfoChain → t.pending = s.pending →
      t.Unpaused other → s.Unpaused other := by
    intro t other chain pending unpaused
    exact unpaused.of_eq (getClientInfo_congr chain other) fun _ _ => by rw [pending]
  simp only [resumeNext]
  split_ifs with stays
  · intro other waits unpaused
    have member : other ∈ s.pausedFds := waits.of_pausing_none rfl
    have free := released _ other rfl rfl unpaused
    have differ : other ≠ fd := by
      rintro rfl
      cases known : s.getClientInfo other with
      | none => simp [known] at stays
      | some info =>
        cases key : s.pending info.ident with
        | none => simp [known, key] at stays
        | some p =>
          have clear := free info p known key
          simp [known, key, clear] at stays
    exact beyond _ other rfl rfl rfl member differ (attended other (Or.inl member) free)
  · intro other waits unpaused
    have member := waits.of_pausing_none rfl
    have old := Finset.mem_of_mem_erase member
    exact beyond _ other rfl rfl rfl old (Finset.ne_of_mem_erase member)
      (attended other (Or.inl old) (released _ other rfl rfl unpaused))

theorem listenStep_attended {s t : Server} (table : s.Table ds) (identity : s.Identity) (swept : s.Swept)
    (attended : s.Attended) {action : ListenAction} (run : s.listenStep ds action = some t) :
    t.LeftLoop ∨ t.Attended := by
  have frame := listenStep_frame run
  have flow := listenStep_flow table.located.holding run
  by_cases idle : action.steers = false
  · right
    obtain ⟨pausing, cursor⟩ := flow.waiting idle
    simp only [ListenAction.steers, Bool.or_eq_false_iff] at idle
    obtain ⟨⟨⟨sorts, accounting⟩, wakes⟩, others⟩ := idle
    have paused := (frame.sets sorts).1
    have pending := frame.pending accounting
    have shared : t.clientInfoChain = s.clientInfoChain ∧ t.respPc = s.respPc := by
      by_cases inward : action.inward = true
      · have same := frame.outside inward
        exact ⟨same.chain, same.respPc⟩
      · cases action <;> first | exact absurd rfl inward | (cases sorts; done) | (cases others; done) |
          simp only [listenStep, onlyIf_eq_some] at run
        case sendProtocolError fd ready conn count =>
          obtain ⟨_, rfl⟩ := run
          split_ifs <;> exact ⟨rfl, rfl⟩
        all_goals
          obtain ⟨_, rfl⟩ := run
          exact ⟨rfl, rfl⟩
    refine attended.keep ?_ ?_ ?_
    · rintro fd (waiting | here)
      · exact Or.inl (paused ▸ waiting)
      · exact Or.inr (pausing fd here)
    · intro fd _ unpaused
      exact unpaused.of_eq (getClientInfo_congr shared.1 fd) fun _ _ => by rw [pending]
    · intro fd _ awake
      exact awake.of_pc (frame.wakePipe wakes) shared.2 fun place running ahead =>
        ⟨place, cursor place running, ahead⟩
  cases action <;> first | exact absurd rfl idle | simp only [listenStep, onlyIf_eq_some] at run
  case readWake ready =>
    obtain ⟨_, rfl⟩ := run
    by_cases stopped : s.endServer = true
    · exact Or.inl ⟨stopped, Or.inl (by simp only [stopped, if_true])⟩
    · right
      intro fd _ _
      exact Or.inr (Or.inr ⟨0, by simp only [stopped]; rfl, Nat.zero_le fd⟩)
  case register newSd ready conn port ip put =>
    obtain ⟨⟨here, _⟩, rfl⟩ := run
    exact Or.inr (register_attended table attended here rfl put)
  case admission fd info queued caller =>
    obtain ⟨here, rfl⟩ := run
    exact Or.inr (admission_attended table identity attended here)
  case release fd info queued caller =>
    have steady := swept.steady
    rw [run.1] at steady
    cases steady
  case releaseWake fd queued caller written =>
    have steady := swept.steady
    rw [run.1.1] at steady
    cases steady
  case queueReturn fd paused caller =>
    obtain ⟨here, rfl⟩ := run
    exact Or.inr (queueReturn_attended attended here)
  case erasePending fd ready =>
    obtain ⟨here, rfl⟩ := run
    exact Or.inr (erasePending_attended identity attended here)
  case deregister fd ready =>
    obtain ⟨here, rfl⟩ := run
    right
    cases known : s.getClientInfo fd with
    | none =>
      exact attended.keep (fun _ waits => Or.inl (waits.of_pausing_none rfl))
        (fun _ _ unpaused => unpaused.of_eq rfl fun _ _ => rfl)
        (fun _ _ awake => awake.of_no_cursor rfl rfl (by rw [here]; rfl))
    | some record => exact deregister_attended table attended here
  case closeSocket fd ready =>
    obtain ⟨here, rfl⟩ := run
    exact Or.inr (attended.keep (fun _ waits => Or.inl (waits.of_pausing_none rfl))
      (fun _ _ unpaused => unpaused.of_eq rfl fun _ _ => rfl)
      (fun _ _ awake => awake.of_no_cursor rfl rfl (by rw [here]; rfl)))
  case resumeNext cursor fd =>
    obtain ⟨⟨here, _, _, lowest⟩, rfl⟩ := run
    exact Or.inr (resumeNext_attended attended here lowest)
  case resumeDone cursor =>
    obtain ⟨⟨here, passed⟩, rfl⟩ := run
    right
    refine attended.keep (fun _ waits => Or.inl (waits.of_pausing_none rfl))
      (fun _ _ unpaused => unpaused.of_eq rfl fun _ _ => rfl) ?_
    intro fd waits awake
    have behind := passed fd (waits.of_pausing_none rfl)
    refine awake.of_pc rfl rfl ?_
    intro place running ahead
    rw [here] at running
    cases running
    omega

/-- A section that reports no wake-up has not cleared a mark. -/
theorem responseDoneSection_marks {pending : PendingMap} {cltid : Int}
    (silent : (responseDoneSection pending cltid).2 = false) {id : Int} {p : ConnPending} (key : pending id = some p) :
    ∃ q, (responseDoneSection pending cltid).1 id = some q ∧ q.paused = p.paused := by
  unfold responseDoneSection at silent ⊢
  split_ifs at silent ⊢ with negative
  · exact ⟨p, key, rfl⟩
  by_cases same : id = cltid
  · subst same
    simp only [key] at silent ⊢
    split_ifs at silent ⊢ <;> exact ⟨_, update_self .., rfl⟩
  · cases other : pending cltid with
    | none =>
      simp only
      exact ⟨p, key, rfl⟩
    | some old =>
      simp only
      split_ifs <;> exact ⟨p, (update_of_ne same _ _).trans key, rfl⟩

theorem dropSection_marks {pending : PendingMap} {cltid : Int} (silent : (dropSection pending cltid).2 = false)
    {id : Int} {p : ConnPending} (key : pending id = some p) :
    ∃ q, (dropSection pending cltid).1 id = some q ∧ q.paused = p.paused := by
  unfold dropSection at silent ⊢
  split_ifs at silent ⊢ with negative
  · exact ⟨p, key, rfl⟩
  dsimp only at silent ⊢
  split_ifs at silent ⊢ with marked
  by_cases same : id = cltid
  · subst same
    exact ⟨_, update_self .., by rw [key, Option.getD_some]⟩
  · exact ⟨p, (update_of_ne same _ _).trans key, rfl⟩

theorem overSendWaitBudget_marks {pending : PendingMap} {cltid waitedMs now id : Int} {p : ConnPending}
    (key : pending id = some p) :
    ∃ q, (overSendWaitBudget pending cltid waitedMs now).1 id = some q ∧ q.paused = p.paused := by
  unfold overSendWaitBudget
  split_ifs with idle
  · exact ⟨p, key, rfl⟩
  by_cases same : id = cltid
  · subst same
    simp only [key]
    exact ⟨_, update_self .., by split_ifs <;> rfl⟩
  · cases other : pending cltid with
    | none => exact ⟨p, key, rfl⟩
    | some old => exact ⟨p, (update_of_ne same _ _).trans key, rfl⟩

/-- A step of another thread that clears no mark, or owes a wake-up for it. -/
theorem Attended.elsewhere {s t : Server} (attended : s.Attended) (pc : t.pc = s.pc)
    (pausedFds : t.pausedFds = s.pausedFds) (chain : t.clientInfoChain = s.clientInfoChain)
    (marks : ∀ id p, s.pending id = some p → ∃ q, t.pending id = some q ∧ q.paused = p.paused)
    (wakePipe : 0 < s.wakePipe → 0 < t.wakePipe)
    (owes : s.respPc.owesWake = true → t.respPc.owesWake = true ∨ 0 < t.wakePipe) : t.Attended := by
  refine attended.keep ?_ ?_ ?_
  · unfold Waits
    rw [pc, pausedFds]
    exact fun _ => id
  · intro fd _ unpaused info p known key
    obtain ⟨q, stored, same⟩ := marks info.ident p key
    rw [← same]
    exact unpaused info q ((getClientInfo_congr chain fd).trans known) stored
  · rintro fd _ (unread | owed | running)
    · exact Or.inl (wakePipe unread)
    · exact (owes owed).elim (fun still => Or.inr (Or.inl still)) Or.inl
    · exact Or.inr (Or.inr (by rw [pc]; exact running))

/-- A thread that owes a wake-up serves every descriptor. -/
theorem attended_of_owes {s : Server} (owes : s.respPc.owesWake = true) : s.Attended :=
  fun _ _ _ => Or.inr (Or.inl owes)

theorem CanWriteWake.unread {s : Server} {written : Bool} (can : s.CanWriteWake written) :
    0 < (s.writeWake written).wakePipe := by
  unfold writeWake
  rcases can with rfl | unread
  · exact Nat.succ_pos _
  · dsimp only
    split_ifs <;> omega

theorem responseStep_attended {s t : Server} (attended : s.Attended) {action : ResponseAction}
    (run : s.responseStep ds action = some t) : t.Attended := by
  have frame := responseStep_frame run
  have same := frame.listen
  by_cases wakes : action.wakes = true
  · -- the byte is written, or the pipe is full of unread ones
    intro fd _ _
    left
    cases action <;> first | (cases wakes; done) | simp only [responseStep, onlyIf_eq_some] at run
    all_goals
      obtain ⟨⟨_, can⟩, rfl⟩ := run
      exact can.unread
  have owes := (responseStep_flow run).owesWake (Bool.eq_false_of_not_eq_true wakes)
  have pipe := frame.wakePipe (Bool.eq_false_of_not_eq_true wakes)
  have silent : (∀ id p, s.pending id = some p → ∃ q, t.pending id = some q ∧ q.paused = p.paused) →
      t.Attended := by
    intro marks
    exact attended.elsewhere same.pc same.pausedFds same.chain marks (by rw [pipe]; exact id)
      fun owed => Or.inl (owes owed)
  by_cases accounting : action.accounting = true
  · cases action <;> first | (cases accounting; done) | simp only [responseStep, onlyIf_eq_some] at run
    case sendWaited resp dup waitedMs now =>
      obtain ⟨_, rfl⟩ := run
      exact silent fun _ _ => overSendWaitBudget_marks
    case drop resp dup sent =>
      obtain ⟨_, rfl⟩ := run
      cases woken : (dropSection s.pending resp.cltid).2 with
      | true => exact attended_of_owes rfl
      | false =>
        rw [woken] at silent
        exact silent fun _ _ => dropSection_marks woken
    case responseDone resp =>
      obtain ⟨_, rfl⟩ := run
      cases woken : (responseDoneSection s.pending resp.cltid).2 with
      | true => exact attended_of_owes rfl
      | false =>
        rw [woken] at silent
        exact silent fun _ _ => responseDoneSection_marks woken
  · refine silent ?_
    rw [frame.pending (Bool.eq_false_of_not_eq_true accounting)]
    exact fun id p key => ⟨p, key, rfl⟩

theorem outsideStep_attended {s t : Server} (attended : s.Attended) {action : OutsideAction}
    (run : s.outsideStep action = some t) : t.Attended := by
  obtain ⟨pc, _, chain, pending, _, pausedFds, respPc⟩ := outsideStep_frame run
  refine attended.elsewhere pc pausedFds chain ?_ ?_ ?_
  · rw [pending]
    exact fun _ p key => ⟨p, key, rfl⟩
  · cases action <;> simp only [outsideStep, onlyIf_eq_some, Option.some.injEq] at run
    case schedule request text put =>
      obtain ⟨_, rfl⟩ := run
      cases put <;> exact id
    case requestStop =>
      subst run
      exact id
    case stopWake written =>
      obtain ⟨⟨_, can⟩, rfl⟩ := run
      exact fun _ => can.unread
  · rw [respPc]
    exact Or.inl

theorem step_leftLoop {s t : Server} (left : s.LeftLoop) {action : ServerAction}
    (run : s.step ds action = some t) : t.LeftLoop := by
  obtain ⟨stopped, point⟩ := left
  cases action with
  | listen action =>
    have holding : ∀ fd info queued caller, s.pc = .queueing fd info queued caller → ∃ entry, s.Holds fd entry := by
      intro fd info queued caller here
      rcases point with there | there <;> rw [there] at here <;> cases here
    have flow := listenStep_flow holding run
    rcases point with there | there <;> rw [there] at flow
    · cases action
      case loopCheck =>
        simp only [step, listenStep, onlyIf_eq_some] at run
        obtain ⟨_, rfl⟩ := run
        exact ⟨stopped, Or.inr (by simp only [stopped, if_true])⟩
      all_goals cases flow
    · cases flow
  | respond action =>
    have same := (responseStep_frame run).listen
    exact ⟨same.endServer.trans stopped, by rw [same.pc]; exact point⟩
  | outside action =>
    have pc := (outsideStep_frame run).1
    refine ⟨?_, by rw [pc]; exact point⟩
    cases action <;> simp only [step, outsideStep, onlyIf_eq_some, Option.some.injEq] at run
    case schedule request text put =>
      obtain ⟨_, rfl⟩ := run
      cases put <;> exact stopped
    case requestStop =>
      subst run
      rfl
    case stopWake written =>
      obtain ⟨_, rfl⟩ := run
      exact stopped

theorem step_attended {s t : Server} (table : s.Table ds) (identity : s.Identity) (swept : s.Swept)
    (attended : s.LeftLoop ∨ s.Attended) {action : ServerAction} (run : s.step ds action = some t) :
    t.LeftLoop ∨ t.Attended := by
  rcases attended with left | attended
  · exact Or.inl (step_leftLoop left run)
  · cases action with
    | listen action => exact listenStep_attended table identity swept attended run
    | respond action => exact Or.inr (responseStep_attended attended run)
    | outside action => exact Or.inr (outsideStep_attended attended run)

/-- As long as the listen thread is in its loop, a descriptor that waits for a
connection which is no longer paused will be looked at. At the top of the loop
no complete request is left in the framer of a descriptor in `master_set`. -/
theorem no_lost_resume {clientIdent : Nat} {s : Server}
    (reach : Reach (step ds) AllocationSucceeds (start ds clientIdent) s) :
    (¬ s.LeftLoop → ∀ fd, s.Waits fd → s.Unpaused fd → s.Awake fd) ∧
      (s.pc = .top → ∀ fd ∈ s.masterSet, s.Drained fd) := by
  have swept := reach_swept (fun _ _ => id) reach
  have attended : s.LeftLoop ∨ s.Attended := reach.invariant_with
    (fun _ before => And.intro (reach_table before) (And.intro (reach_identity before)
      (reach_swept (fun _ _ => id) before)))
    (Or.inr fun fd waits => by simp [Waits, start, ListenPc.pausing] at waits)
    fun _ _ _ known attended _ run => step_attended known.1 known.2.1 known.2.2 attended run
  refine ⟨fun inside => attended.resolve_left inside, ?_⟩
  intro here fd member
  exact swept.idle fd member (by simp [here, ListenPc.undrained])

/-- A client sends one request more than may be pending, in one chunk. It is to be paused
once the RPC threads have taken its requests. -/
def flooding : List ServerAction :=
  [.listen (.select [7]), .listen (.startReceive 7 []), .listen (.recv 7 [] 0 (List.replicate 257 [0x7b, 0x7d]).flatten),
    .listen (.checkConnection 7 (.receive 257 []))] ++
  (List.range 256).flatMap (fun queued =>
    [.listen (.admission 7 sampleClient queued (.receive 257 [])),
      .listen (.queueRequest 7 sampleClient queued (.receive 257 []) true)]) ++
  [.listen (.admission 7 sampleClient 256 (.receive 257 [])), .listen (.takeRequest 7 true (.receive 257 []) sampleRequest)]

/-- The first response to a client that is paused cannot be sent, so that its connection is
dropped; and a client that is not. -/
theorem no_lost_resume_asking :
    (∃ s : Server, s.Waits 7 ∧ s.Unpaused 7 ∧ s.Awake 7) ∧
      ∃ s : Server, (s.pc = .top ∧ s.masterSet = {3, 4, 7}) ∧ ∀ fd ∈ s.masterSet, s.Drained fd := by
  constructor
  · obtain ⟨s, reach, pausing, runs, mark⟩ := exists_reach (step sampleDescriptors) AllocationSucceeds
      (start sampleDescriptors 0)
      (greeting ++ flooding ++ answering ++
        [.respond (.sendFails sampleResponse 8 0), .respond (.drop sampleResponse 8 0)])
      (fun s => s.pc.pausing = some 7 ∧ s.endServer = false ∧
        (s.getClientInfo 7).bind (fun info => (s.pending info.ident).map ConnPending.paused) = some false)
      (by decide +kernel)
    have unpaused : s.Unpaused 7 := by
      intro info p known entry
      rw [known, Option.bind_some, entry] at mark
      exact Option.some.inj mark
    have inside : ¬ s.LeftLoop := fun left => absurd left.1 (by simp [runs])
    exact ⟨s, .inr pausing, unpaused, (no_lost_resume reach).1 inside 7 (.inr pausing) unpaused⟩
  · obtain ⟨s, reach, here, master⟩ := exists_reach (step sampleDescriptors) AllocationSucceeds
      (start sampleDescriptors 0)
      (greeting ++ asking ++ [.listen (.recvBlocks 7 []), .listen (.endScan []), .listen .loopCheck])
      (fun s => s.pc = .top ∧ s.masterSet = {3, 4, 7}) (by decide)
    exact ⟨s, ⟨here, master⟩, (no_lost_resume reach).2 here⟩

end Server
end JsonRpcTcp
