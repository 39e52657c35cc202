import JsonRpcTcp.ServerTable
import JsonRpcTcp.ServerFlow

namespace JsonRpcTcp
open Function

/-- Only an accept brings a descriptor that has no record yet. -/
theorem ListenFlow.joining {ds : Descriptors} {pc next : ListenPc} {action : ListenAction}
    (flow : ListenFlow ds pc action next) (old : ∀ newSd ready, action ≠ .accept newSd ready) :
    next.joining = none := by
  cases flow
  case accept newSd ready => exact absurd rfl (old newSd ready)
  all_goals rfl

namespace Server
variable {ds : Descriptors}

/-- The descriptor is one that the listen thread got from `accept4`. -/
def Client (s : Server) (fd : Nat) : Prop := (s.framers fd).isSome = true ∨ s.pc.joining = some fd

/-- Connections are numbered in the order of their accepts, and the listen
thread has one descriptor for each. -/
structure Connected (s : Server) : Prop where
  old : ∀ fd conn, s.fdTable fd = some conn → conn < s.accepted
  unique : ∀ fd other conn, s.Client fd → s.Client other → s.fdTable fd = some conn →
    s.fdTable other = some conn → fd = other

theorem connected_start (clientIdent : Nat) : (start ds clientIdent).Connected where
  old := by simp [start]
  unique := by simp [start]

/-- A step that opens no connection and gives no client a new descriptor. -/
theorem Connected.keep {s t : Server} (connected : s.Connected) (accepted : s.accepted ≤ t.accepted)
    (clients : ∀ fd, t.Client fd → s.Client fd)
    (known : ∀ fd conn, t.fdTable fd = some conn → ∃ other, s.fdTable other = some conn)
    (fdTable : ∀ fd, t.Client fd → t.fdTable fd = s.fdTable fd) : t.Connected where
  old fd conn denotes := by
    obtain ⟨other, before⟩ := known fd conn denotes
    have bound := connected.old other conn before
    omega
  unique fd other conn client alsoClient denotes alsoDenotes := by
    rw [fdTable fd client] at denotes
    rw [fdTable other alsoClient] at alsoDenotes
    exact connected.unique fd other conn (clients fd client) (clients other alsoClient) denotes alsoDenotes

theorem Table.client_open {s : Server} (table : s.Table ds) {fd : Nat} (client : s.Client fd) :
    (s.fdTable fd).isSome = true := by
  rcases client with framed | joining
  · exact (table.containers.client fd framed).2.2.2
  · exact (table.located.joined fd joining).2.2.2.2

theorem Table.client_not_dup {s : Server} (table : s.Table ds) {fd : Nat} (client : s.Client fd) :
    s.respPc.dup ≠ some fd := by
  intro own
  obtain ⟨unframed, notJoining, _⟩ := table.private_dup fd own
  rcases client with framed | joining
  · rw [unframed] at framed
    cases framed
  · exact notJoining joining

/-- The descriptors with a framer change only when one joins or is closed. -/
theorem listenStep_framed {s t : Server} (table : s.Table ds) {action : ListenAction}
    (run : s.listenStep ds action = some t)
    (registers : ∀ newSd ready conn port ip put, action ≠ .register newSd ready conn port ip put)
    (closes : ∀ fd ready, action ≠ .closeSocket fd ready) (fd : Nat) :
    (t.framers fd).isSome = (s.framers fd).isSome := by
  by_cases frames : action.frames = true
  · cases action <;> first | (cases frames; done) | simp only [listenStep, onlyIf_eq_some] at run
    case register newSd ready conn port ip put => exact absurd rfl (registers newSd ready conn port ip put)
    case closeSocket other ready => exact absurd rfl (closes other ready)
    case recv other ready conn bytes =>
      obtain ⟨_, rfl⟩ := run
      unfold recv
      cases key : s.framers other with
      | none => rfl
      | some entry => exact framed_update (by rw [key]; rfl) _ fd
    case checkConnection other caller =>
      obtain ⟨_, rfl⟩ := run
      rcases s.checkConnection_cases other caller with
        ⟨_, result⟩ | ⟨entry, holds, _, result⟩ | ⟨_, _, _, _, _, result⟩ <;> rw [result]
      exact framed_update (by rw [holds.1]; rfl) _ fd
    case queueRequest other info queued caller put =>
      obtain ⟨here, rfl⟩ := run
      obtain ⟨entry, holds⟩ := table.located.holding other info queued caller here
      rcases queueRequest_cases holds info queued caller put with ⟨_, result⟩ | ⟨_, result⟩ <;> rw [result] <;>
        exact framed_update (by rw [holds.1]; rfl) _ fd
  · rw [(listenStep_frame run).framers (Bool.eq_false_of_not_eq_true frames)]

/-- A step of the listen thread that neither accepts nor closes. -/
theorem listenStep_client {s t : Server} (table : s.Table ds) {action : ListenAction}
    (run : s.listenStep ds action = some t) (accepts : ∀ newSd ready, action ≠ .accept newSd ready)
    (closes : ∀ fd ready, action ≠ .closeSocket fd ready) (fd : Nat) (client : t.Client fd) : s.Client fd := by
  have flow := listenStep_flow table.located.holding run
  have framed : (t.framers fd).isSome = true := by
    refine client.resolve_right ?_
    rw [flow.joining accepts]
    simp
  by_cases registers : ∀ newSd ready conn port ip put, action ≠ .register newSd ready conn port ip put
  · left
    rw [← listenStep_framed table run registers closes fd]
    exact framed
  · push Not at registers
    obtain ⟨newSd, ready, conn, port, ip, put, rfl⟩ := registers
    simp only [listenStep, onlyIf_eq_some] at run
    obtain ⟨⟨here, _⟩, rfl⟩ := run
    by_cases same : fd = newSd
    · exact Or.inr (by rw [here, same]; rfl)
    · left
      simp only [register, update_of_ne same] at framed
      exact framed

theorem listenStep_fdTable {s t : Server} {action : ListenAction} (run : s.listenStep ds action = some t)
    (accepts : ∀ newSd ready, action ≠ .accept newSd ready) (closes : ∀ fd ready, action ≠ .closeSocket fd ready) :
    t.fdTable = s.fdTable := by
  by_cases inward : action.inward = true
  · exact ((listenStep_frame run).outside inward).fdTable
  cases action <;> first | exact absurd rfl inward | simp only [listenStep, onlyIf_eq_some] at run
  case accept newSd ready => exact absurd rfl (accepts newSd ready)
  case closeSocket fd ready => exact absurd rfl (closes fd ready)
  case sendProtocolError fd ready conn count =>
    obtain ⟨_, rfl⟩ := run
    split_ifs <;> rfl
  case deregister fd ready =>
    obtain ⟨_, rfl⟩ := run
    split <;> rfl
  all_goals
    obtain ⟨_, rfl⟩ := run
    rfl

theorem accept_connected {s : Server} (connected : s.Connected) (newSd : Nat) (ready : List Nat) :
    Connected { s with fdTable := update s.fdTable newSd (some s.accepted), accepted := s.accepted + 1
                       pc := .registering newSd ready } := by
  have older : ∀ fd, fd ≠ newSd → Client { s with
      fdTable := update s.fdTable newSd (some s.accepted), accepted := s.accepted + 1
      pc := .registering newSd ready } fd → s.Client fd := by
    rintro fd differ (framed | joining)
    · exact Or.inl framed
    · exact absurd (Option.some.inj joining).symm differ
  refine ⟨?_, ?_⟩
  · intro fd conn denotes
    by_cases same : fd = newSd
    · subst same
      simp only [update_self, Option.some.injEq] at denotes
      dsimp only
      omega
    · simp only [update_of_ne same] at denotes
      have bound := connected.old fd conn denotes
      dsimp only
      omega
  · intro fd other conn client alsoClient denotes alsoDenotes
    by_cases same : fd = newSd <;> by_cases alsoSame : other = newSd
    · rw [same, alsoSame]
    · subst same
      simp only [update_self, Option.some.injEq, update_of_ne alsoSame] at denotes alsoDenotes
      have bound := connected.old other conn alsoDenotes
      omega
    · subst alsoSame
      simp only [update_self, Option.some.injEq, update_of_ne same] at denotes alsoDenotes
      have bound := connected.old fd conn denotes
      omega
    · simp only [update_of_ne same, update_of_ne alsoSame] at denotes alsoDenotes
      exact connected.unique fd other conn (older fd same client) (older other alsoSame alsoClient) denotes alsoDenotes

theorem listenStep_connected {s t : Server} (table : s.Table ds) (connected : s.Connected) {action : ListenAction}
    (run : s.listenStep ds action = some t) : t.Connected := by
  by_cases accepts : ∀ newSd ready, action ≠ .accept newSd ready
  · by_cases closes : ∀ fd ready, action ≠ .closeSocket fd ready
    · have clients := listenStep_client table run accepts closes
      have same := listenStep_fdTable run accepts closes
      refine connected.keep (listenStep_frame run).accepted clients ?_ ?_
      · rw [same]
        exact fun fd conn denotes => ⟨fd, denotes⟩
      · rw [same]
        exact fun _ _ => rfl
    · push Not at closes
      obtain ⟨closed, ready, rfl⟩ := closes
      simp only [listenStep, onlyIf_eq_some] at run
      obtain ⟨_, rfl⟩ := run
      have differ : ∀ fd, (update s.framers closed none fd).isSome = true → fd ≠ closed := by
        rintro fd framed rfl
        simp at framed
      refine connected.keep (Nat.le_refl _) ?_ ?_ ?_
      · rintro fd (framed | joining)
        · have apart := differ fd framed
          simp only [update_of_ne apart] at framed
          exact Or.inl framed
        · cases joining
      · intro fd conn denotes
        by_cases same : fd = closed
        · subst same
          simp at denotes
        · simp only [update_of_ne same] at denotes
          exact ⟨fd, denotes⟩
      · rintro fd (framed | joining)
        · exact update_of_ne (differ fd framed) _ _
        · cases joining
  · push Not at accepts
    obtain ⟨newSd, ready, rfl⟩ := accepts
    simp only [listenStep, onlyIf_eq_some] at run
    obtain ⟨_, rfl⟩ := run
    exact accept_connected connected newSd ready

/-- The response thread opens and closes descriptors of its own only. -/
theorem responseStep_fdTable {s t : Server} (table : s.Table ds) {action : ResponseAction}
    (run : s.responseStep ds action = some t) (fd : Nat) (client : s.Client fd) : t.fdTable fd = s.fdTable fd := by
  cases action <;> simp only [responseStep, onlyIf_eq_some] at run
  case dup resp newFd =>
    obtain ⟨⟨_, fresh⟩, rfl⟩ := run
    split_ifs
    · cases newFd with
      | none => rfl
      | some other =>
        cases s.fdTable resp.sockDescriptor with
        | none => rfl
        | some conn =>
          have isOpen := table.client_open client
          refine update_of_ne ?_ _ _
          rintro rfl
          rw [(fresh fd rfl).1] at isOpen
          cases isOpen
    · rfl
  case closeDup resp dup =>
    obtain ⟨here, rfl⟩ := run
    refine update_of_ne ?_ _ _
    rintro rfl
    exact table.client_not_dup client (by rw [here]; rfl)
  all_goals
    obtain ⟨_, rfl⟩ := run
    rfl

/-- Its dups are of connections that a descriptor denotes already. -/
theorem responseStep_denotes {s t : Server} {action : ResponseAction} (run : s.responseStep ds action = some t)
    (fd conn : Nat) (denotes : t.fdTable fd = some conn) : ∃ other, s.fdTable other = some conn := by
  cases action <;> simp only [responseStep, onlyIf_eq_some] at run
  case dup resp newFd =>
    obtain ⟨_, rfl⟩ := run
    split_ifs at denotes
    · cases newFd with
      | none => exact ⟨fd, denotes⟩
      | some dup =>
        cases origin : s.fdTable resp.sockDescriptor with
        | none =>
          simp only [origin] at denotes
          exact ⟨fd, denotes⟩
        | some target =>
          simp only [origin] at denotes
          by_cases same : fd = dup
          · rw [same, update_self] at denotes
            exact ⟨resp.sockDescriptor, origin.trans denotes⟩
          · rw [update_of_ne same] at denotes
            exact ⟨fd, denotes⟩
    · exact ⟨fd, denotes⟩
  case closeDup resp dup =>
    obtain ⟨_, rfl⟩ := run
    by_cases same : fd = dup
    · simp [same] at denotes
    · simp only [update_of_ne same] at denotes
      exact ⟨fd, denotes⟩
  all_goals
    obtain ⟨_, rfl⟩ := run
    exact ⟨fd, denotes⟩

theorem responseStep_connected {s t : Server} (table : s.Table ds) (connected : s.Connected)
    {action : ResponseAction} (run : s.responseStep ds action = some t) : t.Connected := by
  have frame := responseStep_frame run
  have clients : ∀ fd, t.Client fd → s.Client fd := by
    unfold Client
    rw [frame.listen.framers, frame.listen.pc]
    exact fun _ => id
  exact connected.keep (Nat.le_of_eq frame.accepted.symm) clients (responseStep_denotes run)
    fun fd client => responseStep_fdTable table run fd (clients fd client)

theorem step_connected {s t : Server} (table : s.Table ds) (connected : s.Connected) {action : ServerAction}
    (run : s.step ds action = some t) : t.Connected := by
  cases action with
  | listen action => exact listenStep_connected table connected run
  | respond action => exact responseStep_connected table connected run
  | outside action =>
    cases action <;> simp only [step, outsideStep, onlyIf_eq_some, Option.some.injEq] at run
    case schedule request text put =>
      obtain ⟨_, rfl⟩ := run
      cases put <;> exact ⟨connected.old, connected.unique⟩
    case requestStop =>
      subst run
      exact ⟨connected.old, connected.unique⟩
    case stopWake written =>
      obtain ⟨_, rfl⟩ := run
      exact ⟨connected.old, connected.unique⟩

theorem reach_connected {allow : Server → ServerAction → Prop} {clientIdent : Nat} {s : Server}
    (reach : Reach (step ds) allow (start ds clientIdent) s) : s.Connected :=
  reach.invariant_with (fun _ => reach_table) (connected_start clientIdent)
    fun _ _ _ table connected _ run => step_connected table connected run

end Server
end JsonRpcTcp
