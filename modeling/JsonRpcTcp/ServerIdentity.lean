import JsonRpcTcp.ServerTable

namespace JsonRpcTcp
open Function

/-- The client record that `queue_framed_requests` holds, with its descriptor. -/
def ListenPc.client : ListenPc → Option (Nat × ClientInfo)
  | .admitting fd info _ _ | .queueing fd info _ _ | .releasing fd info _ _ => some (fd, info)
  | _ => none

namespace Server
variable {ds : Descriptors}

/-- A request carries the id of a client record, and only bytes of that record's
connection went into it. -/
def Arrived (s : Server) (request : Request) : Prop :=
  ∃ info ∈ s.issued, info.ident = request.cltid ∧ request.arrivedOn ≠ [] ∧
    ∀ conn ∈ request.arrivedOn, conn = info.conn

/-- Records, framers and requests belong to the connections they were made for. -/
structure Identity (s : Server) : Prop where
  range : 0 ≤ s.clientIdent ∧ ∀ info ∈ s.issued, 1 ≤ info.ident ∧ info.ident ≤ s.clientIdent
  unique : ∀ info ∈ s.issued, ∀ other ∈ s.issued, info.ident = other.ident → info = other
  issued : ∀ info ∈ s.clientInfoChain, info ∈ s.issued
  current : ∀ info ∈ s.clientInfoChain, s.fdTable info.sockDescriptor = some info.conn
  fed : ∀ fd entry, s.framers fd = some entry →
    (∀ conn ∈ entry.fedBy, s.fdTable fd = some conn) ∧ (entry.framer.ready ≠ [] → entry.fedBy ≠ [])
  held : ∀ fd info, s.pc.client = some (fd, info) → info ∈ s.clientInfoChain ∧ info.sockDescriptor = fd
  queued : ∀ request ∈ s.requestChain, s.Arrived request
  taken : ∀ request ∈ s.taken, s.Arrived request

theorem identity_start (clientIdent : Nat) : (start ds clientIdent).Identity where
  range := by simp [start]
  unique := by simp [start]
  issued := by simp [start]
  current := by simp [start]
  fed := by simp [start]
  held := by simp [start, ListenPc.client]
  queued := by simp [start]
  taken := by simp [start]

/-- `get_client_info` finds a record of this descriptor. -/
theorem getClientInfo_some {s : Server} {fd : Nat} {info : ClientInfo} (found : s.getClientInfo fd = some info) :
    info ∈ s.clientInfoChain ∧ info.sockDescriptor = fd := by
  have member := List.mem_of_find?_eq_some found
  have named := List.find?_some found
  exact ⟨member, by simpa using named⟩

theorem Arrived.mono {s t : Server} {request : Request} (arrived : s.Arrived request)
    (issued : ∀ info ∈ s.issued, info ∈ t.issued) : t.Arrived request := by
  obtain ⟨info, known, named, nonempty, only⟩ := arrived
  exact ⟨info, issued info known, named, nonempty, only⟩

/-- A step that makes and removes no record and opens and closes no framed
descriptor. -/
theorem Identity.reframe {s t : Server} (identity : s.Identity) (table : s.Table ds)
    (issued : t.issued = s.issued) (clientIdent : t.clientIdent = s.clientIdent)
    (chain : t.clientInfoChain = s.clientInfoChain)
    (fdTable : ∀ fd, (s.framers fd).isSome = true → t.fdTable fd = s.fdTable fd)
    (framed : ∀ fd, (t.framers fd).isSome = (s.framers fd).isSome)
    (fed : ∀ fd entry, t.framers fd = some entry →
      (∀ conn ∈ entry.fedBy, s.fdTable fd = some conn) ∧ (entry.framer.ready ≠ [] → entry.fedBy ≠ []))
    (held : ∀ fd info, t.pc.client = some (fd, info) → info ∈ s.clientInfoChain ∧ info.sockDescriptor = fd)
    (queued : ∀ request ∈ t.requestChain, s.Arrived request)
    (taken : ∀ request ∈ t.taken, s.Arrived request) : t.Identity where
  range := by
    rw [issued, clientIdent]
    exact identity.range
  unique := by
    rw [issued]
    exact identity.unique
  issued := by
    rw [chain, issued]
    exact identity.issued
  current info member := by
    rw [chain] at member
    rw [fdTable _ (table.containers.recorded info member)]
    exact identity.current info member
  fed fd entry key := by
    have known : (s.framers fd).isSome = true := by rw [← framed, key, Option.isSome_some]
    rw [fdTable fd known]
    exact fed fd entry key
  held := by
    rw [chain]
    exact held
  queued request member := (queued request member).mono (by rw [issued]; exact fun _ known => known)
  taken request member := (taken request member).mono (by rw [issued]; exact fun _ known => known)

/-- A step that also leaves the framers and the requests alone. -/
theorem Identity.frame {s t : Server} (identity : s.Identity) (table : s.Table ds)
    (issued : t.issued = s.issued) (clientIdent : t.clientIdent = s.clientIdent)
    (chain : t.clientInfoChain = s.clientInfoChain) (framers : t.framers = s.framers)
    (requests : t.requestChain = s.requestChain) (taken : t.taken = s.taken)
    (fdTable : ∀ fd, (s.framers fd).isSome = true → t.fdTable fd = s.fdTable fd)
    (client : t.pc.client = none ∨ t.pc.client = s.pc.client) : t.Identity := by
  apply identity.reframe table issued clientIdent chain fdTable
  · intro fd
    rw [framers]
  · rw [framers]
    exact identity.fed
  · intro fd info here
    rcases client with none | same
    · rw [none] at here
      cases here
    · exact identity.held fd info (same ▸ here)
  · rw [requests]
    exact identity.queued
  · rw [taken]
    exact identity.taken

theorem register_identity {s : Server} (identity : s.Identity) {newSd conn : Nat} {ready : List Nat}
    (denotes : s.fdTable newSd = some conn) (port : Int) (ip : List Byte) (put : Bool) :
    (s.register newSd ready { ident := s.clientIdent + 1, sockDescriptor := newSd, port := port, ip := ip,
                              conn := conn } put).Identity := by
  have older : ∀ info ∈ s.issued, info.ident ≠ s.clientIdent + 1 := by
    intro info known
    have bound := (identity.range.2 info known).2
    omega
  refine ⟨?_, ?_, ?_, ?_, ?_, ?_, ?_, ?_⟩
  · have range := identity.range
    refine ⟨by simp only [register]; omega, ?_⟩
    intro info known
    rcases List.mem_append.mp known with old | new
    · have bound := range.2 info old
      simp only [register]
      omega
    · cases List.mem_singleton.mp new
      simp only [register]
      omega
  · intro info known other alsoKnown same
    rcases List.mem_append.mp known with old | new
    · rcases List.mem_append.mp alsoKnown with alsoOld | alsoNew
      · exact identity.unique info old other alsoOld same
      · cases List.mem_singleton.mp alsoNew
        exact absurd same (older info old)
    · cases List.mem_singleton.mp new
      rcases List.mem_append.mp alsoKnown with alsoOld | alsoNew
      · exact absurd same.symm (older other alsoOld)
      · exact (List.mem_singleton.mp alsoNew).symm
  · intro info member
    cases put with
    | false => exact List.mem_append_left _ (identity.issued info member)
    | true =>
      rcases List.mem_append.mp member with old | new
      · exact List.mem_append_left _ (identity.issued info old)
      · exact List.mem_append_right _ new
  · intro info member
    cases put with
    | false => exact identity.current info member
    | true =>
      rcases List.mem_append.mp member with old | new
      · exact identity.current info old
      · cases List.mem_singleton.mp new
        exact denotes
  · intro fd entry key
    by_cases same : fd = newSd
    · subst same
      simp only [register, update_self, Option.some.injEq] at key
      subst key
      exact ⟨by simp, fun waiting => absurd rfl waiting⟩
    · simp only [register, update_of_ne same] at key
      exact identity.fed fd entry key
  · exact fun _ _ impossible => by cases impossible
  · intro request member
    exact (identity.queued request member).mono fun _ known => List.mem_append_left _ known
  · intro request member
    exact (identity.taken request member).mono fun _ known => List.mem_append_left _ known

theorem recv_identity {s : Server} (identity : s.Identity) (table : s.Table ds) {fd conn : Nat}
    {ready : List Nat} {bytes : List Byte} (denotes : s.fdTable fd = some conn) :
    (s.recv fd ready conn bytes).Identity := by
  unfold recv
  cases key : s.framers fd with
  | none => exact identity.frame table rfl rfl rfl rfl rfl rfl (fun _ _ => rfl) (Or.inl rfl)
  | some entry =>
    have framed : (s.framers fd).isSome = true := by rw [key, Option.isSome_some]
    refine identity.reframe table rfl rfl rfl (fun _ _ => rfl) (framed_update framed _) ?_
      (by simp [ListenPc.client])
      identity.queued identity.taken
    intro other found known
    by_cases same : other = fd
    · subst same
      simp only [update_self, Option.some.injEq] at known
      subst known
      refine ⟨?_, fun _ => List.append_ne_nil_of_right_ne_nil _ (List.cons_ne_nil _ _)⟩
      intro source member
      rcases List.mem_append.mp member with old | new
      · exact (identity.fed other entry key).1 source old
      · cases List.mem_singleton.mp new
        exact denotes
    · simp only [update_of_ne same] at known
      exact identity.fed other found known

/-- A framer that was only read or reset still holds bytes of the same connections. -/
theorem Identity.fed_update {s : Server} (identity : s.Identity) {fd : Nat} {entry : FramerEntry}
    (key : s.framers fd = some entry) (framer : Framer)
    (fewer : framer.ready ≠ [] → entry.framer.ready ≠ []) :
    ∀ other found, update s.framers fd (some { entry with framer := framer }) other = some found →
      (∀ conn ∈ found.fedBy, s.fdTable other = some conn) ∧ (found.framer.ready ≠ [] → found.fedBy ≠ []) := by
  intro other found known
  by_cases same : other = fd
  · subst same
    simp only [update_self, Option.some.injEq] at known
    subst known
    obtain ⟨sources, waiting⟩ := identity.fed other entry key
    exact ⟨sources, fun some => waiting (fewer some)⟩
  · simp only [update_of_ne same] at known
    exact identity.fed other found known

theorem afterQueueing_client (fd queued : Nat) (paused : Bool) (caller : QueueCaller) :
    (afterQueueing fd queued paused caller).client = none := by
  unfold afterQueueing
  split_ifs <;> rfl

theorem checkConnection_identity {s : Server} (identity : s.Identity) (table : s.Table ds) (fd : Nat)
    (caller : QueueCaller) : (s.checkConnection fd caller).Identity := by
  rcases s.checkConnection_cases fd caller with
    ⟨_, result⟩ | ⟨entry, holds, _, result⟩ | ⟨_, info, _, known, _, result⟩ <;> rw [result]
  · exact identity.frame table rfl rfl rfl rfl rfl rfl (fun _ _ => rfl) (Or.inl rfl)
  · have framed : (s.framers fd).isSome = true := by rw [holds.1, Option.isSome_some]
    exact identity.reframe table rfl rfl rfl (fun _ _ => rfl) (framed_update framed _)
      (identity.fed_update holds.1 _ fun some => absurd rfl some) (by simp [ListenPc.client])
        identity.queued identity.taken
  · refine identity.reframe table rfl rfl rfl (fun _ _ => rfl) (fun _ => rfl) identity.fed ?_
      identity.queued identity.taken
    intro other found here
    cases here
    exact getClientInfo_some known

theorem admission_identity {s : Server} (identity : s.Identity) (table : s.Table ds) {fd queued : Nat}
    {info : ClientInfo} {caller : QueueCaller} (here : s.pc = .admitting fd info queued caller) :
    (s.admission fd info queued caller).Identity := by
  have same : s.pc.client = some (fd, info) := by rw [here]; rfl
  have none := fun paused => afterQueueing_client fd queued paused caller
  rcases s.admission_cases fd info queued caller with
    ⟨_, result⟩ | ⟨_, _, _, result⟩ | ⟨_, _, _, _, result⟩ | ⟨_, _, _, _, result⟩ <;> rw [result]
  · exact identity.frame table rfl rfl rfl rfl rfl rfl (fun _ _ => rfl) (Or.inl (none false))
  · exact identity.frame table rfl rfl rfl rfl rfl rfl (fun _ _ => rfl) (Or.inr same.symm)
  · exact identity.frame table rfl rfl rfl rfl rfl rfl (fun _ _ => rfl) (Or.inl (none true))
  · exact identity.frame table rfl rfl rfl rfl rfl rfl (fun _ _ => rfl) (Or.inr same.symm)

/-- The request that is popped carries the id of the record and the connections
that fed its framer, which are all the connection of the record. -/
theorem poppedRequest_arrived {s : Server} (identity : s.Identity) {fd queued : Nat} {info : ClientInfo}
    {caller : QueueCaller} (here : s.pc = .queueing fd info queued caller) {entry : FramerEntry}
    (holds : s.Holds fd entry) : s.Arrived (s.poppedRequest fd info entry) := by
  obtain ⟨member, named⟩ := identity.held fd info (by rw [here]; rfl)
  obtain ⟨sources, waiting⟩ := identity.fed fd entry holds.1
  refine ⟨info, identity.issued info member, rfl, waiting holds.2, ?_⟩
  intro conn fed
  have current := identity.current info member
  rw [named, sources conn fed] at current
  exact Option.some.inj current

theorem queueRequest_identity {s : Server} (identity : s.Identity) (table : s.Table ds) {fd queued : Nat}
    {info : ClientInfo} {caller : QueueCaller} (here : s.pc = .queueing fd info queued caller) (put : Bool) :
    (s.queueRequest fd info queued caller put).Identity := by
  obtain ⟨entry, holds⟩ := table.located.holding fd info queued caller here
  have framed : (s.framers fd).isSome = true := by rw [holds.1, Option.isSome_some]
  have fed := identity.fed_update holds.1 entry.framer.next.2 fun _ => holds.2
  have held : ∀ other found, some (fd, info) = some (other, found) →
      found ∈ s.clientInfoChain ∧ found.sockDescriptor = other := by
    intro other found same
    exact identity.held other found (by rw [here]; exact same)
  rcases queueRequest_cases holds info queued caller put with ⟨_, result⟩ | ⟨_, result⟩ <;> rw [result]
  · refine identity.reframe table rfl rfl rfl (fun _ _ => rfl) (framed_update framed _) fed held ?_ identity.taken
    intro request member
    rcases List.mem_append.mp member with old | new
    · exact identity.queued request old
    · cases List.mem_singleton.mp new
      exact poppedRequest_arrived identity here holds
  · exact identity.reframe table rfl rfl rfl (fun _ _ => rfl) (framed_update framed _) fed held
      identity.queued identity.taken

theorem takeRequest_identity {s : Server} (identity : s.Identity) (table : s.Table ds) {request : Request}
    (first : s.requestChain.head? = some request) (client : s.pc.client = none) :
    Identity { s with requestChain := s.requestChain.tail, taken := s.taken ++ [request]
                      unanswered := s.unanswered ++ [request] } := by
  refine identity.reframe table rfl rfl rfl (fun _ _ => rfl) (fun _ => rfl) identity.fed ?_ ?_ ?_
  · intro fd info here
    change s.pc.client = some (fd, info) at here
    rw [client] at here
    cases here
  · intro other member
    exact identity.queued other (List.mem_of_mem_tail member)
  · intro other member
    rcases List.mem_append.mp member with old | new
    · exact identity.taken other old
    · rw [List.mem_singleton.mp new]
      exact identity.queued request (List.mem_of_mem_head? first)

/-- A descriptor that is not in use gets a meaning, or one that has no framer
loses it. -/
theorem fdTable_update_framed {s : Server} {fd : Nat} (unframed : (s.framers fd).isSome = false)
    (conn : Option Nat) : ∀ other, (s.framers other).isSome = true →
      update s.fdTable fd conn other = s.fdTable other := by
  intro other framed
  have differ : other ≠ fd := by
    rintro rfl
    rw [unframed] at framed
    cases framed
  exact update_of_ne differ _ _

theorem Table.fresh_unframed {s : Server} (table : s.Table ds) {fd : Nat} (closed : s.fdTable fd = none) :
    (s.framers fd).isSome = false := by
  by_contra framed
  have isOpen := (table.containers.client fd (Bool.eq_true_of_not_eq_false framed)).2.2.2
  rw [closed] at isOpen
  cases isOpen

theorem deregister_identity {s : Server} (identity : s.Identity) (fd : Nat) (client : s.pc.client = none) :
    Identity { s with clientInfoChain := s.clientInfoChain.eraseP fun info => info.sockDescriptor == fd } where
  range := identity.range
  unique := identity.unique
  issued info member := identity.issued info (List.mem_of_mem_eraseP member)
  current info member := identity.current info (List.mem_of_mem_eraseP member)
  fed := identity.fed
  held other info here := by
    change s.pc.client = some (other, info) at here
    rw [client] at here
    cases here
  queued := identity.queued
  taken := identity.taken

/-- The record is gone before the descriptor is closed. -/
theorem closeSocket_identity {s : Server} (identity : s.Identity) (table : s.Table ds) {fd : Nat}
    {ready : List Nat} (here : s.pc = .closeFd fd ready) (masterSet : Finset Nat) (maxSd : Nat) :
    Identity { s with framers := update s.framers fd none, fdTable := update s.fdTable fd none
                      masterSet := masterSet, maxSd := maxSd, pc := .scanning ready } where
  range := identity.range
  unique := identity.unique
  issued := identity.issued
  current info member := by
    have differ := table.located.unlisted fd ready here info member
    dsimp only
    rw [update_of_ne differ]
    exact identity.current info member
  fed other entry key := by
    by_cases same : other = fd
    · subst same
      simp only [update_self] at key
      cases key
    · simp only [update_of_ne same] at key ⊢
      exact identity.fed other entry key
  held := by simp [ListenPc.client]
  queued := identity.queued
  taken := identity.taken

theorem listenStep_identity {s t : Server} (identity : s.Identity) (table : s.Table ds)
    {action : ListenAction} (run : s.listenStep ds action = some t) : t.Identity := by
  cases action <;> simp only [listenStep, onlyIf_eq_some] at run
  case accept newSd ready =>
    obtain ⟨⟨here, fresh, _⟩, rfl⟩ := run
    exact identity.frame table rfl rfl rfl rfl rfl rfl
      (fdTable_update_framed (table.fresh_unframed fresh.1) _) (Or.inl rfl)
  case register newSd ready conn port ip put =>
    obtain ⟨⟨_, denotes, _⟩, rfl⟩ := run
    exact register_identity identity denotes port ip put
  case recv fd ready conn bytes =>
    obtain ⟨⟨_, denotes, _⟩, rfl⟩ := run
    exact recv_identity identity table denotes
  case checkConnection fd caller =>
    obtain ⟨_, rfl⟩ := run
    exact checkConnection_identity identity table fd caller
  case admission fd info queued caller =>
    obtain ⟨here, rfl⟩ := run
    exact admission_identity identity table here
  case queueRequest fd info queued caller put =>
    obtain ⟨here, rfl⟩ := run
    exact queueRequest_identity identity table here put
  case takeRequest fd paused caller request =>
    obtain ⟨⟨here, first⟩, rfl⟩ := run
    exact takeRequest_identity identity table first (by rw [here]; rfl)
  case deregister fd ready =>
    obtain ⟨here, rfl⟩ := run
    cases s.getClientInfo fd with
    | none => exact identity.frame table rfl rfl rfl rfl rfl rfl (fun _ _ => rfl) (Or.inl rfl)
    | some info => exact deregister_identity identity fd (by rw [here]; rfl)
  case closeSocket fd ready =>
    obtain ⟨here, rfl⟩ := run
    exact closeSocket_identity identity table here _ _
  case acceptRefused newSd ready =>
    obtain ⟨_, rfl⟩ := run
    exact identity.frame table rfl rfl rfl rfl rfl rfl (fun _ _ => rfl) (Or.inr rfl)
  case release fd info queued caller =>
    obtain ⟨_, rfl⟩ := run
    refine identity.frame table rfl rfl rfl rfl rfl rfl (fun _ _ => rfl) (Or.inl ?_)
    dsimp only
    split_ifs
    · rfl
    · exact afterQueueing_client ..
  case releaseWake fd queued caller written =>
    obtain ⟨_, rfl⟩ := run
    exact identity.frame table rfl rfl rfl rfl rfl rfl (fun _ _ => rfl) (Or.inl (afterQueueing_client ..))
  case queueReturn fd paused caller =>
    obtain ⟨_, rfl⟩ := run
    cases caller with
    | receive frc ready =>
      simp only [queueReturn]
      split_ifs <;> exact identity.frame table rfl rfl rfl rfl rfl rfl (fun _ _ => rfl) (Or.inl rfl)
    | resume cursor =>
      cases paused <;> exact identity.frame table rfl rfl rfl rfl rfl rfl (fun _ _ => rfl) (Or.inl rfl)
  case resumeNext cursor fd =>
    obtain ⟨_, rfl⟩ := run
    simp only [resumeNext]
    split_ifs <;> exact identity.frame table rfl rfl rfl rfl rfl rfl (fun _ _ => rfl) (Or.inl rfl)
  case sendProtocolError fd ready conn count =>
    obtain ⟨_, rfl⟩ := run
    split_ifs <;> exact identity.frame table rfl rfl rfl rfl rfl rfl (fun _ _ => rfl) (Or.inl rfl)
  case select | selectFails | readWake | loopCheck =>
    obtain ⟨_, rfl⟩ := run
    refine identity.frame table rfl rfl rfl rfl rfl rfl (fun _ _ => rfl) (Or.inl ?_)
    dsimp only
    split_ifs <;> rfl
  all_goals
    obtain ⟨_, rfl⟩ := run
    exact identity.frame table rfl rfl rfl rfl rfl rfl (fun _ _ => rfl) (Or.inl rfl)

theorem responseStep_identity {s t : Server} (identity : s.Identity) (table : s.Table ds)
    {action : ResponseAction} (run : s.responseStep ds action = some t) : t.Identity := by
  cases action <;> simp only [responseStep, onlyIf_eq_some] at run
  case dup resp newFd =>
    obtain ⟨⟨_, fresh⟩, rfl⟩ := run
    split_ifs
    · cases newFd with
      | none => exact identity.frame table rfl rfl rfl rfl rfl rfl (fun _ _ => rfl) (Or.inr rfl)
      | some fd =>
        cases s.fdTable resp.sockDescriptor with
        | none => exact identity.frame table rfl rfl rfl rfl rfl rfl (fun _ _ => rfl) (Or.inr rfl)
        | some conn =>
          have unframed := table.fresh_unframed (fresh fd rfl).1
          exact identity.frame table rfl rfl rfl rfl rfl rfl (fdTable_update_framed unframed _) (Or.inr rfl)
    · exact identity.frame table rfl rfl rfl rfl rfl rfl (fun _ _ => rfl) (Or.inr rfl)
  case closeDup resp dup =>
    obtain ⟨here, rfl⟩ := run
    have unframed := (table.private_dup dup (by rw [here]; rfl)).1
    exact identity.frame table rfl rfl rfl rfl rfl rfl (fdTable_update_framed unframed _) (Or.inr rfl)
  all_goals
    obtain ⟨_, rfl⟩ := run
    exact identity.frame table rfl rfl rfl rfl rfl rfl (fun _ _ => rfl) (Or.inr rfl)

theorem step_identity {s t : Server} (identity : s.Identity) (table : s.Table ds) {action : ServerAction}
    (run : s.step ds action = some t) : t.Identity := by
  cases action with
  | listen action => exact listenStep_identity identity table run
  | respond action => exact responseStep_identity identity table run
  | outside action =>
    cases action <;> simp only [step, outsideStep, onlyIf_eq_some, Option.some.injEq] at run
    case schedule request text put =>
      obtain ⟨_, rfl⟩ := run
      cases put <;> exact identity.frame table rfl rfl rfl rfl rfl rfl (fun _ _ => rfl) (Or.inr rfl)
    case requestStop =>
      subst run
      exact identity.frame table rfl rfl rfl rfl rfl rfl (fun _ _ => rfl) (Or.inr rfl)
    case stopWake written =>
      obtain ⟨_, rfl⟩ := run
      exact identity.frame table rfl rfl rfl rfl rfl rfl (fun _ _ => rfl) (Or.inr rfl)

theorem reach_identity {allow : Server → ServerAction → Prop} {clientIdent : Nat} {s : Server}
    (reach : Reach (step ds) allow (start ds clientIdent) s) : s.Identity :=
  reach.invariant_with (fun _ => reach_table) (identity_start clientIdent)
    fun _ _ _ table identity _ run => step_identity identity table run

end Server
end JsonRpcTcp
