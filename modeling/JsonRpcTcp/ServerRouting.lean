import JsonRpcTcp.ServerIdentity

namespace JsonRpcTcp
open Function

/-- The response that the response thread works on, until `response_done`. -/
def ResponsePc.response : ResponsePc → Option Response
  | .checking resp | .dupping resp | .sending resp _ _ | .dropping resp _ _ | .shutting resp _ _ _
  | .dropWake resp _ | .closingDup resp _ | .finishing resp => some resp
  | .idle | .doneWake => none

/-- The response for which the response thread has a dup of the socket. -/
def ResponsePc.transfer : ResponsePc → Option (Response × Nat)
  | .sending resp dup _ | .dropping resp dup _ | .shutting resp dup _ _ | .dropWake resp dup
  | .closingDup resp dup => some (resp, dup)
  | .idle | .checking _ | .dupping _ | .finishing _ | .doneWake => none

theorem ResponsePc.dup_of_transfer {pc : ResponsePc} {resp : Response} {fd : Nat}
    (transfer : pc.transfer = some (resp, fd)) : pc.response = some resp ∧ pc.dup = some fd := by
  cases pc <;> cases transfer <;> exact ⟨rfl, rfl⟩

namespace Server
variable {ds : Descriptors}

/-- The request came in on this connection and on no other. -/
def ArrivedOnly (request : Request) (conn : Nat) : Prop :=
  request.arrivedOn ≠ [] ∧ ∀ other ∈ request.arrivedOn, other = conn

/-- Responses are for requests that were taken, and the response thread's dup is
one of the connection that the response is for. -/
structure Routing (s : Server) : Prop where
  scheduled : ∀ resp ∈ s.scheduled, resp.request ∈ s.taken ∧ resp.cltid = resp.request.cltid
  waiting : ∀ resp ∈ s.responseChain, resp ∈ s.scheduled
  handled : ∀ resp, s.respPc.response = some resp → resp ∈ s.scheduled
  dup : ∀ resp fd, s.respPc.transfer = some (resp, fd) →
    ∃ info ∈ s.issued, info.ident = resp.cltid ∧ s.fdTable fd = some info.conn
  sent : ∀ conn, ∀ piece ∈ (s.sockets conn).sent, ∀ resp, piece.source = some resp →
    resp ∈ s.scheduled ∧ ArrivedOnly resp.request conn

theorem routing_start (clientIdent : Nat) : (start ds clientIdent).Routing where
  scheduled := by simp [start]
  waiting := by simp [start]
  handled := by simp [start, ResponsePc.response]
  dup := by simp [start, ResponsePc.transfer]
  sent := by simp [start]

/-- The id of a scheduled response is that of a client record. -/
theorem Routing.record {s : Server} (routing : s.Routing) (identity : s.Identity) {resp : Response}
    (scheduled : resp ∈ s.scheduled) :
    ∃ info ∈ s.issued, info.ident = resp.cltid ∧ ArrivedOnly resp.request info.conn := by
  obtain ⟨taken, same⟩ := routing.scheduled resp scheduled
  obtain ⟨info, known, named, nonempty, only⟩ := identity.taken resp.request taken
  exact ⟨info, known, named.trans same.symm, nonempty, only⟩

/-- A step that keeps what was issued, taken and scheduled, sends nothing and
leaves the dup alone. -/
theorem Routing.frame {s t : Server} (routing : s.Routing)
    (issued : ∀ info ∈ s.issued, info ∈ t.issued) (taken : ∀ request ∈ s.taken, request ∈ t.taken)
    (scheduled : t.scheduled = s.scheduled) (waiting : t.responseChain = s.responseChain)
    (sent : ∀ conn, (t.sockets conn).sent = (s.sockets conn).sent)
    (response : ∀ resp, t.respPc.response = some resp → s.respPc.response = some resp)
    (transfer : ∀ resp fd, t.respPc.transfer = some (resp, fd) →
      s.respPc.transfer = some (resp, fd) ∧ t.fdTable fd = s.fdTable fd) : t.Routing where
  scheduled resp member := by
    rw [scheduled] at member
    obtain ⟨known, same⟩ := routing.scheduled resp member
    exact ⟨taken _ known, same⟩
  waiting := by
    rw [scheduled, waiting]
    exact routing.waiting
  handled resp here := by
    rw [scheduled]
    exact routing.handled resp (response resp here)
  dup resp fd here := by
    obtain ⟨before, same⟩ := transfer resp fd here
    obtain ⟨info, known, named, denotes⟩ := routing.dup resp fd before
    exact ⟨info, issued info known, named, same.trans denotes⟩
  sent conn piece member := by
    rw [scheduled]
    rw [sent] at member
    exact routing.sent conn piece member

/-- A step of another thread, as long as it does not touch the dup. -/
theorem Routing.elsewhere {s t : Server} (routing : s.Routing)
    (issued : ∀ info ∈ s.issued, info ∈ t.issued) (taken : ∀ request ∈ s.taken, request ∈ t.taken)
    (scheduled : t.scheduled = s.scheduled) (waiting : t.responseChain = s.responseChain)
    (sent : ∀ conn, (t.sockets conn).sent = (s.sockets conn).sent) (respPc : t.respPc = s.respPc)
    (fdTable : ∀ fd, s.respPc.dup = some fd → t.fdTable fd = s.fdTable fd) : t.Routing := by
  apply routing.frame issued taken scheduled waiting sent
  · intro resp here
    rwa [respPc] at here
  · intro resp fd here
    rw [respPc] at here
    exact ⟨here, fdTable fd (ResponsePc.dup_of_transfer here).2⟩

/-- `send_protocol_error` sends bytes that belong to no response. -/
theorem protocolError_routing {s : Server} (routing : s.Routing) (conn count : Nat) (pc : ListenPc) :
    Routing { s.transmit conn { source := none, offset := 0, bytes := protocolErrorText.take count } with
              pc := pc } where
  scheduled := routing.scheduled
  waiting := routing.waiting
  handled := routing.handled
  dup := routing.dup
  sent other piece member resp belongs := by
    by_cases same : other = conn
    · subst same
      simp only [transmit, update_self] at member
      rcases List.mem_append.mp member with old | new
      · exact routing.sent other piece old resp belongs
      · rw [List.mem_singleton.mp new] at belongs
        cases belongs
    · simp only [transmit, update_of_ne same] at member
      exact routing.sent other piece member resp belongs

/-- A new descriptor is not the dup, which is open. -/
theorem Table.dup_ne_fresh {s : Server} (table : s.Table ds) {fd : Nat} (closed : s.fdTable fd = none) :
    ∀ other, s.respPc.dup = some other → other ≠ fd := by
  rintro other own rfl
  have isOpen := (table.private_dup other own).2.2
  rw [closed] at isOpen
  cases isOpen

/-- The descriptor of a client is not the dup, which has no framer. -/
theorem Table.dup_ne_handled {s : Server} (table : s.Table ds) {fd : Nat} (handling : s.pc.handling = some fd) :
    ∀ other, s.respPc.dup = some other → other ≠ fd := by
  rintro other own rfl
  obtain ⟨member, notListen, notWake, _⟩ := table.located.handled other handling
  have framed := (table.containers.owned other).mpr (Or.inl ⟨member, notListen, notWake⟩)
  rw [(table.private_dup other own).1] at framed
  cases framed

theorem listenStep_routing {s t : Server} (routing : s.Routing) (table : s.Table ds)
    {action : ListenAction} (run : s.listenStep ds action = some t) : t.Routing := by
  by_cases inward : action.inward = true
  · have same := (listenStep_frame run).outside inward
    refine routing.elsewhere ?_ ?_ same.scheduled same.responseChain ?_ same.respPc ?_
    · rw [same.issued]
      exact fun _ => id
    · rw [same.taken]
      exact fun _ => id
    · rw [same.sockets]
      exact fun _ => rfl
    · rw [same.fdTable]
      exact fun _ _ => rfl
  have unchanged : ∀ fd, s.respPc.dup = some fd → s.fdTable fd = s.fdTable fd := fun _ _ => rfl
  cases action <;> first | exact absurd rfl inward | simp only [listenStep, onlyIf_eq_some] at run
  case accept newSd ready =>
    obtain ⟨⟨_, fresh, _⟩, rfl⟩ := run
    refine routing.elsewhere (fun _ => id) (fun _ => id) rfl rfl (fun _ => rfl) rfl ?_
    intro fd own
    exact update_of_ne (table.dup_ne_fresh fresh.1 fd own) _ _
  case closeSocket fd ready =>
    obtain ⟨here, rfl⟩ := run
    refine routing.elsewhere (fun _ => id) (fun _ => id) rfl rfl (fun _ => rfl) rfl ?_
    intro other own
    exact update_of_ne (table.dup_ne_handled (by rw [here]; rfl) other own) _ _
  case register newSd ready conn port ip put =>
    obtain ⟨_, rfl⟩ := run
    exact routing.elsewhere (fun _ known => List.mem_append_left _ known) (fun _ => id) rfl rfl
      (fun _ => rfl) rfl unchanged
  case takeRequest fd paused caller request =>
    obtain ⟨_, rfl⟩ := run
    exact routing.elsewhere (fun _ => id) (fun _ known => List.mem_append_left _ known) rfl rfl
      (fun _ => rfl) rfl unchanged
  case sendProtocolError fd ready conn count =>
    obtain ⟨_, rfl⟩ := run
    split_ifs
    · exact protocolError_routing routing conn count _
    · exact routing.elsewhere (fun _ => id) (fun _ => id) rfl rfl (fun _ => rfl) rfl unchanged
  case deregister fd ready =>
    obtain ⟨_, rfl⟩ := run
    cases s.getClientInfo fd <;>
      exact routing.elsewhere (fun _ => id) (fun _ => id) rfl rfl (fun _ => rfl) rfl unchanged

/-- `dup_if_same_client` only succeeds while the descriptor still belongs to the
record of the response, and then it duplicates the connection of that record. -/
theorem dup_routing {s : Server} (routing : s.Routing) (identity : s.Identity) {resp : Response}
    (handled : resp ∈ s.scheduled)
    (same : resp.cltid < 0 ∨ (s.getClientInfo resp.sockDescriptor).map ClientInfo.ident = some resp.cltid)
    {conn : Nat} (denotes : s.fdTable resp.sockDescriptor = some conn) (fd : Nat) :
    Routing { s with fdTable := update s.fdTable fd (some conn), respPc := .sending resp fd 0 } where
  scheduled := routing.scheduled
  waiting := routing.waiting
  handled other here := by
    cases here
    exact handled
  dup other dup here := by
    cases here
    obtain ⟨info, known, named, _⟩ := routing.record identity handled
    have positive := (identity.range.2 info known).1
    have found := same.resolve_left (by omega)
    obtain ⟨record, lookup, ident⟩ := Option.map_eq_some_iff.mp found
    obtain ⟨member, socket⟩ := getClientInfo_some lookup
    have current := identity.current record member
    rw [socket, denotes] at current
    refine ⟨record, identity.issued record member, ident, ?_⟩
    dsimp only
    rw [update_self, current]
  sent := routing.sent

/-- What is sent through the dup goes to the connection of the request. -/
theorem send_routing {s : Server} (routing : s.Routing) (identity : s.Identity) {resp : Response}
    {dup sent conn count : Nat} (here : s.respPc = .sending resp dup sent) (denotes : s.fdTable dup = some conn) :
    Routing { s.transmit conn { source := some resp, offset := sent,
                                bytes := (resp.data.drop sent).take count } with
              respPc := .sending resp dup (sent + count) } := by
  have handled : resp ∈ s.scheduled := routing.handled resp (by rw [here]; rfl)
  have transfer := routing.dup resp dup (by rw [here]; rfl)
  refine ⟨routing.scheduled, routing.waiting, ?_, ?_, ?_⟩
  · intro other same
    cases same
    exact handled
  · intro other fd same
    cases same
    exact transfer
  · intro other piece member answered belongs
    by_cases same : other = conn
    · subst same
      simp only [transmit, update_self] at member
      rcases List.mem_append.mp member with old | new
      · exact routing.sent other piece old answered belongs
      · rw [List.mem_singleton.mp new] at belongs
        cases belongs
        obtain ⟨info, known, named, only⟩ := routing.record identity handled
        obtain ⟨owner, alsoKnown, alsoNamed, target⟩ := transfer
        have equal := identity.unique info known owner alsoKnown (named.trans alsoNamed.symm)
        rw [denotes, ← equal] at target
        exact ⟨handled, Option.some.inj target ▸ only⟩
    · simp only [transmit, update_of_ne same] at member
      exact routing.sent other piece member answered belongs

/-- The response thread moves on with the response it has, or without one. -/
theorem Routing.proceed {s t : Server} (routing : s.Routing) (issued : t.issued = s.issued)
    (taken : t.taken = s.taken) (scheduled : t.scheduled = s.scheduled)
    (waiting : t.responseChain = s.responseChain) (sockets : ∀ conn, (t.sockets conn).sent = (s.sockets conn).sent)
    (fdTable : t.fdTable = s.fdTable)
    (response : ∀ resp, t.respPc.response = some resp → s.respPc.response = some resp)
    (transfer : ∀ resp fd, t.respPc.transfer = some (resp, fd) → s.respPc.transfer = some (resp, fd)) :
    t.Routing := by
  apply routing.frame
  · rw [issued]
    exact fun _ => id
  · rw [taken]
    exact fun _ => id
  · exact scheduled
  · exact waiting
  · exact sockets
  · exact response
  · intro resp fd here
    exact ⟨transfer resp fd here, by rw [fdTable]⟩

theorem responseStep_routing {s t : Server} (routing : s.Routing) (identity : s.Identity)
    {action : ResponseAction} (run : s.responseStep ds action = some t) : t.Routing := by
  cases action <;> simp only [responseStep, onlyIf_eq_some] at run
  case chainGet resp =>
    obtain ⟨⟨_, first⟩, rfl⟩ := run
    refine ⟨routing.scheduled, ?_, ?_, (by simp [ResponsePc.transfer]), routing.sent⟩
    · intro other member
      exact routing.waiting other (List.mem_of_mem_tail member)
    · intro other same
      cases same
      exact routing.waiting resp (List.mem_of_mem_head? first)
  case dup resp newFd =>
    obtain ⟨⟨here, _⟩, rfl⟩ := run
    have handled : resp ∈ s.scheduled := routing.handled resp (by rw [here]; rfl)
    have finish : Routing { s with respPc := .finishing resp } :=
      routing.proceed rfl rfl rfl rfl (fun _ => rfl) rfl (by rw [here]; exact fun _ => id)
        (by simp [ResponsePc.transfer])
    split_ifs with same
    · cases newFd with
      | none => exact finish
      | some fd =>
        cases denotes : s.fdTable resp.sockDescriptor with
        | none => exact finish
        | some conn => exact dup_routing routing identity handled same denotes fd
    · exact finish
  case send resp dup sent conn count =>
    obtain ⟨⟨here, denotes, _⟩, rfl⟩ := run
    exact send_routing routing identity here denotes
  case shutdown resp dup sent wake conn =>
    obtain ⟨⟨here, _⟩, rfl⟩ := run
    refine routing.proceed rfl rfl rfl rfl ?_ rfl ?_ ?_
    · intro other
      by_cases same : other = conn
      · rw [same]
        simp
      · simp [same]
    · rw [here]
      cases wake <;> exact fun _ => id
    · rw [here]
      cases wake <;> exact fun _ _ => id
  case closeDup resp dup =>
    obtain ⟨here, rfl⟩ := run
    exact routing.frame (fun _ => id) (fun _ => id) rfl rfl (fun _ => rfl) (by rw [here]; exact fun _ => id)
      (by simp [ResponsePc.transfer])
  case checkDead resp alive =>
    obtain ⟨here, rfl⟩ := run
    refine routing.proceed rfl rfl rfl rfl (fun _ => rfl) rfl ?_ ?_ <;> dsimp only <;> rw [here] <;>
      split_ifs <;> first | exact fun _ => id | simp [ResponsePc.transfer]
  case sendWaited resp dup waitedMs now =>
    obtain ⟨here, rfl⟩ := run
    refine routing.proceed rfl rfl rfl rfl (fun _ => rfl) rfl ?_ ?_ <;> dsimp only <;> rw [here] <;>
      split_ifs <;> first | exact fun _ => id | exact fun _ _ => id
  case responseDone resp =>
    obtain ⟨_, rfl⟩ := run
    refine routing.proceed rfl rfl rfl rfl (fun _ => rfl) rfl ?_ ?_
    · intro other impossible
      dsimp only at impossible
      split_ifs at impossible <;> cases impossible
    · intro other fd impossible
      dsimp only at impossible
      split_ifs at impossible <;> cases impossible
  case drop resp dup sent =>
    obtain ⟨here, rfl⟩ := run
    exact routing.proceed rfl rfl rfl rfl (fun _ => rfl) rfl (by rw [here]; exact fun _ => id)
      (by rw [here]; exact fun _ _ => id)
  case sendFails | dropWake =>
    obtain ⟨⟨here, _⟩, rfl⟩ := run
    exact routing.proceed rfl rfl rfl rfl (fun _ => rfl) rfl (by rw [here]; exact fun _ => id)
      (by rw [here]; exact fun _ _ => id)
  case doneWake written =>
    obtain ⟨_, rfl⟩ := run
    exact routing.proceed rfl rfl rfl rfl (fun _ => rfl) rfl (by simp [ResponsePc.response])
      (by simp [ResponsePc.transfer])

theorem outsideStep_routing {s t : Server} (routing : s.Routing) {action : OutsideAction}
    (run : s.outsideStep action = some t) : t.Routing := by
  cases action <;> simp only [outsideStep, onlyIf_eq_some, Option.some.injEq] at run
  case schedule request text put =>
    obtain ⟨taken, rfl⟩ := run
    cases put with
    | false => exact routing
    | true =>
      refine ⟨?_, ?_, ?_, routing.dup, ?_⟩
      · intro resp member
        rcases List.mem_append.mp member with old | new
        · exact routing.scheduled resp old
        · rw [List.mem_singleton.mp new]
          exact ⟨taken, rfl⟩
      · intro resp member
        rcases List.mem_append.mp member with old | new
        · exact List.mem_append_left _ (routing.waiting resp old)
        · exact List.mem_append_right _ new
      · intro resp here
        exact List.mem_append_left _ (routing.handled resp here)
      · intro conn piece member resp belongs
        obtain ⟨old, only⟩ := routing.sent conn piece member resp belongs
        exact ⟨List.mem_append_left _ old, only⟩
  case requestStop =>
    subst run
    exact routing.elsewhere (fun _ => id) (fun _ => id) rfl rfl (fun _ => rfl) rfl fun _ _ => rfl
  case stopWake written =>
    obtain ⟨_, rfl⟩ := run
    exact routing.elsewhere (fun _ => id) (fun _ => id) rfl rfl (fun _ => rfl) rfl fun _ _ => rfl

theorem step_routing {s t : Server} (routing : s.Routing) (table : s.Table ds) (identity : s.Identity)
    {action : ServerAction} (run : s.step ds action = some t) : t.Routing := by
  cases action with
  | listen action => exact listenStep_routing routing table run
  | respond action => exact responseStep_routing routing identity run
  | outside action => exact outsideStep_routing routing run

theorem reach_routing {allow : Server → ServerAction → Prop} {clientIdent : Nat} {s : Server}
    (reach : Reach (step ds) allow (start ds clientIdent) s) : s.Routing :=
  reach.invariant_with (fun _ reach => And.intro (reach_table reach) (reach_identity reach))
    (routing_start clientIdent)
    fun _ _ _ known routing _ run => step_routing routing known.1 known.2 run

/-- Bytes of a response are only ever sent on the connection that its request
came in on, whatever the descriptor number means by then. -/
theorem response_routing {allow : Server → ServerAction → Prop} {clientIdent : Nat} {s : Server}
    (reach : Reach (step ds) allow (start ds clientIdent) s) {conn : Nat} {piece : Piece} {resp : Response}
    (sent : piece ∈ (s.sockets conn).sent) (belongs : piece.source = some resp) :
    resp ∈ s.scheduled ∧ resp.request ∈ s.taken ∧ resp.request.arrivedOn ≠ [] ∧
      ∀ other ∈ resp.request.arrivedOn, other = conn := by
  have routing := reach_routing reach
  obtain ⟨scheduled, nonempty, only⟩ := routing.sent conn piece sent resp belongs
  exact ⟨scheduled, (routing.scheduled resp scheduled).1, nonempty, only⟩

theorem response_routing_answer :
    ∃ s : Server, { source := some sampleResponse, offset := 0, bytes := [0x7b, 0x7d] } ∈ (s.sockets 0).sent ∧
      sampleResponse ∈ s.scheduled ∧ sampleRequest ∈ s.taken ∧ sampleRequest.arrivedOn ≠ [] ∧
      ∀ other ∈ sampleRequest.arrivedOn, other = 0 := by
  obtain ⟨s, reach, sent⟩ := exists_reach (step sampleDescriptors) AllocationSucceeds
    (start sampleDescriptors 0) (greeting ++ asking ++ answering ++ [.respond (.send sampleResponse 8 0 0 2)])
    (fun s => { source := some sampleResponse, offset := 0, bytes := [0x7b, 0x7d] } ∈ (s.sockets 0).sent)
    (by decide)
  exact ⟨s, sent, response_routing reach sent rfl⟩

end Server
end JsonRpcTcp
