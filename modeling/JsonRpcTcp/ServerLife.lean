import JsonRpcTcp.ServerAccounting
import JsonRpcTcp.ServerPending
import JsonRpcTcp.ServerStop

namespace JsonRpcTcp
open Function

/-! The server over any number of runs. An RPC thread can answer a request of an earlier run
at any time; its response then waits in `response_chain`, which `start_listening` does not clear,
and carries a descriptor number that the kernel may have given to a new connection. -/

structure ServerLife where
  ds : Descriptors
  server : Server
  connected : Bool
  /-- The requests of the earlier runs that the RPC threads took. -/
  earlier : List Request
  -- not in the source: the values of the two `ident_generator` when this run began
  clientIdent : Nat
  requestIdent : Int

inductive LifeAction where
  | serve (action : ServerAction)
  | answerEarlier (request : Request) (text : List Byte) (put : Bool)
  | stopListening
  | startListening (ds : Descriptors)

namespace Server

/-- What `start_listening` finds of the run before: the two `ident_generator`, and responses that
were scheduled after `stop_listening`. -/
def restart (old : Server) (ds : Descriptors) : Server :=
  { start ds old.clientIdent.toNat with requestIdent := old.requestIdent, responseChain := old.responseChain }

/-- The state with which a run begins that sees nothing of the runs before but the idents. -/
def startAt (ds : Descriptors) (clientIdent : Nat) (requestIdent : Int) : Server :=
  { start ds clientIdent with requestIdent := requestIdent }

end Server

namespace ServerLife

/-- Before the first `start_listening`. -/
def start (ds : Descriptors) : ServerLife where
  ds := ds
  server := Server.start ds 0
  connected := false
  earlier := []
  clientIdent := 0
  requestIdent := 0

def step (s : ServerLife) : LifeAction → Option ServerLife
  | .serve action => if s.connected then (s.server.step s.ds action).map fun server => { s with server := server } else none
  | .answerEarlier request text put =>
    onlyIf (request ∈ s.earlier)
      (let resp : Response := { sockDescriptor := request.sockDescriptor, cltid := request.cltid,
                                data := text, request := request }
       if put then { s with server := { s.server with responseChain := s.server.responseChain ++ [resp] } } else s)
  | .stopListening =>
    onlyIf (s.connected = true ∧ s.server.pc = .exited ∧ s.server.respPc = .idle)
      { s with server := (s.server.stopListening s.ds).server, connected := false
               earlier := s.earlier ++ s.server.taken }
  | .startListening ds =>
    onlyIf (s.connected = false)
      { s with ds := ds, server := s.server.restart ds, connected := true
               clientIdent := s.server.clientIdent.toNat, requestIdent := s.server.requestIdent }

end ServerLife

namespace ResponsePc

/-- The response thread, as a run sees it that knows of no connection id up to `base`. -/
def ofRun (base : Int) (pc : ResponsePc) : ResponsePc :=
  if pc.response.any (fun resp => decide (resp.cltid ≤ base)) then .idle else pc

theorem ofRun_of_later {base : Int} {pc : ResponsePc} (later : ∀ resp, pc.response = some resp → base < resp.cltid) :
    pc.ofRun base = pc := by
  refine if_neg fun early => ?_
  obtain ⟨resp, there, small⟩ := (Option.any_eq_true _ _).mp early
  have large := later resp there
  have bound := of_decide_eq_true small
  omega

theorem ofRun_of_earlier {base : Int} {pc : ResponsePc} {resp : Response} (here : pc.response = some resp)
    (early : resp.cltid ≤ base) : pc.ofRun base = .idle :=
  if_pos ((Option.any_eq_true _ _).mpr ⟨resp, here, decide_eq_true early⟩)

end ResponsePc

namespace Server
variable {ds : Descriptors}

/-- A server without the responses whose connection id was given out before this run. -/
abbrev ofRun (base : Int) (s : Server) : Server :=
  { s with
    responseChain := s.responseChain.filter fun resp => base < resp.cltid
    respPc := s.respPc.ofRun base
    finished := s.finished.filter (base < ·)
    answered := s.answered.filter fun resp => base < resp.cltid }

theorem checkConnection_ofRun (base : Int) (s : Server) (fd : Nat) (caller : QueueCaller) :
    (s.ofRun base).checkConnection fd caller = (s.checkConnection fd caller).ofRun base := by
  simp only [checkConnection, ofRun, getClientInfo, connectionDead]
  cases s.framers fd with
  | none => rfl
  | some entry =>
    simp only
    split_ifs
    · rfl
    · cases s.clientInfoChain.find? fun info => info.sockDescriptor == fd with
      | none => rfl
      | some info =>
        simp only
        split_ifs <;> rfl

theorem admission_ofRun (base : Int) (s : Server) (fd : Nat) (info : ClientInfo) (queued : Nat) (caller : QueueCaller) :
    (s.ofRun base).admission fd info queued caller = (s.admission fd info queued caller).ofRun base := by
  simp only [admission, ofRun]
  cases s.framers fd with
  | none => rfl
  | some entry =>
    by_cases empty : entry.framer.available = 0
    · simp only [if_pos empty]
    by_cases negative : info.ident < 0
    · simp only [if_neg empty, if_pos negative]
    by_cases full : (admissionSection s.pending info.ident).2 = true
    · simp only [if_neg empty, if_neg negative, if_pos full]
    · simp only [if_neg empty, if_neg negative, if_neg full]

theorem queueRequest_ofRun (base : Int) (s : Server) (fd : Nat) (info : ClientInfo) (queued : Nat) (caller : QueueCaller)
    (put : Bool) : (s.ofRun base).queueRequest fd info queued caller put =
      (s.queueRequest fd info queued caller put).ofRun base := by
  simp only [queueRequest, poppedRequest, ofRun]
  cases s.framers fd with
  | none => rfl
  | some entry => cases put <;> rfl

theorem queueReturn_ofRun (base : Int) (s : Server) (fd : Nat) (paused : Bool) (caller : QueueCaller) :
    (s.ofRun base).queueReturn fd paused caller = (s.queueReturn fd paused caller).ofRun base := by
  cases caller with
  | receive frc ready =>
    simp only [queueReturn, ofRun]
    split_ifs <;> rfl
  | resume cursor => cases paused <;> rfl

theorem resumeNext_ofRun (base : Int) (s : Server) (fd : Nat) :
    (s.ofRun base).resumeNext fd = (s.resumeNext fd).ofRun base := by
  unfold resumeNext
  symm
  exact apply_ite (ofRun base) _ _ _

theorem recv_ofRun (base : Int) (s : Server) (fd : Nat) (ready : List Nat) (conn : Nat) (bytes : List Byte) :
    (s.ofRun base).recv fd ready conn bytes = (s.recv fd ready conn bytes).ofRun base := by
  simp only [recv, ofRun]
  cases s.framers fd <;> rfl

/-- The listen thread does not see the other responses. -/
theorem listenStep_ofRun {base : Int} {s t : Server} {action : ListenAction}
    (later : ∀ fd info, s.pc.client = some (fd, info) → base < info.ident) (run : s.listenStep ds action = some t) :
    (s.ofRun base).listenStep ds action = some (t.ofRun base) := by
  cases action <;> simp only [listenStep, onlyIf_eq_some] at run ⊢ <;> obtain ⟨here, rfl⟩ := run
  case checkConnection => exact ⟨here, checkConnection_ofRun _ _ _ _⟩
  case admission => exact ⟨here, admission_ofRun _ _ _ _ _ _⟩
  case queueRequest => exact ⟨here, queueRequest_ofRun _ _ _ _ _ _ _⟩
  case queueReturn => exact ⟨here, queueReturn_ofRun _ _ _ _ _⟩
  case resumeNext => exact ⟨here, resumeNext_ofRun _ _ _⟩
  case recv => exact ⟨here, recv_ofRun _ _ _ _ _ _⟩
  case release fd info queued caller =>
    have known : base < info.ident := later fd info (by rw [here]; rfl)
    refine ⟨here, ?_⟩
    simp [ofRun, known]
  case sendProtocolError fd ready conn count =>
    refine ⟨here, ?_⟩
    simp only [ofRun, transmit]
    split_ifs <;> rfl
  case deregister fd ready =>
    refine ⟨here, ?_⟩
    simp only [getClientInfo, ofRun]
    cases s.clientInfoChain.find? fun info => info.sockDescriptor == fd <;> rfl
  all_goals exact ⟨here, rfl⟩

theorem ofRun_eq {base : Int} {s : Server} (later : ∀ resp, s.respPc.response = some resp → base < resp.cltid) :
    s.ofRun base = { s with
      responseChain := s.responseChain.filter fun resp => base < resp.cltid
      finished := s.finished.filter (base < ·)
      answered := s.answered.filter fun resp => base < resp.cltid } := by
  rw [ofRun, ResponsePc.ofRun_of_later later]

/-- The response thread only turns to another response when it takes one. -/
theorem responseStep_later {base : Int} {s t : Server} {action : ResponseAction}
    (later : ∀ resp, s.respPc.response = some resp → base < resp.cltid)
    (taken : ∀ resp, action = .chainGet resp → base < resp.cltid) (run : s.responseStep ds action = some t) :
    ∀ resp, t.respPc.response = some resp → base < resp.cltid := by
  have flow := responseStep_flow run
  by_cases stays : action.moves = false
  · rw [flow.response stays]
    exact later
  · generalize t.respPc = next at flow
    generalize s.respPc = pc at flow
    intro resp there
    cases flow
    case chainGet other =>
      cases Option.some.inj there
      exact taken resp rfl
    case doneWakes => cases there
    case done => cases there
    all_goals exact absurd rfl stays

/-- While it works on a response of this run, the response thread does what it would do without the
others. -/
theorem responseStep_ofRun {base : Int} {s t : Server} {action : ResponseAction}
    (later : ∀ resp, s.respPc.response = some resp → base < resp.cltid)
    (taken : ∀ resp, action = .chainGet resp → base < resp.cltid) (run : s.responseStep ds action = some t) :
    (s.ofRun base).responseStep ds action = some (t.ofRun base) := by
  rw [ofRun_eq later, ofRun_eq (responseStep_later later taken run)]
  cases action <;> simp only [responseStep, onlyIf_eq_some] at run ⊢
  case chainGet resp =>
    obtain ⟨⟨here, first⟩, rfl⟩ := run
    have known : base < resp.cltid := taken resp rfl
    obtain ⟨rest, chain⟩ : ∃ rest, s.responseChain = resp :: rest := List.head?_eq_some_iff.mp first
    exact ⟨⟨here, by simp [chain, known]⟩, by simp [chain, known]⟩
  case dup resp newFd =>
    obtain ⟨known, rfl⟩ := run
    refine ⟨known, ?_⟩
    by_cases valid : resp.cltid < 0 ∨ (s.getClientInfo resp.sockDescriptor).map ClientInfo.ident = some resp.cltid
    · rw [if_pos valid]
      refine (if_pos valid).trans ?_
      cases newFd <;> cases s.fdTable resp.sockDescriptor <;> rfl
    · rw [if_neg valid]
      exact if_neg valid
  case responseDone resp =>
    obtain ⟨here, rfl⟩ := run
    have known : base < resp.cltid := later resp (by rw [here]; rfl)
    exact ⟨here, by simp [known]⟩
  all_goals
    obtain ⟨known, rfl⟩ := run
    exact ⟨known, rfl⟩

/-- The points at which the response thread can be with a response of an earlier run: it never gets
as far as a dup of the socket. -/
def Refused (s : Server) (resp : Response) : Prop :=
  s.respPc = .checking resp ∨ s.respPc = .dupping resp ∨ s.respPc = .finishing resp

theorem Refused.ofRun {base : Int} {s : Server} {resp : Response} (refused : s.Refused resp) (early : resp.cltid ≤ base) :
    s.respPc.ofRun base = .idle := by
  rcases refused with here | here | here <;> rw [here] <;> exact ResponsePc.ofRun_of_earlier rfl early

theorem chainGet_earlier {base : Int} {s t : Server} {resp : Response} (early : resp.cltid ≤ base)
    (run : s.responseStep ds (.chainGet resp) = some t) :
    t.ofRun base = s.ofRun base ∧ t.respPc = .checking resp := by
  simp only [responseStep, onlyIf_eq_some] at run
  obtain ⟨⟨here, first⟩, rfl⟩ := run
  obtain ⟨rest, chain⟩ : ∃ rest, s.responseChain = resp :: rest := List.head?_eq_some_iff.mp first
  refine ⟨?_, rfl⟩
  simp [ofRun, chain, here, early, ResponsePc.ofRun, ResponsePc.response]

/-- A response of an earlier run finds no record with its connection id, so it is given up and
nothing changes for this run. -/
theorem responseStep_earlier {base : Int} {s t : Server} {action : ResponseAction} {resp : Response}
    (refused : s.Refused resp) (early : resp.cltid ≤ base) (valid : 0 ≤ resp.cltid)
    (records : ∀ info ∈ s.clientInfoChain, base < info.ident) (forgotten : s.pending resp.cltid = none)
    (run : s.responseStep ds action = some t) :
    t.ofRun base = s.ofRun base ∧ t.responseChain = s.responseChain ∧ (t.respPc = .idle ∨ t.Refused resp) := by
  have before := refused.ofRun early
  have still : ∀ {pc : ResponsePc}, pc.response = some resp →
      ofRun base { s with respPc := pc } = s.ofRun base := fun known => by
    rw [ofRun, ofRun, before, ResponsePc.ofRun_of_earlier known early]
  rcases refused with here | here | here <;> cases action <;>
    simp only [responseStep, onlyIf_eq_some, here, reduceCtorEq, false_and] at run
  case checkDead other alive =>
    obtain ⟨same, rfl⟩ := run
    cases same
    have notNegative : ¬ resp.cltid < 0 := not_lt.mpr valid
    simp only [if_neg notNegative]
    split_ifs
    · exact ⟨still rfl, trivial, .inr (.inr (.inr rfl))⟩
    · exact ⟨still rfl, trivial, .inr (.inr (.inl rfl))⟩
  case dup other newFd =>
    obtain ⟨⟨same, _⟩, rfl⟩ := run
    cases same
    have unknown : ¬ (resp.cltid < 0 ∨ (s.getClientInfo resp.sockDescriptor).map ClientInfo.ident = some resp.cltid) := by
      rintro (negative | known)
      · omega
      · obtain ⟨info, found, ident⟩ := Option.map_eq_some_iff.mp known
        have large := records info (getClientInfo_some found).1
        omega
    rw [if_neg unknown]
    exact ⟨still rfl, rfl, .inr (.inr (.inr rfl))⟩
  case responseDone other =>
    obtain ⟨same, rfl⟩ := run
    cases same
    have notNegative : ¬ resp.cltid < 0 := not_lt.mpr valid
    have nothing : responseDoneSection s.pending resp.cltid = (s.pending, false) := by
      rw [responseDoneSection, if_neg notNegative, forgotten]
    refine ⟨?_, rfl, .inl ?_⟩
    · simp only [nothing, ofRun, before, List.filter_append]
      simp [early, ResponsePc.ofRun, ResponsePc.response]
    · simp only [nothing]
      rfl

/-- What a run knows of its connection ids: all are larger than those of the runs before. -/
structure Later (base : Int) (s : Server) : Prop where
  ident : base ≤ s.clientIdent
  issued : ∀ info ∈ s.issued, base < info.ident
  pending : ∀ id ≤ base, s.pending id = none

theorem startAt_later (clientIdent : Nat) (requestIdent : Int) :
    (startAt ds clientIdent requestIdent).Later clientIdent where
  ident := le_refl _
  issued := fun _ member => absurd member List.not_mem_nil
  pending := fun _ _ => rfl

theorem startAt_table (clientIdent : Nat) (requestIdent : Int) : (startAt ds clientIdent requestIdent).Table ds where
  containers := { (table_start clientIdent).containers with }
  located := { (table_start clientIdent).located with }
  private_dup := (@table_start ds clientIdent).private_dup

theorem startAt_identity (clientIdent : Nat) (requestIdent : Int) : (startAt ds clientIdent requestIdent).Identity :=
  { @identity_start ds clientIdent with }

theorem startAt_routing (clientIdent : Nat) (requestIdent : Int) : (startAt ds clientIdent requestIdent).Routing :=
  { @routing_start ds clientIdent with }

/-- A step that gives out no id and adds no entry. -/
theorem Later.keep {base : Int} {s t : Server} (later : s.Later base) (ident : t.clientIdent = s.clientIdent)
    (issued : t.issued = s.issued) (keys : ∀ id, (t.pending id).isSome = true → (s.pending id).isSome = true) :
    t.Later base where
  ident := ident ▸ later.ident
  issued := issued ▸ later.issued
  pending id small := Option.not_isSome_iff_eq_none.mp fun some => by
    have before := keys id some
    rw [later.pending id small] at before
    cases before

theorem listenStep_later {base : Int} {s t : Server} {action : ListenAction} (later : s.Later base)
    (identity : s.Identity) (run : s.listenStep ds action = some t) : t.Later base := by
  have frame := listenStep_frame run
  have held : ∀ fd info, s.pc.client = some (fd, info) → base < info.ident := fun fd info here =>
    later.issued info (identity.issued info (identity.held fd info here).1)
  cases action
  case register newSd ready conn port ip put =>
    simp only [listenStep, onlyIf_eq_some] at run
    obtain ⟨_, rfl⟩ := run
    have bound := later.ident
    refine ⟨by simp only [register]; omega, fun info member => ?_, later.pending⟩
    rcases List.mem_append.mp member with old | new
    · exact later.issued info old
    · rw [List.mem_singleton.mp new]
      exact Int.lt_add_one_of_le bound
  case admission fd info queued caller =>
    have same := frame.outside rfl
    simp only [listenStep, onlyIf_eq_some] at run
    obtain ⟨here, rfl⟩ := run
    have large := held fd info (by rw [here]; rfl)
    refine ⟨same.clientIdent ▸ later.ident, same.issued ▸ later.issued, fun id small => ?_⟩
    have differ : id ≠ info.ident := by omega
    rcases s.admission_cases fd info queued caller with
      ⟨_, result⟩ | ⟨_, _, _, result⟩ | ⟨_, _, _, _, result⟩ | ⟨_, _, _, _, result⟩ <;> rw [result]
    · exact later.pending id small
    · exact later.pending id small
    · exact (update_of_ne differ _ _).trans (later.pending id small)
    · exact (update_of_ne differ _ _).trans (later.pending id small)
  case release fd info queued caller =>
    have same := frame.outside rfl
    simp only [listenStep, onlyIf_eq_some] at run
    obtain ⟨here, rfl⟩ := run
    refine later.keep rfl rfl fun id some => ?_
    rw [← responseDoneSection_keys s.pending info.ident id]
    exact some
  case erasePending fd ready =>
    have same := frame.outside rfl
    simp only [listenStep, onlyIf_eq_some] at run
    obtain ⟨here, rfl⟩ := run
    refine later.keep rfl rfl fun id some => ?_
    simp only [closeSection] at some
    cases found : s.getClientInfo fd with
    | none => rwa [found] at some
    | some info =>
      rw [found] at some
      by_cases gone : id = info.ident
      · subst gone
        simp at some
      · simpa only [update_of_ne gone] using some
  case accept | takeRequest | closeSocket =>
    have pending := frame.pending rfl
    simp only [listenStep, onlyIf_eq_some] at run
    obtain ⟨_, rfl⟩ := run
    exact later.keep rfl rfl fun _ some => some
  case sendProtocolError =>
    simp only [listenStep, onlyIf_eq_some] at run
    obtain ⟨_, rfl⟩ := run
    split_ifs <;> exact later.keep rfl rfl fun _ some => some
  case deregister =>
    simp only [listenStep, onlyIf_eq_some] at run
    obtain ⟨_, rfl⟩ := run
    split <;> exact later.keep rfl rfl fun _ some => some
  all_goals
    have same := frame.outside rfl
    exact later.keep same.clientIdent same.issued fun id some => by rwa [frame.pending rfl] at some

theorem responseStep_later_ids {base : Int} {s t : Server} {action : ResponseAction} (later : s.Later base)
    (identity : s.Identity) (routing : s.Routing) (run : s.responseStep ds action = some t) : t.Later base := by
  have frame := responseStep_frame run
  cases action
  case drop resp dup sent =>
    simp only [responseStep, onlyIf_eq_some] at run
    obtain ⟨here, rfl⟩ := run
    obtain ⟨info, known, named, _⟩ := routing.record identity (routing.handled resp (by rw [here]; rfl))
    have large := later.issued info known
    have positive := (identity.range.2 info known).1
    refine ⟨later.ident, later.issued, fun id small => Option.not_isSome_iff_eq_none.mp fun some => ?_⟩
    rw [dropSection_keys s.pending (by omega), later.pending id small] at some
    have same : id = resp.cltid := by simpa using some
    omega
  case sendWaited resp dup waitedMs now =>
    simp only [responseStep, onlyIf_eq_some] at run
    obtain ⟨_, rfl⟩ := run
    refine later.keep rfl rfl fun id some => ?_
    rwa [overSendWaitBudget_keys] at some
  case responseDone resp =>
    simp only [responseStep, onlyIf_eq_some] at run
    obtain ⟨_, rfl⟩ := run
    refine later.keep rfl rfl fun id some => ?_
    rwa [responseDoneSection_keys] at some
  all_goals
    exact later.keep frame.listen.clientIdent frame.listen.issued fun id some => by rwa [frame.pending rfl] at some

theorem step_later {base : Int} {s t : Server} {action : ServerAction} (later : s.Later base)
    (identity : s.Identity) (routing : s.Routing) (run : s.step ds action = some t) : t.Later base := by
  cases action with
  | listen action => exact listenStep_later later identity run
  | respond action => exact responseStep_later_ids later identity routing run
  | outside action =>
    cases action <;> simp only [step, outsideStep, onlyIf_eq_some, Option.some.injEq] at run
    case schedule request text put =>
      obtain ⟨_, rfl⟩ := run
      cases put <;> exact later.keep rfl rfl fun _ some => some
    case requestStop =>
      subst run
      exact later.keep rfl rfl fun _ some => some
    case stopWake =>
      obtain ⟨_, rfl⟩ := run
      exact later.keep rfl rfl fun _ some => some

/-- What is known of every state of a run that begins like this. -/
structure Known (ds : Descriptors) (base : Int) (s : Server) : Prop where
  table : s.Table ds
  identity : s.Identity
  routing : s.Routing
  later : s.Later base

theorem reach_known {allow : Server → ServerAction → Prop} {clientIdent : Nat} {requestIdent : Int} {s : Server}
    (reach : Reach (step ds) allow (startAt ds clientIdent requestIdent) s) : s.Known ds clientIdent :=
  reach.invariant
    { table := startAt_table clientIdent requestIdent, identity := startAt_identity clientIdent requestIdent
      routing := startAt_routing clientIdent requestIdent, later := startAt_later clientIdent requestIdent }
    fun _ _ _ known _ run =>
      { table := step_table known.table run, identity := step_identity known.identity known.table run
        routing := step_routing known.routing known.table known.identity run
        later := step_later known.later known.identity known.routing run }

end Server

namespace ServerLife

/-- The responses of earlier runs have no part in this one. -/
structure Undisturbed (s : ServerLife) : Prop where
  run : s.connected = true → Reach (Server.step s.ds) (fun _ _ => True)
    (Server.startAt s.ds s.clientIdent s.requestIdent) (s.server.ofRun s.clientIdent)
  positive : 0 ≤ s.server.clientIdent
  earlier : ∀ request ∈ s.earlier, 0 ≤ request.cltid ∧
    request.cltid ≤ if s.connected then (s.clientIdent : Int) else s.server.clientIdent
  waiting : ∀ resp ∈ s.server.responseChain, 0 ≤ resp.cltid ∧
    (s.connected = false → resp.cltid ≤ s.server.clientIdent)
  handled : s.connected = true → ∀ resp, s.server.respPc.response = some resp →
    0 ≤ resp.cltid ∧ (resp.cltid ≤ s.clientIdent → s.server.Refused resp)

theorem undisturbed_start (ds : Descriptors) : (start ds).Undisturbed where
  run := fun connected => by cases connected
  positive := le_refl 0
  earlier := fun _ member => absurd member List.not_mem_nil
  waiting := fun _ member => absurd member List.not_mem_nil
  handled := fun connected => by cases connected

variable {s t : ServerLife}

/-- A step that this run takes too. -/
theorem Undisturbed.follow (undisturbed : s.Undisturbed) {server : Server} {action : ServerAction}
    (connected : s.connected = true)
    (view : (s.server.ofRun s.clientIdent).step s.ds action = some (server.ofRun s.clientIdent))
    (positive : 0 ≤ server.clientIdent) (waiting : ∀ resp ∈ server.responseChain, 0 ≤ resp.cltid)
    (handled : ∀ resp, server.respPc.response = some resp →
      0 ≤ resp.cltid ∧ (resp.cltid ≤ s.clientIdent → server.Refused resp)) :
    Undisturbed { s with server := server } where
  run _ := .next (undisturbed.run connected) trivial view
  positive := positive
  earlier request member := by
    have bounds := undisturbed.earlier request member
    rw [if_pos connected] at bounds
    exact ⟨bounds.1, bounds.2.trans_eq (if_pos connected).symm⟩
  waiting resp member := ⟨waiting resp member, fun stopped => by rw [connected] at stopped; cases stopped⟩
  handled _ := handled

/-- A step that only a response of an earlier run takes. -/
theorem Undisturbed.ignore (undisturbed : s.Undisturbed) {server : Server} (connected : s.connected = true)
    (view : server.ofRun s.clientIdent = s.server.ofRun s.clientIdent)
    (waiting : ∀ resp ∈ server.responseChain, 0 ≤ resp.cltid)
    (handled : ∀ resp, server.respPc.response = some resp →
      0 ≤ resp.cltid ∧ (resp.cltid ≤ s.clientIdent → server.Refused resp)) :
    Undisturbed { s with server := server } where
  run _ := by
    simp only [view]
    exact undisturbed.run connected
  positive := by
    have same : (server.ofRun s.clientIdent).clientIdent = (s.server.ofRun s.clientIdent).clientIdent := by rw [view]
    exact (show server.clientIdent = s.server.clientIdent from same) ▸ undisturbed.positive
  earlier request member := by
    have bounds := undisturbed.earlier request member
    rw [if_pos connected] at bounds
    exact ⟨bounds.1, bounds.2.trans_eq (if_pos connected).symm⟩
  waiting resp member := ⟨waiting resp member, fun stopped => by rw [connected] at stopped; cases stopped⟩
  handled _ := handled

theorem listen_undisturbed (undisturbed : s.Undisturbed) (connected : s.connected = true) {action : ListenAction}
    {server : Server} (run : s.server.listenStep s.ds action = some server) :
    Undisturbed { s with server := server } := by
  have known := Server.reach_known (undisturbed.run connected)
  have view : (s.server.ofRun s.clientIdent).step s.ds (.listen action) = some (server.ofRun s.clientIdent) :=
    Server.listenStep_ofRun (fun fd info here => known.later.issued info
      (known.identity.issued info (known.identity.held fd info here).1)) run
  have after := Server.step_identity known.identity known.table view
  have same : server.responseChain = s.server.responseChain ∧ server.respPc = s.server.respPc := by
    by_cases takes : ∀ fd paused caller request, action ≠ .takeRequest fd paused caller request
    · exact (Server.listenStep_consumer run takes).2
    · push Not at takes
      obtain ⟨fd, paused, caller, request, rfl⟩ := takes
      simp only [Server.listenStep, onlyIf_eq_some] at run
      obtain ⟨_, rfl⟩ := run
      exact ⟨rfl, rfl⟩
  refine undisturbed.follow connected view after.range.1 ?_ ?_
  · rw [same.1]
    exact fun resp member => (undisturbed.waiting resp member).1
  · simp only [Server.Refused, same.2]
    exact undisturbed.handled connected

theorem respond_undisturbed (undisturbed : s.Undisturbed) (connected : s.connected = true) {action : ResponseAction}
    {server : Server} (run : s.server.responseStep s.ds action = some server) :
    Undisturbed { s with server := server } := by
  have known := Server.reach_known (undisturbed.run connected)
  have chain : ∀ resp ∈ server.responseChain, resp ∈ s.server.responseChain := by
    by_cases stays : action.moves = false
    · rw [((Server.responseStep_frame run).responses stays).1]
      exact fun _ member => member
    · cases action <;> simp only [Server.responseStep, onlyIf_eq_some] at run
      case chainGet | responseDone =>
        obtain ⟨_, rfl⟩ := run
        first | exact fun _ member => List.mem_of_mem_tail member | exact fun _ member => member
      all_goals exact absurd rfl stays
  have waiting : ∀ resp ∈ server.responseChain, 0 ≤ resp.cltid := fun resp member =>
    (undisturbed.waiting resp (chain resp member)).1
  by_cases early : ∃ resp, s.server.respPc.response = some resp ∧ resp.cltid ≤ s.clientIdent
  · -- it is busy with a response of an earlier run
    obtain ⟨resp, here, small⟩ := early
    obtain ⟨valid, refused⟩ := undisturbed.handled connected resp here
    obtain ⟨view, _, next⟩ := Server.responseStep_earlier (refused small) small valid
      (fun info member => known.later.issued info (known.identity.issued info member))
      (known.later.pending resp.cltid small) run
    refine undisturbed.ignore connected view waiting fun other there => ?_
    rcases next with idle | refused'
    · rw [idle] at there
      cases there
    · have same : resp = other := by
        rcases refused' with here' | here' | here' <;> rw [here'] at there <;> exact Option.some.inj there
      subst same
      exact ⟨valid, fun _ => refused'⟩
  · have later : ∀ resp, s.server.respPc.response = some resp → (s.clientIdent : Int) < resp.cltid :=
      fun resp here => lt_of_not_ge fun small => early ⟨resp, here, small⟩
    by_cases takes : ∃ resp, action = .chainGet resp ∧ resp.cltid ≤ s.clientIdent
    · -- it turns to one
      obtain ⟨resp, rfl, small⟩ := takes
      obtain ⟨view, here⟩ := Server.chainGet_earlier small run
      have valid : 0 ≤ resp.cltid := by
        simp only [Server.responseStep, onlyIf_eq_some] at run
        exact (undisturbed.waiting resp (List.mem_of_mem_head? run.1.2)).1
      refine undisturbed.ignore connected view waiting fun other there => ?_
      rw [here] at there
      cases Option.some.inj there
      exact ⟨valid, fun _ => .inl here⟩
    · have taken : ∀ resp, action = .chainGet resp → (s.clientIdent : Int) < resp.cltid :=
        fun resp here => lt_of_not_ge fun small => takes ⟨resp, here, small⟩
      have view : (s.server.ofRun s.clientIdent).step s.ds (.respond action) = some (server.ofRun s.clientIdent) :=
        Server.responseStep_ofRun later taken run
      refine undisturbed.follow connected view ?_ waiting fun resp there => ?_
      · rw [(Server.responseStep_frame run).listen.clientIdent]
        exact undisturbed.positive
      · have large := Server.responseStep_later later taken run resp there
        exact ⟨by omega, fun small => by omega⟩

theorem outside_undisturbed (undisturbed : s.Undisturbed) (connected : s.connected = true) {action : OutsideAction}
    {server : Server} (run : s.server.outsideStep action = some server) :
    Undisturbed { s with server := server } := by
  have known := Server.reach_known (undisturbed.run connected)
  have busy := undisturbed.handled connected
  have queued : ∀ resp ∈ s.server.responseChain, 0 ≤ resp.cltid := fun resp member => (undisturbed.waiting resp member).1
  cases action <;> simp only [Server.outsideStep, onlyIf_eq_some, Option.some.injEq] at run
  case schedule request text put =>
    obtain ⟨taken, rfl⟩ := run
    obtain ⟨info, issued, named, _⟩ := known.identity.taken request taken
    have large : (s.clientIdent : Int) < request.cltid := named ▸ known.later.issued info issued
    refine @Undisturbed.follow s undisturbed _ (.outside (.schedule request text put)) connected ?_ ?_ ?_ ?_
    · refine onlyIf_eq_some.mpr ⟨taken, ?_⟩
      cases put
      · rfl
      · simp [Server.ofRun, large]
    · cases put <;> exact undisturbed.positive
    · cases put
      · exact queued
      · intro resp member
        rcases List.mem_append.mp member with old | new
        · exact queued resp old
        · rw [List.mem_singleton.mp new]
          dsimp only
          omega
    · cases put <;> exact busy
  case requestStop =>
    subst run
    have view : (s.server.ofRun s.clientIdent).step s.ds (.outside .requestStop) =
        some (Server.ofRun s.clientIdent { s.server with endServer := true }) := rfl
    exact undisturbed.follow connected view undisturbed.positive queued busy
  case stopWake written =>
    obtain ⟨can, rfl⟩ := run
    have view : (s.server.ofRun s.clientIdent).step s.ds (.outside (.stopWake written)) =
        some (Server.ofRun s.clientIdent (s.server.writeWake written)) := onlyIf_eq_some.mpr ⟨can, rfl⟩
    exact undisturbed.follow connected view undisturbed.positive queued busy

theorem stop_undisturbed (undisturbed : s.Undisturbed) (connected : s.connected = true) :
    Undisturbed { s with server := (s.server.stopListening s.ds).server, connected := false
                         earlier := s.earlier ++ s.server.taken } := by
  have known := Server.reach_known (undisturbed.run connected)
  have paused := s.server.closePaused_shut
  obtain ⟨shut, _⟩ := s.server.stopListening_shut s.ds
  have ident : (s.server.stopListening s.ds).server.clientIdent = s.server.clientIdent :=
    shut.clientIdent.trans paused.clientIdent
  refine ⟨(fun stopped => by cases stopped), ident ▸ undisturbed.positive, fun request member => ?_,
    fun resp member => ?_, (fun stopped => by cases stopped)⟩
  · simp only [Bool.false_eq_true, if_false, ident]
    rcases List.mem_append.mp member with old | new
    · obtain ⟨valid, small⟩ := undisturbed.earlier request old
      rw [if_pos connected] at small
      exact ⟨valid, small.trans known.later.ident⟩
    · obtain ⟨info, issued, named, _⟩ := known.identity.taken request new
      have bounds := known.identity.range.2 info issued
      rw [named] at bounds
      exact ⟨by omega, bounds.2⟩
  · simp only [shut.responseChain, Server.removeChains] at member
    cases member

theorem start_undisturbed (undisturbed : s.Undisturbed) (stopped : s.connected = false) (ds : Descriptors) :
    Undisturbed { s with
      ds := ds, server := s.server.restart ds, connected := true
      clientIdent := s.server.clientIdent.toNat, requestIdent := s.server.requestIdent } := by
  have exactly : ((s.server.clientIdent.toNat : Nat) : Int) = s.server.clientIdent := Int.toNat_of_nonneg undisturbed.positive
  have small : ∀ resp ∈ s.server.responseChain, resp.cltid ≤ s.server.clientIdent := fun resp member =>
    (undisturbed.waiting resp member).2 stopped
  have view : (s.server.restart ds).ofRun s.server.clientIdent.toNat =
      Server.startAt ds s.server.clientIdent.toNat s.server.requestIdent := by
    have none : s.server.responseChain.filter (fun resp => decide (s.server.clientIdent < resp.cltid)) = [] :=
      List.filter_eq_nil_iff.mpr fun resp member => by simpa using small resp member
    simp [Server.ofRun, Server.restart, Server.startAt, Server.start, ResponsePc.ofRun, ResponsePc.response, exactly, none]
  refine ⟨fun _ => ?_, ?_, fun request member => ?_, fun resp member => ?_, (fun _ resp there => by cases there)⟩
  · rw [view]
    exact .start
  · exact exactly ▸ undisturbed.positive
  · have bounds := undisturbed.earlier request member
    rw [stopped] at bounds
    simpa [exactly] using bounds
  · exact ⟨(undisturbed.waiting resp member).1, fun connected => by cases connected⟩

/-- A request of an earlier run is answered: the response only waits. -/
theorem answer_undisturbed (undisturbed : s.Undisturbed) {request : Request} (member : request ∈ s.earlier)
    {resp : Response} (same : resp.cltid = request.cltid) :
    Undisturbed { s with server := { s.server with responseChain := s.server.responseChain ++ [resp] } } := by
  obtain ⟨valid, small⟩ := undisturbed.earlier request member
  rw [← same] at valid small
  refine { undisturbed with run := fun connected => ?_, waiting := fun other queued => ?_ }
  · rw [if_pos connected] at small
    have gone : Server.ofRun s.clientIdent { s.server with responseChain := s.server.responseChain ++ [resp] } =
        s.server.ofRun s.clientIdent := by
      simp [Server.ofRun, small]
    simp only [gone]
    exact undisturbed.run connected
  · rcases List.mem_append.mp queued with old | new
    · exact undisturbed.waiting other old
    · rw [List.mem_singleton.mp new]
      refine ⟨valid, fun stopped => ?_⟩
      have off : s.connected = false := stopped
      rw [if_neg (by simp [off])] at small
      exact small

theorem step_undisturbed (undisturbed : s.Undisturbed) {action : LifeAction} (run : s.step action = some t) :
    t.Undisturbed := by
  cases action with
  | serve action =>
    simp only [step] at run
    split_ifs at run with connected
    obtain ⟨server, run', rfl⟩ := Option.map_eq_some_iff.mp run
    cases action with
    | listen action => exact listen_undisturbed undisturbed connected run'
    | respond action => exact respond_undisturbed undisturbed connected run'
    | outside action => exact outside_undisturbed undisturbed connected run'
  | answerEarlier request text put =>
    obtain ⟨member, rfl⟩ := onlyIf_eq_some.mp run
    cases put with
    | false => exact undisturbed
    | true => exact answer_undisturbed undisturbed member rfl
  | stopListening =>
    obtain ⟨⟨connected, _⟩, rfl⟩ := onlyIf_eq_some.mp run
    exact stop_undisturbed undisturbed connected
  | startListening ds =>
    obtain ⟨stopped, rfl⟩ := onlyIf_eq_some.mp run
    exact start_undisturbed undisturbed stopped ds

/-- However often the server was stopped and started, and whenever the RPC threads answer requests
of earlier runs: but for the responses with an older connection id, what this run does is what
a first run would do. What it sends on a connection answers requests of that connection, never
one of an earlier run. -/
theorem restart_undisturbed {ds : Descriptors} (reach : Reach step (fun _ _ => True) (start ds) s)
    (connected : s.connected = true) :
    Reach (Server.step s.ds) (fun _ _ => True) (Server.startAt s.ds s.clientIdent s.requestIdent)
      (s.server.ofRun s.clientIdent) ∧
    ∀ conn, ∀ piece ∈ (s.server.sockets conn).sent, ∀ resp, piece.source = some resp →
      resp.request ∈ s.server.taken ∧ resp.request ∉ s.earlier ∧ Server.ArrivedOnly resp.request conn := by
  have undisturbed : s.Undisturbed :=
    reach.invariant (undisturbed_start ds) fun _ _ _ undisturbed _ run => step_undisturbed undisturbed run
  have known := Server.reach_known (undisturbed.run connected)
  refine ⟨undisturbed.run connected, fun conn piece sent resp source => ?_⟩
  obtain ⟨scheduled, arrived⟩ := known.routing.sent conn piece sent resp source
  obtain ⟨taken, _⟩ := known.routing.scheduled resp scheduled
  refine ⟨taken, fun old => ?_, arrived⟩
  obtain ⟨info, issued, named, _⟩ := known.identity.taken resp.request taken
  have large := known.later.issued info issued
  have small := (undisturbed.earlier resp.request old).2
  rw [if_pos connected] at small
  omega

/-- The RPC threads take a request, the server is stopped and started, the request is answered,
and the response thread takes the response while another client has the same descriptor. -/
def lateAnswer : List LifeAction :=
  let firstRun : List ServerAction := Server.greeting ++ Server.asking ++
    [.listen (.recvBlocks 7 []), .listen (.endScan []), .listen .loopCheck] ++ Server.stopping
  [.startListening Server.sampleDescriptors] ++ firstRun.map .serve ++
  [.stopListening, .startListening Server.sampleDescriptors] ++ Server.greeting.map .serve ++
  [.answerEarlier Server.sampleRequest [0x7b, 0x7d] true, .serve (.respond (.chainGet Server.sampleResponse)),
    .serve (.respond (.checkDead Server.sampleResponse false)), .serve (.respond (.dup Server.sampleResponse (some 8)))]

theorem restart_undisturbed_late : ∃ s : ServerLife,
    (s.connected = true ∧ s.server.respPc = .finishing Server.sampleResponse ∧ s.server.fdTable 7 = some 0) ∧
    Reach (Server.step s.ds) (fun _ _ => True) (Server.startAt s.ds s.clientIdent s.requestIdent)
      (s.server.ofRun s.clientIdent) ∧
    ∀ conn, ∀ piece ∈ (s.server.sockets conn).sent, ∀ resp, piece.source = some resp →
      resp.request ∈ s.server.taken ∧ resp.request ∉ s.earlier ∧ Server.ArrivedOnly resp.request conn := by
  obtain ⟨s, reach, here⟩ := exists_reach step (fun _ _ => True) (start Server.sampleDescriptors) lateAnswer
    (fun s => s.connected = true ∧ s.server.respPc = .finishing Server.sampleResponse ∧ s.server.fdTable 7 = some 0)
    (by decide +kernel)
  exact ⟨s, here, restart_undisturbed reach here.1⟩

end ServerLife
end JsonRpcTcp
