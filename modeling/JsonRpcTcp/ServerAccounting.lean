import JsonRpcTcp.ServerPending
import JsonRpcTcp.ServerRouting

namespace JsonRpcTcp
open Function

/-- The connection id that was counted for a request that is not popped yet, or
that is about to be given up. -/
def ListenPc.unpopped : ListenPc → List Int
  | .queueing _ info _ _ | .releasing _ info _ _ => [info.ident]
  | _ => []

/-- A counted request that is not popped yet is only held around the popping. -/
theorem ListenFlow.unpopped {ds : Descriptors} {pc next : ListenPc} {action : ListenAction}
    (flow : ListenFlow ds pc action next) (stays : action.moves = false) :
    pc.unpopped = [] ∧ next.unpopped = [] := by
  cases flow <;> first | exact ⟨rfl, rfl⟩ | cases stays

/-- The response thread keeps its response between taking it and finishing with it. -/
theorem ResponseFlow.response {pc next : ResponsePc} {action : ResponseAction}
    (flow : ResponseFlow pc action next) (stays : action.moves = false) : next.response = pc.response := by
  cases flow <;> first | rfl | cases stays

/-- The steps of `close_connection`. -/
def ListenAction.closes : ListenAction → Bool
  | .erasePending .. | .deregister .. | .closeSocket .. => true
  | _ => false

theorem ListenFlow.not_leaving {ds : Descriptors} {pc next : ListenPc} {action : ListenAction}
    (flow : ListenFlow ds pc action next) (stays : action.closes = false) : pc.leaving = none := by
  cases flow <;> first | rfl | cases stays

namespace Server
variable {ds : Descriptors}

/-- The entry of a connection in `pending`, or the one that would be created. -/
def entry (s : Server) (id : Int) : ConnPending := (s.pending id).getD {}

/-- The counted requests of a connection, wherever they are: in the hands of the
listen thread, in `request_chain`, with the RPC threads, in `response_chain` or
in the hands of the response thread. -/
def inFlight (s : Server) (id : Int) : Nat :=
  s.pc.unpopped.count id + (s.requestChain.map Request.cltid).count id +
    (s.unanswered.map Request.cltid).count id + (s.responseChain.map Response.cltid).count id +
    (s.respPc.response.toList.map Response.cltid).count id

/-- The connection is registered and `close_connection` has not erased its entry. -/
def Open (s : Server) (info : ClientInfo) : Prop :=
  info ∈ s.clientInfoChain ∧ s.pc.leaving ≠ some info.sockDescriptor

/-- The entry of a connection counts its requests in flight. -/
structure Counted (s : Server) (id : Int) : Prop where
  exact_ : (s.entry id).count = s.inFlight id
  bound : (s.entry id).count ≤ maxPendingPerConn
  backlog : (s.entry id).paused = true → maxPendingPerConn / 2 < (s.entry id).count

/-- Every admission is finished or in flight, and the entries of the open
connections count what is in flight. -/
structure Accounts (s : Server) : Prop where
  balance : ∀ id, s.admissions.count id = s.finished.count id + s.inFlight id
  unused : ∀ id, s.clientIdent < id → s.pending id = none ∧ s.inFlight id = 0
  counted : ∀ info, s.Open info → s.Counted info.ident

theorem accounts_start (clientIdent : Nat) : (start ds clientIdent).Accounts where
  balance := by simp [start, inFlight, ListenPc.unpopped, ResponsePc.response]
  unused := by simp [start, inFlight, ListenPc.unpopped, ResponsePc.response]
  counted := by simp [start, Open]

/-- The listen thread passes a counted request on in four actions only. -/
theorem listenStep_inFlight {s t : Server} (table : s.Table ds) {action : ListenAction}
    (run : s.listenStep ds action = some t) (stays : action.moves = false) (id : Int) :
    t.inFlight id = s.inFlight id := by
  obtain ⟨before, after⟩ := (listenStep_flow table.located.holding run).unpopped stays
  have requests := ((listenStep_frame run).requests stays).1
  have others := listenStep_consumer run fun fd paused caller request same => by
    rw [same] at stays
    cases stays
  unfold inFlight
  rw [before, after, requests, others.1.2.1, others.2.1, others.2.2]

/-- A step that changes no count and opens no connection. -/
theorem Accounts.keep {s t : Server} (accounts : s.Accounts)
    (admissions : t.admissions = s.admissions) (finished : t.finished = s.finished)
    (inFlight : ∀ id, t.inFlight id = s.inFlight id) (clientIdent : t.clientIdent = s.clientIdent)
    (unused : ∀ id, s.clientIdent < id → s.pending id = none → t.pending id = none)
    (still : ∀ info, t.Open info → s.Open info)
    (entries : ∀ info, t.Open info → (t.entry info.ident).count = (s.entry info.ident).count ∧
      ((t.entry info.ident).paused = true → (s.entry info.ident).paused = true)) : t.Accounts where
  balance id := by
    rw [admissions, finished, inFlight]
    exact accounts.balance id
  unused id above := by
    rw [clientIdent] at above
    obtain ⟨absent, none⟩ := accounts.unused id above
    exact ⟨unused id above absent, by rw [inFlight, none]⟩
  counted info isOpen := by
    have counted := accounts.counted info (still info isOpen)
    obtain ⟨count, paused⟩ := entries info isOpen
    refine ⟨?_, ?_, ?_⟩
    · rw [count, inFlight]
      exact counted.exact_
    · rw [count]
      exact counted.bound
    · intro waiting
      rw [count]
      exact counted.backlog (paused waiting)

theorem responseDoneSection_entry (pending : PendingMap) {cltid : Int} (valid : 0 ≤ cltid) :
    (((responseDoneSection pending cltid).1 cltid).getD {}).count =
      (if 0 < ((pending cltid).getD {}).count then ((pending cltid).getD {}).count - 1
       else ((pending cltid).getD {}).count) ∧
    ((((responseDoneSection pending cltid).1 cltid).getD {}).paused = true →
      maxPendingPerConn / 2 < (((responseDoneSection pending cltid).1 cltid).getD {}).count) := by
  have notNegative : ¬ cltid < 0 := by omega
  unfold responseDoneSection
  rw [if_neg notNegative]
  cases key : pending cltid with
  | none => exact ⟨by simp [key], by simp [key]⟩
  | some old =>
    have count : (if old.count > 0 then { old with count := old.count - 1 } else old).count =
        if 0 < old.count then old.count - 1 else old.count := by
      split_ifs <;> rfl
    dsimp only
    generalize (if old.count > 0 then { old with count := old.count - 1 } else old) = p at count ⊢
    by_cases resumes : p.paused = true ∧ p.count ≤ maxPendingPerConn / 2
    · rw [if_pos resumes]
      dsimp only
      rw [update_self]
      exact ⟨count, by simp⟩
    · rw [if_neg resumes]
      dsimp only
      rw [update_self]
      refine ⟨count, fun paused => ?_⟩
      by_contra low
      exact resumes ⟨paused, not_lt.mp low⟩

theorem responseDoneSection_other (pending : PendingMap) {cltid id : Int} (differ : id ≠ cltid) :
    (responseDoneSection pending cltid).1 id = pending id := by
  unfold responseDoneSection
  split_ifs with negative
  · rfl
  cases pending cltid with
  | none => rfl
  | some old =>
    dsimp only
    split_ifs <;> exact update_of_ne differ _ _

/-- `response_done` for a request in flight takes it off the count. -/
theorem Accounts.done {s t : Server} (accounts : s.Accounts) {cltid : Int}
    (pending : t.pending = (responseDoneSection s.pending cltid).1) (finished : t.finished = s.finished ++ [cltid])
    (admissions : t.admissions = s.admissions)
    (inFlight : ∀ id, t.inFlight id + [cltid].count id = s.inFlight id)
    (clientIdent : t.clientIdent = s.clientIdent) (valid : 0 ≤ cltid)
    (still : ∀ info, t.Open info → s.Open info) : t.Accounts where
  balance id := by
    have balance := accounts.balance id
    have moved := inFlight id
    rw [admissions, finished, List.count_append]
    omega
  unused id above := by
    rw [clientIdent] at above
    obtain ⟨absent, none⟩ := accounts.unused id above
    have moved := inFlight id
    have keys := responseDoneSection_keys s.pending cltid id
    rw [absent] at keys
    rw [pending]
    exact ⟨Option.isNone_iff_eq_none.mp (by rw [← Option.not_isSome, keys]; rfl), by omega⟩
  counted info isOpen := by
    have counted := accounts.counted info (still info isOpen)
    have moved := inFlight info.ident
    by_cases same : info.ident = cltid
    · rw [same] at counted moved ⊢
      rw [List.count_singleton_self] at moved
      obtain ⟨count, backlog⟩ := responseDoneSection_entry s.pending valid
      have positive : 0 < (s.entry cltid).count := by
        rw [counted.exact_]
        omega
      have bound := counted.bound
      have before := counted.exact_
      unfold entry at positive bound before
      rw [if_pos positive] at count
      refine ⟨?_, ?_, ?_⟩
      · unfold entry
        rw [pending, count]
        omega
      · unfold entry
        rw [pending, count]
        omega
      · unfold entry
        rw [pending]
        exact backlog
    · have untouched := responseDoneSection_other s.pending same
      have none : [cltid].count info.ident = 0 := List.count_eq_zero.mpr (by simpa using same)
      rw [none] at moved
      refine ⟨?_, ?_, ?_⟩
      · have before := counted.exact_
        unfold entry at before ⊢
        rw [pending, untouched]
        omega
      · unfold entry
        rw [pending, untouched]
        exact counted.bound
      · unfold entry
        rw [pending, untouched]
        exact counted.backlog

/-- An entry of an open connection that keeps its count and does not become paused. -/
theorem entry_update (s : Server) {cltid : Int} {p : ConnPending} (count : p.count = (s.entry cltid).count)
    (paused : p.paused = true → (s.entry cltid).paused = true) (id : Int) :
    ((update s.pending cltid (some p) id).getD {}).count = (s.entry id).count ∧
      (((update s.pending cltid (some p) id).getD {}).paused = true → (s.entry id).paused = true) := by
  by_cases same : id = cltid
  · subst same
    rw [update_self]
    exact ⟨count, paused⟩
  · rw [update_of_ne same]
    exact ⟨rfl, fun waiting => waiting⟩

/-- `over_send_wait_budget` changes no count. -/
theorem overSendWaitBudget_entry (s : Server) (cltid waitedMs now id : Int) :
    (((overSendWaitBudget s.pending cltid waitedMs now).1 id).getD {}).count = (s.entry id).count ∧
      ((((overSendWaitBudget s.pending cltid waitedMs now).1 id).getD {}).paused = true →
        (s.entry id).paused = true) := by
  unfold overSendWaitBudget
  split_ifs with idle
  · exact ⟨rfl, fun waiting => waiting⟩
  cases key : s.pending cltid with
  | none => exact ⟨rfl, fun waiting => waiting⟩
  | some old =>
    have stored : s.entry cltid = old := by rw [entry, key, Option.getD_some]
    apply entry_update s
    · rw [stored]
      dsimp only
      split_ifs <;> rfl
    · rw [stored]
      dsimp only
      split_ifs <;> exact fun waiting => waiting

/-- `drop_connection` changes no count and only ends a pause. -/
theorem dropSection_entry (s : Server) (cltid id : Int) :
    (((dropSection s.pending cltid).1 id).getD {}).count = (s.entry id).count ∧
      ((((dropSection s.pending cltid).1 id).getD {}).paused = true → (s.entry id).paused = true) := by
  unfold dropSection
  split_ifs with negative
  · exact ⟨rfl, fun waiting => waiting⟩
  dsimp only
  split_ifs with waiting
  · refine entry_update s ?_ ?_ id
    · rfl
    · simp
  · refine entry_update s ?_ ?_ id
    · rfl
    · exact fun still => still

/-- The critical section of `queue_framed_requests` counts the request that it
admits. -/
theorem Accounts.admission {s t : Server} (accounts : s.Accounts) {cltid : Int} {p : ConnPending} (added : List Int)
    (pending : t.pending = update s.pending cltid (some p)) (admissions : t.admissions = s.admissions ++ added)
    (finished : t.finished = s.finished) (inFlight : ∀ id, t.inFlight id = s.inFlight id + added.count id)
    (only : ∀ id, id ≠ cltid → added.count id = 0) (count : p.count = (s.entry cltid).count + added.count cltid)
    (bound : p.count ≤ maxPendingPerConn) (backlog : p.paused = true → maxPendingPerConn / 2 < p.count)
    (clientIdent : t.clientIdent = s.clientIdent) (known : cltid ≤ s.clientIdent)
    (still : ∀ info, t.Open info → s.Open info) : t.Accounts where
  balance id := by
    have balance := accounts.balance id
    have moved := inFlight id
    rw [admissions, finished, List.count_append]
    omega
  unused id above := by
    rw [clientIdent] at above
    have differ : id ≠ cltid := by omega
    obtain ⟨absent, none⟩ := accounts.unused id above
    rw [pending, update_of_ne differ, inFlight, only id differ]
    exact ⟨absent, none⟩
  counted info isOpen := by
    have counted := accounts.counted info (still info isOpen)
    have moved := inFlight info.ident
    by_cases same : info.ident = cltid
    · have stored : t.entry cltid = p := by rw [entry, pending, update_self, Option.getD_some]
      rw [same] at counted moved ⊢
      refine ⟨?_, by rw [stored]; exact bound, by rw [stored]; exact backlog⟩
      have before := counted.exact_
      rw [stored]
      omega
    · have stored : t.entry info.ident = s.entry info.ident := by rw [entry, pending, update_of_ne same, entry]
      rw [only info.ident same] at moved
      refine ⟨?_, by rw [stored]; exact counted.bound, by rw [stored]; exact counted.backlog⟩
      have before := counted.exact_
      rw [stored]
      omega

/-- A request is admitted for the record at hand, or its connection is paused
because the count is at its limit. -/
theorem admission_accounts {s : Server} (identity : s.Identity) (accounts : s.Accounts) {fd queued : Nat}
    {info : ClientInfo} {caller : QueueCaller} (here : s.pc = .admitting fd info queued caller) :
    (s.admission fd info queued caller).Accounts := by
  obtain ⟨member, _⟩ := identity.held fd info (by rw [here]; rfl)
  have known := identity.range.2 info (identity.issued info member)
  have before : s.pc.unpopped = [] := by rw [here]; rfl
  have leaving : s.pc.leaving = none := by rw [here]; rfl
  have isOpen : ∀ other, other ∈ s.clientInfoChain → s.Open other := by
    intro other listed
    exact ⟨listed, by simp [leaving]⟩
  have ended : ∀ paused, (afterQueueing fd queued paused caller).unpopped = [] := by
    intro paused
    rcases afterQueueing_cases fd queued paused caller with next | next <;> rw [next] <;> rfl
  have current := accounts.counted info (isOpen info member)
  rcases s.admission_cases fd info queued caller with
    ⟨_, result⟩ | ⟨_, _, negative, _⟩ | ⟨_, _, _, full, result⟩ | ⟨_, _, _, room, result⟩
  · rw [result]
    refine accounts.keep rfl rfl ?_ rfl (fun _ _ => id) (fun other still => isOpen other still.1)
      fun _ _ => ⟨rfl, fun waiting => waiting⟩
    intro id
    unfold inFlight
    rw [before, ended]
  · omega
  · rw [result]
    refine accounts.admission [] rfl (List.append_nil _).symm rfl ?_ (fun _ _ => rfl) ?_ current.bound ?_
      rfl known.2 (fun other still => isOpen other still.1)
    · intro id
      unfold inFlight
      rw [before, ended]
      rfl
    · exact (Int.add_zero _).symm
    · intro _
      have limit : maxPendingPerConn = 256 := rfl
      dsimp only
      omega
  · rw [result]
    refine accounts.admission [info.ident] rfl rfl rfl ?_ ?_ ?_ ?_ ?_
      rfl known.2 (fun other still => isOpen other still.1)
    · intro id
      unfold inFlight
      rw [before]
      simp only [ListenPc.unpopped, List.count_nil]
      omega
    · intro id differ
      exact List.count_eq_zero.mpr (by simpa using differ)
    · rw [List.count_singleton_self]
      rfl
    · dsimp only
      omega
    · intro waiting
      have backlog := current.backlog waiting
      unfold entry at backlog
      dsimp only
      omega

/-- A step of the listen thread that only moves requests on. -/
theorem Accounts.pass {s t : Server} (accounts : s.Accounts) (chain : t.clientInfoChain = s.clientInfoChain)
    (clientIdent : t.clientIdent = s.clientIdent)
    (pending : t.pending = s.pending) (admissions : t.admissions = s.admissions)
    (finished : t.finished = s.finished) (inFlight : ∀ id, t.inFlight id = s.inFlight id)
    (leaving : s.pc.leaving = none) : t.Accounts := by
  have still : ∀ info, t.Open info → s.Open info := by
    intro info isOpen
    refine ⟨?_, by simp [leaving]⟩
    rw [← chain]
    exact isOpen.1
  refine accounts.keep admissions finished inFlight clientIdent ?_ still ?_
  · rw [pending]
    exact fun _ _ => id
  · unfold entry
    rw [pending]
    exact fun _ _ => ⟨rfl, fun waiting => waiting⟩

theorem queueRequest_accounts {s : Server} (table : s.Table ds) (accounts : s.Accounts) {fd queued : Nat}
    {info : ClientInfo} {caller : QueueCaller} (here : s.pc = .queueing fd info queued caller) (put : Bool) :
    (s.queueRequest fd info queued caller put).Accounts := by
  obtain ⟨entry, holds⟩ := table.located.holding fd info queued caller here
  have leaving : s.pc.leaving = none := by rw [here]; rfl
  have before : s.pc.unpopped = [info.ident] := by rw [here]; rfl
  rcases queueRequest_cases holds info queued caller put with ⟨_, result⟩ | ⟨_, result⟩ <;> rw [result]
  · refine accounts.pass rfl rfl rfl rfl rfl ?_ leaving
    intro id
    unfold inFlight
    rw [before]
    simp only [ListenPc.unpopped, List.map_append, List.count_append, List.map_cons, List.map_nil,
      poppedRequest, List.count_nil]
    omega
  · refine accounts.pass rfl rfl rfl rfl rfl ?_ leaving
    intro id
    unfold inFlight
    rw [before]
    rfl

theorem takeRequest_accounts {s : Server} (accounts : s.Accounts) {request : Request}
    (first : s.requestChain.head? = some request) :
    Accounts { s with requestChain := s.requestChain.tail, taken := s.taken ++ [request]
                      unanswered := s.unanswered ++ [request] } := by
  refine accounts.keep rfl rfl ?_ rfl (fun _ _ => id) (fun _ => id) fun _ _ => ⟨rfl, fun waiting => waiting⟩
  intro id
  have split : s.requestChain = request :: s.requestChain.tail := (List.cons_head?_tail first).symm
  unfold inFlight
  conv_rhs => rw [split]
  simp only [List.map_append, List.count_append, List.map_cons, List.map_nil, List.count_cons, List.count_nil]
  omega

theorem register_accounts {s : Server} (accounts : s.Accounts) {newSd : Nat} {ready : List Nat}
    (here : s.pc = .registering newSd ready) {info : ClientInfo} (named : info.ident = s.clientIdent + 1)
    (put : Bool) : (s.register newSd ready info put).Accounts := by
  have unchanged : ∀ id, (s.register newSd ready info put).inFlight id = s.inFlight id := by
    intro id
    unfold inFlight
    rw [here]
    rfl
  refine ⟨?_, ?_, ?_⟩
  · intro id
    rw [unchanged]
    exact accounts.balance id
  · intro id above
    have higher : s.clientIdent < id := by
      change info.ident < id at above
      omega
    rw [unchanged]
    exact accounts.unused id higher
  · intro other isOpen
    have old : other ∈ s.clientInfoChain → (s.register newSd ready info put).Counted other.ident := by
      intro listed
      have counted := accounts.counted other ⟨listed, by simp [here, ListenPc.leaving]⟩
      exact ⟨by rw [unchanged]; exact counted.exact_, counted.bound, counted.backlog⟩
    cases put with
    | false => exact old isOpen.1
    | true =>
      rcases List.mem_append.mp isOpen.1 with listed | new
      · exact old listed
      · rw [List.mem_singleton.mp new, named]
        obtain ⟨absent, none⟩ := accounts.unused (s.clientIdent + 1) (by omega)
        have stored : (s.register newSd ready info true).entry (s.clientIdent + 1) = {} := by
          unfold entry
          simp only [register, absent, Option.getD_none]
        refine ⟨?_, ?_, ?_⟩
        · rw [stored, unchanged, none]
          rfl
        · rw [stored]
          decide
        · rw [stored]
          simp

/-- `close_connection` erases the entry of the connection it closes only. -/
theorem erasePending_accounts {s : Server} (identity : s.Identity) (accounts : s.Accounts) {fd : Nat}
    {ready : List Nat} (here : s.pc = .closing fd ready) :
    Accounts { s with pending := s.closeSection fd, pausedFds := s.pausedFds.erase fd
                      pc := .deregistering fd ready } := by
  refine accounts.keep rfl rfl ?_ rfl ?_ ?_ ?_
  · intro id
    unfold inFlight
    rw [here]
    rfl
  · intro id above absent
    rcases s.closeSection_cases fd id with ⟨kept, _⟩ | ⟨erased, _⟩
    · exact kept.trans absent
    · exact erased
  · intro info isOpen
    exact ⟨isOpen.1, by simp [here, ListenPc.leaving]⟩
  · intro info isOpen
    rcases s.closeSection_cases fd info.ident with ⟨kept, _⟩ | ⟨_, record, known, equal⟩
    · unfold entry
      dsimp only
      rw [kept]
      exact ⟨rfl, fun waiting => waiting⟩
    · obtain ⟨listed, socket⟩ := getClientInfo_some known
      have same := identity.unique record (identity.issued record listed) info
        (identity.issued info isOpen.1) equal
      refine absurd ?_ isOpen.2
      rw [← same, socket]
      rfl

/-- The connection id at hand is one that `chain_generate_ident` gave out. -/
theorem Identity.held_positive {s : Server} (identity : s.Identity) {fd : Nat} {info : ClientInfo}
    (held : s.pc.client = some (fd, info)) : 1 ≤ info.ident :=
  (identity.range.2 info (identity.issued info (identity.held fd info held).1)).1

theorem release_accounts {s : Server} (identity : s.Identity) (accounts : s.Accounts) {fd queued : Nat}
    {info : ClientInfo} {caller : QueueCaller} (here : s.pc = .releasing fd info queued caller)
    {next : ListenPc} (ended : next.unpopped = []) :
    Accounts { s with pending := (responseDoneSection s.pending info.ident).1
                      finished := s.finished ++ [info.ident], pc := next } := by
  have positive := identity.held_positive (show s.pc.client = some (fd, info) by rw [here]; rfl)
  refine accounts.done rfl rfl rfl ?_ rfl (by omega) ?_
  · intro id
    unfold inFlight
    rw [here, ended]
    simp only [ListenPc.unpopped, List.count_nil]
    omega
  · intro other isOpen
    exact ⟨isOpen.1, by simp [here, ListenPc.leaving]⟩

theorem listenStep_accounts {s t : Server} (table : s.Table ds) (identity : s.Identity) (accounts : s.Accounts)
    {action : ListenAction} (run : s.listenStep ds action = some t) : t.Accounts := by
  have frame := listenStep_frame run
  have flow := listenStep_flow table.located.holding run
  by_cases moves : action.moves = true
  · cases action <;> first | (cases moves; done) | simp only [listenStep, onlyIf_eq_some] at run
    case admission fd info queued caller =>
      obtain ⟨here, rfl⟩ := run
      exact admission_accounts identity accounts here
    case queueRequest fd info queued caller put =>
      obtain ⟨here, rfl⟩ := run
      exact queueRequest_accounts table accounts here put
    case release fd info queued caller =>
      obtain ⟨here, rfl⟩ := run
      refine release_accounts identity accounts here ?_
      split_ifs
      · rfl
      · rcases afterQueueing_cases fd queued false caller with next | next <;> rw [next] <;> rfl
    case takeRequest fd paused caller request =>
      obtain ⟨⟨_, first⟩, rfl⟩ := run
      exact takeRequest_accounts accounts first
  have unmoved := listenStep_inFlight table run (Bool.eq_false_of_not_eq_true moves)
  obtain ⟨_, admissions, finished⟩ := frame.requests (Bool.eq_false_of_not_eq_true moves)
  by_cases closes : action.closes = true
  · cases action <;> first | (cases closes; done) | simp only [listenStep, onlyIf_eq_some] at run
    case erasePending fd ready =>
      obtain ⟨here, rfl⟩ := run
      exact erasePending_accounts identity accounts here
    case deregister fd ready =>
      obtain ⟨here, rfl⟩ := run
      cases known : s.getClientInfo fd with
      | none =>
        rw [known] at unmoved
        refine accounts.keep rfl rfl unmoved rfl (fun _ _ => id) ?_ fun _ _ => ⟨rfl, fun waiting => waiting⟩
        intro info isOpen
        exact ⟨isOpen.1, by rw [here]; exact isOpen.2⟩
      | some record =>
        refine accounts.keep rfl rfl (fun _ => rfl) rfl (fun _ _ => id) ?_ fun _ _ => ⟨rfl, fun waiting => waiting⟩
        intro info isOpen
        exact ⟨List.mem_of_mem_eraseP isOpen.1, isOpen.2⟩
    case closeSocket fd ready =>
      obtain ⟨here, rfl⟩ := run
      refine accounts.keep rfl rfl unmoved rfl (fun _ _ => id) ?_ fun _ _ => ⟨rfl, fun waiting => waiting⟩
      intro info isOpen
      have differ := table.located.unlisted fd ready here info isOpen.1
      refine ⟨isOpen.1, ?_⟩
      rw [here]
      exact fun same => differ (Option.some.inj same).symm
  have leaving := flow.not_leaving (Bool.eq_false_of_not_eq_true closes)
  by_cases inward : action.inward = true
  · have same := frame.outside inward
    have pending : t.pending = s.pending := by
      apply frame.pending
      cases action <;> first | rfl | exact absurd rfl moves | exact absurd rfl closes
    exact accounts.pass same.chain same.clientIdent pending admissions finished unmoved leaving
  · cases action <;> first | exact absurd rfl inward | simp only [listenStep, onlyIf_eq_some] at run
    case accept newSd ready =>
      obtain ⟨_, rfl⟩ := run
      exact accounts.pass rfl rfl rfl rfl rfl unmoved leaving
    case register newSd ready conn port ip put =>
      obtain ⟨⟨here, _⟩, rfl⟩ := run
      exact register_accounts accounts here rfl put
    case takeRequest => exact absurd rfl moves
    case sendProtocolError fd ready conn count =>
      obtain ⟨_, rfl⟩ := run
      by_cases some : 0 < count
      · simp only [some, if_true] at unmoved ⊢
        exact accounts.pass rfl rfl rfl rfl rfl unmoved leaving
      · simp only [some, if_false] at unmoved ⊢
        exact accounts.pass rfl rfl rfl rfl rfl unmoved leaving
    case deregister => exact absurd rfl closes
    case closeSocket => exact absurd rfl closes

theorem responseStep_accounts {s t : Server} (identity : s.Identity) (routing : s.Routing) (accounts : s.Accounts)
    {action : ResponseAction} (run : s.responseStep ds action = some t) : t.Accounts := by
  have frame := responseStep_frame run
  have same := frame.listen
  have flow := responseStep_flow run
  have still : ∀ info, t.Open info → s.Open info := by
    unfold Open
    rw [same.pc, same.chain]
    exact fun _ => id
  have inFlight : action.moves = false → ∀ id, t.inFlight id = s.inFlight id := by
    intro stays id
    unfold Server.inFlight
    rw [same.pc, same.requestChain, same.unanswered, (frame.responses stays).1, flow.response stays]
  by_cases accounting : action.accounting = true
  · cases action <;> first | (cases accounting; done) | simp only [responseStep, onlyIf_eq_some] at run
    case sendWaited resp dup waitedMs now =>
      obtain ⟨_, rfl⟩ := run
      refine accounts.keep rfl rfl (inFlight rfl) rfl ?_ still ?_
      · intro id _ absent
        have keys := overSendWaitBudget_keys s.pending resp.cltid waitedMs now id
        rw [absent] at keys
        exact Option.not_isSome_iff_eq_none.mp (by simp [keys])
      · intro info _
        exact overSendWaitBudget_entry s resp.cltid waitedMs now info.ident
    case drop resp dup sent =>
      obtain ⟨here, rfl⟩ := run
      obtain ⟨info, known, named, _⟩ := routing.record identity (routing.handled resp (by rw [here]; rfl))
      have range := identity.range.2 info known
      refine accounts.keep rfl rfl (inFlight rfl) rfl ?_ still ?_
      · intro id above absent
        have keys := dropSection_keys s.pending (show 0 ≤ resp.cltid by omega) id
        rw [absent, beq_false_of_ne (by omega)] at keys
        exact Option.not_isSome_iff_eq_none.mp (by simp [keys])
      · intro info _
        exact dropSection_entry s resp.cltid info.ident
    case responseDone resp =>
      obtain ⟨here, rfl⟩ := run
      obtain ⟨info, known, named, _⟩ := routing.record identity (routing.handled resp (by rw [here]; rfl))
      have range := identity.range.2 info known
      refine accounts.done rfl rfl rfl ?_ rfl (show 0 ≤ resp.cltid by omega) still
      intro id
      unfold Server.inFlight
      dsimp only
      rw [here]
      split_ifs <;> simp only [ResponsePc.response, Option.toList_none, Option.toList_some, List.map_nil,
        List.map_cons, List.count_nil] <;> omega
  · have pending := frame.pending (Bool.eq_false_of_not_eq_true accounting)
    have finished : t.finished = s.finished := by
      cases action <;> first | exact (frame.responses rfl).2.1 | exact absurd rfl accounting |
        (simp only [responseStep, onlyIf_eq_some] at run; obtain ⟨_, rfl⟩ := run; rfl)
    refine accounts.keep same.admissions finished ?_ same.clientIdent ?_ still ?_
    · by_cases moves : action.moves = true
      · cases action <;> first | (cases moves; done) | exact absurd rfl accounting |
          simp only [responseStep, onlyIf_eq_some] at run
        case chainGet resp =>
          obtain ⟨⟨here, first⟩, rfl⟩ := run
          intro id
          have split : s.responseChain = resp :: s.responseChain.tail := (List.cons_head?_tail first).symm
          unfold Server.inFlight
          conv_rhs => rw [split]
          rw [here]
          simp only [ResponsePc.response, Option.toList_none, Option.toList_some, List.map_cons, List.map_nil,
            List.count_cons, List.count_nil]
          omega
      · exact inFlight (Bool.eq_false_of_not_eq_true moves)
    · rw [pending]
      exact fun _ _ => id
    · unfold entry
      rw [pending]
      exact fun _ _ => ⟨rfl, fun waiting => waiting⟩

/-- A scheduled response takes the place of its request. -/
theorem outsideStep_accounts {s t : Server} (accounts : s.Accounts) {action : OutsideAction}
    (once : s.AnsweredOnce (.outside action)) (run : s.outsideStep action = some t) : t.Accounts := by
  cases action <;> simp only [outsideStep, onlyIf_eq_some, Option.some.injEq] at run
  case schedule request text put =>
    obtain ⟨_, rfl⟩ := run
    cases put with
    | false => exact accounts
    | true =>
      refine accounts.keep rfl rfl ?_ rfl (fun _ _ => id) (fun _ => id) fun _ _ => ⟨rfl, fun waiting => waiting⟩
      intro id
      have moved : (s.unanswered.map Request.cltid).count id =
          ((s.unanswered.erase request).map Request.cltid).count id + [request.cltid].count id := by
        have perm := (List.perm_cons_erase (once request rfl)).map Request.cltid
        rw [perm.count_eq, List.map_cons, List.count_cons, List.count_singleton]
      unfold inFlight
      simp only [if_true, List.map_append, List.count_append, List.map_cons, List.map_nil]
      omega
  case requestStop =>
    subst run
    exact accounts.keep rfl rfl (fun _ => rfl) rfl (fun _ _ => id) (fun _ => id)
      fun _ _ => ⟨rfl, fun waiting => waiting⟩
  case stopWake written =>
    obtain ⟨_, rfl⟩ := run
    exact accounts.keep rfl rfl (fun _ => rfl) rfl (fun _ _ => id) (fun _ => id)
      fun _ _ => ⟨rfl, fun waiting => waiting⟩

theorem step_accounts {s t : Server} (table : s.Table ds) (identity : s.Identity) (routing : s.Routing)
    (accounts : s.Accounts) {action : ServerAction} (once : s.AnsweredOnce action)
    (run : s.step ds action = some t) : t.Accounts := by
  cases action with
  | listen action => exact listenStep_accounts table identity accounts run
  | respond action => exact responseStep_accounts identity routing accounts run
  | outside action => exact outsideStep_accounts accounts once run

theorem reach_accounts {allow : Server → ServerAction → Prop}
  (once : ∀ s action, allow s action → s.AnsweredOnce action)
    {clientIdent : Nat} {s : Server} (reach : Reach (step ds) allow (start ds clientIdent) s) : s.Accounts :=
  reach.invariant_with
    (fun _ before => And.intro (reach_table before) (And.intro (reach_identity before) (reach_routing before)))
    (accounts_start clientIdent)
    fun _ _ _ known accounts permitted run =>
      step_accounts known.1 known.2.1 known.2.2 accounts (once _ _ permitted) run

/-- The count of an open connection is the number of its admitted requests for
which `response_done` has not run. It never exceeds its limit, and a connection
is only paused while more than half of the limit is in flight. -/
theorem backpressure_accounting {clientIdent : Nat} {s : Server}
    (reach : Reach (step ds) (fun s action => s.AllocationSucceeds action ∧ s.AnsweredOnce action)
      (start ds clientIdent) s) {info : ClientInfo} (isOpen : s.Open info) :
    (s.entry info.ident).count = s.admissions.count info.ident - s.finished.count info.ident ∧
    (s.entry info.ident).count = s.inFlight info.ident ∧
    0 ≤ (s.entry info.ident).count ∧ (s.entry info.ident).count ≤ maxPendingPerConn ∧
    ((s.entry info.ident).paused = true → 128 < (s.entry info.ident).count) := by
  have accounts := reach_accounts (fun _ _ permitted => permitted.2) reach
  obtain ⟨exactly, bound, backlog⟩ := accounts.counted info isOpen
  have balance := accounts.balance info.ident
  exact ⟨by omega, exactly, by omega, bound, backlog⟩

theorem backpressure_accounting_asking :
    ∃ s : Server, s.Open sampleClient ∧ s.admissions.count 1 = 1 ∧
      (s.entry 1).count = s.admissions.count 1 - s.finished.count 1 ∧ (s.entry 1).count = s.inFlight 1 ∧
      0 ≤ (s.entry 1).count ∧ (s.entry 1).count ≤ maxPendingPerConn ∧
      ((s.entry 1).paused = true → 128 < (s.entry 1).count) := by
  obtain ⟨s, reach, isOpen, admitted⟩ := exists_reach (step sampleDescriptors)
    (fun s action => s.AllocationSucceeds action ∧ s.AnsweredOnce action) (start sampleDescriptors 0)
    (greeting ++ asking)
    (fun s => (sampleClient ∈ s.clientInfoChain ∧ s.pc.leaving ≠ some sampleClient.sockDescriptor) ∧
      s.admissions.count 1 = 1) (by decide)
  exact ⟨s, isOpen, admitted, backpressure_accounting reach isOpen⟩

end Server
end JsonRpcTcp
