import JsonRpcTcp.ServerClients
import JsonRpcTcp.ServerIdentity

namespace JsonRpcTcp
open Function

/-! The keys that the critical sections of `pending_lock` add. -/

theorem responseDoneSection_keys (pending : PendingMap) (cltid id : Int) :
    ((responseDoneSection pending cltid).1 id).isSome = (pending id).isSome := by
  unfold responseDoneSection
  split_ifs with negative
  · rfl
  cases key : pending cltid with
  | none => rfl
  | some old =>
    dsimp only
    by_cases same : id = cltid
    · subst same
      split_ifs <;> simp [key]
    · split_ifs <;> simp [same]

theorem overSendWaitBudget_keys (pending : PendingMap) (cltid waitedMs now id : Int) :
    ((overSendWaitBudget pending cltid waitedMs now).1 id).isSome = (pending id).isSome := by
  unfold overSendWaitBudget
  split_ifs with idle
  · rfl
  cases key : pending cltid with
  | none => rfl
  | some old =>
    dsimp only
    by_cases same : id = cltid
    · subst same
      simp [key]
    · simp [same]

/-- `drop_connection` creates the entry if it is missing, unlike the others. -/
theorem dropSection_keys (pending : PendingMap) {cltid : Int} (valid : 0 ≤ cltid) (id : Int) :
    ((dropSection pending cltid).1 id).isSome = ((pending id).isSome || id == cltid) := by
  have notNegative : ¬ cltid < 0 := by omega
  unfold dropSection
  rw [if_neg notNegative]
  dsimp only
  by_cases same : id = cltid
  · subst same
    split_ifs <;> simp
  · split_ifs <;> simp [same]

/-- The response for which `drop_connection` takes `pending_lock`. -/
def ServerAction.drops : ServerAction → Option Response
  | .respond (.drop resp _ _) => some resp
  | _ => none

namespace Server
variable {ds : Descriptors}

/-- Every key of `pending` is the id of a record that `close_connection` has not
begun to remove. -/
def Keyed (s : Server) : Prop :=
  ∀ id, (s.pending id).isSome = true →
    ∃ info ∈ s.clientInfoChain, info.ident = id ∧ s.pc.leaving ≠ some info.sockDescriptor

/-- `drop_connection` is only called for a connection that is registered and
whose entry `close_connection` has not erased. -/
def DropsRegistered (s : Server) (action : ServerAction) : Prop :=
  ∀ resp ∈ action.drops, ∃ info ∈ s.clientInfoChain, info.ident = resp.cltid ∧
    s.pc.leaving ≠ some info.sockDescriptor

instance (s : Server) (action : ServerAction) : Decidable (s.DropsRegistered action) :=
  inferInstanceAs (Decidable (∀ resp ∈ action.drops, ∃ info ∈ s.clientInfoChain, info.ident = resp.cltid ∧
    s.pc.leaving ≠ some info.sockDescriptor))

/-- A step that adds no key and begins to remove no record. -/
theorem Keyed.keep {s t : Server} (keyed : s.Keyed)
    (keys : ∀ id, (t.pending id).isSome = true → (s.pending id).isSome = true)
    (chain : ∀ info ∈ s.clientInfoChain, info ∈ t.clientInfoChain)
    (leaving : ∀ fd, t.pc.leaving = some fd → s.pc.leaving = some fd) : t.Keyed := by
  intro id key
  obtain ⟨info, member, named, stays⟩ := keyed id (keys id key)
  exact ⟨info, chain info member, named, fun left => stays (leaving _ left)⟩

/-- Two records of one descriptor are the same. -/
theorem Table.record_unique {s : Server} (table : s.Table ds) {info other : ClientInfo}
    (member : info ∈ s.clientInfoChain) (alsoMember : other ∈ s.clientInfoChain)
    (same : info.sockDescriptor = other.sockDescriptor) : info = other :=
  List.inj_on_of_nodup_map table.containers.distinct member alsoMember same

/-- `close_connection` erases the entry of the descriptor's record, if there is one. -/
theorem closeSection_cases (s : Server) (fd : Nat) (id : Int) :
    (s.closeSection fd id = s.pending id ∧ ∀ record, s.getClientInfo fd = some record → record.ident ≠ id) ∨
    (s.closeSection fd id = none ∧ ∃ record, s.getClientInfo fd = some record ∧ record.ident = id) := by
  unfold closeSection
  cases known : s.getClientInfo fd with
  | none => exact Or.inl ⟨rfl, by simp⟩
  | some record =>
    by_cases same : record.ident = id
    · refine Or.inr ⟨?_, record, rfl, same⟩
      simp only [← same, update_self]
    · left
      refine ⟨update_of_ne (Ne.symm same) _ _, ?_⟩
      intro other found
      cases found
      exact same

/-- `close_connection` erases the entry of the record before it removes it. -/
theorem erasePending_keyed {s : Server} (table : s.Table ds) (keyed : s.Keyed) (fd : Nat) (ready : List Nat) :
    Keyed { s with pending := s.closeSection fd, pausedFds := s.pausedFds.erase fd
                   pc := .deregistering fd ready } := by
  intro id key
  rcases s.closeSection_cases fd id with ⟨kept, differ⟩ | ⟨erased, _⟩
  · change (s.closeSection fd id).isSome = true at key
    rw [kept] at key
    obtain ⟨info, member, named, _⟩ := keyed id key
    refine ⟨info, member, named, ?_⟩
    intro left
    have socket : info.sockDescriptor = fd := (Option.some.inj left).symm
    cases known : s.getClientInfo fd with
    | none =>
      have unlisted := List.find?_eq_none.mp known info member
      exact unlisted (by simpa using socket)
    | some record =>
      obtain ⟨listed, alsoSocket⟩ := getClientInfo_some known
      have same := table.record_unique member listed (socket.trans alsoSocket.symm)
      exact differ record known (same ▸ named)
  · change (s.closeSection fd id).isSome = true at key
    rw [erased] at key
    cases key

theorem deregister_keyed {s : Server} (keyed : s.Keyed) {fd : Nat} {ready : List Nat}
    (here : s.pc = .deregistering fd ready) :
    Keyed { s with clientInfoChain := s.clientInfoChain.eraseP fun info => info.sockDescriptor == fd } := by
  intro id key
  obtain ⟨info, member, named, stays⟩ := keyed id key
  have differ : info.sockDescriptor ≠ fd := by
    intro same
    apply stays
    rw [here, same]
    rfl
  exact ⟨info, mem_eraseP_of_ne member differ, named, stays⟩

/-- A request is only admitted for the record at hand. -/
theorem admission_keyed {s : Server} (identity : s.Identity) (keyed : s.Keyed) {fd queued : Nat}
    {info : ClientInfo} {caller : QueueCaller} (here : s.pc = .admitting fd info queued caller) :
    (s.admission fd info queued caller).Keyed := by
  obtain ⟨member, _⟩ := identity.held fd info (by rw [here]; rfl)
  have created : ∀ (p : ConnPending) (t : Server), t.pending = update s.pending info.ident (some p) →
      t.clientInfoChain = s.clientInfoChain → t.pc.leaving = none → t.Keyed := by
    intro p t changed chain leaving id key
    rw [changed] at key
    rw [chain, leaving]
    by_cases same : id = info.ident
    · exact ⟨info, member, same.symm, by simp⟩
    · rw [update_of_ne same] at key
      obtain ⟨other, known, named, _⟩ := keyed id key
      exact ⟨other, known, named, by simp⟩
  rcases s.admission_cases fd info queued caller with
    ⟨_, result⟩ | ⟨_, _, _, result⟩ | ⟨_, _, _, _, result⟩ | ⟨_, _, _, _, result⟩ <;> rw [result]
  · refine keyed.keep (fun _ => id) (fun _ => id) ?_
    intro other left
    rw [afterQueueing_leaving] at left
    cases left
  · exact keyed.keep (fun _ => id) (fun _ => id) (by simp [ListenPc.leaving])
  · exact created _ _ rfl rfl (afterQueueing_leaving ..)
  · exact created _ _ rfl rfl rfl

theorem listenStep_keyed {s t : Server} (table : s.Table ds) (identity : s.Identity) (keyed : s.Keyed)
    {action : ListenAction} (run : s.listenStep ds action = some t) : t.Keyed := by
  by_cases leaves : action.leaves = true
  · cases action <;> first | (cases leaves; done) | simp only [listenStep, onlyIf_eq_some] at run
    case erasePending fd ready =>
      obtain ⟨_, rfl⟩ := run
      exact erasePending_keyed table keyed fd ready
    case deregister fd ready =>
      obtain ⟨here, rfl⟩ := run
      cases s.getClientInfo fd with
      | none => exact keyed.keep (fun _ => id) (fun _ => id) (by rw [here]; exact fun _ => id)
      | some info => exact deregister_keyed keyed here
  have leaving := (listenStep_flow table.located.holding run).leaving (Bool.eq_false_of_not_eq_true leaves)
  by_cases accounting : action.accounting = true
  · cases action <;> first | (cases accounting; done) | simp only [listenStep, onlyIf_eq_some] at run
    case admission fd info queued caller =>
      obtain ⟨here, rfl⟩ := run
      exact admission_keyed identity keyed here
    case release fd info queued caller =>
      obtain ⟨_, rfl⟩ := run
      refine keyed.keep ?_ (fun _ => id) (by simp [leaving])
      intro id key
      rwa [responseDoneSection_keys] at key
    case erasePending => exact absurd rfl leaves
  have pending := (listenStep_frame run).pending (Bool.eq_false_of_not_eq_true accounting)
  refine keyed.keep (by rw [pending]; exact fun _ => id) ?_
    (by simp [leaving])
  by_cases inward : action.inward = true
  · rw [((listenStep_frame run).outside inward).chain]
    exact fun _ => id
  · cases action <;> first | exact absurd rfl inward | simp only [listenStep, onlyIf_eq_some] at run
    case register newSd ready conn port ip put =>
      obtain ⟨_, rfl⟩ := run
      intro info member
      cases put with
      | true => exact List.mem_append_left _ member
      | false => exact member
    case sendProtocolError fd ready conn count =>
      obtain ⟨_, rfl⟩ := run
      split_ifs <;> exact fun _ => id
    case deregister => exact absurd rfl leaves
    all_goals
      obtain ⟨_, rfl⟩ := run
      exact fun _ => id

theorem responseStep_keyed {s t : Server} (identity : s.Identity) (keyed : s.Keyed)
    {action : ResponseAction} (registered : s.DropsRegistered (.respond action))
    (run : s.responseStep ds action = some t) : t.Keyed := by
  have frame := responseStep_frame run
  have keep : (∀ id, (t.pending id).isSome = true → (s.pending id).isSome = true) → t.Keyed := by
    intro keys
    refine keyed.keep keys ?_ ?_
    · rw [frame.listen.chain]
      exact fun _ => id
    · rw [frame.listen.pc]
      exact fun _ => id
  by_cases accounting : action.accounting = true
  · cases action <;> first | (cases accounting; done) | simp only [responseStep, onlyIf_eq_some] at run
    case sendWaited resp dup waitedMs now =>
      obtain ⟨_, rfl⟩ := run
      apply keep
      intro id key
      rwa [overSendWaitBudget_keys] at key
    case responseDone resp =>
      obtain ⟨_, rfl⟩ := run
      apply keep
      intro id key
      rwa [responseDoneSection_keys] at key
    case drop resp dup sent =>
      obtain ⟨here, rfl⟩ := run
      obtain ⟨info, member, named, stays⟩ := registered resp rfl
      have positive := (identity.range.2 info (identity.issued info member)).1
      intro id key
      rw [dropSection_keys s.pending (show 0 ≤ resp.cltid by omega), Bool.or_eq_true, beq_iff_eq] at key
      rcases key with old | same
      · exact keyed id old
      · exact ⟨info, member, named.trans same.symm, stays⟩
  · apply keep
    rw [frame.pending (Bool.eq_false_of_not_eq_true accounting)]
    exact fun _ => id

theorem step_keyed {s t : Server} (table : s.Table ds) (identity : s.Identity) (keyed : s.Keyed)
    {action : ServerAction} (registered : s.DropsRegistered action) (run : s.step ds action = some t) :
    t.Keyed := by
  cases action with
  | listen action => exact listenStep_keyed table identity keyed run
  | respond action => exact responseStep_keyed identity keyed registered run
  | outside action =>
    obtain ⟨pc, _, chain, pending, _⟩ := outsideStep_frame run
    exact keyed.keep (by rw [pending]; exact fun _ => id) (by rw [chain]; exact fun _ => id)
      (by rw [pc]; exact fun _ => id)

/-- While no connection is dropped after `close_connection` erased its entry,
every key of `pending` is the id of a registered connection. -/
theorem pending_registered {clientIdent : Nat} {s : Server}
    (reach : Reach (step ds) DropsRegistered (start ds clientIdent) s) :
    ∀ id, (s.pending id).isSome = true → ∃ info ∈ s.clientInfoChain, info.ident = id := by
  have keyed : s.Keyed := reach.invariant_with
    (fun _ before => And.intro (reach_table before) (reach_identity before)) (fun _ impossible => by cases impossible)
    fun _ _ _ known keyed registered run => step_keyed known.1 known.2 keyed registered run
  intro id key
  obtain ⟨info, member, named, _⟩ := keyed id key
  exact ⟨info, member, named⟩

theorem pending_registered_asking :
    ∃ s : Server, (s.pending 1).isSome = true ∧ ∃ info ∈ s.clientInfoChain, info.ident = 1 := by
  obtain ⟨s, reach, key⟩ := exists_reach (step sampleDescriptors) DropsRegistered (start sampleDescriptors 0)
    (greeting ++ asking) (fun s => (s.pending 1).isSome = true) (by decide)
  exact ⟨s, key, pending_registered reach 1 key⟩

/-- The client leaves while its response is being sent. The listen thread closes
the connection and erases its entry, and then the failing `send` makes
`drop_connection` create the entry again. -/
theorem pending_outlives_connection :
    ∃ s, Reach (step sampleDescriptors) AllocationSucceeds (start sampleDescriptors 0) s ∧
      s.pc = .scanning [] ∧ s.clientInfoChain = [] ∧ (s.pending 1).isSome = true :=
  exists_reach (step sampleDescriptors) AllocationSucceeds (start sampleDescriptors 0)
    (greeting ++ asking ++ answering ++
      [.listen (.recvEnds 7 []), .listen (.erasePending 7 []), .listen (.deregister 7 []),
       .listen (.deregister 7 []), .listen (.closeSocket 7 []), .respond (.sendFails sampleResponse 8 0),
       .respond (.drop sampleResponse 8 0)])
    (fun s => s.pc = .scanning [] ∧ s.clientInfoChain = [] ∧ (s.pending 1).isSome = true) (by decide)

end Server
end JsonRpcTcp
