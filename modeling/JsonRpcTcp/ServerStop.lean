import JsonRpcTcp.ServerConnections

namespace JsonRpcTcp
open Function

/-- `stop_listening` at work. `closed` is not in the source: the calls of `close` in their order. -/
structure Stopping where
  server : Server
  closed : List Nat

namespace Server
variable (ds : Descriptors)

/-- `close_connection`, as `stop_listening` calls it when the threads have ended. -/
def closeConnection (s : Server) (fd : Nat) : Server :=
  { s with
    pending := s.closeSection fd
    pausedFds := s.pausedFds.erase fd
    clientInfoChain := s.clientInfoChain.filter fun info => info.sockDescriptor != fd
    framers := update s.framers fd none
    fdTable := update s.fdTable fd none }

/-- The loop over the copy of `paused_fds`, which the set gives in ascending order. -/
def closePaused (s : Server) : Stopping :=
  { server := s.pausedFds.sort.foldl closeConnection s, closed := s.pausedFds.sort }

/-- The three calls of `remove_all`. -/
def removeChains (s : Server) : Server := { s with requestChain := [], responseChain := [], clientInfoChain := [] }

/-- One round of the loop up to `max_sd`. -/
def closeListed (sofar : Stopping) (fd : Nat) : Stopping :=
  if fd ∈ sofar.server.masterSet then
    { server := if fd = ds.listenSd ∨ fd = ds.wakeIn then sofar.server else sofar.server.closeConnection fd
      closed := sofar.closed ++ [fd] }
  else sofar

/-- `stop_listening` after the two threads were stopped. -/
def stopListening (s : Server) : Stopping :=
  let afterPaused := s.closePaused
  let listed := (List.range (s.maxSd + 1)).foldl (closeListed ds)
    { server := afterPaused.server.removeChains, closed := afterPaused.closed }
  { server := { listed.server with pending := fun _ => none }, closed := listed.closed ++ [ds.wakeOut] }

variable {ds}

/-- Every open descriptor is one of a client or the private dup of the response thread, and the
kernel gave none the number of a descriptor of the server itself. -/
structure Owned (ds : Descriptors) (s : Server) : Prop where
  owner : ∀ fd, (s.fdTable fd).isSome = true → s.Client fd ∨ s.respPc.dup = some fd
  foreign : ∀ fd, (s.fdTable fd).isSome = true → fd ≠ ds.listenSd ∧ fd ≠ ds.wakeIn ∧ fd ≠ ds.wakeOut

theorem owned_start (clientIdent : Nat) : (start ds clientIdent).Owned ds where
  owner := by simp [start]
  foreign := by simp [start]

/-- A step that opens nothing and takes no descriptor from its owner. -/
theorem Owned.keep {s t : Server} (owned : s.Owned ds) (fdTable : t.fdTable = s.fdTable)
    (clients : ∀ fd, s.Client fd → t.Client fd) (dup : t.respPc.dup = s.respPc.dup) : t.Owned ds where
  owner fd isOpen := by
    rw [fdTable] at isOpen
    rw [dup]
    exact (owned.owner fd isOpen).imp_left (clients fd)
  foreign fd isOpen := by
    rw [fdTable] at isOpen
    exact owned.foreign fd isOpen

/-- A client stays one unless it is closed. -/
theorem listenStep_client_stays {s t : Server} (table : s.Table ds) {action : ListenAction}
    (run : s.listenStep ds action = some t) (closes : ∀ fd ready, action ≠ .closeSocket fd ready) (fd : Nat)
    (client : s.Client fd) : t.Client fd := by
  by_cases registers : ∀ newSd ready conn port ip put, action ≠ .register newSd ready conn port ip put
  · rcases client with framed | joining
    · left
      rw [listenStep_framed table run registers closes fd]
      exact framed
    · -- the only step from `registering` is `register`
      have flow := listenStep_flow table.located.holding run
      cases here : s.pc with
      | registering newSd ready =>
        rw [here] at flow
        generalize t.pc = next at flow
        cases flow
        exact absurd rfl (registers _ _ _ _ _ _)
      | _ =>
        rw [here] at joining
        cases joining
  · push Not at registers
    obtain ⟨newSd, ready, conn, port, ip, put, rfl⟩ := registers
    simp only [listenStep, onlyIf_eq_some] at run
    obtain ⟨⟨here, _⟩, rfl⟩ := run
    left
    by_cases same : fd = newSd
    · subst same
      simp [register]
    · simp only [register, update_of_ne same]
      refine client.resolve_right fun joining => same ?_
      rw [here] at joining
      exact (Option.some.inj joining).symm

theorem listenStep_owned {s t : Server} (table : s.Table ds) (owned : s.Owned ds) {action : ListenAction}
    (run : s.listenStep ds action = some t) : t.Owned ds := by
  by_cases closes : ∀ fd ready, action ≠ .closeSocket fd ready
  · by_cases accepts : ∀ newSd ready, action ≠ .accept newSd ready
    · have respPc : t.respPc = s.respPc := by
        by_cases takes : ∀ fd paused caller request, action ≠ .takeRequest fd paused caller request
        · exact (listenStep_consumer run takes).2.2
        · push Not at takes
          obtain ⟨fd, paused, caller, request, rfl⟩ := takes
          simp only [listenStep, onlyIf_eq_some] at run
          obtain ⟨_, rfl⟩ := run
          rfl
      exact owned.keep (listenStep_fdTable run accepts closes) (listenStep_client_stays table run closes) (by rw [respPc])
    · push Not at accepts
      obtain ⟨newSd, ready, rfl⟩ := accepts
      have clients := listenStep_client_stays table run closes
      simp only [listenStep, onlyIf_eq_some] at run
      obtain ⟨⟨here, fresh, _⟩, rfl⟩ := run
      refine ⟨fun fd isOpen => ?_, fun fd isOpen => ?_⟩
      · by_cases same : fd = newSd
        · subst same
          exact .inl (.inr rfl)
        · simp only [update_of_ne same] at isOpen
          exact (owned.owner fd isOpen).imp_left (clients fd)
      · by_cases same : fd = newSd
        · subst same
          exact fresh.2
        · simp only [update_of_ne same] at isOpen
          exact owned.foreign fd isOpen
  · push Not at closes
    obtain ⟨closed, ready, rfl⟩ := closes
    simp only [listenStep, onlyIf_eq_some] at run
    obtain ⟨here, rfl⟩ := run
    refine ⟨fun fd isOpen => ?_, fun fd isOpen => ?_⟩
    · have other : fd ≠ closed := by
        rintro rfl
        simp at isOpen
      simp only [update_of_ne other] at isOpen
      refine (owned.owner fd isOpen).imp_left fun client => .inl ?_
      simp only [update_of_ne other]
      refine client.resolve_right fun joining => ?_
      rw [here] at joining
      cases joining
    · have other : fd ≠ closed := by
        rintro rfl
        simp at isOpen
      simp only [update_of_ne other] at isOpen
      exact owned.foreign fd isOpen

theorem responseStep_owned {s t : Server} (owned : s.Owned ds) {action : ResponseAction}
    (run : s.responseStep ds action = some t) : t.Owned ds := by
  cases action <;> simp only [responseStep, onlyIf_eq_some] at run
  case dup resp newFd =>
    obtain ⟨⟨here, fresh⟩, rfl⟩ := run
    have free : s.respPc.dup = none := by rw [here]; rfl
    split_ifs
    · cases newFd with
      | none => exact owned.keep rfl (fun _ client => client) (by rw [free]; rfl)
      | some fd =>
        cases s.fdTable resp.sockDescriptor with
        | none => exact owned.keep rfl (fun _ client => client) (by rw [free]; rfl)
        | some conn =>
          refine ⟨fun other isOpen => ?_, fun other isOpen => ?_⟩
          · by_cases same : other = fd
            · subst same
              exact .inr rfl
            · simp only [update_of_ne same] at isOpen
              exact .inl ((owned.owner other isOpen).resolve_right (by simp [free]))
          · by_cases same : other = fd
            · subst same
              exact (fresh other rfl).2
            · simp only [update_of_ne same] at isOpen
              exact owned.foreign other isOpen
    · exact owned.keep rfl (fun _ client => client) (by rw [free]; rfl)
  case closeDup resp fd =>
    obtain ⟨here, rfl⟩ := run
    have own : s.respPc.dup = some fd := by rw [here]; rfl
    refine ⟨fun other isOpen => ?_, fun other isOpen => ?_⟩
    · have differ : other ≠ fd := by
        rintro rfl
        simp at isOpen
      simp only [update_of_ne differ] at isOpen
      exact .inl ((owned.owner other isOpen).resolve_right fun mine => differ (Option.some.inj (mine.symm.trans own)))
    · have differ : other ≠ fd := by
        rintro rfl
        simp at isOpen
      simp only [update_of_ne differ] at isOpen
      exact owned.foreign other isOpen
  case checkDead =>
    obtain ⟨here, rfl⟩ := run
    refine owned.keep rfl (fun _ client => client) ?_
    rw [here]
    simp only
    split_ifs <;> rfl
  case sendWaited =>
    obtain ⟨here, rfl⟩ := run
    refine owned.keep rfl (fun _ client => client) ?_
    rw [here]
    simp only
    split_ifs <;> rfl
  case shutdown =>
    obtain ⟨⟨here, _⟩, rfl⟩ := run
    refine owned.keep rfl (fun _ client => client) ?_
    rw [here]
    simp only
    split_ifs <;> rfl
  case responseDone =>
    obtain ⟨here, rfl⟩ := run
    refine owned.keep rfl (fun _ client => client) ?_
    rw [here]
    simp only
    split_ifs <;> rfl
  case drop =>
    obtain ⟨here, rfl⟩ := run
    exact owned.keep rfl (fun _ client => client) (by rw [here]; rfl)
  all_goals
    obtain ⟨here, rfl⟩ := run
    exact owned.keep rfl (fun _ client => client) (by simp [here, ResponsePc.dup])

theorem step_owned {s t : Server} (table : s.Table ds) (owned : s.Owned ds) {action : ServerAction}
    (run : s.step ds action = some t) : t.Owned ds := by
  cases action with
  | listen action => exact listenStep_owned table owned run
  | respond action => exact responseStep_owned owned run
  | outside action =>
    cases action <;> simp only [step, outsideStep, onlyIf_eq_some, Option.some.injEq] at run
    case schedule request text put =>
      obtain ⟨_, rfl⟩ := run
      cases put <;> exact owned.keep rfl (fun _ client => client) rfl
    case requestStop =>
      subst run
      exact owned.keep rfl (fun _ client => client) rfl
    case stopWake =>
      obtain ⟨_, rfl⟩ := run
      exact owned.keep rfl (fun _ client => client) rfl

theorem reach_owned {allow : Server → ServerAction → Prop} {clientIdent : Nat} {s : Server}
    (reach : Reach (step ds) allow (start ds clientIdent) s) : s.Owned ds :=
  reach.invariant_with (fun _ => reach_table) (owned_start clientIdent)
    fun _ _ _ table owned _ run => step_owned table owned run

/-- The second state is the first after `close_connection` of these descriptors. -/
structure Shut (gone : List Nat) (s t : Server) : Prop where
  masterSet : t.masterSet = s.masterSet
  maxSd : t.maxSd = s.maxSd
  fdTable : ∀ fd, t.fdTable fd = if fd ∈ gone then none else s.fdTable fd
  framers : ∀ fd, t.framers fd = if fd ∈ gone then none else s.framers fd
  pausedFds : ∀ fd ∈ t.pausedFds, fd ∈ s.pausedFds ∧ fd ∉ gone
  records : ∀ info ∈ t.clientInfoChain, info ∈ s.clientInfoChain
  requestChain : t.requestChain = s.requestChain
  responseChain : t.responseChain = s.responseChain
  clientIdent : t.clientIdent = s.clientIdent
  requestIdent : t.requestIdent = s.requestIdent
  taken : t.taken = s.taken

theorem Shut.refl (s : Server) : Shut [] s s where
  masterSet := rfl
  maxSd := rfl
  fdTable _ := (if_neg List.not_mem_nil).symm
  framers _ := (if_neg List.not_mem_nil).symm
  pausedFds _ member := ⟨member, List.not_mem_nil⟩
  records _ member := member
  requestChain := rfl
  responseChain := rfl
  clientIdent := rfl
  requestIdent := rfl
  taken := rfl

/-- One more entry of a table is gone. -/
theorem update_gone {α : Type} {table before : Nat → Option α} {gone : List Nat}
    (known : ∀ fd, table fd = if fd ∈ gone then none else before fd) (closed fd : Nat) :
    update table closed none fd = if fd ∈ gone ++ [closed] then none else before fd := by
  by_cases same : fd = closed
  · subst same
    simp
  · simp [known fd, same]

theorem Shut.close {gone : List Nat} {s t : Server} (shut : Shut gone s t) (fd : Nat) :
    Shut (gone ++ [fd]) s (t.closeConnection fd) where
  masterSet := shut.masterSet
  maxSd := shut.maxSd
  fdTable := update_gone shut.fdTable fd
  framers := update_gone shut.framers fd
  pausedFds other member := by
    obtain ⟨differ, old⟩ := Finset.mem_erase.mp member
    obtain ⟨was, kept⟩ := shut.pausedFds other old
    exact ⟨was, by simp [kept, differ]⟩
  records info member := shut.records info (List.mem_filter.mp member).1
  requestChain := shut.requestChain
  responseChain := shut.responseChain
  clientIdent := shut.clientIdent
  requestIdent := shut.requestIdent
  taken := shut.taken

theorem Shut.foldl {gone : List Nat} {s t : Server} (shut : Shut gone s t) (fds : List Nat) :
    Shut (gone ++ fds) s (fds.foldl closeConnection t) := by
  induction fds generalizing gone t with
  | nil => simpa using shut
  | cons fd rest ih => simpa using ih (shut.close fd)

/-- What the loop up to `max_sd` closes with `close_connection`. -/
def listedClients (ds : Descriptors) (s : Server) (fds : List Nat) : List Nat :=
  fds.filter fun fd => fd ∈ s.masterSet ∧ ¬ (fd = ds.listenSd ∨ fd = ds.wakeIn)

theorem Shut.closeListed {gone : List Nat} {s : Server} {sofar : Stopping} (shut : Shut gone s sofar.server) (fds : List Nat) :
    Shut (gone ++ s.listedClients ds fds) s (fds.foldl (Server.closeListed ds) sofar).server ∧
      (fds.foldl (Server.closeListed ds) sofar).closed = sofar.closed ++ fds.filter (· ∈ s.masterSet) := by
  induction fds generalizing gone sofar with
  | nil => exact ⟨by simpa [listedClients] using shut, by simp⟩
  | cons fd rest ih =>
    rw [List.foldl_cons, listedClients, List.filter_cons, List.filter_cons]
    by_cases listed : fd ∈ s.masterSet
    · have round : Server.closeListed ds sofar fd =
          { server := if fd = ds.listenSd ∨ fd = ds.wakeIn then sofar.server else sofar.server.closeConnection fd
            closed := sofar.closed ++ [fd] } := if_pos (shut.masterSet ▸ listed)
      rw [round]
      by_cases own : fd = ds.listenSd ∨ fd = ds.wakeIn
      · obtain ⟨shut', closed⟩ := @ih gone
          { server := if fd = ds.listenSd ∨ fd = ds.wakeIn then sofar.server else sofar.server.closeConnection fd
            closed := sofar.closed ++ [fd] } (by rw [if_pos own]; exact shut)
        exact ⟨by simpa [own, listedClients] using shut', by simpa [listed] using closed⟩
      · obtain ⟨shut', closed⟩ := @ih (gone ++ [fd])
          { server := if fd = ds.listenSd ∨ fd = ds.wakeIn then sofar.server else sofar.server.closeConnection fd
            closed := sofar.closed ++ [fd] } (by rw [if_neg own]; exact shut.close fd)
        exact ⟨by simpa [own, listed, listedClients] using shut', by simpa [listed] using closed⟩
    · have round : Server.closeListed ds sofar fd = sofar := if_neg (shut.masterSet ▸ listed)
      rw [round]
      obtain ⟨shut', closed⟩ := ih shut
      exact ⟨by simpa [listed, listedClients] using shut', by simpa [listed] using closed⟩

theorem Shut.clear {gone : List Nat} {s t : Server} (shut : Shut gone s t) (pending : PendingMap) :
    Shut gone s { t with pending := pending } where
  masterSet := shut.masterSet
  maxSd := shut.maxSd
  fdTable := shut.fdTable
  framers := shut.framers
  pausedFds := shut.pausedFds
  records := shut.records
  requestChain := shut.requestChain
  responseChain := shut.responseChain
  clientIdent := shut.clientIdent
  requestIdent := shut.requestIdent
  taken := shut.taken

theorem closePaused_shut (s : Server) : Shut s.pausedFds.sort s s.closePaused.server :=
  (List.nil_append s.pausedFds.sort) ▸ (Shut.refl s).foldl s.pausedFds.sort

/-- The second loop of `stop_listening`, and all calls of `close`. -/
theorem stopListening_shut (ds : Descriptors) (s : Server) :
    Shut (s.listedClients ds (List.range (s.maxSd + 1))) s.closePaused.server.removeChains (stopListening ds s).server ∧
      (stopListening ds s).closed =
        s.pausedFds.sort ++ (List.range (s.maxSd + 1)).filter (· ∈ s.masterSet) ++ [ds.wakeOut] := by
  have paused := s.closePaused_shut
  have masterSet : s.closePaused.server.removeChains.masterSet = s.masterSet := paused.masterSet
  have begun : Shut [] s.closePaused.server.removeChains
      (Stopping.mk s.closePaused.server.removeChains s.closePaused.closed).server := .refl _
  obtain ⟨shut, closed⟩ := @Shut.closeListed ds _ _ _ begun (List.range (s.maxSd + 1))
  refine ⟨?_, ?_⟩
  · simp only [listedClients, masterSet, List.nil_append] at shut
    exact shut.clear _
  · rw [masterSet] at closed
    exact congrArg (· ++ [ds.wakeOut]) closed

/-- When the two threads have ended, `stop_listening` closes every descriptor of the server once and no
other: each open connection, also the paused ones that `select` no longer watches, the
listening socket and both ends of the wake pipe. Nothing of the run is left in the tables. -/
theorem stop_listening_closes_all {clientIdent : Nat} {s : Server}
    (reach : Reach (step ds) (fun _ _ => True) (start ds clientIdent) s) (exited : s.pc = .exited)
    (idle : s.respPc = .idle) (apart : ds.wakeOut ≠ ds.listenSd ∧ ds.wakeOut ≠ ds.wakeIn) :
    (stopListening ds s).closed.Nodup ∧
    (∀ fd, fd ∈ (stopListening ds s).closed ↔
      (s.fdTable fd).isSome = true ∨ fd = ds.listenSd ∨ fd = ds.wakeIn ∨ fd = ds.wakeOut) ∧
    (∀ fd, (stopListening ds s).server.fdTable fd = none ∧ (stopListening ds s).server.framers fd = none ∧
      (stopListening ds s).server.pending fd = none) ∧
    (stopListening ds s).server.pausedFds = ∅ ∧ (stopListening ds s).server.clientInfoChain = [] ∧
    (stopListening ds s).server.requestChain = [] ∧ (stopListening ds s).server.responseChain = [] := by
  have containers := (reach_table reach).containers
  have owned := reach_owned reach
  rw [exited] at containers
  have framed : ∀ fd, (s.framers fd).isSome = true ↔
      (fd ∈ s.masterSet ∧ fd ≠ ds.listenSd ∧ fd ≠ ds.wakeIn) ∨ fd ∈ s.pausedFds := fun fd => by
    simpa [ListenPc.moving] using containers.owned fd
  -- a connection is open just when the listen thread has a framer for it
  have isOpen : ∀ fd, (s.fdTable fd).isSome = true ↔ (s.framers fd).isSome = true := fun fd => by
    refine ⟨fun isOpen => ?_, fun key => (containers.client fd key).2.2.2⟩
    rcases owned.owner fd isOpen with (framed | joining) | own
    · exact framed
    · rw [exited] at joining
      cases joining
    · rw [idle] at own
      cases own
  have inRange : ∀ fd ∈ s.masterSet, fd ∈ List.range (s.maxSd + 1) := fun fd member =>
    List.mem_range.mpr (Nat.lt_succ_of_le (containers.bounded fd member))
  have paused := s.closePaused_shut
  obtain ⟨shut, closed⟩ := s.stopListening_shut ds
  have gone : ∀ fd, (s.framers fd).isSome = true →
      fd ∈ s.listedClients ds (List.range (s.maxSd + 1)) ∨ fd ∈ s.pausedFds.sort := fun fd key => by
    rcases (framed fd).mp key with ⟨member, notListen, notWake⟩ | member
    · exact .inl (List.mem_filter.mpr ⟨inRange fd member, by simp [member, notListen, notWake]⟩)
    · exact .inr ((Finset.mem_sort _).mpr member)
  have emptied : ∀ {α : Type} (before between after : Nat → Option α),
      (∀ fd, after fd = if fd ∈ s.listedClients ds (List.range (s.maxSd + 1)) then none else between fd) →
      (∀ fd, between fd = if fd ∈ s.pausedFds.sort then none else before fd) →
      (∀ fd, (before fd).isSome = true → (s.framers fd).isSome = true) → ∀ fd, after fd = none := by
    intro α before between after second first known fd
    rw [second, first]
    split_ifs with one two
    · rfl
    · rfl
    · refine Option.not_isSome_iff_eq_none.mp fun some => ?_
      exact (gone fd (known fd some)).elim one two
  refine ⟨?_, fun fd => ?_, fun fd => ⟨?_, ?_, rfl⟩, ?_, ?_, shut.requestChain, shut.responseChain⟩
  · rw [closed, List.nodup_append, List.nodup_append]
    refine ⟨⟨Finset.sort_nodup _ _, List.nodup_range.filter _, ?_⟩, List.nodup_singleton _, ?_⟩
    · rintro fd inPaused other inMaster rfl
      have member := of_decide_eq_true (List.mem_filter.mp inMaster).2
      exact (containers.apart fd member).1 ((Finset.mem_sort _).mp inPaused)
    · rintro fd before other inLast rfl
      rw [List.mem_singleton.mp inLast] at before
      -- neither a connection nor one of the other two descriptors of the server has this number
      have key : ¬ (s.framers ds.wakeOut).isSome = true := fun key =>
        (owned.foreign _ ((isOpen _).mpr key)).2.2 rfl
      rcases List.mem_append.mp before with inPaused | inMaster
      · exact key ((framed _).mpr (.inr ((Finset.mem_sort _).mp inPaused)))
      · have member := of_decide_eq_true (List.mem_filter.mp inMaster).2
        exact key ((framed _).mpr (.inl ⟨member, apart.1, apart.2⟩))
  · rw [closed, isOpen, framed]
    simp only [List.mem_append, List.mem_filter, List.mem_singleton, Finset.mem_sort, decide_eq_true_eq]
    constructor
    · rintro ((inPaused | ⟨_, member⟩) | last)
      · exact .inl (.inr inPaused)
      · by_cases listen : fd = ds.listenSd
        · exact .inr (.inl listen)
        · by_cases wake : fd = ds.wakeIn
          · exact .inr (.inr (.inl wake))
          · exact .inl (.inl ⟨member, listen, wake⟩)
      · exact .inr (.inr (.inr last))
    · rintro ((⟨member, _⟩ | inPaused) | rfl | rfl | last)
      · exact .inl (.inr ⟨inRange fd member, member⟩)
      · exact .inl (.inl inPaused)
      · exact .inl (.inr ⟨inRange _ containers.listening.1, containers.listening.1⟩)
      · exact .inl (.inr ⟨inRange _ containers.listening.2, containers.listening.2⟩)
      · exact .inr last
  · exact emptied s.fdTable _ _ shut.fdTable paused.fdTable (fun fd => (isOpen fd).mp) fd
  · exact emptied s.framers _ _ shut.framers paused.framers (fun _ => id) fd
  · refine Finset.eq_empty_of_forall_notMem fun fd member => ?_
    obtain ⟨was, _⟩ := shut.pausedFds fd member
    obtain ⟨before, kept⟩ := paused.pausedFds fd was
    exact kept ((Finset.mem_sort _).mpr before)
  · exact List.eq_nil_iff_forall_not_mem.mpr fun info member => absurd (shut.records info member) List.not_mem_nil

/-- `stop_receiving` while one client is connected. -/
def stopping : List ServerAction :=
  [.outside .requestStop, .outside (.stopWake true), .listen (.select [4])]

theorem stop_listening_closes_all_one :
    ∃ s : Server, (s.pc = .exited ∧ s.respPc = .idle ∧ s.fdTable 7 = some 0) ∧
      (stopListening sampleDescriptors s).closed.Nodup ∧
      (∀ fd, fd ∈ (stopListening sampleDescriptors s).closed ↔ (s.fdTable fd).isSome = true ∨ fd = 3 ∨ fd = 4 ∨ fd = 5) ∧
      (∀ fd, (stopListening sampleDescriptors s).server.fdTable fd = none ∧
        (stopListening sampleDescriptors s).server.framers fd = none ∧
        (stopListening sampleDescriptors s).server.pending fd = none) ∧
      (stopListening sampleDescriptors s).server.pausedFds = ∅ ∧
      (stopListening sampleDescriptors s).server.clientInfoChain = [] ∧
      (stopListening sampleDescriptors s).server.requestChain = [] ∧
      (stopListening sampleDescriptors s).server.responseChain = [] := by
  obtain ⟨s, reach, here⟩ := exists_reach (step sampleDescriptors) (fun _ _ => True) (start sampleDescriptors 0)
    (greeting ++ stopping) (fun s => s.pc = .exited ∧ s.respPc = .idle ∧ s.fdTable 7 = some 0) (by decide)
  exact ⟨s, here, stop_listening_closes_all reach here.1 here.2.1 (by decide)⟩

end Server
end JsonRpcTcp
