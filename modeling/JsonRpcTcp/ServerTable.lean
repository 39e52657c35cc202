import JsonRpcTcp.ServerCases

namespace JsonRpcTcp
open Function

/-- The descriptor that `queue_framed_requests` works on is still in
`master_set` when the receive loop called it. -/
def QueueCaller.handling (fd : Nat) : QueueCaller → Option Nat
  | .receive .. => some fd
  | .resume _ => none

/-- When `resume_paused_connections` called it, the descriptor is in no set. -/
def QueueCaller.moving (fd : Nat) : QueueCaller → Option Nat
  | .receive .. => none
  | .resume _ => some fd

def QueueCaller.ready : QueueCaller → List Nat
  | .receive _ ready => ready
  | .resume _ => []

namespace ListenPc

/-- The descriptors reported by `select` and not looked at yet. -/
def ready : ListenPc → List Nat
  | .scanning ready | .accepting ready | .registering _ ready | .receiving _ ready
  | .protocolError _ ready | .closing _ ready | .deregistering _ ready | .closeFd _ ready => ready
  | .checking _ caller | .admitting _ _ _ caller | .queueing _ _ _ caller | .releasing _ _ _ caller
  | .releaseWake _ _ caller | .notifying _ _ caller | .returning _ _ caller => caller.ready
  | .top | .resuming _ | .loopEnd | .exited => []

/-- The descriptor from `master_set` that is being served. -/
def handling : ListenPc → Option Nat
  | .receiving fd _ | .protocolError fd _ | .closing fd _ | .deregistering fd _ | .closeFd fd _ => some fd
  | .checking fd caller | .admitting fd _ _ caller | .queueing fd _ _ caller | .releasing fd _ _ caller
  | .releaseWake fd _ caller | .notifying fd _ caller | .returning fd _ caller => caller.handling fd
  | .top | .scanning _ | .accepting _ | .registering .. | .resuming _ | .loopEnd | .exited => none

/-- The descriptor between `paused_fds` and `master_set`. -/
def moving : ListenPc → Option Nat
  | .checking fd caller | .admitting fd _ _ caller | .queueing fd _ _ caller | .releasing fd _ _ caller
  | .releaseWake fd _ caller | .notifying fd _ caller | .returning fd _ caller => caller.moving fd
  | .top | .scanning _ | .accepting _ | .registering .. | .receiving .. | .protocolError .. | .closing ..
  | .deregistering .. | .closeFd .. | .resuming _ | .loopEnd | .exited => none

/-- The accepted descriptor that has no record yet. -/
def joining : ListenPc → Option Nat
  | .registering newSd _ => some newSd
  | _ => none

/-- No descriptor is joining, none has just lost its record, and no request is
about to be popped. -/
def plain : ListenPc → Bool
  | .registering .. | .closeFd .. | .queueing .. => false
  | _ => true

/-- Outside the scan over the reported descriptors. -/
def resting : ListenPc → Bool
  | .top | .resuming _ | .loopEnd | .exited => true
  | _ => false

theorem joining_of_plain {pc : ListenPc} (plain : pc.plain = true) : pc.joining = none := by
  cases pc <;> first | rfl | cases plain

end ListenPc

/-- The private dup of the response thread. -/
def ResponsePc.dup : ResponsePc → Option Nat
  | .sending _ dup _ | .dropping _ dup _ | .shutting _ dup _ _ | .dropWake _ dup | .closingDup _ dup => some dup
  | .idle | .checking _ | .dupping _ | .finishing _ | .doneWake => none

namespace Server
variable {ds : Descriptors}

/-- The containers of the listen thread agree. Without a client record a
descriptor has a framer all the same, since `chain_put` may fail. -/
structure Containers (ds : Descriptors) (s : Server) (moving : Option Nat) : Prop where
  owned : ∀ fd, (s.framers fd).isSome = true ↔
    (fd ∈ s.masterSet ∧ fd ≠ ds.listenSd ∧ fd ≠ ds.wakeIn) ∨ fd ∈ s.pausedFds ∨ moving = some fd
  listening : ds.listenSd ∈ s.masterSet ∧ ds.wakeIn ∈ s.masterSet
  client : ∀ fd, (s.framers fd).isSome = true →
    fd ≠ ds.listenSd ∧ fd ≠ ds.wakeIn ∧ fd < fdSetSize ∧ (s.fdTable fd).isSome = true
  apart : ∀ fd ∈ s.masterSet, fd ∉ s.pausedFds ∧ moving ≠ some fd
  movedOut : ∀ fd, moving = some fd → fd ∉ s.pausedFds
  bounded : ∀ fd ∈ s.masterSet, fd ≤ s.maxSd
  recorded : ∀ info ∈ s.clientInfoChain, (s.framers info.sockDescriptor).isSome = true
  distinct : (s.clientInfoChain.map ClientInfo.sockDescriptor).Nodup

/-- What the listen thread knows at a program point. -/
structure Located (ds : Descriptors) (s : Server) (pc : ListenPc) : Prop where
  ready : ∀ fd ∈ pc.ready, fd ∈ s.masterSet
  nodup : pc.ready.Nodup
  handled : ∀ fd, pc.handling = some fd →
    fd ∈ s.masterSet ∧ fd ≠ ds.listenSd ∧ fd ≠ ds.wakeIn ∧ fd ∉ pc.ready
  joined : ∀ fd, pc.joining = some fd →
    (s.framers fd).isSome = false ∧ fd ≠ ds.listenSd ∧ fd ≠ ds.wakeIn ∧ fd < fdSetSize ∧
      (s.fdTable fd).isSome = true
  unlisted : ∀ fd ready, pc = .closeFd fd ready → ∀ info ∈ s.clientInfoChain, info.sockDescriptor ≠ fd
  holding : ∀ fd info queued caller, pc = .queueing fd info queued caller → ∃ entry, s.Holds fd entry

/-- The connection table at every point of every thread. -/
structure Table (ds : Descriptors) (s : Server) : Prop where
  containers : s.Containers ds s.pc.moving
  located : s.Located ds s.pc
  private_dup : ∀ fd, s.respPc.dup = some fd →
    (s.framers fd).isSome = false ∧ s.pc.joining ≠ some fd ∧ (s.fdTable fd).isSome = true

theorem table_start (clientIdent : Nat) : (start ds clientIdent).Table ds where
  containers :=
    { owned := by simp [start, ListenPc.moving]
      listening := by simp [start]
      client := by simp [start]
      apart := by simp [start, ListenPc.moving]
      movedOut := by simp [start]
      bounded := by
        intro fd member
        simp only [start, Finset.mem_insert, Finset.mem_singleton] at member ⊢
        split_ifs <;> omega
      recorded := by simp [start]
      distinct := by simp [start] }
  located :=
    { ready := by simp [start, ListenPc.ready]
      nodup := by simp [start, ListenPc.ready]
      handled := by simp [start, ListenPc.handling]
      joined := by simp [start, ListenPc.joining]
      unlisted := by simp [start]
      holding := by simp [start] }
  private_dup := by simp [start, ResponsePc.dup]

/-- A step that leaves every container as a set of descriptors alone. -/
structure SameTable (s t : Server) : Prop where
  masterSet : t.masterSet = s.masterSet
  pausedFds : t.pausedFds = s.pausedFds
  maxSd : t.maxSd = s.maxSd
  chain : t.clientInfoChain = s.clientInfoChain
  framed : ∀ fd, (t.framers fd).isSome = (s.framers fd).isSome

theorem Containers.congr {s t : Server} {moving : Option Nat} (before : s.Containers ds moving)
    (same : s.SameTable t)
    (open_ : ∀ fd, (s.framers fd).isSome = true → (t.fdTable fd).isSome = true) :
    t.Containers ds moving where
  owned := by simpa only [same.framed, same.masterSet, same.pausedFds] using before.owned
  listening := by simpa only [same.masterSet] using before.listening
  client fd key := by
    rw [same.framed] at key
    obtain ⟨notListen, notWake, small, _⟩ := before.client fd key
    exact ⟨notListen, notWake, small, open_ fd key⟩
  apart := by simpa only [same.masterSet, same.pausedFds] using before.apart
  movedOut := by simpa only [same.pausedFds] using before.movedOut
  bounded := by simpa only [same.masterSet, same.maxSd] using before.bounded
  recorded := by simpa only [same.chain, same.framed] using before.recorded
  distinct := by simpa only [same.chain] using before.distinct

theorem Located.of {t : Server} {pc : ListenPc} (plain : pc.plain = true)
    (ready : ∀ fd ∈ pc.ready, fd ∈ t.masterSet) (nodup : pc.ready.Nodup)
    (handled : ∀ fd, pc.handling = some fd →
      fd ∈ t.masterSet ∧ fd ≠ ds.listenSd ∧ fd ≠ ds.wakeIn ∧ fd ∉ pc.ready) : t.Located ds pc where
  ready := ready
  nodup := nodup
  handled := handled
  joined fd here := by cases pc <;> simp_all [ListenPc.joining, ListenPc.plain]
  unlisted fd ready here := by
    rw [here] at plain
    cases plain
  holding fd info queued caller here := by
    rw [here] at plain
    cases plain

/-- A point outside the scan needs to know nothing. -/
theorem Located.resting {t : Server} {pc : ListenPc} (resting : pc.resting = true) : t.Located ds pc := by
  have idle : pc.ready = [] ∧ pc.handling = none := by cases pc <;> first | exact ⟨rfl, rfl⟩ | cases resting
  have plain : pc.plain = true := by cases pc <;> first | rfl | cases resting
  exact Located.of plain (by simp [idle.1]) (by simp [idle.1]) (by simp [idle.2])

/-- No framer and no descriptor changes hands: the private dup stays private. -/
theorem Table.dup_stays {s t : Server} (table : s.Table ds)
    (framed : ∀ fd, (t.framers fd).isSome = (s.framers fd).isSome) (fdTable : t.fdTable = s.fdTable)
    (respPc : t.respPc = s.respPc) (joining : t.pc.joining = none) (fd : Nat) (here : t.respPc.dup = some fd) :
    (t.framers fd).isSome = false ∧ t.pc.joining ≠ some fd ∧ (t.fdTable fd).isSome = true := by
  rw [respPc] at here
  obtain ⟨unframed, _, isOpen⟩ := table.private_dup fd here
  rw [framed, fdTable, joining]
  exact ⟨unframed, by simp, isOpen⟩

/-- The listen thread moves on to a plain point without touching the containers. -/
theorem Table.relocate {s t : Server} (table : s.Table ds) (same : s.SameTable t)
    (fdTable : t.fdTable = s.fdTable) (respPc : t.respPc = s.respPc) (plain : t.pc.plain = true)
    (moving : t.pc.moving = s.pc.moving) (ready : t.pc.ready.Sublist s.pc.ready)
    (handled : ∀ fd, t.pc.handling = some fd →
      fd ∈ s.masterSet ∧ fd ≠ ds.listenSd ∧ fd ≠ ds.wakeIn ∧ fd ∉ t.pc.ready) : t.Table ds where
  containers := by
    rw [moving]
    exact table.containers.congr same fun fd key => by
      rw [fdTable]
      exact (table.containers.client fd key).2.2.2
  located := by
    apply Located.of plain _ (ready.nodup table.located.nodup)
    · rw [same.masterSet]
      exact handled
    · intro fd member
      rw [same.masterSet]
      exact table.located.ready fd (ready.subset member)
  private_dup := table.dup_stays same.framed fdTable respPc (ListenPc.joining_of_plain plain)

theorem framed_update {framers : Nat → Option FramerEntry} {fd : Nat} (key : (framers fd).isSome = true)
    (entry : FramerEntry) (other : Nat) :
    (update framers fd (some entry) other).isSome = (framers other).isSome := by
  rcases eq_or_ne other fd with same | differ
  · rw [same, update_self, key, Option.isSome_some]
  · rw [update_of_ne differ]

/-- `queue_framed_requests` keeps the descriptor and its caller until it returns. -/
theorem Table.within_queue {s t : Server} (table : s.Table ds) (same : s.SameTable t)
    (fdTable : t.fdTable = s.fdTable) (respPc : t.respPc = s.respPc) (plain : t.pc.plain = true)
    (moving : t.pc.moving = s.pc.moving) (ready : t.pc.ready = s.pc.ready)
    (handling : t.pc.handling = s.pc.handling) : t.Table ds := by
  apply table.relocate same fdTable respPc plain moving (ready ▸ List.Sublist.refl _)
  rw [handling, ready]
  exact table.located.handled

/-- The scan over the reported descriptors is over. -/
theorem Table.rest {s t : Server} (table : s.Table ds) (same : s.SameTable t)
    (fdTable : t.fdTable = s.fdTable) (respPc : t.respPc = s.respPc) (still : s.pc.moving = none)
    (resting : t.pc.resting = true) : t.Table ds := by
  apply table.relocate same fdTable respPc
  all_goals cases point : t.pc <;> rw [point] at resting <;> cases resting
  all_goals first | rfl | exact still.symm | exact List.nil_sublist _ | simp [ListenPc.handling]

@[simp] theorem afterQueueing_ready (fd queued : Nat) (paused : Bool) (caller : QueueCaller) :
    (afterQueueing fd queued paused caller).ready = caller.ready := by
  unfold afterQueueing
  split_ifs <;> rfl

@[simp] theorem afterQueueing_handling (fd queued : Nat) (paused : Bool) (caller : QueueCaller) :
    (afterQueueing fd queued paused caller).handling = caller.handling fd := by
  unfold afterQueueing
  split_ifs <;> rfl

@[simp] theorem afterQueueing_moving (fd queued : Nat) (paused : Bool) (caller : QueueCaller) :
    (afterQueueing fd queued paused caller).moving = caller.moving fd := by
  unfold afterQueueing
  split_ifs <;> rfl

@[simp] theorem afterQueueing_plain (fd queued : Nat) (paused : Bool) (caller : QueueCaller) :
    (afterQueueing fd queued paused caller).plain = true := by
  unfold afterQueueing
  split_ifs <;> rfl

theorem checkConnection_table {s : Server} (table : s.Table ds) {fd : Nat} {caller : QueueCaller}
    (here : s.pc = .checking fd caller) : (s.checkConnection fd caller).Table ds := by
  rcases s.checkConnection_cases fd caller with
    ⟨_, result⟩ | ⟨entry, holds, _, result⟩ | ⟨_, info, _, _, _, result⟩ <;> rw [result]
  · exact table.within_queue ⟨rfl, rfl, rfl, rfl, fun _ => rfl⟩ rfl rfl rfl
      (by rw [here]; rfl) (by rw [here]; rfl) (by rw [here]; rfl)
  · exact table.within_queue ⟨rfl, rfl, rfl, rfl, framed_update (by rw [holds.1]; rfl) _⟩ rfl rfl rfl
      (by rw [here]; rfl) (by rw [here]; rfl) (by rw [here]; rfl)
  · exact table.within_queue ⟨rfl, rfl, rfl, rfl, fun _ => rfl⟩ rfl rfl rfl
      (by rw [here]; rfl) (by rw [here]; rfl) (by rw [here]; rfl)

/-- A request is about to be popped from a framer that holds one. -/
theorem Table.queueing {s t : Server} (table : s.Table ds) {fd queued : Nat} {info : ClientInfo}
    {caller : QueueCaller} {entry : FramerEntry} (same : s.SameTable t)
    (fdTable : t.fdTable = s.fdTable) (respPc : t.respPc = s.respPc)
    (there : t.pc = .queueing fd info queued caller) (holds : t.Holds fd entry)
    (moving : t.pc.moving = s.pc.moving) (ready : t.pc.ready = s.pc.ready)
    (handling : t.pc.handling = s.pc.handling) : t.Table ds where
  containers := by
    rw [moving]
    exact table.containers.congr same fun fd key => by
      rw [fdTable]
      exact (table.containers.client fd key).2.2.2
  located :=
    { ready := by
        rw [ready, same.masterSet]
        exact table.located.ready
      nodup := by
        rw [ready]
        exact table.located.nodup
      handled := by
        rw [handling, ready, same.masterSet]
        exact table.located.handled
      joined := by
        rw [there]
        simp [ListenPc.joining]
      unlisted := by
        rw [there]
        simp
      holding := by
        rw [there]
        intro _ _ _ _ same
        cases same
        exact ⟨entry, holds⟩ }
  private_dup := table.dup_stays same.framed fdTable respPc (by rw [there]; rfl)

theorem admission_table {s : Server} (table : s.Table ds) {fd queued : Nat} {info : ClientInfo}
    {caller : QueueCaller} (here : s.pc = .admitting fd info queued caller) :
    (s.admission fd info queued caller).Table ds := by
  rcases s.admission_cases fd info queued caller with
    ⟨_, result⟩ | ⟨_, holds, _, result⟩ | ⟨_, _, _, _, result⟩ | ⟨_, holds, _, _, result⟩ <;> rw [result]
  · exact table.within_queue ⟨rfl, rfl, rfl, rfl, fun _ => rfl⟩ rfl rfl (afterQueueing_plain ..)
      (by rw [here]; exact afterQueueing_moving ..) (by rw [here]; exact afterQueueing_ready ..)
      (by rw [here]; exact afterQueueing_handling ..)
  · exact table.queueing ⟨rfl, rfl, rfl, rfl, fun _ => rfl⟩ rfl rfl rfl holds
      (by rw [here]; rfl) (by rw [here]; rfl) (by rw [here]; rfl)
  · exact table.within_queue ⟨rfl, rfl, rfl, rfl, fun _ => rfl⟩ rfl rfl (afterQueueing_plain ..)
      (by rw [here]; exact afterQueueing_moving ..) (by rw [here]; exact afterQueueing_ready ..)
      (by rw [here]; exact afterQueueing_handling ..)
  · exact table.queueing ⟨rfl, rfl, rfl, rfl, fun _ => rfl⟩ rfl rfl rfl holds
      (by rw [here]; rfl) (by rw [here]; rfl) (by rw [here]; rfl)

theorem queueRequest_table {s : Server} (table : s.Table ds) {fd queued : Nat} {info : ClientInfo}
    {caller : QueueCaller} (here : s.pc = .queueing fd info queued caller) (put : Bool) :
    (s.queueRequest fd info queued caller put).Table ds := by
  obtain ⟨entry, holds⟩ := table.located.holding fd info queued caller here
  have framed := framed_update (show (s.framers fd).isSome = true by rw [holds.1]; rfl)
    { entry with framer := entry.framer.next.2 }
  rcases queueRequest_cases holds info queued caller put with ⟨_, result⟩ | ⟨_, result⟩ <;> rw [result]
  · exact table.within_queue ⟨rfl, rfl, rfl, rfl, framed⟩ rfl rfl rfl
      (by rw [here]; rfl) (by rw [here]; rfl) (by rw [here]; rfl)
  · exact table.within_queue ⟨rfl, rfl, rfl, rfl, framed⟩ rfl rfl rfl
      (by rw [here]; rfl) (by rw [here]; rfl) (by rw [here]; rfl)

theorem recv_table {s : Server} (table : s.Table ds) {fd : Nat} {ready : List Nat}
    (here : s.pc = .receiving fd ready) (conn : Nat) (bytes : List Byte) :
    (s.recv fd ready conn bytes).Table ds := by
  unfold recv
  cases key : s.framers fd with
  | none =>
    exact table.within_queue ⟨rfl, rfl, rfl, rfl, fun _ => rfl⟩ rfl rfl rfl
      (by rw [here]; rfl) (by rw [here]; rfl) (by rw [here]; rfl)
  | some entry =>
    have framed := framed_update (show (s.framers fd).isSome = true by rw [key]; rfl)
      { framer := (entry.framer.feed bytes).2, fedBy := entry.fedBy ++ [conn] }
    exact table.within_queue ⟨rfl, rfl, rfl, rfl, framed⟩ rfl rfl rfl
      (by rw [here]; rfl) (by rw [here]; rfl) (by rw [here]; rfl)

/-- A descriptor with a framer is not the one that is joining. -/
theorem Table.joining_unframed {s : Server} (table : s.Table ds) {newSd : Nat} {ready : List Nat}
    (here : s.pc = .registering newSd ready) : (s.framers newSd).isSome = false ∧ newSd ≠ ds.listenSd ∧
      newSd ≠ ds.wakeIn ∧ newSd < fdSetSize ∧ (s.fdTable newSd).isSome = true :=
  table.located.joined newSd (by rw [here]; rfl)

/-- Without a framer a descriptor is in no other container either. -/
theorem Containers.absent {s : Server} {moving : Option Nat} (containers : s.Containers ds moving) {fd : Nat}
    (unframed : (s.framers fd).isSome = false) (notListen : fd ≠ ds.listenSd) (notWake : fd ≠ ds.wakeIn) :
    fd ∉ s.masterSet ∧ fd ∉ s.pausedFds ∧ moving ≠ some fd ∧
      ∀ info ∈ s.clientInfoChain, info.sockDescriptor ≠ fd := by
  have unowned := (containers.owned fd).not.mp (by rw [unframed]; exact Bool.false_ne_true)
  refine ⟨?_, ?_, ?_, ?_⟩
  · exact fun member => unowned (Or.inl ⟨member, notListen, notWake⟩)
  · exact fun member => unowned (Or.inr (Or.inl member))
  · exact fun same => unowned (Or.inr (Or.inr same))
  · rintro info member rfl
    rw [containers.recorded info member] at unframed
    cases unframed

theorem register_table {s : Server} (table : s.Table ds) {newSd : Nat} {ready : List Nat}
    (here : s.pc = .registering newSd ready) {info : ClientInfo} (named : info.sockDescriptor = newSd)
    (put : Bool) : (s.register newSd ready info put).Table ds := by
  obtain ⟨unframed, notListen, notWake, small, isOpen⟩ := table.joining_unframed here
  have containers := table.containers
  rw [show s.pc.moving = none by rw [here]; rfl] at containers
  obtain ⟨notMaster, notPaused, _, unrecorded⟩ := containers.absent unframed notListen notWake
  refine ⟨?_, ?_, ?_⟩
  · show (s.register newSd ready info put).Containers ds none
    refine ⟨?_, ?_, ?_, ?_, by simp, ?_, ?_, ?_⟩
    · intro fd
      have owned := containers.owned fd
      by_cases same : fd = newSd
      · subst same
        simp [register, notListen, notWake]
      · simpa [register, same] using owned
    · simp [register, containers.listening]
    · intro fd key
      by_cases same : fd = newSd
      · subst same
        exact ⟨notListen, notWake, small, isOpen⟩
      · simp only [register, update_of_ne same] at key
        exact containers.client fd key
    · intro fd member
      rcases Finset.mem_insert.mp member with same | old
      · subst same
        exact ⟨notPaused, by simp⟩
      · exact containers.apart fd old
    · intro fd member
      simp only [register, Finset.mem_insert] at member ⊢
      rcases member with same | old
      · split_ifs <;> omega
      · have bound := containers.bounded fd old
        split_ifs <;> omega
    · intro other member
      by_cases same : other.sockDescriptor = newSd
      · simp [register, same]
      · have old : other ∈ s.clientInfoChain := by
          simp only [register] at member
          split_ifs at member
          · rcases List.mem_append.mp member with old | new
            · exact old
            · rw [List.mem_singleton.mp new] at same
              exact absurd named same
          · exact member
        simpa [register, same] using containers.recorded other old
    · simp only [register]
      split_ifs
      · simp only [List.map_append, List.map_cons, List.map_nil, named]
        refine List.Nodup.append containers.distinct (List.nodup_singleton _) ?_
        intro fd old new
        rw [List.mem_singleton.mp new] at old
        obtain ⟨other, member, same⟩ := List.mem_map.mp old
        exact unrecorded other member same
      · exact containers.distinct
  · have located := table.located
    rw [here] at located
    refine Located.of rfl ?_ located.nodup (by simp [register, ListenPc.handling])
    intro fd member
    exact Finset.mem_insert_of_mem (located.ready fd member)
  · intro fd dup
    obtain ⟨dupUnframed, notJoining, dupOpen⟩ := table.private_dup fd dup
    rw [here] at notJoining
    have differ : fd ≠ newSd := fun same => notJoining (congrArg some same.symm)
    refine ⟨?_, by simp [register, ListenPc.joining], dupOpen⟩
    simpa [register, differ] using dupUnframed

theorem accept_table {s : Server} (table : s.Table ds) {newSd : Nat} {ready : List Nat}
    (here : s.pc = .accepting ready) (fresh : s.FreshFd ds newSd) (small : newSd < fdSetSize) (conn : Nat) :
    Table ds { s with fdTable := update s.fdTable newSd (some conn), accepted := s.accepted + 1
                      pc := .registering newSd ready } := by
  obtain ⟨closed, notListen, notWake, _⟩ := fresh
  have stays : ∀ fd, (s.fdTable fd).isSome = true →
      (update s.fdTable newSd (some conn) fd).isSome = true := by
    intro fd isOpen
    rcases eq_or_ne fd newSd with same | differ
    · rw [same, update_self]
      rfl
    · rw [update_of_ne differ, isOpen]
  have unframed : (s.framers newSd).isSome = false := by
    by_contra framed
    have isOpen := (table.containers.client newSd (Bool.eq_true_of_not_eq_false framed)).2.2.2
    rw [closed] at isOpen
    cases isOpen
  have moving : s.pc.moving = none := by rw [here]; rfl
  have located := table.located
  rw [here] at located
  refine ⟨?_, ⟨located.ready, located.nodup, by simp [ListenPc.handling], ?_, by simp, by simp⟩, ?_⟩
  · have containers := table.containers
    rw [moving] at containers
    exact containers.congr ⟨rfl, rfl, rfl, rfl, fun _ => rfl⟩
      fun fd key => stays fd (containers.client fd key).2.2.2
  · intro fd same
    cases Option.some.inj same
    exact ⟨unframed, notListen, notWake, small, by simp⟩
  · intro fd dup
    obtain ⟨dupUnframed, _, dupOpen⟩ := table.private_dup fd dup
    refine ⟨dupUnframed, ?_, stays fd dupOpen⟩
    intro same
    cases Option.some.inj same
    rw [closed] at dupOpen
    cases dupOpen

/-- The point of the receive loop at which the caller pauses the connection. -/
theorem pause_table {s : Server} (table : s.Table ds) {fd : Nat} {frc : Int} {ready : List Nat} {paused : Bool}
    (here : s.pc = .returning fd paused (.receive frc ready)) :
    Table ds { s with masterSet := s.masterSet.erase fd, pausedFds := insert fd s.pausedFds
                      pc := .scanning ready } := by
  have located := table.located
  have containers := table.containers
  rw [here] at located containers
  change s.Containers ds none at containers
  obtain ⟨member, notListen, notWake, notReady⟩ := located.handled fd rfl
  obtain ⟨notPaused, _⟩ := containers.apart fd member
  refine ⟨?_, ?_, ?_⟩
  · show Containers ds _ none
    refine ⟨?_, ?_, containers.client, ?_, by simp, ?_, containers.recorded, containers.distinct⟩
    · intro other
      have owned := containers.owned other
      by_cases same : other = fd
      · subst same
        simp [owned, member, notListen, notWake]
      · simpa [same] using owned
    · exact ⟨Finset.mem_erase.mpr ⟨notListen.symm, containers.listening.1⟩,
        Finset.mem_erase.mpr ⟨notWake.symm, containers.listening.2⟩⟩
    · intro other stays
      obtain ⟨differ, old⟩ := Finset.mem_erase.mp stays
      refine ⟨?_, by simp⟩
      rw [Finset.mem_insert]
      rintro (same | paused)
      · exact differ same
      · exact (containers.apart other old).1 paused
    · intro other stays
      exact containers.bounded other (Finset.mem_of_mem_erase stays)
  · refine Located.of rfl ?_ located.nodup (by simp [ListenPc.handling])
    intro other later
    refine Finset.mem_erase.mpr ⟨?_, located.ready other later⟩
    rintro rfl
    exact notReady later
  · exact table.dup_stays (fun _ => rfl) rfl rfl rfl

/-- `resume_paused_connections` gives the descriptor back to `paused_fds`. -/
theorem repause_table {s : Server} (table : s.Table ds) {fd cursor : Nat} {paused : Bool}
    (here : s.pc = .returning fd paused (.resume cursor)) :
    Table ds { s with pausedFds := insert fd s.pausedFds, pc := .resuming cursor } := by
  have containers := table.containers
  rw [here] at containers
  change s.Containers ds (some fd) at containers
  refine ⟨?_, Located.resting rfl, ?_⟩
  · show Containers ds _ none
    refine ⟨?_, containers.listening, containers.client, ?_, by simp, containers.bounded, containers.recorded,
      containers.distinct⟩
    · intro other
      have owned := containers.owned other
      by_cases same : other = fd
      · subst same
        simp [owned]
      · simpa [same, Ne.symm same] using owned
    · intro other member
      obtain ⟨notPaused, notMoving⟩ := containers.apart other member
      refine ⟨?_, by simp⟩
      rw [Finset.mem_insert]
      rintro (same | paused)
      · exact notMoving (congrArg some same.symm)
      · exact notPaused paused
  · exact table.dup_stays (fun _ => rfl) rfl rfl rfl

/-- `resume_paused_connections` gives the descriptor back to `select`. -/
theorem unpause_table {s : Server} (table : s.Table ds) {fd cursor : Nat} {paused : Bool}
    (here : s.pc = .returning fd paused (.resume cursor)) :
    Table ds { s with masterSet := insert fd s.masterSet
                      maxSd := if fd > s.maxSd then fd else s.maxSd, pc := .resuming cursor } := by
  have containers := table.containers
  rw [here] at containers
  change s.Containers ds (some fd) at containers
  have framed := (containers.owned fd).mpr (Or.inr (Or.inr rfl))
  obtain ⟨notListen, notWake, _, _⟩ := containers.client fd framed
  refine ⟨?_, Located.resting rfl, ?_⟩
  · show Containers ds _ none
    refine ⟨?_, ?_, containers.client, ?_, by simp, ?_, containers.recorded, containers.distinct⟩
    · intro other
      have owned := containers.owned other
      by_cases same : other = fd
      · subst same
        simp [framed, notListen, notWake]
      · simpa [same, Ne.symm same] using owned
    · exact ⟨Finset.mem_insert_of_mem containers.listening.1, Finset.mem_insert_of_mem containers.listening.2⟩
    · intro other member
      refine ⟨?_, by simp⟩
      rcases Finset.mem_insert.mp member with same | old
      · exact containers.movedOut other (congrArg some same.symm)
      · exact (containers.apart other old).1
    · intro other member
      rcases Finset.mem_insert.mp member with same | old
      · simp only
        split_ifs <;> omega
      · have bound := containers.bounded other old
        simp only
        split_ifs <;> omega
  · exact table.dup_stays (fun _ => rfl) rfl rfl rfl

theorem queueReturn_table {s : Server} (table : s.Table ds) {fd : Nat} {paused : Bool} {caller : QueueCaller}
    (here : s.pc = .returning fd paused caller) : (s.queueReturn fd paused caller).Table ds := by
  cases caller with
  | receive frc ready =>
    unfold queueReturn
    dsimp only
    split_ifs
    · exact table.within_queue ⟨rfl, rfl, rfl, rfl, fun _ => rfl⟩ rfl rfl rfl
        (by rw [here]; rfl) (by rw [here]; rfl) (by rw [here]; rfl)
    · exact pause_table table here
    · exact table.within_queue ⟨rfl, rfl, rfl, rfl, fun _ => rfl⟩ rfl rfl rfl
        (by rw [here]; rfl) (by rw [here]; rfl) (by rw [here]; rfl)
  | resume cursor =>
    cases paused with
    | true => exact repause_table table here
    | false => exact unpause_table table here

/-- `resume_paused_connections` takes a descriptor out of `paused_fds`. -/
theorem takeOut_table {s : Server} (table : s.Table ds) {fd cursor : Nat} (here : s.pc = .resuming cursor)
    (paused : fd ∈ s.pausedFds) :
    Table ds { s with pausedFds := s.pausedFds.erase fd, pc := .checking fd (.resume (fd + 1)) } := by
  have containers := table.containers
  rw [here] at containers
  change s.Containers ds none at containers
  refine ⟨?_, Located.of rfl (by simp [ListenPc.ready, QueueCaller.ready]) .nil
    (by simp [ListenPc.handling, QueueCaller.handling]),
    ?_⟩
  · show Containers ds _ (some fd)
    refine ⟨?_, containers.listening, containers.client, ?_, ?_, containers.bounded,
      containers.recorded, containers.distinct⟩
    · intro other
      have owned := containers.owned other
      by_cases same : other = fd
      · subst same
        simp [owned, paused]
      · simpa [same, Ne.symm same] using owned
    · intro other member
      have notPaused := (containers.apart other member).1
      refine ⟨fun still => notPaused (Finset.mem_of_mem_erase still), ?_⟩
      intro same
      cases Option.some.inj same
      exact notPaused paused
    · intro other same
      cases Option.some.inj same
      exact Finset.notMem_erase fd s.pausedFds
  · exact table.dup_stays (fun _ => rfl) rfl rfl rfl

theorem resumeNext_table {s : Server} (table : s.Table ds) {fd cursor : Nat} (here : s.pc = .resuming cursor)
    (paused : fd ∈ s.pausedFds) : (s.resumeNext fd).Table ds := by
  unfold resumeNext
  dsimp only
  split_ifs
  · exact table.within_queue ⟨rfl, rfl, rfl, rfl, fun _ => rfl⟩ rfl rfl rfl
      (by rw [here]; rfl) (by rw [here]; rfl) (by rw [here]; rfl)
  · exact takeOut_table table here paused

/-- The first part of `close_connection`. The closed descriptor comes from
`master_set`, so it is not in `paused_fds` anyway. -/
theorem erasePending_table {s : Server} (table : s.Table ds) {fd : Nat} {ready : List Nat}
    (here : s.pc = .closing fd ready) (pending : PendingMap) :
    Table ds { s with pending := pending, pausedFds := s.pausedFds.erase fd
                      pc := .deregistering fd ready } := by
  have located := table.located
  rw [here] at located
  obtain ⟨member, _⟩ := located.handled fd rfl
  have notPaused := (table.containers.apart fd member).1
  exact table.within_queue ⟨rfl, Finset.erase_eq_of_notMem notPaused, rfl, rfl, fun _ => rfl⟩ rfl rfl rfl
    (by rw [here]; rfl) (by rw [here]; rfl) (by rw [here]; rfl)

theorem deregister_table {s : Server} (table : s.Table ds) (fd : Nat) :
    Table ds { s with clientInfoChain := s.clientInfoChain.eraseP fun info => info.sockDescriptor == fd } := by
  have containers := table.containers
  have located := table.located
  refine ⟨?_, ?_, table.private_dup⟩
  · exact ⟨containers.owned, containers.listening, containers.client, containers.apart, containers.movedOut,
      containers.bounded, fun info member => containers.recorded info (List.mem_of_mem_eraseP member),
      (List.eraseP_sublist.map _).nodup containers.distinct⟩
  · exact ⟨located.ready, located.nodup, located.handled, located.joined,
      fun other later same info member => located.unlisted other later same info (List.mem_of_mem_eraseP member),
      located.holding⟩

theorem unlisted_table {s : Server} (table : s.Table ds) {fd : Nat} {ready : List Nat}
    (here : s.pc = .deregistering fd ready) (unknown : s.getClientInfo fd = none) :
    Table ds { s with pc := .closeFd fd ready } := by
  have containers := table.containers
  have located := table.located
  rw [here] at containers located
  refine ⟨containers.congr ⟨rfl, rfl, rfl, rfl, fun _ => rfl⟩ fun other key => (containers.client other key).2.2.2,
    ⟨located.ready, located.nodup, located.handled, by simp [ListenPc.joining], ?_, by simp⟩, ?_⟩
  · intro other later same info member
    cases same
    have unmatched := List.find?_eq_none.mp unknown info member
    simpa using unmatched
  · exact table.dup_stays (fun _ => rfl) rfl rfl rfl

theorem lowerMaxSd_bound {masterSet : Finset Nat} {n fd : Nat} (member : fd ∈ masterSet) (bound : fd ≤ n) :
    fd ≤ lowerMaxSd masterSet n := by
  induction n with
  | zero => exact bound
  | succ n ih =>
    unfold lowerMaxSd
    split_ifs with present
    · exact bound
    · apply ih
      have differ : fd ≠ n + 1 := fun same => present (same ▸ member)
      omega

/-- The last part of `close_connection` and of its caller. -/
theorem closeSocket_table {s : Server} (table : s.Table ds) {fd : Nat} {ready : List Nat}
    (here : s.pc = .closeFd fd ready) :
    Table ds { s with framers := update s.framers fd none, fdTable := update s.fdTable fd none
                      masterSet := s.masterSet.erase fd
                      maxSd := if fd = s.maxSd then lowerMaxSd (s.masterSet.erase fd) s.maxSd else s.maxSd
                      pc := .scanning ready } := by
  have containers := table.containers
  have located := table.located
  rw [here] at containers located
  change s.Containers ds none at containers
  obtain ⟨member, notListen, notWake, notReady⟩ := located.handled fd rfl
  have notPaused := (containers.apart fd member).1
  have framed := (containers.owned fd).mpr (Or.inl ⟨member, notListen, notWake⟩)
  refine ⟨?_, ?_, ?_⟩
  · show Containers ds _ none
    refine ⟨?_, ?_, ?_, ?_, by simp, ?_, ?_, containers.distinct⟩
    · intro other
      have owned := containers.owned other
      by_cases same : other = fd
      · subst same
        simp [notPaused]
      · simpa [same] using owned
    · exact ⟨Finset.mem_erase.mpr ⟨notListen.symm, containers.listening.1⟩,
        Finset.mem_erase.mpr ⟨notWake.symm, containers.listening.2⟩⟩
    · intro other key
      by_cases same : other = fd
      · subst same
        simp at key
      · simp only [update_of_ne same] at key ⊢
        exact containers.client other key
    · intro other stays
      exact ⟨(containers.apart other (Finset.mem_of_mem_erase stays)).1, by simp⟩
    · intro other stays
      have bound := containers.bounded other (Finset.mem_of_mem_erase stays)
      dsimp only
      split_ifs
      · exact lowerMaxSd_bound stays bound
      · exact bound
    · intro info recorded
      have differ := located.unlisted fd ready rfl info recorded
      simpa [differ] using containers.recorded info recorded
  · refine Located.of rfl ?_ located.nodup (by simp [ListenPc.handling])
    intro other later
    refine Finset.mem_erase.mpr ⟨?_, located.ready other later⟩
    rintro rfl
    exact notReady later
  · intro other dup
    obtain ⟨unframed, _, isOpen⟩ := table.private_dup other dup
    have differ : other ≠ fd := by
      rintro rfl
      rw [framed] at unframed
      cases unframed
    simp only [update_of_ne differ]
    exact ⟨unframed, (by simp [ListenPc.joining]), isOpen⟩

theorem select_step {s t : Server} (table : s.Table ds) {ready : List Nat}
    (run : s.listenStep ds (.select ready) = some t) : t.Table ds := by
  simp only [listenStep, onlyIf_eq_some] at run
  obtain ⟨⟨here, sorted, reported⟩, rfl⟩ := run
  have still : s.pc.moving = none := by rw [here]; rfl
  split_ifs
  · exact table.rest ⟨rfl, rfl, rfl, rfl, fun _ => rfl⟩ rfl rfl still rfl
  · have containers := table.containers
    rw [still] at containers
    refine ⟨?_, ?_, ?_⟩
    · exact containers.congr ⟨rfl, rfl, rfl, rfl, fun _ => rfl⟩ fun fd key => (containers.client fd key).2.2.2
    · exact Located.of rfl (fun fd member => (reported fd member).1) (sorted.imp Nat.ne_of_lt)
        (by simp [ListenPc.handling])
    · exact table.dup_stays (fun _ => rfl) rfl rfl rfl
  · exact table.rest ⟨rfl, rfl, rfl, rfl, fun _ => rfl⟩ rfl rfl still rfl
  · exact table.rest ⟨rfl, rfl, rfl, rfl, fun _ => rfl⟩ rfl rfl still rfl

theorem selectFails_step {s t : Server} (table : s.Table ds) {fatal : Bool}
    (run : s.listenStep ds (.selectFails fatal) = some t) : t.Table ds := by
  simp only [listenStep, onlyIf_eq_some] at run
  obtain ⟨here, rfl⟩ := run
  refine table.rest ⟨rfl, rfl, rfl, rfl, fun _ => rfl⟩ rfl rfl (by rw [here]; rfl) ?_
  dsimp only
  split_ifs <;> rfl

theorem readWake_step {s t : Server} (table : s.Table ds) {ready : List Nat}
    (run : s.listenStep ds (.readWake ready) = some t) : t.Table ds := by
  simp only [listenStep, onlyIf_eq_some] at run
  obtain ⟨⟨here, _⟩, rfl⟩ := run
  refine table.rest ⟨rfl, rfl, rfl, rfl, fun _ => rfl⟩ rfl rfl (by rw [here]; rfl) ?_
  dsimp only
  split_ifs <;> rfl

theorem startReceive_step {s t : Server} (table : s.Table ds) {fd : Nat} {ready : List Nat}
    (run : s.listenStep ds (.startReceive fd ready) = some t) : t.Table ds := by
  simp only [listenStep, onlyIf_eq_some] at run
  obtain ⟨⟨here, _, notWake, notListen⟩, rfl⟩ := run
  have located := table.located
  rw [here] at located
  refine table.relocate ⟨rfl, rfl, rfl, rfl, fun _ => rfl⟩ rfl rfl rfl (by rw [here]; rfl)
    (by rw [here]; exact List.sublist_cons_self ..) ?_
  intro other same
  cases Option.some.inj same
  exact ⟨located.ready fd (List.mem_cons_self ..), notListen, notWake, (List.nodup_cons.mp located.nodup).1⟩

theorem release_step {s t : Server} (table : s.Table ds) {fd : Nat} {info : ClientInfo} {queued : Nat}
    {caller : QueueCaller}
    (run : s.listenStep ds (.release fd info queued caller) = some t) : t.Table ds := by
  simp only [listenStep, onlyIf_eq_some] at run
  obtain ⟨here, rfl⟩ := run
  split_ifs
  · exact table.within_queue ⟨rfl, rfl, rfl, rfl, fun _ => rfl⟩ rfl rfl rfl (by rw [here]; rfl)
      (by rw [here]; rfl) (by rw [here]; rfl)
  · exact table.within_queue ⟨rfl, rfl, rfl, rfl, fun _ => rfl⟩ rfl rfl (afterQueueing_plain ..)
      (by rw [here]; exact afterQueueing_moving ..) (by rw [here]; exact afterQueueing_ready ..)
      (by rw [here]; exact afterQueueing_handling ..)

theorem releaseWake_step {s t : Server} (table : s.Table ds) {fd queued : Nat} {caller : QueueCaller} {written : Bool}
    (run : s.listenStep ds (.releaseWake fd queued caller written) = some t) : t.Table ds := by
  simp only [listenStep, onlyIf_eq_some] at run
  obtain ⟨⟨here, _⟩, rfl⟩ := run
  exact table.within_queue ⟨rfl, rfl, rfl, rfl, fun _ => rfl⟩ rfl rfl (afterQueueing_plain ..)
    (by rw [here]; exact afterQueueing_moving ..) (by rw [here]; exact afterQueueing_ready ..)
    (by rw [here]; exact afterQueueing_handling ..)

theorem sendProtocolError_step {s t : Server} (table : s.Table ds) {fd : Nat} {ready : List Nat} {conn count : Nat}
    (run : s.listenStep ds (.sendProtocolError fd ready conn count) = some t) : t.Table ds := by
  simp only [listenStep, onlyIf_eq_some] at run
  obtain ⟨⟨here, _⟩, rfl⟩ := run
  split_ifs
  · exact table.within_queue ⟨rfl, rfl, rfl, rfl, fun _ => rfl⟩ rfl rfl rfl (by rw [here]; rfl)
      (by rw [here]; rfl) (by rw [here]; rfl)
  · exact table.within_queue ⟨rfl, rfl, rfl, rfl, fun _ => rfl⟩ rfl rfl rfl (by rw [here]; rfl)
      (by rw [here]; rfl) (by rw [here]; rfl)

theorem deregister_step {s t : Server} (table : s.Table ds) {fd : Nat} {ready : List Nat}
    (run : s.listenStep ds (.deregister fd ready) = some t) : t.Table ds := by
  simp only [listenStep, onlyIf_eq_some] at run
  obtain ⟨here, rfl⟩ := run
  cases known : s.getClientInfo fd with
  | none => exact unlisted_table table here known
  | some info => exact deregister_table table fd

theorem loopCheck_step {s t : Server} (table : s.Table ds)
    (run : s.listenStep ds .loopCheck = some t) : t.Table ds := by
  simp only [listenStep, onlyIf_eq_some] at run
  obtain ⟨here, rfl⟩ := run
  refine table.rest ⟨rfl, rfl, rfl, rfl, fun _ => rfl⟩ rfl rfl (by rw [here]; rfl) ?_
  dsimp only
  split_ifs <;> rfl

/-- Every step of the listen thread keeps its table. -/
theorem listenStep_table {s t : Server} (table : s.Table ds) {action : ListenAction}
    (run : s.listenStep ds action = some t) : t.Table ds := by
  cases action
  case select => exact select_step table run
  case selectFails => exact selectFails_step table run
  case readWake => exact readWake_step table run
  case startReceive => exact startReceive_step table run
  case release => exact release_step table run
  case releaseWake => exact releaseWake_step table run
  case sendProtocolError => exact sendProtocolError_step table run
  case deregister => exact deregister_step table run
  case loopCheck => exact loopCheck_step table run
  all_goals simp only [listenStep, onlyIf_eq_some] at run
  case startAccept ready =>
    obtain ⟨⟨here, _⟩, rfl⟩ := run
    exact table.relocate ⟨rfl, rfl, rfl, rfl, fun _ => rfl⟩ rfl rfl rfl (by rw [here]; rfl)
      (by rw [here]; exact List.sublist_cons_self ..) (by simp [ListenPc.handling])
  case endScan ready =>
    obtain ⟨⟨here, _⟩, rfl⟩ := run
    exact table.rest ⟨rfl, rfl, rfl, rfl, fun _ => rfl⟩ rfl rfl (by rw [here]; rfl) rfl
  case accept newSd ready =>
    obtain ⟨⟨here, fresh, small⟩, rfl⟩ := run
    exact accept_table table here fresh small _
  case acceptRefused newSd ready =>
    obtain ⟨⟨here, _⟩, rfl⟩ := run
    exact table.relocate ⟨rfl, rfl, rfl, rfl, fun _ => rfl⟩ rfl rfl (by rw [here]; rfl) rfl
      (List.Sublist.refl _) (by simp [here, ListenPc.handling])
  case acceptFails fatal ready =>
    obtain ⟨here, rfl⟩ := run
    exact table.relocate ⟨rfl, rfl, rfl, rfl, fun _ => rfl⟩ rfl rfl rfl (by rw [here]; rfl)
      (by rw [here]; exact List.Sublist.refl _) (by simp [ListenPc.handling])
  case register newSd ready conn port ip put =>
    obtain ⟨⟨here, _⟩, rfl⟩ := run
    exact register_table table here rfl put
  case recv fd ready conn bytes =>
    obtain ⟨⟨here, _⟩, rfl⟩ := run
    exact recv_table table here conn bytes
  case recvBlocks fd ready =>
    obtain ⟨here, rfl⟩ := run
    exact table.relocate ⟨rfl, rfl, rfl, rfl, fun _ => rfl⟩ rfl rfl rfl (by rw [here]; rfl)
      (by rw [here]; exact List.Sublist.refl _) (by simp [ListenPc.handling])
  case recvEnds fd ready =>
    obtain ⟨here, rfl⟩ := run
    exact table.within_queue ⟨rfl, rfl, rfl, rfl, fun _ => rfl⟩ rfl rfl rfl (by rw [here]; rfl)
      (by rw [here]; rfl) (by rw [here]; rfl)
  case checkConnection fd caller =>
    obtain ⟨here, rfl⟩ := run
    exact checkConnection_table table here
  case admission fd info queued caller =>
    obtain ⟨here, rfl⟩ := run
    exact admission_table table here
  case queueRequest fd info queued caller put =>
    obtain ⟨here, rfl⟩ := run
    exact queueRequest_table table here put
  case takeRequest fd paused caller request =>
    obtain ⟨⟨here, _⟩, rfl⟩ := run
    exact table.within_queue ⟨rfl, rfl, rfl, rfl, fun _ => rfl⟩ rfl rfl (by rw [here]; rfl) rfl rfl rfl
  case notifyDone fd paused caller =>
    obtain ⟨⟨here, _⟩, rfl⟩ := run
    exact table.within_queue ⟨rfl, rfl, rfl, rfl, fun _ => rfl⟩ rfl rfl rfl (by rw [here]; rfl)
      (by rw [here]; rfl) (by rw [here]; rfl)
  case queueReturn fd paused caller =>
    obtain ⟨here, rfl⟩ := run
    exact queueReturn_table table here
  case erasePending fd ready =>
    obtain ⟨here, rfl⟩ := run
    exact erasePending_table table here _
  case closeSocket fd ready =>
    obtain ⟨here, rfl⟩ := run
    exact closeSocket_table table here
  case resumeNext cursor fd =>
    obtain ⟨⟨here, paused, _⟩, rfl⟩ := run
    exact resumeNext_table table here paused
  case resumeDone cursor =>
    obtain ⟨⟨here, _⟩, rfl⟩ := run
    exact table.rest ⟨rfl, rfl, rfl, rfl, fun _ => rfl⟩ rfl rfl (by rw [here]; rfl) rfl

/-- A step that leaves the listen thread, its table and all descriptors alone. -/
theorem Table.elsewhere {s t : Server} (table : s.Table ds) (same : s.SameTable t)
    (framers : t.framers = s.framers) (pc : t.pc = s.pc) (fdTable : t.fdTable = s.fdTable)
    (dup : ∀ fd, t.respPc.dup = some fd → s.respPc.dup = some fd) : t.Table ds where
  containers := by
    rw [pc]
    exact table.containers.congr same fun fd key => by
      rw [fdTable]
      exact (table.containers.client fd key).2.2.2
  located := by
    have located := table.located
    rw [pc]
    refine ⟨?_, located.nodup, ?_, ?_, ?_, ?_⟩
    · rw [same.masterSet]
      exact located.ready
    · rw [same.masterSet]
      exact located.handled
    · rw [framers, fdTable]
      exact located.joined
    · rw [same.chain]
      exact located.unlisted
    · unfold Holds
      rw [framers]
      exact located.holding
  private_dup fd here := by
    rw [framers, pc, fdTable]
    exact table.private_dup fd (dup fd here)

/-- The response thread opens its dup under a number that is not in use. -/
theorem dup_table {s : Server} (table : s.Table ds) {fd conn : Nat} (fresh : s.FreshFd ds fd)
    {respPc : ResponsePc} (only : ∀ other, respPc.dup = some other → other = fd) :
    Table ds { s with fdTable := update s.fdTable fd (some conn), respPc := respPc } := by
  have located := table.located
  have stays : ∀ other, (s.fdTable other).isSome = true →
      (update s.fdTable fd (some conn) other).isSome = true := by
    intro other isOpen
    rcases eq_or_ne other fd with same | differ
    · rw [same, update_self]
      rfl
    · rw [update_of_ne differ, isOpen]
  have closed : ∀ other, (s.fdTable other).isSome = true → other ≠ fd := by
    rintro other isOpen rfl
    rw [fresh.1] at isOpen
    cases isOpen
  refine ⟨?_, ?_, ?_⟩
  · exact table.containers.congr ⟨rfl, rfl, rfl, rfl, fun _ => rfl⟩
      fun other key => stays other (table.containers.client other key).2.2.2
  · refine ⟨located.ready, located.nodup, located.handled, ?_, located.unlisted, located.holding⟩
    intro other here
    obtain ⟨unframed, notListen, notWake, small, isOpen⟩ := located.joined other here
    exact ⟨unframed, notListen, notWake, small, stays other isOpen⟩
  · intro other here
    cases only other here
    refine ⟨?_, ?_, by simp⟩
    · by_contra framed
      exact closed fd (table.containers.client fd (Bool.eq_true_of_not_eq_false framed)).2.2.2 rfl
    · intro joining
      exact closed fd (located.joined fd joining).2.2.2.2 rfl

/-- The response thread closes its own dup only. -/
theorem closeDup_table {s : Server} (table : s.Table ds) {fd : Nat} (own : s.respPc.dup = some fd)
    {respPc : ResponsePc} (none : respPc.dup = none) :
    Table ds { s with fdTable := update s.fdTable fd Option.none, respPc := respPc } := by
  have located := table.located
  obtain ⟨unframed, notJoining, _⟩ := table.private_dup fd own
  have framed : ∀ other, (s.framers other).isSome = true → other ≠ fd := by
    rintro other key rfl
    rw [unframed] at key
    cases key
  refine ⟨?_, ?_, ?_⟩
  · refine table.containers.congr ⟨rfl, rfl, rfl, rfl, fun _ => rfl⟩ fun other key => ?_
    dsimp only
    rw [update_of_ne (framed other key)]
    exact (table.containers.client other key).2.2.2
  · refine ⟨located.ready, located.nodup, located.handled, ?_, located.unlisted, located.holding⟩
    intro other here
    have differ : other ≠ fd := by
      rintro rfl
      exact notJoining here
    dsimp only
    rw [update_of_ne differ]
    exact located.joined other here
  · intro other here
    rw [none] at here
    cases here

theorem responseStep_table {s t : Server} (table : s.Table ds) {action : ResponseAction}
    (run : s.responseStep ds action = some t) : t.Table ds := by
  cases action <;> simp only [responseStep, onlyIf_eq_some] at run
  case chainGet resp =>
    obtain ⟨_, rfl⟩ := run
    exact table.elsewhere ⟨rfl, rfl, rfl, rfl, fun _ => rfl⟩ rfl rfl rfl (by simp [ResponsePc.dup])
  case checkDead resp alive =>
    obtain ⟨_, rfl⟩ := run
    refine table.elsewhere ⟨rfl, rfl, rfl, rfl, fun _ => rfl⟩ rfl rfl rfl ?_
    dsimp only
    split_ifs <;> simp [ResponsePc.dup]
  case dup resp newFd =>
    obtain ⟨⟨_, fresh⟩, rfl⟩ := run
    split_ifs
    · cases newFd with
      | none =>
        exact table.elsewhere ⟨rfl, rfl, rfl, rfl, fun _ => rfl⟩ rfl rfl rfl (by simp [ResponsePc.dup])
      | some fd =>
        cases s.fdTable resp.sockDescriptor with
        | none =>
          exact table.elsewhere ⟨rfl, rfl, rfl, rfl, fun _ => rfl⟩ rfl rfl rfl (by simp [ResponsePc.dup])
        | some conn => exact dup_table table (fresh fd rfl) fun other same => (Option.some.inj same).symm
    · exact table.elsewhere ⟨rfl, rfl, rfl, rfl, fun _ => rfl⟩ rfl rfl rfl (by simp [ResponsePc.dup])
  case send resp dup sent conn count =>
    obtain ⟨⟨here, _⟩, rfl⟩ := run
    exact table.elsewhere ⟨rfl, rfl, rfl, rfl, fun _ => rfl⟩ rfl rfl rfl fun fd same => by rw [here]; exact same
  case sendFails resp dup sent =>
    obtain ⟨⟨here, _⟩, rfl⟩ := run
    exact table.elsewhere ⟨rfl, rfl, rfl, rfl, fun _ => rfl⟩ rfl rfl rfl fun fd same => by rw [here]; exact same
  case sendWaited resp dup waitedMs now =>
    obtain ⟨here, rfl⟩ := run
    refine table.elsewhere ⟨rfl, rfl, rfl, rfl, fun _ => rfl⟩ rfl rfl rfl fun fd same => ?_
    rw [here]
    dsimp only at same
    split_ifs at same <;> exact same
  case drop resp dup sent =>
    obtain ⟨here, rfl⟩ := run
    exact table.elsewhere ⟨rfl, rfl, rfl, rfl, fun _ => rfl⟩ rfl rfl rfl fun fd same => by rw [here]; exact same
  case shutdown resp dup sent wake conn =>
    obtain ⟨⟨here, _⟩, rfl⟩ := run
    refine table.elsewhere ⟨rfl, rfl, rfl, rfl, fun _ => rfl⟩ rfl rfl rfl fun fd same => ?_
    rw [here]
    dsimp only at same
    split_ifs at same <;> exact same
  case dropWake resp dup written =>
    obtain ⟨⟨here, _⟩, rfl⟩ := run
    exact table.elsewhere ⟨rfl, rfl, rfl, rfl, fun _ => rfl⟩ rfl rfl rfl fun fd same => by rw [here]; exact same
  case closeDup resp dup =>
    obtain ⟨here, rfl⟩ := run
    exact closeDup_table table (by rw [here]; rfl) rfl
  case responseDone resp =>
    obtain ⟨_, rfl⟩ := run
    refine table.elsewhere ⟨rfl, rfl, rfl, rfl, fun _ => rfl⟩ rfl rfl rfl ?_
    dsimp only
    split_ifs <;> simp [ResponsePc.dup]
  case doneWake written =>
    obtain ⟨_, rfl⟩ := run
    exact table.elsewhere ⟨rfl, rfl, rfl, rfl, fun _ => rfl⟩ rfl rfl rfl (by simp [ResponsePc.dup])

theorem outsideStep_table {s t : Server} (table : s.Table ds) {action : OutsideAction}
    (run : s.outsideStep action = some t) : t.Table ds := by
  cases action <;> simp only [outsideStep, onlyIf_eq_some, Option.some.injEq] at run
  case schedule request text put =>
    obtain ⟨_, rfl⟩ := run
    cases put with
    | true => exact table.elsewhere ⟨rfl, rfl, rfl, rfl, fun _ => rfl⟩ rfl rfl rfl fun _ same => same
    | false => exact table
  case requestStop =>
    subst run
    exact table.elsewhere ⟨rfl, rfl, rfl, rfl, fun _ => rfl⟩ rfl rfl rfl fun _ same => same
  case stopWake written =>
    obtain ⟨_, rfl⟩ := run
    exact table.elsewhere ⟨rfl, rfl, rfl, rfl, fun _ => rfl⟩ rfl rfl rfl fun _ same => same

theorem step_table {s t : Server} (table : s.Table ds) {action : ServerAction}
    (run : s.step ds action = some t) : t.Table ds := by
  cases action with
  | listen action => exact listenStep_table table run
  | respond action => exact responseStep_table table run
  | outside action => exact outsideStep_table table run

/-- The table is consistent in every state of every run. -/
theorem reach_table {allow : Server → ServerAction → Prop} {clientIdent : Nat} {s : Server}
    (reach : Reach (step ds) allow (start ds clientIdent) s) : s.Table ds :=
  reach.invariant (table_start clientIdent) fun _ _ _ table _ run => step_table table run

end Server
end JsonRpcTcp
