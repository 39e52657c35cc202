import JsonRpcTcp.XmppAsync

namespace JsonRpcTcp
open Function

theorem int32_ofInt_injective {m n : Int} (low : 0 < m) (high : m < 2 ^ 31) (low' : 0 < n) (high' : n < 2 ^ 31)
    (same : Int32.ofInt m = Int32.ofInt n) : m = n := by
  have left : (Int32.ofInt m).toInt = m := Int32.toInt_ofInt_of_le (by omega) (by omega)
  have right : (Int32.ofInt n).toInt = n := Int32.toInt_ofInt_of_le (by omega) (by omega)
  rw [← left, same, right]

/-- What the handler inserts when a task has been started. -/
theorem XmppMgr.taskReply_asyncTasks (m : XmppMgr) (port : Int) (sender : List Byte) (taskID : Int32) :
    (m.taskReply port sender .inProg (decimal taskID.toInt)).mgr.asyncTasks =
      m.asyncTasks.insertEntry taskID port sender := by
  unfold XmppMgr.taskReply
  rw [if_pos rfl, atoi_decimal]

namespace AsyncSystem

/-- Something may still come of the task: its service runs it, or it is awaited. -/
def Live (s : AsyncSystem) (number : Nat) : Prop := number ∈ s.running ∨ s.Awaited number

/-- How often a task is run, on its way as an event, or received. -/
def places (s : AsyncSystem) (number : Nat) : Nat :=
  s.running.count number + s.events.count number + s.received.count number

/-- What holds in every state, whatever ids the services hand out. -/
structure Accounted (s : AsyncSystem) : Prop where
  -- ids and numbers
  bounded : ∀ port, 0 ≤ s.identGenerator port ∧ s.identGenerator port < 2 ^ 31
  runs : ∀ number ∈ s.running, ∀ port taskID, s.ident number = some (port, taskID) →
    ∃ n, 0 < n ∧ n ≤ s.identGenerator port ∧ taskID = Int32.ofInt n
  single : ∀ number, s.places number ≤ 1
  started : ∀ number, 0 < s.places number → number < s.issued.length
  -- entries
  pending : ∀ entry ∈ s.mgr.asyncTasks.list, ∃ number, (entry, number) ∈ s.inserted
  sound : ∀ entry number, (entry, number) ∈ s.inserted →
    s.issued[number]? = some ⟨entry.srvPort, entry.taskID, some entry.replyTo⟩
  responds : ∀ port taskID sender number, s.requester = .responding port taskID sender number →
    s.issued[number]? = some ⟨port, taskID, some sender⟩ ∧ ∀ entry, (entry, number) ∉ s.inserted
  counted : ∀ entry number, (entry, number) ∈ s.inserted → entry.xmppTID ≤ s.mgr.asyncTasks.counter
  keyed : s.inserted.Pairwise fun a b => a.1.xmppTID ≠ b.1.xmppTID ∧ a.2 ≠ b.2
  -- events
  early : ∀ number ∈ s.early, number ∈ s.received
  processed : ∀ number ∈ s.processed, number ∈ s.received
  reading : ∀ entry number, s.receiver = .reading entry number → number ∈ s.received ∧ number ∉ s.processed

/-- What holds of one task while its id is fresh: it is known by its id, its entry stays until its event
takes it, and its event takes no other entry. -/
structure Alone (s : AsyncSystem) (number : Nat) : Prop where
  unique : s.Live number → ∀ other, s.Live other → s.ident other = s.ident number → other = number
  waiting : ∀ entry, (entry, number) ∈ s.inserted → number ∉ s.received ∨ number ∈ s.early →
    entry ∈ s.mgr.asyncTasks.list
  reading : ∀ entry, s.receiver = .reading entry number → (entry, number) ∈ s.inserted ∧ number ∉ s.early
  removed : ∀ entry, (entry, number) ∈ s.removed → (entry, number) ∈ s.inserted
  replied : ∀ reply ∈ s.sent, reply.number = number → ∃ entry, (entry, number) ∈ s.inserted ∧
    reply.replyTo = entry.replyTo ∧ reply.xmppTID = entry.xmppTID

variable {s t : AsyncSystem} {number : Nat}

theorem Accounted.entry_ident (accounted : s.Accounted) {entry : AsyncEventEntry}
    (inside : (entry, number) ∈ s.inserted) : s.ident number = some (entry.srvPort, entry.taskID) := by
  unfold ident
  rw [accounted.sound entry number inside]
  rfl

theorem Accounted.requester_known (accounted : s.Accounted) (responding : s.requester.number = some number) :
    ∃ port taskID sender, s.requester = .responding port taskID sender number ∧
      s.issued[number]? = some ⟨port, taskID, some sender⟩ := by
  cases here : s.requester with
  | idle =>
    rw [here] at responding
    cases responding
  | responding port taskID sender number' =>
    rw [here] at responding
    cases Option.some.inj responding
    exact ⟨port, taskID, sender, rfl, (accounted.responds _ _ _ _ here).1⟩

theorem places_pos (present : number ∈ s.running ∨ number ∈ s.events ∨ number ∈ s.received) : 0 < s.places number := by
  unfold places
  rcases present with running | arrived | received
  · have positive := List.count_pos_iff.mpr running
    omega
  · have positive := List.count_pos_iff.mpr arrived
    omega
  · have positive := List.count_pos_iff.mpr received
    omega

theorem Accounted.below (accounted : s.Accounted) (alive : s.Live number) : number < s.issued.length := by
  rcases alive with running | arrived | responding | ⟨entry, _, inside⟩
  · exact accounted.started number (places_pos (.inl running))
  · exact accounted.started number (places_pos (.inr (.inl arrived)))
  · obtain ⟨port, taskID, sender, _, known⟩ := accounted.requester_known responding
    exact (List.getElem?_eq_some_iff.mp known).1
  · exact (List.getElem?_eq_some_iff.mp (accounted.sound entry number inside)).1

theorem Accounted.unreceived (accounted : s.Accounted) (arrived : number ∈ s.events) : number ∉ s.received := by
  intro received
  have once := List.count_pos_iff.mpr arrived
  have twice := List.count_pos_iff.mpr received
  have single := accounted.single number
  unfold places at single
  omega

/-- Two pairs of entry and task agree in both or in neither. -/
theorem Accounted.apart (accounted : s.Accounted) {a b : AsyncEventEntry × Nat} (first : a ∈ s.inserted)
    (second : b ∈ s.inserted) (different : a ≠ b) : a.1.xmppTID ≠ b.1.xmppTID ∧ a.2 ≠ b.2 := by
  have symmetric : Std.Symm fun a b : AsyncEventEntry × Nat => a.1.xmppTID ≠ b.1.xmppTID ∧ a.2 ≠ b.2 :=
    ⟨fun _ _ differ => ⟨differ.1.symm, differ.2.symm⟩⟩
  exact accounted.keyed.forall first second different

theorem Accounted.one_entry (accounted : s.Accounted) {entry other : AsyncEventEntry}
    (inside : (entry, number) ∈ s.inserted) (inside' : (other, number) ∈ s.inserted) : entry = other := by
  by_contra different
  exact (accounted.apart inside inside' fun same => different (congrArg Prod.fst same)).2 rfl

/-- The entry that the event of the task finds is its own. -/
theorem Alone.own_entry (alone : s.Alone number) (accounted : s.Accounted) {task : ServiceTask}
    (arrived : number ∈ s.events) (known : s.issued[number]? = some task) {entry : AsyncEventEntry}
    (member : entry ∈ s.mgr.asyncTasks.list) (found : entry.found task.taskID task.port = true) :
    (entry, number) ∈ s.inserted := by
  obtain ⟨other, inside⟩ := accounted.pending entry member
  have parts : entry.taskID = task.taskID ∧ entry.srvPort = task.port := of_decide_eq_true found
  have same : s.ident other = s.ident number := by
    rw [accounted.entry_ident inside, parts.1, parts.2]
    unfold ident
    rw [known]
    rfl
  have equal := alone.unique (.inr (.inl arrived)) other (.inr (.inr (.inr ⟨entry, member, inside⟩))) same
  exact equal ▸ inside

/-- An event that is given to `ReceiveEvent` finds the first entry with its port and its id,
if there is one. -/
theorem takeEntry_cases (tasks : AsyncTasks) (tid : Int32) (port : Int) :
    (tasks.takeEntry tid port = none ∧ ∀ entry ∈ tasks.list, ¬ entry.found tid port = true) ∨
      ∃ entry ∈ tasks.list, entry.found tid port = true ∧
        tasks.takeEntry tid port =
          some (entry, { tasks with list := tasks.list.filter fun other => !other.found tid port }) := by
  unfold AsyncTasks.takeEntry
  cases first : tasks.list.find? (AsyncEventEntry.found tid port) with
  | none => exact .inl ⟨rfl, List.find?_eq_none.mp first⟩
  | some entry => exact .inr ⟨entry, List.mem_of_find?_eq_some first, List.find?_some first, rfl⟩

/-- What a step leaves alone that only loses tasks and events. A service that counts from the start again
runs no task. -/
structure Loses (s t : AsyncSystem) : Prop where
  places : ∀ number, t.places number ≤ s.places number
  generator : ∀ port, t.identGenerator port = s.identGenerator port ∨
    t.identGenerator port = 0 ∧ ∀ number ∈ t.running, s.portOf number ≠ some port
  running : ∀ number ∈ t.running, number ∈ s.running
  live : ∀ number, t.Live number → s.Live number
  issued : t.issued = s.issued
  requester : t.requester = s.requester
  receiver : t.receiver = s.receiver
  tasks : t.mgr.asyncTasks = s.mgr.asyncTasks
  inserted : t.inserted = s.inserted
  removed : t.removed = s.removed
  received : t.received = s.received
  early : t.early = s.early
  processed : t.processed = s.processed
  sent : t.sent = s.sent

theorem Loses.generator_eq (loses : s.Loses t) {task : ServiceTask} (running : number ∈ t.running)
    (known : s.issued[number]? = some task) : t.identGenerator task.port = s.identGenerator task.port := by
  rcases loses.generator task.port with same | ⟨_, elsewhere⟩
  · exact same
  · refine absurd ?_ (elsewhere number running)
    unfold portOf
    rw [known]
    rfl

theorem Accounted.loses (accounted : s.Accounted) (loses : s.Loses t) : t.Accounted where
  bounded port := by
    have before := accounted.bounded port
    rcases loses.generator port with same | ⟨zero, _⟩ <;> omega
  runs := by
    intro number member port taskID named
    unfold ident at named
    rw [loses.issued] at named
    obtain ⟨task, known, parts⟩ := Option.map_eq_some_iff.mp named
    obtain ⟨n, positive, small, equal⟩ := accounted.runs number (loses.running number member) port taskID named
    have same := loses.generator_eq member known
    have here : task.port = port := congrArg Prod.fst parts
    rw [here] at same
    exact ⟨n, positive, by omega, equal⟩
  single number := (loses.places number).trans (accounted.single number)
  started := by
    intro number present
    rw [loses.issued]
    exact accounted.started number (present.trans_le (loses.places number))
  pending := by
    rw [loses.tasks, loses.inserted]
    exact accounted.pending
  sound := by
    rw [loses.inserted, loses.issued]
    exact accounted.sound
  responds := by
    rw [loses.requester, loses.issued, loses.inserted]
    exact accounted.responds
  counted := by
    rw [loses.inserted, loses.tasks]
    exact accounted.counted
  keyed := by
    rw [loses.inserted]
    exact accounted.keyed
  early := by
    rw [loses.early, loses.received]
    exact accounted.early
  processed := by
    rw [loses.processed, loses.received]
    exact accounted.processed
  reading := by
    rw [loses.receiver, loses.received, loses.processed]
    exact accounted.reading

theorem Alone.loses (alone : s.Alone number) (loses : s.Loses t) : t.Alone number where
  unique := by
    intro alive other alive' same
    unfold ident at same
    rw [loses.issued] at same
    exact alone.unique (loses.live number alive) other (loses.live other alive') same
  waiting := by
    rw [loses.inserted, loses.received, loses.early, loses.tasks]
    exact alone.waiting
  reading := by
    rw [loses.receiver, loses.inserted, loses.early]
    exact alone.reading
  removed := by
    rw [loses.removed, loses.inserted]
    exact alone.removed
  replied := by
    rw [loses.sent, loses.inserted]
    exact alone.replied

theorem known_append {number : Nat} {task : ServiceTask} {tasks : List ServiceTask} (known : tasks[number]? = some task)
    (more : List ServiceTask) : (tasks ++ more)[number]? = some task := by
  have inside := (List.getElem?_eq_some_iff.mp known).1
  rw [List.getElem?_append_left inside]
  exact known

/-- A number that moves from one list to the end of another is counted as before. -/
theorem count_move {l m : List Nat} {number : Nat} (member : number ∈ l) (other : Nat) :
    (l.erase number).count other + (m ++ [number]).count other = l.count other + m.count other := by
  have positive : 0 < l.count number := List.count_pos_iff.mpr member
  rw [List.count_append, List.count_singleton, List.count_erase]
  rcases eq_or_ne number other with rfl | different
  · simp only [beq_self_eq_true, if_true]
    omega
  · have differ : (number == other) = false := beq_eq_false_iff_ne.mpr different
    simp only [differ, Bool.false_eq_true, if_false]
    omega

/-- No task that the service of the port runs has its next id. -/
theorem Accounted.running_ident (accounted : s.Accounted) {port : Int} (room : s.hasIdent port)
    (running : number ∈ s.running) : s.ident number ≠ some (port, s.nextIdent port) := by
  intro same
  obtain ⟨n, positive, small, equal⟩ := accounted.runs number running port _ same
  have limit := accounted.bounded port
  unfold hasIdent at room
  have next := int32_ofInt_injective (m := s.identGenerator port + 1) (by omega) (by omega) positive (by omega) equal
  omega

/-- A fresh id is that of no task that is awaited. -/
theorem Accounted.awaited_ident (accounted : s.Accounted) {port : Int} (fresh : s.FreshIdent port)
    (awaited : s.Awaited number) : s.ident number ≠ some (port, s.nextIdent port) := by
  intro same
  rcases awaited with arrived | responding | ⟨entry, member, inside⟩
  · exact fresh.2.1 number arrived same
  · obtain ⟨port', taskID, sender, here, known⟩ := accounted.requester_known responding
    have clash := fresh.2.2
    rw [here] at clash
    unfold ident at same
    rw [known] at same
    exact clash (Option.some.inj same)
  · rw [accounted.entry_ident inside] at same
    have parts := Prod.mk.inj (Option.some.inj same)
    exact fresh.1 entry member (decide_eq_true ⟨parts.2, parts.1⟩)

section Push
variable {port : Int} {sender : Option (List Byte)} {requester : RequesterPc}

/-- A task of another client, or one that the command thread asks for. -/
def started (s : AsyncSystem) (port : Int) (sender : Option (List Byte)) (requester : RequesterPc) : AsyncSystem :=
  { s.pushTask port sender with requester := requester }

/-- Whose response the command thread awaits after a push. -/
def Asks (s : AsyncSystem) (port : Int) (sender : Option (List Byte)) (requester : RequesterPc) : Prop :=
  requester = s.requester ∨
    ∃ name, sender = some name ∧ requester = .responding port (s.nextIdent port) name s.issued.length

theorem started_ident_old (below : number < s.issued.length) :
    (s.started port sender requester).ident number = s.ident number := by
  unfold ident
  exact congrArg (Option.map _) (List.getElem?_append_left below)

theorem started_ident_new : (s.started port sender requester).ident s.issued.length = some (port, s.nextIdent port) := by
  unfold ident
  exact congrArg (Option.map _) List.getElem?_concat_length

theorem started_length : (s.started port sender requester).issued.length = s.issued.length + 1 := List.length_append

theorem started_live (who : s.Asks port sender requester) (alive : (s.started port sender requester).Live number) :
    s.Live number ∨ number = s.issued.length := by
  rcases alive with running | arrived | responding | entry
  · rcases List.mem_append.mp running with before | this
    · exact .inl (.inl before)
    · exact .inr (List.mem_singleton.mp this)
  · exact .inl (.inr (.inl arrived))
  · rcases who with same | ⟨name, _, pc⟩
    · exact .inl (.inr (.inr (.inl (same ▸ responding))))
    · subst pc
      exact .inr (Option.some.inj responding).symm
  · exact .inl (.inr (.inr (.inr entry)))

/-- The new task is in one place. -/
theorem started_places (number : Nat) : (s.started port sender requester).places number =
    s.places number + if number = s.issued.length then 1 else 0 := by
  have count : (s.running ++ [s.issued.length]).count number =
      s.running.count number + if number = s.issued.length then 1 else 0 := by
    rw [List.count_append, List.count_singleton]
    rcases eq_or_ne number s.issued.length with rfl | different
    · simp only [beq_self_eq_true, if_true]
    · simp only [beq_eq_false_iff_ne.mpr different.symm, different, Bool.false_eq_true, if_false]
  unfold places started AsyncSystem.pushTask
  dsimp only
  omega

theorem Accounted.pushTask (accounted : s.Accounted) (room : s.hasIdent port) (who : s.Asks port sender requester) :
    (s.started port sender requester).Accounted := by
  have limit := accounted.bounded port
  have unplaced : s.places s.issued.length = 0 := by
    have started := accounted.started s.issued.length
    omega
  refine ⟨?_, ?_, ?_, ?_, accounted.pending, ?_, ?_, accounted.counted, accounted.keyed, accounted.early,
    accounted.processed, accounted.reading⟩
  · intro other
    unfold hasIdent at room
    rcases eq_or_ne other port with rfl | different
    · simp only [AsyncSystem.started, AsyncSystem.pushTask, update_self]
      omega
    · simp only [AsyncSystem.started, AsyncSystem.pushTask, update_of_ne different]
      exact accounted.bounded other
  · intro number member port' taskID named
    rcases List.mem_append.mp member with before | this
    · rw [started_ident_old (accounted.below (.inl before))] at named
      obtain ⟨n, positive, small, equal⟩ := accounted.runs number before port' taskID named
      refine ⟨n, positive, ?_, equal⟩
      rcases eq_or_ne port' port with rfl | different
      · simp only [AsyncSystem.started, AsyncSystem.pushTask, update_self]
        omega
      · simp only [AsyncSystem.started, AsyncSystem.pushTask, update_of_ne different]
        exact small
    · rw [List.mem_singleton.mp this, started_ident_new] at named
      obtain ⟨rfl, rfl⟩ := Prod.mk.inj (Option.some.inj named)
      refine ⟨s.identGenerator port + 1, by omega, ?_, rfl⟩
      simp only [AsyncSystem.started, AsyncSystem.pushTask, update_self]
      omega
  · intro number
    rw [started_places]
    have before := accounted.single number
    split
    · rename_i same
      rw [same, unplaced]
    · exact before
  · intro number present
    rw [started_places] at present
    rw [started_length]
    split at present
    · omega
    · have before := accounted.started number present
      omega
  · intro entry number inside
    exact known_append (accounted.sound entry number inside) _
  · intro port' taskID name number here
    rcases who with same | ⟨name', rfl, pc⟩
    · have before := accounted.responds port' taskID name number (same ▸ here)
      exact ⟨known_append before.1 _, before.2⟩
    · have parts : RequesterPc.responding port (s.nextIdent port) name' s.issued.length =
          .responding port' taskID name number := pc.symm.trans here
      cases parts
      refine ⟨List.getElem?_concat_length, fun entry inside => ?_⟩
      have known := (List.getElem?_eq_some_iff.mp (accounted.sound entry _ inside)).1
      omega

/-- The id of a task is fresh when it gets it, and no other task gets it while the task is awaited. -/
theorem Alone.pushTask (alone : s.Alone number) (accounted : s.Accounted) (room : s.hasIdent port)
    (who : s.Asks port sender requester) (own : s.issued.length = number → s.FreshIdent port)
    (others : s.Awaited number → s.ident number ≠ some (port, s.nextIdent port)) :
    (s.started port sender requester).Alone number := by
  refine ⟨fun alive other alive' same => ?_, alone.waiting, alone.reading, alone.removed, alone.replied⟩
  rcases started_live who alive with before | rfl
  · have old := accounted.below before
    rw [started_ident_old old] at same
    rcases started_live who alive' with before' | rfl
    · rw [started_ident_old (accounted.below before')] at same
      exact alone.unique before other before' same
    · rw [started_ident_new] at same
      rcases before with running | awaited
      · exact absurd same.symm (accounted.running_ident room running)
      · exact absurd same.symm (others awaited)
  · rcases started_live who alive' with before' | rfl
    · rw [started_ident_old (accounted.below before'), started_ident_new] at same
      rcases before' with running | awaited
      · exact absurd same (accounted.running_ident room running)
      · exact absurd same (accounted.awaited_ident (own rfl) awaited)
    · rfl

end Push

section Response
variable {port : Int} {taskID : Int32} {sender : List Byte} {asked : Nat}

/-- The command thread has inserted the entry. -/
def answered (s : AsyncSystem) (port : Int) (taskID : Int32) (sender : List Byte) (asked : Nat) : AsyncSystem :=
  { s with mgr := (s.mgr.taskReply port sender .inProg (decimal taskID.toInt)).mgr, requester := .idle
           inserted := s.inserted ++ [(s.newEntry port taskID sender, asked)] }

theorem answered_list : (s.answered port taskID sender asked).mgr.asyncTasks.list =
    s.mgr.asyncTasks.list ++ [s.newEntry port taskID sender] :=
  congrArg AsyncTasks.list (XmppMgr.taskReply_asyncTasks s.mgr port sender taskID)

theorem answered_counter : (s.answered port taskID sender asked).mgr.asyncTasks.counter =
    s.mgr.asyncTasks.counter + 1 :=
  congrArg AsyncTasks.counter (XmppMgr.taskReply_asyncTasks s.mgr port sender taskID)

/-- The new entry takes the place of the response. -/
theorem Accounted.answered_live (accounted : s.Accounted) (here : s.requester = .responding port taskID sender asked)
    (alive : (s.answered port taskID sender asked).Live number) : s.Live number := by
  rcases alive with running | arrived | none | ⟨entry, member, inside⟩
  · exact .inl running
  · exact .inr (.inl arrived)
  · cases none
  · rcases List.mem_append.mp inside with before | this
    · rw [answered_list] at member
      rcases List.mem_append.mp member with old | new
      · exact .inr (.inr (.inr ⟨entry, old, before⟩))
      · -- its task id is that of an older entry
        have counted := accounted.counted entry number before
        rw [List.mem_singleton.mp new] at counted
        unfold newEntry at counted
        dsimp only at counted
        omega
    · cases List.mem_singleton.mp this
      refine .inr (.inr (.inl ?_))
      rw [here]
      rfl

/-- The entry is inserted under the next xmpp task id. -/
theorem Accounted.response (accounted : s.Accounted) (here : s.requester = .responding port taskID sender asked) :
    (s.answered port taskID sender asked).Accounted := by
  obtain ⟨known, absent⟩ := accounted.responds _ _ _ _ here
  refine ⟨accounted.bounded, accounted.runs, accounted.single, accounted.started, ?_, ?_, ?_, ?_, ?_, accounted.early,
    accounted.processed, accounted.reading⟩
  · intro entry member
    rw [answered_list] at member
    rcases List.mem_append.mp member with old | new
    · obtain ⟨other, inside⟩ := accounted.pending entry old
      exact ⟨other, List.mem_append_left _ inside⟩
    · exact ⟨asked, List.mem_append_right _ (List.mem_singleton.mp new ▸ List.mem_singleton_self _)⟩
  · intro entry other inside
    rcases List.mem_append.mp inside with before | this
    · exact accounted.sound entry other before
    · cases List.mem_singleton.mp this
      exact known
  · intro port' taskID' sender' number' responding
    cases responding
  · intro entry other inside
    rw [answered_counter]
    rcases List.mem_append.mp inside with before | this
    · have counted := accounted.counted entry other before
      omega
    · cases List.mem_singleton.mp this
      exact le_rfl
  · refine List.pairwise_append.mpr ⟨accounted.keyed, List.pairwise_singleton _ _, fun pair before new this => ?_⟩
    cases List.mem_singleton.mp this
    obtain ⟨entry, other⟩ := pair
    refine ⟨fun same => ?_, fun same => ?_⟩
    · have counted := accounted.counted entry other before
      have equal : entry.xmppTID = s.mgr.asyncTasks.counter + 1 := same
      omega
    · have equal : other = asked := same
      exact absent entry (equal ▸ before)

theorem Alone.response (alone : s.Alone number) (accounted : s.Accounted)
    (here : s.requester = .responding port taskID sender asked) :
    (s.answered port taskID sender asked).Alone number := by
  refine ⟨fun alive other alive' same => ?_, fun entry inside still => ?_, fun entry reading => ?_, fun entry gone => ?_,
    fun reply member own => ?_⟩
  · exact alone.unique (accounted.answered_live here alive) other (accounted.answered_live here alive') same
  · rw [answered_list]
    rcases List.mem_append.mp inside with before | this
    · exact List.mem_append_left _ (alone.waiting entry before still)
    · cases List.mem_singleton.mp this
      exact List.mem_append_right _ (List.mem_singleton_self _)
  · obtain ⟨inside, timely⟩ := alone.reading entry reading
    exact ⟨List.mem_append_left _ inside, timely⟩
  · exact List.mem_append_left _ (alone.removed entry gone)
  · obtain ⟨entry, inside, rest⟩ := alone.replied reply member own
    exact ⟨entry, List.mem_append_left _ inside, rest⟩

end Response

section Take
variable {taken : Nat} {task : ServiceTask}

/-- What `ReceiveEvent` does for an event: it finds no entry, or the first one with its port and its id. -/
theorem takeEvent_cases (s : AsyncSystem) (taken : Nat) (task : ServiceTask) :
    (∀ entry ∈ s.mgr.asyncTasks.list, ¬ entry.found task.taskID task.port = true) ∧
        (s.takeEvent taken task).mgr = s.mgr ∧ (s.takeEvent taken task).receiver = s.receiver ∧
        (s.takeEvent taken task).removed = s.removed ∧ (s.takeEvent taken task).processed = s.processed ++ [taken] ∨
      ∃ entry ∈ s.mgr.asyncTasks.list, entry.found task.taskID task.port = true ∧
        (s.takeEvent taken task).mgr.asyncTasks.counter = s.mgr.asyncTasks.counter ∧
        (s.takeEvent taken task).mgr.asyncTasks.list =
          (s.mgr.asyncTasks.list.filter fun other => !other.found task.taskID task.port) ∧
        (s.takeEvent taken task).receiver = .reading entry taken ∧
        (s.takeEvent taken task).removed = s.removed ++
          ((s.mgr.asyncTasks.list.filter (AsyncEventEntry.found task.taskID task.port)).map fun gone => (gone, taken)) ∧
        (s.takeEvent taken task).processed = s.processed := by
  unfold AsyncSystem.takeEvent
  rcases takeEntry_cases s.mgr.asyncTasks task.taskID task.port with ⟨none, missing⟩ | ⟨entry, member, found, some⟩
  · rw [none]
    exact .inl ⟨missing, rfl, rfl, rfl, rfl⟩
  · rw [some]
    exact .inr ⟨entry, member, found, rfl, rfl, rfl, rfl, rfl⟩

/-- What it does in either case. -/
theorem takeEvent_same (s : AsyncSystem) (taken : Nat) (task : ServiceTask) :
    (s.takeEvent taken task).identGenerator = s.identGenerator ∧ (s.takeEvent taken task).running = s.running ∧
      (s.takeEvent taken task).issued = s.issued ∧ (s.takeEvent taken task).requester = s.requester ∧
      (s.takeEvent taken task).inserted = s.inserted ∧ (s.takeEvent taken task).sent = s.sent ∧
      (s.takeEvent taken task).events = s.events.erase taken ∧
      (s.takeEvent taken task).received = s.received ++ [taken] ∧
      (s.takeEvent taken task).early =
        if (s.inserted.any fun pair => pair.2 = taken) = true then s.early else s.early ++ [taken] := by
  unfold AsyncSystem.takeEvent
  split <;> exact ⟨rfl, rfl, rfl, rfl, rfl, rfl, rfl, rfl, rfl⟩

theorem takeEvent_list {entry : AsyncEventEntry} (member : entry ∈ (s.takeEvent taken task).mgr.asyncTasks.list) :
    entry ∈ s.mgr.asyncTasks.list := by
  rcases takeEvent_cases s taken task with ⟨_, mgr, _⟩ | ⟨_, _, _, _, list, _⟩
  · exact mgr ▸ member
  · rw [list] at member
    exact List.mem_of_mem_filter member

theorem takeEvent_live (alive : (s.takeEvent taken task).Live number) : s.Live number := by
  obtain ⟨_, running, _, requester, inserted, _, events, _⟩ := takeEvent_same s taken task
  unfold Live Awaited at alive
  rw [running, requester, inserted, events] at alive
  rcases alive with running | later | responding | ⟨entry, member, inside⟩
  · exact .inl running
  · exact .inr (.inl (List.mem_of_mem_erase later))
  · exact .inr (.inr (.inl responding))
  · exact .inr (.inr (.inr ⟨entry, takeEvent_list member, inside⟩))

/-- An event is early when no entry of its own has been inserted. -/
theorem mem_takeEvent_early : number ∈ (s.takeEvent taken task).early ↔
    number ∈ s.early ∨ number = taken ∧ ∀ entry, (entry, taken) ∉ s.inserted := by
  obtain ⟨_, _, _, _, _, _, _, _, early⟩ := takeEvent_same s taken task
  rw [early]
  split_ifs with known
  · refine (or_iff_left fun new => ?_).symm
    obtain ⟨⟨entry, other⟩, inside, same⟩ := List.any_eq_true.mp known
    have equal : other = taken := of_decide_eq_true same
    exact new.2 entry (equal ▸ inside)
  · rw [List.mem_append, List.mem_singleton]
    refine or_congr_right (and_iff_left fun entry inside => known ?_).symm
    exact List.any_eq_true.mpr ⟨_, inside, decide_eq_true rfl⟩

theorem Accounted.takeEvent (accounted : s.Accounted) (arrived : taken ∈ s.events) :
    (s.takeEvent taken task).Accounted := by
  obtain ⟨generator, running, issued, requester, inserted, _, events, received, _⟩ := takeEvent_same s taken task
  have places : ∀ other, (s.takeEvent taken task).places other = s.places other := by
    intro other
    have moved := count_move (m := s.received) arrived other
    unfold AsyncSystem.places
    rw [running, events, received]
    omega
  have unreceived := accounted.unreceived arrived
  refine ⟨generator ▸ accounted.bounded, ?_, fun other => (places other).trans_le (accounted.single other), ?_, ?_, ?_, ?_,
    ?_, inserted ▸ accounted.keyed, ?_, ?_, ?_⟩
  · unfold ident
    rw [running, issued, generator]
    exact accounted.runs
  · intro other present
    rw [issued]
    exact accounted.started other (present.trans_eq (places other))
  · intro entry member
    rw [inserted]
    exact accounted.pending entry (takeEvent_list member)
  · rw [inserted, issued]
    exact accounted.sound
  · rw [requester, issued, inserted]
    exact accounted.responds
  · have counter : (s.takeEvent taken task).mgr.asyncTasks.counter = s.mgr.asyncTasks.counter := by
      rcases takeEvent_cases s taken task with ⟨_, mgr, _⟩ | ⟨_, _, _, counter, _⟩
      · rw [mgr]
      · exact counter
    rw [inserted, counter]
    exact accounted.counted
  · intro other early
    rw [received]
    rcases mem_takeEvent_early.mp early with before | ⟨rfl, _⟩
    · exact List.mem_append_left _ (accounted.early other before)
    · exact List.mem_append_right _ (List.mem_singleton_self _)
  · intro other done
    rw [received]
    rcases takeEvent_cases s taken task with ⟨_, _, _, _, processed⟩ | ⟨_, _, _, _, _, _, _, processed⟩
    · rw [processed] at done
      exact List.mem_append.mpr ((List.mem_append.mp done).imp_left (accounted.processed other))
    · rw [processed] at done
      exact List.mem_append_left _ (accounted.processed other done)
  · intro entry other reading
    rw [received]
    rcases takeEvent_cases s taken task with ⟨_, _, receiver, _, processed⟩ | ⟨_, _, _, _, _, receiver, _, processed⟩
    · rw [receiver] at reading
      obtain ⟨before, open'⟩ := accounted.reading entry other reading
      rw [processed]
      refine ⟨List.mem_append_left _ before, fun done => ?_⟩
      rcases List.mem_append.mp done with done | this
      · exact open' done
      · exact unreceived (List.mem_singleton.mp this ▸ before)
    · rw [receiver] at reading
      cases reading
      rw [processed]
      exact ⟨List.mem_append_right _ (List.mem_singleton_self _), fun done => unreceived (accounted.processed _ done)⟩

theorem Alone.unique_takeEvent (alone : s.Alone number) (alive : (s.takeEvent taken task).Live number) (other : Nat)
    (alive' : (s.takeEvent taken task).Live other)
    (same : (s.takeEvent taken task).ident other = (s.takeEvent taken task).ident number) : other = number := by
  obtain ⟨_, _, issued, _⟩ := takeEvent_same s taken task
  unfold ident at same
  rw [issued] at same
  exact alone.unique (takeEvent_live alive) other (takeEvent_live alive') same

/-- When no entry with the id of the task is pending, none has been inserted for it. -/
theorem Alone.absent (alone : s.Alone number) (accounted : s.Accounted) (arrived : number ∈ s.events)
    (known : s.issued[number]? = some task)
    (missing : ∀ entry ∈ s.mgr.asyncTasks.list, ¬ entry.found task.taskID task.port = true) (entry : AsyncEventEntry) :
    (entry, number) ∉ s.inserted := by
  intro inside
  have issued := accounted.sound entry number inside
  rw [known] at issued
  cases issued
  exact missing entry (alone.waiting entry inside (.inl (accounted.unreceived arrived))) (decide_eq_true ⟨rfl, rfl⟩)

/-- The event of the task itself finds its entry, if it has been inserted, and no other. -/
theorem Alone.takeOwn (alone : s.Alone number) (accounted : s.Accounted) (idle : s.receiver = .idle)
    (arrived : number ∈ s.events) (known : s.issued[number]? = some task) : (s.takeEvent number task).Alone number := by
  obtain ⟨_, _, _, _, inserted, sent, _, received, _⟩ := takeEvent_same s number task
  have unreceived := accounted.unreceived arrived
  have untimely : number ∉ s.early := fun early => unreceived (accounted.early number early)
  have replied : ∀ reply ∈ (s.takeEvent number task).sent, reply.number = number →
      ∃ entry, (entry, number) ∈ (s.takeEvent number task).inserted ∧ reply.replyTo = entry.replyTo ∧
        reply.xmppTID = entry.xmppTID := by
    rw [sent, inserted]
    exact alone.replied
  have now : number ∈ (s.takeEvent number task).received := by
    rw [received]
    exact List.mem_append_right _ (List.mem_singleton_self _)
  rcases takeEvent_cases s number task with ⟨missing, mgr, receiver, removed, _⟩ |
    ⟨entry, member, found, _, list, receiver, removed, _⟩
  · have absent := alone.absent accounted arrived known missing
    refine ⟨alone.unique_takeEvent, fun entry inside => ?_, fun entry reading => ?_, fun entry gone => ?_, replied⟩
    · rw [inserted] at inside
      exact absurd inside (absent entry)
    · rw [receiver, idle] at reading
      cases reading
    · rw [removed] at gone
      rw [inserted]
      exact alone.removed entry gone
  · have own := alone.own_entry accounted arrived known member found
    have timely : number ∉ (s.takeEvent number task).early := by
      intro early
      rcases mem_takeEvent_early.mp early with before | ⟨_, none⟩
      · exact untimely before
      · exact none entry own
    refine ⟨alone.unique_takeEvent, fun other inside still => ?_, fun other reading => ?_, fun other gone => ?_, replied⟩
    · rcases still with later | early
      · exact absurd now later
      · exact absurd early timely
    · rw [receiver] at reading
      cases reading
      rw [inserted]
      exact ⟨own, timely⟩
    · rw [removed] at gone
      rw [inserted]
      rcases List.mem_append.mp gone with before | new
      · exact alone.removed other before
      · obtain ⟨entry', filtered, same⟩ := List.mem_map.mp new
        cases same
        obtain ⟨member', found'⟩ := List.mem_filter.mp filtered
        exact alone.own_entry accounted arrived known member' found'

/-- The event of another task leaves the entry of the task where it is. -/
theorem Alone.takeOther (alone : s.Alone number) (accounted : s.Accounted) (different : number ≠ taken)
    (arrived : taken ∈ s.events) (known : s.issued[taken]? = some task) : (s.takeEvent taken task).Alone number := by
  obtain ⟨_, _, _, _, inserted, sent, _, received, _⟩ := takeEvent_same s taken task
  have sameEarly : number ∈ (s.takeEvent taken task).early ↔ number ∈ s.early :=
    mem_takeEvent_early.trans (or_iff_left fun new => different new.1)
  have sameReceived : number ∈ (s.takeEvent taken task).received ↔ number ∈ s.received := by
    rw [received, List.mem_append, List.mem_singleton, or_iff_left different]
  refine ⟨alone.unique_takeEvent, fun entry inside still => ?_, fun entry reading => ?_, fun entry gone => ?_, ?_⟩
  · rw [inserted] at inside
    rw [sameReceived, sameEarly] at still
    have pending := alone.waiting entry inside still
    rcases takeEvent_cases s taken task with ⟨_, mgr, _⟩ | ⟨_, _, _, _, list, _⟩
    · rw [mgr]
      exact pending
    · rw [list]
      refine List.mem_filter.mpr ⟨pending, ?_⟩
      cases here : entry.found task.taskID task.port with
      | false => rfl
      | true =>
        have parts : entry.taskID = task.taskID ∧ entry.srvPort = task.port := of_decide_eq_true here
        have same : s.ident taken = s.ident number := by
          rw [accounted.entry_ident inside, parts.1, parts.2]
          unfold ident
          rw [known]
          rfl
        have live : s.Live number := .inr (.inr (.inr ⟨entry, pending, inside⟩))
        exact absurd (alone.unique live taken (.inr (.inl arrived)) same).symm different
  · rw [inserted, sameEarly]
    rcases takeEvent_cases s taken task with ⟨_, _, receiver, _⟩ | ⟨_, _, _, _, _, receiver, _⟩
    · rw [receiver] at reading
      exact alone.reading entry reading
    · rw [receiver] at reading
      cases reading
      exact absurd rfl different
  · rw [inserted]
    rcases takeEvent_cases s taken task with ⟨_, _, _, removed, _⟩ | ⟨_, _, _, _, _, _, removed, _⟩
    · rw [removed] at gone
      exact alone.removed entry gone
    · rw [removed] at gone
      rcases List.mem_append.mp gone with before | new
      · exact alone.removed entry before
      · obtain ⟨_, _, same⟩ := List.mem_map.mp new
        exact absurd (congrArg Prod.snd same).symm different
  · rw [sent, inserted]
    exact alone.replied

end Take

section Status
variable {read : AsyncEventEntry} {taken : Nat} {connects : Bool} {text : List Byte}

/-- The rpc thread is done with an event. -/
def reported (s : AsyncSystem) (read : AsyncEventEntry) (taken : Nat) (connects : Bool) (text : List Byte) : AsyncSystem :=
  { s with receiver := .idle, processed := s.processed ++ [taken]
           sent := if connects then s.sent ++ [⟨read.replyTo, read.xmppTID, text, taken⟩] else s.sent }

theorem Accounted.taskStatus (accounted : s.Accounted) (here : s.receiver = .reading read taken) :
    (s.reported read taken connects text).Accounted := by
  refine ⟨accounted.bounded, accounted.runs, accounted.single, accounted.started, accounted.pending, accounted.sound,
    accounted.responds, accounted.counted, accounted.keyed, accounted.early, ?_, ?_⟩
  · intro other done
    rcases List.mem_append.mp done with before | this
    · exact accounted.processed other before
    · exact List.mem_singleton.mp this ▸ (accounted.reading read taken here).1
  · intro entry other reading
    cases reading

theorem Alone.taskStatus (alone : s.Alone number) (here : s.receiver = .reading read taken) :
    (s.reported read taken connects text).Alone number := by
  refine ⟨alone.unique, alone.waiting, fun entry reading => (by cases reading), alone.removed, fun reply member own => ?_⟩
  cases connects with
  | false => exact alone.replied reply member own
  | true =>
    rcases List.mem_append.mp member with before | this
    · exact alone.replied reply before own
    · cases List.mem_singleton.mp this
      have equal : taken = number := own
      subst equal
      exact ⟨read, (alone.reading read here).1, rfl, rfl⟩

end Status

/-- What the system can do in one step. -/
inductive Does (s : AsyncSystem) : AsyncAction → AsyncSystem → Prop
  | request {port sender} (room : s.hasIdent port) :
      Does s (.request port sender)
        (s.started port (some sender) (.responding port (s.nextIdent port) sender s.issued.length))
  | otherClient {port} (room : s.hasIdent port) : Does s (.otherClient port) (s.started port none s.requester)
  | response {port taskID sender asked} (here : s.requester = .responding port taskID sender asked) :
      Does s .response (s.answered port taskID sender asked)
  | lose {action t} (loses : s.Loses t) : Does s action t
  | receiveEvent {taken task} (idle : s.receiver = .idle) (arrived : taken ∈ s.events)
      (known : s.issued[taken]? = some task) : Does s (.receiveEvent taken) (s.takeEvent taken task)
  | taskStatus {read taken connects result} (here : s.receiver = .reading read taken) :
      Does s (.taskStatus connects result) (s.reported read taken connects (completionText result read.xmppTID))

/-- The work of a task is done. -/
theorem does_complete {done : Nat} (running : done ∈ s.running) :
    s.Loses { s with running := s.running.erase done, events := s.events ++ [done] } := by
  refine ⟨fun other => ?_, fun _ => .inl rfl, fun _ => List.mem_of_mem_erase, fun other alive => ?_,
    rfl, rfl, rfl, rfl, rfl, rfl, rfl, rfl, rfl, rfl⟩
  · have moved := count_move (m := s.events) running other
    unfold places
    dsimp only
    omega
  · rcases alive with still | arrived | rest
    · exact .inl (List.mem_of_mem_erase still)
    · rcases List.mem_append.mp arrived with before | this
      · exact .inr (.inl before)
      · exact .inl (List.mem_singleton.mp this ▸ running)
    · exact .inr (.inr rest)

theorem does_eventLost (lost : Nat) : s.Loses { s with events := s.events.erase lost } := by
  refine ⟨fun other => ?_, fun _ => .inl rfl, fun _ => id, fun other alive => ?_,
    rfl, rfl, rfl, rfl, rfl, rfl, rfl, rfl, rfl, rfl⟩
  · have fewer := (List.erase_sublist (a := lost) (l := s.events)).count_le other
    unfold places
    dsimp only
    omega
  · rcases alive with running | later | rest
    · exact .inl running
    · exact .inr (.inl (List.mem_of_mem_erase later))
    · exact .inr (.inr rest)

/-- The service of a port counts from the start again, and runs none of its tasks. -/
theorem does_restart {port : Int} {running : List Nat} (fewer : running.Sublist s.running)
    (free : ∀ number ∈ running, s.portOf number ≠ some port) :
    s.Loses { s with identGenerator := update s.identGenerator port 0, running := running } := by
  refine ⟨fun other => ?_, fun other => ?_, fun _ member => fewer.subset member,
    fun other alive => alive.imp_left fun member => fewer.subset member, rfl, rfl, rfl, rfl, rfl, rfl, rfl, rfl, rfl, rfl⟩
  · have count := fewer.count_le other
    unfold places
    dsimp only
    omega
  · dsimp only
    rcases eq_or_ne other port with rfl | different
    · exact .inr ⟨update_self .., free⟩
    · exact .inl (update_of_ne different ..)

/-- Every step is one of these. -/
theorem does_of_step {action : AsyncAction} (next : s.step action = some t) : s.Does action t := by
  unfold AsyncSystem.step at next
  cases action with
  | request port sender =>
    obtain ⟨⟨_, room⟩, rfl⟩ := onlyIf_eq_some.mp next
    exact .request room
  | otherClient port =>
    obtain ⟨room, rfl⟩ := onlyIf_eq_some.mp next
    exact .otherClient room
  | response =>
    cases here : s.requester <;> simp only [here] at next <;> cases next
    exact .response here
  | complete number =>
    obtain ⟨running, rfl⟩ := onlyIf_eq_some.mp next
    exact .lose (does_complete running)
  | eventLost number =>
    obtain ⟨_, rfl⟩ := onlyIf_eq_some.mp next
    exact .lose (does_eventLost number)
  | restart port =>
    cases next
    exact .lose (does_restart List.filter_sublist fun number member => of_decide_eq_true (List.mem_filter.mp member).2)
  | reset port =>
    obtain ⟨free, rfl⟩ := onlyIf_eq_some.mp next
    exact .lose (does_restart (List.Sublist.refl _) free)
  | receiveEvent number =>
    cases known : s.issued[number]? with
    | none =>
      simp only [known] at next
      cases next
    | some task =>
      simp only [known] at next
      obtain ⟨⟨idle, arrived⟩, rfl⟩ := onlyIf_eq_some.mp next
      exact .receiveEvent idle arrived known
  | taskStatus connects taskIDResult =>
    cases here : s.receiver <;> simp only [here] at next <;> cases next
    exact .taskStatus here

theorem Accounted.does (accounted : s.Accounted) {action : AsyncAction} (does : s.Does action t) : t.Accounted := by
  cases does with
  | request room => exact accounted.pushTask room (.inr ⟨_, rfl, rfl⟩)
  | otherClient room => exact accounted.pushTask room (.inl rfl)
  | response here => exact accounted.response here
  | lose loses => exact accounted.loses loses
  | receiveEvent _ arrived _ => exact accounted.takeEvent arrived
  | taskStatus here => exact accounted.taskStatus here

theorem Alone.does (alone : s.Alone number) (accounted : s.Accounted) {action : AsyncAction}
    (fresh : s.FreshFor number action) (does : s.Does action t) : t.Alone number := by
  cases does with
  | request room => exact alone.pushTask accounted room (.inr ⟨_, rfl, rfl⟩) fresh.1 fresh.2
  | otherClient room => exact alone.pushTask accounted room (.inl rfl) fresh.1 fresh.2
  | response here => exact alone.response accounted here
  | lose loses => exact alone.loses loses
  | @receiveEvent taken _ idle arrived known =>
    rcases eq_or_ne number taken with rfl | different
    · exact alone.takeOwn accounted idle arrived known
    · exact alone.takeOther accounted different arrived known
  | taskStatus here => exact alone.taskStatus here

theorem start_idle (mgr : XmppMgr) (number : Nat) : ¬ (AsyncSystem.start mgr).Live number := by
  rintro (running | arrived | responding | ⟨entry, member, _⟩)
  · exact List.not_mem_nil running
  · exact List.not_mem_nil arrived
  · cases responding
  · exact List.not_mem_nil member

theorem accounted_start (mgr : XmppMgr) : (AsyncSystem.start mgr).Accounted where
  bounded _ := ⟨le_rfl, by norm_num [AsyncSystem.start]⟩
  runs _ member := absurd member List.not_mem_nil
  single _ := Nat.zero_le 1
  started _ present := absurd present (lt_irrefl 0)
  pending _ member := absurd member List.not_mem_nil
  sound _ _ member := absurd member List.not_mem_nil
  responds _ _ _ _ impossible := by cases impossible
  counted _ _ member := absurd member List.not_mem_nil
  keyed := .nil
  early _ member := absurd member List.not_mem_nil
  processed _ member := absurd member List.not_mem_nil
  reading _ _ impossible := by cases impossible

theorem alone_start (mgr : XmppMgr) (number : Nat) : (AsyncSystem.start mgr).Alone number where
  unique alive := absurd alive (start_idle mgr number)
  waiting _ member := absurd member List.not_mem_nil
  reading _ impossible := by cases impossible
  removed _ member := absurd member List.not_mem_nil
  replied _ member := absurd member List.not_mem_nil

theorem reach_accounted {mgr : XmppMgr} {allow : AsyncSystem → AsyncAction → Prop}
    (reach : Reach AsyncSystem.step allow (AsyncSystem.start mgr) s) : s.Accounted :=
  reach.invariant (accounted_start mgr) fun _ _ _ accounted _ next => accounted.does (does_of_step next)

/-- Ids that are fresh are fresh for every task. -/
theorem FreshIdents.freshFor (accounted : s.Accounted) {action : AsyncAction} (fresh : s.FreshIdents action)
    (number : Nat) : s.FreshFor number action := by
  cases action with
  | request port sender => exact ⟨fun _ => fresh, fun awaited => accounted.awaited_ident fresh awaited⟩
  | otherClient port => exact ⟨fun _ => fresh, fun awaited => accounted.awaited_ident fresh awaited⟩
  | _ => trivial

theorem reach_alone {mgr : XmppMgr} {allow : AsyncSystem → AsyncAction → Prop} {number : Nat}
    (fresh : ∀ s action, s.Accounted → allow s action → s.FreshFor number action)
    (reach : Reach AsyncSystem.step allow (AsyncSystem.start mgr) s) : s.Alone number := by
  induction reach with
  | start => exact alone_start mgr number
  | next before allowed next ih =>
    have accounted := reach_accounted before
    exact ih.does accounted (fresh _ _ accounted allowed) (does_of_step next)

/-- While the services hand out fresh ids only, every completion goes to the sender whose
command created the task, under the xmpp task id of that command, and an event removes no
entry but that of its own task: every other one is still in the list. -/
theorem completion_to_requester {mgr : XmppMgr}
    (reach : Reach AsyncSystem.step FreshIdents (AsyncSystem.start mgr) s) :
    (∀ reply ∈ s.sent, ∃ entry task, (entry, reply.number) ∈ s.inserted ∧ s.issued[reply.number]? = some task ∧
      task.sender = some reply.replyTo ∧ reply.xmppTID = entry.xmppTID) ∧
      (∀ pair ∈ s.removed, pair ∈ s.inserted) ∧
      (s.inserted.Pairwise fun a b => a.1.xmppTID ≠ b.1.xmppTID ∧ a.2 ≠ b.2) ∧
      ∀ pair ∈ s.inserted, pair.2 ∉ s.received ∨ pair.2 ∈ s.early → pair.1 ∈ s.mgr.asyncTasks.list := by
  have accounted := reach_accounted reach
  have alone (number : Nat) : s.Alone number :=
    reach_alone (fun _ _ accounted fresh => fresh.freshFor accounted number) reach
  refine ⟨fun reply member => ?_, fun pair gone => (alone pair.2).removed pair.1 gone, accounted.keyed,
    fun pair inside still => (alone pair.2).waiting pair.1 inside still⟩
  obtain ⟨entry, inside, replyTo, xmppTID⟩ := (alone reply.number).replied reply member rfl
  exact ⟨entry, _, inside, accounted.sound entry reply.number inside, congrArg some replyTo.symm, xmppTID⟩

/-- Two tasks of one service that complete in the other order, and a third one. -/
theorem completion_to_requester_swapped :
    ∃ s : AsyncSystem, s.sent.map CompletionReply.replyTo = [ascii "b", ascii "a"] ∧
      (∀ reply ∈ s.sent, ∃ entry task, (entry, reply.number) ∈ s.inserted ∧ s.issued[reply.number]? = some task ∧
        task.sender = some reply.replyTo ∧ reply.xmppTID = entry.xmppTID) ∧
      ⟨3, portSysmgr, 3, ascii "a"⟩ ∈ s.mgr.asyncTasks.list := by
  obtain ⟨s, reach, replies, inserted, unreceived⟩ := exists_reach AsyncSystem.step FreshIdents
    (.start (.start (ascii "a") []))
    [.request portSysmgr (ascii "a"), .response, .request portSysmgr (ascii "b"), .response,
     .request portSysmgr (ascii "a"), .response, .complete 1, .receiveEvent 1, .taskStatus true (ascii "0"),
     .complete 0, .receiveEvent 0, .taskStatus true (ascii "0")]
    (fun s => s.sent.map CompletionReply.replyTo = [ascii "b", ascii "a"] ∧
      (⟨3, portSysmgr, 3, ascii "a"⟩, 2) ∈ s.inserted ∧ 2 ∉ s.received) (by decide +kernel)
  obtain ⟨own, _, _, kept⟩ := completion_to_requester reach
  exact ⟨s, replies, own, kept _ inserted (.inl unreceived)⟩

/-- The service restarts while the task of `a` runs and gives its id to the task of `b`.
Each entry is inserted before the event arrives. The completion of the second task is
sent to `a`, and both entries are removed. -/
theorem completion_to_other_sender :
    ∃ s, Reach AsyncSystem.step (fun _ _ => True) (.start (.start (ascii "a") [])) s ∧ s.early = [] ∧
      s.issued = [⟨portSysmgr, 1, some (ascii "a")⟩, ⟨portSysmgr, 1, some (ascii "b")⟩] ∧
      s.inserted = [(⟨1, portSysmgr, 1, ascii "a"⟩, 0), (⟨1, portSysmgr, 2, ascii "b"⟩, 1)] ∧
      s.sent.map (fun reply => (reply.replyTo, reply.xmppTID, reply.number)) = [(ascii "a", 1, 1)] ∧
      s.removed = [(⟨1, portSysmgr, 1, ascii "a"⟩, 1), (⟨1, portSysmgr, 2, ascii "b"⟩, 1)] :=
  exists_reach AsyncSystem.step (fun _ _ => True) (.start (.start (ascii "a") []))
    [.request portSysmgr (ascii "a"), .response, .restart portSysmgr, .request portSysmgr (ascii "b"), .response,
     .complete 1, .receiveEvent 1, .taskStatus true (ascii "0")] _ (by decide +kernel)

end AsyncSystem
end JsonRpcTcp
