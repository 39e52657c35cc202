import JsonRpcTcp.TaskStatus

namespace JsonRpcTcp
open Function

/-- A task id: not in use, in progress with what `run_work` has returned, finished and not
reported, and reported, evicted or deleted. -/
inductive TaskPhase where
  | unknown
  | inProgress (returned : Option RpcResult)
  | finished (result : RpcResult)
  | gone
  deriving DecidableEq, Repr

namespace TaskPhase

/-- What `get_task_status` is to report. -/
def status : TaskPhase → RpcResult
  | .unknown | .gone => .taskIdNotFound
  | .inProgress _ => .inProg
  | .finished result => result

/-- The life cycle of a task id. A finished task that is preserved is reported once or evicted. -/
def next : TaskPhase → TaskNews → Option TaskPhase
  | .unknown, .pushed _ => some (.inProgress none)
  | .inProgress none, .ran _ result => some (.inProgress (some result))
  | .inProgress (some result), .finished _ preserved => some (if preserved then .finished result else .gone)
  | .finished _, .evicted _ => some .gone
  | .finished result, .polled _ taskSts => if taskSts = result then some .gone else none
  | phase, .polled _ taskSts => if taskSts = phase.status then some phase else none
  | _, _ => none

/-- News of another task change nothing. -/
def follow (taskID : Int) (phase : TaskPhase) (news : TaskNews) : Option TaskPhase :=
  if news.taskID = taskID then phase.next news else some phase

/-- The phases of all task ids before and after this news. -/
def Follows (phases : Int → TaskPhase) (news : List TaskNews) (phases' : Int → TaskPhase) : Prop :=
  ∀ taskID, news.foldlM (follow taskID) (phases taskID) = some (phases' taskID)

theorem follows_nil (phases : Int → TaskPhase) : Follows phases [] phases := fun _ => rfl

theorem follows_one (news : TaskNews) {phases : Int → TaskPhase} {phase : TaskPhase}
    (next : (phases news.taskID).next news = some phase) : Follows phases [news] (update phases news.taskID phase) := by
  intro taskID
  have one : [news].foldlM (follow taskID) (phases taskID) = follow taskID (phases taskID) news := bind_pure _
  rw [one, follow]
  by_cases own : news.taskID = taskID
  · rw [if_pos own, ← own, next, update_self]
  · rw [if_neg own, update_of_ne (Ne.symm own)]

/-- A status that is not a last one changes nothing. -/
theorem next_polled {phase : TaskPhase} (taskID : Int) (early : ∀ result, phase ≠ .finished result) :
    phase.next (.polled taskID phase.status) = some phase := by
  cases phase with
  | finished result => exact absurd rfl (early result)
  | unknown => rfl
  | gone => rfl
  | inProgress returned => cases returned <;> rfl

end TaskPhase

/-- The phase of a task id after this news, if the news follow the life cycle. -/
def lifeOf (taskID : Int) (news : List TaskNews) : Option TaskPhase :=
  news.foldlM (TaskPhase.follow taskID) .unknown

/-- The id and the status of a poll. -/
def TaskNews.poll : TaskNews → Option (Int × RpcResult)
  | .polled taskID taskSts => some (taskID, taskSts)
  | _ => none

/-- The worker has removed the record of a task that is not preserved. -/
def TaskNews.deletes : TaskNews → Bool
  | .finished _ preserved => !preserved
  | _ => false

/-- `push_task` has found too many records. -/
def CallerPc.evicts : CallerPc → Bool
  | .scanning _ | .removing _ _ => true
  | _ => false

/-- `push_task` reads the number of records. -/
def TaskAction.readsSize : TaskAction Unit → Bool
  | .caller _ .size | .caller _ .evictSize => true
  | _ => false

/-- No status that was read waits for its record to be dropped. -/
def CallerPc.Still (pc : CallerPc) : Prop := ∀ taskID taskSts, pc ≠ .dropping taskID taskSts

theorem CallerPc.Free.still {pc : CallerPc} (free : pc.Free) : pc.Still := by
  rintro taskID taskSts rfl
  cases free.2

namespace TaskWorker

/-- What `run_work` has returned for a task that is not published. -/
def returned (s : TaskWorker Unit) (taskID : Int) : Option RpcResult :=
  match s.worker with
  | .publishing task result => if task.taskID = taskID then some result else none
  | _ => none

/-- What the record of a task id is in each phase. The record of a status that was just read
is dropped in a second step. -/
def InPhase (s : TaskWorker Unit) (taskID : Int) : TaskPhase → Prop
  | .unknown => ∀ record ∈ s.workInprogChain, record.taskID ≠ taskID
  | .inProgress returned => returned = s.returned taskID ∧
      ∃ record ∈ s.workInprogChain, record.taskID = taskID ∧ record.taskSts = .inProg
  | .finished result => result ≠ .inProg ∧
      ∃ record ∈ s.workInprogChain, record.taskID = taskID ∧ record.taskSts = result
  | .gone => (∀ record ∈ s.workInprogChain, record.taskID ≠ taskID) ∨
      ∃ taskSts, s.callers () = .dropping taskID taskSts

/-- For this task id nothing changes. -/
structure Spares (s t : TaskWorker Unit) (taskID : Int) : Prop where
  records : ∀ record : TaskRecord, record.taskID = taskID → (record ∈ t.workInprogChain ↔ record ∈ s.workInprogChain)
  returned : t.returned taskID = s.returned taskID
  dropping : ∀ taskSts, s.callers () = .dropping taskID taskSts → t.callers () = .dropping taskID taskSts

variable {s t : TaskWorker Unit} {done : List TaskRecord} {pending : List WorkTask} {phases : Int → TaskPhase}

theorem InPhase.spared {taskID : Int} {phase : TaskPhase} (inPhase : s.InPhase taskID phase)
    (spares : Spares s t taskID) :
    t.InPhase taskID phase := by
  have absent : (∀ record ∈ s.workInprogChain, record.taskID ≠ taskID) → ∀ record ∈ t.workInprogChain, record.taskID ≠ taskID :=
    fun none record member same => none record ((spares.records record same).mp member) same
  cases phase with
  | unknown => exact absent inPhase
  | inProgress returned =>
    obtain ⟨known, record, member, same, busy⟩ := inPhase
    exact ⟨known.trans spares.returned.symm, record, (spares.records record same).mpr member, same, busy⟩
  | finished result =>
    obtain ⟨ended, record, member, same, kept⟩ := inPhase
    exact ⟨ended, record, (spares.records record same).mpr member, same, kept⟩
  | gone =>
    rcases inPhase with none | ⟨taskSts, dropping⟩
    · exact .inl (absent none)
    · exact .inr ⟨taskSts, spares.dropping taskSts dropping⟩

/-- Every task id is in its phase. -/
structure Lives (s : TaskWorker Unit) (phases : Int → TaskPhase) : Prop where
  inPhase : ∀ taskID, s.InPhase taskID (phases taskID)
  known : ∀ taskID, phases taskID ≠ .unknown →
    taskID ≤ s.identGenerator ∧ ∀ task ∈ (s.callers ()).ahead, taskID < task.taskID
  dropped : ∀ taskID taskSts, s.callers () = .dropping taskID taskSts → phases taskID = .gone

theorem lives_start : (start : TaskWorker Unit).Lives fun _ => .unknown where
  inPhase := fun _ _ member => absurd member List.not_mem_nil
  known := fun _ impossible => absurd rfl impossible
  dropped := fun _ _ impossible => by cases impossible

/-- A step with no news. -/
theorem Lives.keep (lives : s.Lives phases) (spares : ∀ taskID, phases taskID ≠ .gone → Spares s t taskID)
    (gone : ∀ taskID, phases taskID = .gone → t.InPhase taskID .gone) (generator : s.identGenerator ≤ t.identGenerator)
    (ahead : ∀ task ∈ (t.callers ()).ahead, task ∈ (s.callers ()).ahead ∨ s.identGenerator < task.taskID)
    (dropping : ∀ taskID taskSts, t.callers () = .dropping taskID taskSts → s.callers () = .dropping taskID taskSts) :
    t.Lives phases where
  inPhase := by
    intro taskID
    by_cases last : phases taskID = .gone
    · rw [last]
      exact gone taskID last
    · exact (lives.inPhase taskID).spared (spares taskID last)
  known := by
    intro taskID used
    obtain ⟨issued, before⟩ := lives.known taskID used
    refine ⟨issued.trans generator, fun task member => ?_⟩
    rcases ahead task member with old | new
    · exact before task old
    · omega
  dropped := fun taskID taskSts here => lives.dropped taskID taskSts (dropping taskID taskSts here)

/-- A step with news of one task. -/
theorem Lives.change (lives : s.Lives phases) {taskID : Int} {phase : TaskPhase}
    (others : ∀ other, other ≠ taskID → Spares s t other) (inPhase : t.InPhase taskID phase)
    (issued : taskID ≤ s.identGenerator)
    (before : ∀ task ∈ (t.callers ()).ahead, taskID < task.taskID) (generator : s.identGenerator = t.identGenerator)
    (ahead : ∀ task ∈ (t.callers ()).ahead, task ∈ (s.callers ()).ahead)
    (dropping : ∀ other taskSts, t.callers () = .dropping other taskSts →
      other = taskID ∧ phase = .gone ∨ other ≠ taskID ∧ s.callers () = .dropping other taskSts) :
    t.Lives (update phases taskID phase) where
  inPhase := by
    intro other
    by_cases same : other = taskID
    · rw [same, update_self]
      exact inPhase
    · rw [update_of_ne same]
      exact (lives.inPhase other).spared (others other same)
  known := by
    intro other used
    by_cases same : other = taskID
    · rw [same, ← generator]
      exact ⟨issued, before⟩
    · rw [update_of_ne same] at used
      obtain ⟨known, behind⟩ := lives.known other used
      exact ⟨generator ▸ known, fun task member => behind task (ahead task member)⟩
  dropped := by
    intro other taskSts here
    rcases dropping other taskSts here with ⟨same, last⟩ | ⟨different, old⟩
    · rw [same, update_self, last]
    · rw [update_of_ne different]
      exact lives.dropped other taskSts old

/-- A task with a record in progress is in progress. -/
theorem Lives.of_busy (lives : s.Lives phases) (ordered : s.Ordered done pending) {record : TaskRecord}
    (member : record ∈ s.workInprogChain) (busy : record.taskSts = .inProg) :
    phases record.taskID = .inProgress (s.returned record.taskID) := by
  have inPhase := lives.inPhase record.taskID
  cases phase : phases record.taskID with
  | unknown =>
    rw [phase] at inPhase
    exact absurd rfl (inPhase record member)
  | inProgress returned =>
    rw [phase] at inPhase
    rw [inPhase.1]
  | finished result =>
    rw [phase] at inPhase
    obtain ⟨ended, other, member', same, kept⟩ := inPhase
    rw [ordered.once.eq_of_key member' member same] at kept
    exact absurd (kept.symm.trans busy) ended
  | gone =>
    rw [phase] at inPhase
    rcases inPhase with none | ⟨taskSts, dropping⟩
    · exact absurd rfl (none record member)
    · obtain ⟨other, old, same⟩ := ordered.condemned record.taskID (by rw [dropping]; rfl)
      have member' : other ∈ s.workInprogChain := by
        rw [ordered.chain]
        exact List.mem_append_left _ old
      rw [ordered.once.eq_of_key member' member same] at old
      exact absurd busy (ordered.finished record old)

/-- A task with a record that is not in progress is finished. -/
theorem Lives.of_ended (lives : s.Lives phases) (ordered : s.Ordered done pending) {record : TaskRecord}
    (member : record ∈ s.workInprogChain) (ended : record.taskSts ≠ .inProg)
    (still : (s.callers ()).Still) :
    phases record.taskID = .finished record.taskSts := by
  have inPhase := lives.inPhase record.taskID
  cases phase : phases record.taskID with
  | unknown =>
    rw [phase] at inPhase
    exact absurd rfl (inPhase record member)
  | inProgress returned =>
    rw [phase] at inPhase
    obtain ⟨_, other, member', same, busy⟩ := inPhase
    rw [ordered.once.eq_of_key member' member same] at busy
    exact absurd busy ended
  | finished result =>
    rw [phase] at inPhase
    obtain ⟨_, other, member', same, kept⟩ := inPhase
    rw [ordered.once.eq_of_key member' member same] at kept
    rw [kept]
  | gone =>
    rw [phase] at inPhase
    rcases inPhase with none | ⟨taskSts, dropping⟩
    · exact absurd rfl (none record member)
    · exact absurd dropping (still _ taskSts)

/-- What `get_task_status` reads is the status of the phase. -/
theorem Lives.taskStatus (lives : s.Lives phases) (ordered : s.Ordered done pending) (taskID : Int)
    (still : (s.callers ()).Still) :
    s.taskStatus taskID = (phases taskID).status := by
  unfold TaskWorker.taskStatus
  cases found : s.getByIdent taskID with
  | none =>
    have absent : ∀ record ∈ s.workInprogChain, record.taskID ≠ taskID := by
      intro record member same
      have other := ordered.getByIdent_iff.mpr ⟨member, same⟩
      rw [found] at other
      cases other
    have inPhase := lives.inPhase taskID
    cases phase : phases taskID with
    | unknown => rfl
    | gone => rfl
    | inProgress returned =>
      rw [phase] at inPhase
      obtain ⟨_, record, member, same, _⟩ := inPhase
      exact absurd same (absent record member)
    | finished result =>
      rw [phase] at inPhase
      obtain ⟨_, record, member, same, _⟩ := inPhase
      exact absurd same (absent record member)
  | some record =>
    obtain ⟨member, same⟩ := getByIdent_record found
    by_cases busy : record.taskSts = .inProg
    · rw [← same, lives.of_busy ordered member busy]
      exact busy
    · rw [← same, lives.of_ended ordered member busy still]
      rfl

theorem Ordered.behind (ordered : s.Ordered done pending) {record : TaskRecord} (member : record ∈ s.workInprogChain) :
    record.taskID ≤ s.identGenerator ∧ ∀ task ∈ (s.callers ()).ahead, record.taskID < task.taskID := by
  have recorded : record.taskID ∈ s.workInprogChain.map TaskRecord.taskID := List.mem_map_of_mem member
  have bound := ordered.bounded record.taskID (List.mem_append_left _ recorded)
  refine ⟨bound.2, fun task waiting => ?_⟩
  exact (List.pairwise_append.mp ordered.sorted).2.2 _ recorded _ (List.mem_map_of_mem waiting)

theorem Ordered.mem_remove (ordered : s.Ordered done pending) {taskID : Int} {record : TaskRecord} :
    record ∈ (s.removeByIdent taskID).workInprogChain ↔ record ∈ s.workInprogChain ∧ record.taskID ≠ taskID := by
  unfold removeByIdent
  dsimp only
  rw [ordered.once.eraseP_eq_filter, List.mem_filter, bne_iff_ne]

/-- The thread goes on and the records stay. -/
theorem Lives.walk (lives : s.Lives phases) (chain : t.workInprogChain = s.workInprogChain)
    (worker : t.worker = s.worker) (generator : s.identGenerator ≤ t.identGenerator)
    (ahead : ∀ task ∈ (t.callers ()).ahead, task ∈ (s.callers ()).ahead ∨ s.identGenerator < task.taskID)
    (before : (s.callers ()).Still) (after : (t.callers ()).Still) : t.Lives phases := by
  have spares : ∀ taskID, Spares s t taskID := by
    intro taskID
    refine ⟨fun record _ => by rw [chain], ?_, fun taskSts here => absurd here (before taskID taskSts)⟩
    unfold TaskWorker.returned
    rw [worker]
  refine lives.keep (fun taskID _ => spares taskID) (fun taskID last => ?_) generator ahead
    fun taskID taskSts here => absurd here (after taskID taskSts)
  have inPhase := lives.inPhase taskID
  rw [last] at inPhase
  exact inPhase.spared (spares taskID)

/-- As `walk`, for a caller whose program points are known. -/
theorem Lives.move (lives : s.Lives phases) {pc pc' : CallerPc} (here : s.callers () = pc) (there : t.callers () = pc')
    (chain : t.workInprogChain = s.workInprogChain) (worker : t.worker = s.worker)
    (generator : s.identGenerator ≤ t.identGenerator)
    (ahead : ∀ task ∈ pc'.ahead, task ∈ pc.ahead ∨ s.identGenerator < task.taskID) (before : pc.Still)
    (after : pc'.Still) : t.Lives phases := by
  subst here there
  exact lives.walk chain worker generator ahead before after

/-- The worker goes on and the records stay. -/
theorem Lives.worker (lives : s.Lives phases) (chain : t.workInprogChain = s.workInprogChain)
    (callers : t.callers = s.callers)
    (generator : t.identGenerator = s.identGenerator) (returned : ∀ taskID, t.returned taskID = s.returned taskID) :
    t.Lives phases := by
  have spares : ∀ taskID, Spares s t taskID :=
    fun taskID => ⟨fun record _ => by rw [chain], returned taskID, fun taskSts here => by rw [callers, here]⟩
  refine lives.keep (fun taskID _ => spares taskID) (fun taskID last => ?_) generator.ge (fun task member => ?_) ?_
  · have inPhase := lives.inPhase taskID
    rw [last] at inPhase
    exact inPhase.spared (spares taskID)
  · rw [callers] at member
    exact .inl member
  · intro taskID taskSts here
    rw [← callers]
    exact here

/-- The record of a status that was read is dropped. -/
theorem Lives.drop (lives : s.Lives phases) (ordered : s.Ordered done pending) {taskID : Int} {taskSts : RpcResult}
    (here : s.callers () = .dropping taskID taskSts) :
    ((s.removeByIdent taskID).goto () (.returning (.status taskID taskSts))).Lives phases := by
  have last := lives.dropped taskID taskSts here
  have only : ∀ other taskSts', s.callers () = .dropping other taskSts' → other = taskID := by
    intro other taskSts' there
    rw [here] at there
    cases there
    rfl
  refine lives.keep (fun other going => ?_) (fun other gone => .inl fun record member => ?_) le_rfl (fun task member => ?_) ?_
  · have different : other ≠ taskID := by
      rintro rfl
      exact going last
    refine ⟨fun record same => ?_, rfl, fun taskSts' there => absurd (only other taskSts' there) different⟩
    exact ordered.mem_remove.trans (and_iff_left (same ▸ different))
  · obtain ⟨old, different⟩ := ordered.mem_remove.mp member
    have inPhase := lives.inPhase other
    rw [gone] at inPhase
    rcases inPhase with none | ⟨taskSts', there⟩
    · exact none record old
    · rw [only other taskSts' there]
      exact different
  · rw [goto_callers] at member
    cases member
  · intro other taskSts' there
    rw [goto_callers] at there
    cases there

/-- A finished task is evicted. -/
theorem Lives.evict (lives : s.Lives phases) (ordered : s.Ordered done pending) {args : PushArgs} {victim : Int}
    (here : s.callers () = .removing args victim) :
    (∃ result, phases victim = .finished result) ∧
      ((s.removeByIdent victim).goto () (.evicting args)).Lives (update phases victim .gone) := by
  obtain ⟨record, rest, split, same⟩ := ordered.picked args victim here
  have old : record ∈ done := by
    rw [split]
    exact List.mem_cons_self
  have member : record ∈ s.workInprogChain := by
    rw [ordered.chain]
    exact List.mem_append_left _ old
  have still : (s.callers ()).Still := by
    rw [here]
    exact fun _ _ impossible => by cases impossible
  have ended := lives.of_ended ordered member (ordered.finished record old) still
  have issued := (ordered.behind member).1
  rw [same] at ended issued
  refine ⟨⟨_, ended⟩, lives.change (fun other different => ?_) (.inl fun other member => ?_) issued ?_ rfl ?_ ?_⟩
  · refine ⟨fun record same => ?_, rfl, fun taskSts there => absurd there (still other taskSts)⟩
    exact ordered.mem_remove.trans (and_iff_left (same ▸ different))
  · exact (ordered.mem_remove.mp member).2
  · rw [goto_callers]
    exact fun task member => absurd member List.not_mem_nil
  · rw [goto_callers]
    exact fun task member => absurd member List.not_mem_nil
  · intro other taskSts there
    rw [goto_callers] at there
    cases there

/-- The record of a new task is put. -/
theorem Lives.push (lives : s.Lives phases) (ordered : s.Ordered done pending) {task : WorkTask} {place : Nat}
    (here : s.callers () = .putRecord task place) :
    phases task.taskID = .unknown ∧
      Lives { s.goto () (.waking task place) with workInprogChain := s.workInprogChain ++ [task.record] }
        (update phases task.taskID (.inProgress none)) := by
  have own : task ∈ (s.callers ()).ahead := by
    rw [here]
    exact List.mem_cons_self
  have fresh : phases task.taskID = .unknown := by
    by_contra used
    have less := (lives.known task.taskID used).2 task own
    omega
  have issued : task.taskID ≤ s.identGenerator :=
    (ordered.bounded task.taskID (List.mem_append_right _ (List.mem_map_of_mem own))).2
  have idle : s.returned task.taskID = none := by
    unfold returned
    split
    · rename_i running result working
      have taken : s.worker.task = some running := by
        rw [working]
        rfl
      obtain ⟨rest, first, _⟩ := ordered.pending_head taken (by rw [working]; rfl)
      have member : running.record ∈ s.workInprogChain := by
        rw [(ordered.others first).1]
        exact List.mem_append_right _ List.mem_cons_self
      have less : running.taskID < task.taskID := (ordered.behind member).2 task own
      exact if_neg (by omega)
    · rfl
  refine ⟨fresh, lives.change (fun other different => ?_) ?_ issued ?_ rfl ?_ ?_⟩
  · refine ⟨fun record same => ?_, rfl, fun taskSts there => ?_⟩
    · have new : record ∉ [task.record] := by
        intro member
        rw [List.mem_singleton.mp member] at same
        exact different same.symm
      exact List.mem_append.trans (or_iff_left new)
    · rw [here] at there
      cases there
  · exact ⟨idle.symm, task.record, List.mem_append_right _ List.mem_cons_self, rfl, rfl⟩
  · dsimp only
    rw [goto_callers]
    exact fun other member => absurd member List.not_mem_nil
  · dsimp only
    rw [goto_callers]
    exact fun other member => absurd member List.not_mem_nil
  · dsimp only
    rw [goto_callers]
    exact fun other taskSts there => by cases there

/-- The last status of a task is read. -/
theorem Lives.readLast (lives : s.Lives phases) (ordered : s.Ordered done pending) {taskID : Int} {record : TaskRecord}
    (here : s.callers () = .reading taskID) (found : s.getByIdent taskID = some record)
    (ended : record.taskSts ≠ .inProg) :
    phases taskID = .finished record.taskSts ∧
      (s.goto () (.dropping taskID record.taskSts)).Lives (update phases taskID .gone) := by
  obtain ⟨member, same⟩ := getByIdent_record found
  have still : (s.callers ()).Still := by
    rw [here]
    exact fun _ _ impossible => by cases impossible
  have finished := lives.of_ended ordered member ended still
  have issued := (ordered.behind member).1
  rw [same] at finished issued
  refine ⟨finished, lives.change (fun other different => ?_) (.inr ⟨record.taskSts, goto_callers s _⟩) issued ?_ rfl ?_ ?_⟩
  · exact ⟨fun record _ => Iff.rfl, rfl, fun taskSts there => absurd there (still other taskSts)⟩
  · rw [goto_callers]
    exact fun task member => absurd member List.not_mem_nil
  · rw [goto_callers]
    exact fun task member => absurd member List.not_mem_nil
  · intro other taskSts there
    rw [goto_callers] at there
    cases there
    exact .inl ⟨rfl, rfl⟩

/-- The task that runs is in progress, and it is no other one whose status was read. -/
theorem Lives.running (lives : s.Lives phases) (ordered : s.Ordered done pending) {task : WorkTask}
    (working : s.worker.task = some task) (busy : s.worker.woke = 0) :
    phases task.taskID = .inProgress (s.returned task.taskID) ∧ task.taskID ≤ s.identGenerator ∧
      (∀ other ∈ (s.callers ()).ahead, task.taskID < other.taskID) ∧
      ∀ other taskSts, s.callers () = .dropping other taskSts → other ≠ task.taskID := by
  obtain ⟨rest, first, _⟩ := ordered.pending_head working busy
  have member : task.record ∈ s.workInprogChain := by
    rw [(ordered.others first).1]
    exact List.mem_append_right _ List.mem_cons_self
  have phase : phases task.taskID = .inProgress (s.returned task.taskID) := lives.of_busy ordered member rfl
  obtain ⟨issued, before⟩ := ordered.behind member
  refine ⟨phase, issued, before, fun other taskSts here same => ?_⟩
  have last := lives.dropped other taskSts here
  rw [same, phase] at last
  cases last

theorem Lives.run (lives : s.Lives phases) (ordered : s.Ordered done pending) {task : WorkTask} (result : RpcResult)
    (here : s.worker = .running task) :
    phases task.taskID = .inProgress none ∧
      Lives { s with worker := .publishing task result } (update phases task.taskID (.inProgress (some result))) := by
  have taken : s.worker.task = some task := by
    rw [here]
    rfl
  have busy : s.worker.woke = 0 := by
    rw [here]
    rfl
  obtain ⟨phase, issued, before, different⟩ := lives.running ordered taken busy
  obtain ⟨rest, first, _⟩ := ordered.pending_head taken busy
  have none : ∀ taskID, s.returned taskID = none := by
    intro taskID
    unfold returned
    rw [here]
  have returned : returned { s with worker := .publishing task result } task.taskID = some result := if_pos rfl
  rw [none] at phase
  refine ⟨phase, lives.change (fun other apart => ⟨fun _ _ => Iff.rfl, ?_, fun _ there => there⟩) ⟨returned.symm, ?_⟩ issued before rfl
    (fun _ member => member) fun other taskSts there => .inr ⟨different other taskSts there, there⟩⟩
  · rw [none]
    exact if_neg apart.symm
  · refine ⟨task.record, ?_, rfl, rfl⟩
    dsimp only
    rw [(ordered.others first).1]
    exact List.mem_append_right _ List.mem_cons_self

theorem returned_publishing {task : WorkTask} {result : RpcResult} (here : s.worker = .publishing task result)
    (taskID : Int) :
    s.returned taskID = if task.taskID = taskID then some result else none := by
  unfold returned
  rw [here]

/-- The result of a preserved task is published. -/
theorem Lives.preserve (lives : s.Lives phases) (ordered : s.Ordered done pending) {task : WorkTask}
    {result : RpcResult} (here : s.worker = .publishing task result) :
    phases task.taskID = .inProgress (some result) ∧
      Lives { s with worker := .emitting task result, workInprogChain := s.writeResult task result
                     finished := s.finished ++ [(task, result)] } (update phases task.taskID (.finished result)) := by
  have taken : s.worker.task = some task := by
    rw [here]
    rfl
  obtain ⟨phase, issued, before, different⟩ := lives.running ordered taken (by rw [here]; rfl)
  obtain ⟨rest, first, written, _⟩ := ordered.preserve here
  have chain := (ordered.others first).1
  rw [returned_publishing here, if_pos rfl] at phase
  refine ⟨phase, lives.change (fun other apart => ⟨fun record same => ?_, ?_, fun _ there => there⟩)
    ⟨ordered.result task result here, endedRecord task result, ?_, rfl, rfl⟩ issued before rfl
    (fun _ member => member) fun other taskSts there => .inr ⟨different other taskSts there, there⟩⟩
  · have old : record ≠ task.record := by
      rintro rfl
      exact apart same.symm
    have new : record ≠ endedRecord task result := by
      rintro rfl
      exact apart same.symm
    dsimp only
    rw [written, chain]
    simp [old, new]
  · rw [returned_publishing here, if_neg apart.symm]
    rfl
  · dsimp only
    rw [written]
    simp

/-- The record of a task that is not preserved is deleted. -/
theorem Lives.delete (lives : s.Lives phases) (ordered : s.Ordered done pending) {task : WorkTask} {result : RpcResult}
    (here : s.worker = .publishing task result) :
    phases task.taskID = .inProgress (some result) ∧
      Lives { s.removeByIdent task.taskID with worker := .waiting, finished := s.finished ++ [(task, result)] }
        (update phases task.taskID .gone) := by
  have taken : s.worker.task = some task := by
    rw [here]
    rfl
  obtain ⟨phase, issued, before, different⟩ := lives.running ordered taken (by rw [here]; rfl)
  rw [returned_publishing here, if_pos rfl] at phase
  refine ⟨phase, lives.change (fun other apart => ⟨fun record same => ?_, ?_, fun _ there => there⟩) (.inl fun record member => ?_)
    issued before rfl (fun _ member => member) fun other taskSts there => .inr ⟨different other taskSts there, there⟩⟩
  · exact ordered.mem_remove.trans (and_iff_left (same ▸ apart))
  · rw [returned_publishing here, if_neg apart.symm]
    rfl
  · exact (ordered.mem_remove.mp member).2

theorem newsOf_publish {task : WorkTask} {result : RpcResult} {preserved : Bool}
    (here : s.worker = .publishing task result)
    (kept : task.preserved = preserved) : s.newsOf (.worker .publish) = [.finished task.taskID preserved] := by
  unfold newsOf
  rw [here]
  exact congrArg (fun preserved => [TaskNews.finished task.taskID preserved]) kept

theorem Lives.work (lives : s.Lives phases) (ordered : s.Ordered done pending) {action : WorkerAction}
    (move : Move s (.worker action) t) :
    ∃ phases', t.Lives phases' ∧ TaskPhase.Follows phases (s.newsOf (.worker action)) phases' := by
  have idle : ∀ {worker : WorkerPc}, s.worker = worker → (∀ task result, worker ≠ .publishing task result) →
      ∀ taskID, s.returned taskID = none := by
    intro worker here other taskID
    unfold returned
    rw [here]
    split
    · exact absurd rfl (other _ _)
    · rfl
  cases move with
  | semWait here _ =>
    have none := idle here fun _ _ impossible => by cases impossible
    exact ⟨phases, lives.worker rfl rfl rfl fun taskID => (none taskID).symm, TaskPhase.follows_nil phases⟩
  | interrupted => exact ⟨phases, lives, TaskPhase.follows_nil phases⟩
  | noWork here _ =>
    have none := idle here fun _ _ impossible => by cases impossible
    exact ⟨phases, lives.worker rfl rfl rfl fun taskID => (none taskID).symm, TaskPhase.follows_nil phases⟩
  | getWork here _ =>
    have none := idle here fun _ _ impossible => by cases impossible
    exact ⟨phases, lives.worker rfl rfl rfl fun taskID => (none taskID).symm, TaskPhase.follows_nil phases⟩
  | @runWork task result here =>
    obtain ⟨phase, after⟩ := lives.run ordered result here
    refine ⟨_, after, ?_⟩
    unfold newsOf
    rw [here]
    exact TaskPhase.follows_one (.ran task.taskID result) (congrArg (TaskPhase.next · _) phase)
  | @preserve task result here kept =>
    obtain ⟨phase, after⟩ := lives.preserve ordered here
    refine ⟨_, after, ?_⟩
    rw [newsOf_publish here kept]
    exact TaskPhase.follows_one (.finished task.taskID true) (congrArg (TaskPhase.next · _) phase)
  | @delete task result here dropped =>
    obtain ⟨phase, after⟩ := lives.delete ordered here
    refine ⟨_, after, ?_⟩
    rw [newsOf_publish here dropped]
    exact TaskPhase.follows_one (.finished task.taskID false) (congrArg (TaskPhase.next · _) phase)
  | emit here =>
    have none := idle here fun _ _ impossible => by cases impossible
    exact ⟨phases, lives.worker rfl rfl rfl fun taskID => (none taskID).symm, TaskPhase.follows_nil phases⟩

theorem newsOf_readStatus {taskID : Int} (here : s.callers () = .reading taskID) :
    s.newsOf (.caller () .readStatus) = [.polled taskID (s.taskStatus taskID)] := by
  unfold newsOf
  rw [here]

/-- Every step keeps the task ids in their phases. -/
theorem Lives.does (lives : s.Lives phases) (ordered : s.Ordered done pending) {action : TaskAction Unit}
    (polling : s.Polling action) (does : Does s action t) : ∃ phases', t.Lives phases' ∧ TaskPhase.Follows phases (s.newsOf action) phases' := by
  have silent := TaskPhase.follows_nil phases
  cases does with
  | walk free goes none =>
    rw [none.1]
    refine ⟨phases, lives.walk rfl rfl le_rfl (fun task member => ?_) free.still ?_, silent⟩
    · rw [goto_callers, goes.ahead.1] at member
      cases member
    · rw [goto_callers]
      exact goes.still
  | pick here _ =>
    refine ⟨phases, lives.move here (goto_callers s _) rfl rfl le_rfl ?_ ?_ ?_, silent⟩
    · exact fun task member => absurd member List.not_mem_nil
    all_goals rintro _ _ ⟨⟩
  | @evict args victim here =>
    obtain ⟨⟨result, phase⟩, after⟩ := lives.evict ordered here
    refine ⟨_, after, ?_⟩
    unfold newsOf
    rw [here]
    exact TaskPhase.follows_one (.evicted victim) (congrArg (TaskPhase.next · _) phase)
  | generate here _ =>
    have more : s.identGenerator < s.identGenerator + 1 := by omega
    refine ⟨phases, lives.move here (by rw [issue, goto_callers]) rfl rfl more.le (fun task member => ?_) ?_ ?_, silent⟩
    · rw [List.mem_singleton.mp member]
      exact .inr more
    all_goals rintro _ _ ⟨⟩
  | @putWork task here =>
    have there : (s.enqueue () task).callers () = .putRecord task s.puts := by rw [enqueue, goto_callers]
    refine ⟨phases, lives.move here there rfl rfl le_rfl (fun _ member => .inl member) ?_ ?_, silent⟩
    all_goals rintro _ _ ⟨⟩
  | noWork here =>
    refine ⟨phases, lives.move here (goto_callers s _) rfl rfl le_rfl ?_ ?_ ?_, silent⟩
    · exact fun task member => absurd member List.not_mem_nil
    all_goals rintro _ _ ⟨⟩
  | @putRecord task place here =>
    obtain ⟨phase, after⟩ := lives.push ordered here
    refine ⟨_, after, ?_⟩
    unfold newsOf
    rw [here]
    exact TaskPhase.follows_one (.pushed task.taskID) (congrArg (TaskPhase.next · _) phase)
  | noRecord here =>
    refine ⟨phases, lives.move here (goto_callers s _) rfl rfl le_rfl (fun _ member => .inl member) ?_ ?_, silent⟩
    all_goals rintro _ _ ⟨⟩
  | undo here =>
    refine ⟨phases, lives.move here (goto_callers s (.returning _)) rfl rfl le_rfl ?_ ?_ ?_, silent⟩
    · exact fun task member => absurd member List.not_mem_nil
    all_goals rintro _ _ ⟨⟩
  | wakeup here =>
    refine ⟨phases, lives.move here (goto_callers s (.returning _)) rfl rfl le_rfl ?_ ?_ ?_, silent⟩
    · exact fun task member => absurd member List.not_mem_nil
    all_goals rintro _ _ ⟨⟩
  | @read taskID here early =>
    have still : (s.callers ()).Still := by
      rw [here]
      exact fun _ _ impossible => by cases impossible
    have status := lives.taskStatus ordered taskID still
    refine ⟨phases, lives.walk rfl rfl le_rfl (fun task member => ?_) still ?_, ?_⟩
    · rw [goto_callers] at member
      cases member
    · rw [goto_callers]
      exact fun _ _ impossible => by cases impossible
    · have other : ∀ result, phases taskID ≠ .finished result := by
        intro result phase
        have inPhase := lives.inPhase taskID
        rw [phase] at inPhase status
        obtain ⟨ended, record, member, same, _⟩ := inPhase
        rcases early with busy | none
        · exact ended (status.symm.trans busy)
        · rw [ordered.getByIdent_iff.mpr ⟨member, same⟩] at none
          cases none
      have next := TaskPhase.next_polled taskID other
      have follows : TaskPhase.Follows phases _ _ := TaskPhase.follows_one (.polled taskID (phases taskID).status) next
      rw [newsOf_readStatus here, status]
      rw [TaskNews.taskID, update_eq_self] at follows
      exact follows
  | @readLast taskID record here found ended =>
    obtain ⟨phase, after⟩ := lives.readLast ordered here found ended
    have status : s.taskStatus taskID = record.taskSts := by rw [TaskWorker.taskStatus, found]
    refine ⟨_, after, ?_⟩
    rw [newsOf_readStatus here, status]
    refine TaskPhase.follows_one (.polled taskID record.taskSts) ?_
    have next : (phases taskID).next (.polled taskID record.taskSts) = some .gone := by
      rw [phase]
      exact if_pos rfl
    exact next
  | drop here => exact ⟨phases, lives.drop ordered here, silent⟩
  | empty => exact polling.elim
  | work move => exact lives.work ordered move

theorem newsOf_worker_polls (s : TaskWorker Unit) (action : WorkerAction) :
    (s.newsOf (.worker action)).filterMap TaskNews.poll = [] := by
  unfold newsOf
  cases action <;> cases s.worker <;> rfl

theorem Move.callers {action : WorkerAction} (move : Move s (.worker action) t) : t.callers = s.callers := by
  cases move <;> rfl

/-- What `get_task_status` returns is what it has just read. -/
theorem Does.polls {action : TaskAction Unit} (does : Does s action t) :
    (s.newsOf action).filterMap TaskNews.poll = [] ∧
        ((t.callers ()).report = none ∨ (t.callers ()).report = (s.callers ()).report) ∨
      ∃ report, (s.newsOf action).filterMap TaskNews.poll = [report] ∧ (t.callers ()).report = some report := by
  cases does with
  | walk _ _ silent =>
    refine .inl ⟨by rw [silent.1]; rfl, .inl ?_⟩
    rw [goto_callers]
    exact silent.2
  | pick => exact .inl ⟨rfl, .inl (congrArg CallerPc.report (goto_callers s _))⟩
  | evict here =>
    refine .inl ⟨?_, .inl (congrArg CallerPc.report (goto_callers _ _))⟩
    unfold newsOf
    rw [here]
    rfl
  | generate => exact .inl ⟨rfl, .inl (congrArg CallerPc.report (goto_callers s _))⟩
  | putWork => exact .inl ⟨rfl, .inl (congrArg CallerPc.report (goto_callers s _))⟩
  | noWork => exact .inl ⟨rfl, .inl (congrArg CallerPc.report (goto_callers s _))⟩
  | putRecord here =>
    refine .inl ⟨?_, .inl (congrArg CallerPc.report (goto_callers s _))⟩
    unfold newsOf
    rw [here]
    rfl
  | noRecord => exact .inl ⟨rfl, .inl (congrArg CallerPc.report (goto_callers s _))⟩
  | undo => exact .inl ⟨rfl, .inl (congrArg CallerPc.report (goto_callers s _))⟩
  | wakeup => exact .inl ⟨rfl, .inl (congrArg CallerPc.report (goto_callers s _))⟩
  | read here _ =>
    refine .inr ⟨(_, _), ?_, congrArg CallerPc.report (goto_callers s _)⟩
    rw [newsOf_readStatus here]
    rfl
  | @readLast taskID record here found _ =>
    have status : s.taskStatus taskID = record.taskSts := by rw [TaskWorker.taskStatus, found]
    refine .inr ⟨(taskID, record.taskSts), ?_, congrArg CallerPc.report (goto_callers s _)⟩
    rw [newsOf_readStatus here, status]
    rfl
  | drop here =>
    refine .inl ⟨rfl, .inr ?_⟩
    rw [here, goto_callers]
    rfl
  | empty => exact .inl ⟨rfl, .inl (congrArg CallerPc.report (goto_callers s _))⟩
  | work move => exact .inl ⟨newsOf_worker_polls s _, .inr (by rw [move.callers])⟩

/-- The records are too many when `push_task` evicts one, but for what the worker deletes meanwhile. -/
theorem Does.evicts (ordered : s.Ordered done pending) {action : TaskAction Unit} (does : Does s action t)
    (evicts : (t.callers ()).evicts = true) :
    action.readsSize = true ∧ maxInprogTasks ≤ s.workInprogChain.length ∧ t.workInprogChain = s.workInprogChain ∨
      action.readsSize = false ∧ (s.callers ()).evicts = true ∧
        s.workInprogChain.length ≤ t.workInprogChain.length + (s.newsOf action).countP TaskNews.deletes := by
  have quiet : ∀ {next : CallerPc}, ((s.goto () next).callers ()).evicts = true → next.evicts = true := by
    intro next here
    rw [goto_callers] at here
    exact here
  cases does with
  | @walk action next _ goes _ checked =>
    have here := quiet evicts
    cases next with
    | scanning args =>
      obtain ⟨rfl, full⟩ := checked
      exact .inl ⟨rfl, full, rfl⟩
    | removing args victim => cases goes.2
    | _ => cases here
  | pick here _ =>
    refine .inr ⟨rfl, ?_, Nat.le_add_right _ _⟩
    rw [here]
    rfl
  | work move =>
    refine .inr ⟨rfl, ?_, ?_⟩
    · rw [← move.callers]
      exact evicts
    · cases move with
      | @preserve task result here _ =>
        have same : (s.writeResult task result).length = s.workInprogChain.length := by
          unfold writeResult
          exact List.length_modify ..
        exact (same.symm.le).trans (Nat.le_add_right _ _)
      | @delete task result here dropped =>
        obtain ⟨rest, first, removed, _⟩ := ordered.delete here
        have chain := (ordered.others first).1
        have news : s.newsOf (.worker .publish) = [.finished task.taskID false] := newsOf_publish here dropped
        have one : [TaskNews.finished task.taskID false].countP TaskNews.deletes = 1 := rfl
        dsimp only
        rw [news, one, removed, chain]
        simp only [List.length_append, List.length_cons]
        omega
      | _ => exact Nat.le_add_right _ _
  | evict => cases quiet evicts
  | generate => cases quiet evicts
  | putWork => cases quiet evicts
  | noWork => cases quiet evicts
  | putRecord => cases quiet evicts
  | noRecord => cases quiet evicts
  | undo => cases quiet evicts
  | wakeup => cases quiet evicts
  | read => cases quiet evicts
  | readLast => cases quiet evicts
  | drop => cases quiet evicts
  | empty => cases quiet evicts

/-- `push_task` goes on with few records, or when all of them are in progress. -/
theorem Does.generating {action : TaskAction Unit} (does : Does s action t) {args : PushArgs}
    (there : t.callers () = .generating args) : s.callers () = .generating args ∨
      s.workInprogChain.length < maxInprogTasks ∨ ∀ record ∈ s.workInprogChain, record.taskSts = .inProg := by
  have next : ∀ {pc : CallerPc}, (s.goto () pc).callers () = .generating args → pc = .generating args := by
    intro pc here
    rw [goto_callers] at here
    exact here
  cases does with
  | walk _ _ _ checked =>
    cases next there
    exact .inr checked
  | work move =>
    rw [move.callers] at there
    exact .inl there
  | pick => cases next there
  | evict => cases next there
  | generate => cases next there
  | putWork => cases next there
  | noWork => cases next there
  | putRecord => cases next there
  | noRecord => cases next there
  | undo => cases next there
  | wakeup => cases next there
  | read => cases next there
  | readLast => cases next there
  | drop => cases next there
  | empty => cases next there

end TaskWorker

/-- The worker and the one thread that calls it, with what happened. -/
structure TaskHistory where
  now : TaskWorker Unit
  news : List TaskNews
  -- what get_chain_size returned last in push_task, and the news since then
  sized : Nat
  since : List TaskNews

namespace TaskHistory

def start : TaskHistory := ⟨.start, [], 0, []⟩

def step (h : TaskHistory) (action : TaskAction Unit) : Option TaskHistory :=
  (h.now.step action).map fun t =>
    { now := t
      news := h.news ++ h.now.newsOf action
      sized := if action.readsSize then h.now.workInprogChain.length else h.sized
      since := if action.readsSize then [] else h.since ++ h.now.newsOf action }

def Polling (h : TaskHistory) (action : TaskAction Unit) : Prop := h.now.Polling action

instance (h : TaskHistory) (action : TaskAction Unit) : Decidable (h.Polling action) :=
  inferInstanceAs (Decidable (h.now.Polling action))

/-- The worker is in order, and every task id is where the news have left it. -/
structure Valid (h : TaskHistory) (done : List TaskRecord) (pending : List WorkTask) (phases : Int → TaskPhase) :
    Prop where
  ordered : h.now.Ordered done pending
  lives : h.now.Lives phases
  follows : ∀ taskID, lifeOf taskID h.news = some (phases taskID)
  reported : ∀ report, (h.now.callers ()).report = some report → (h.news.filterMap TaskNews.poll).getLast? = some report
  sized : (h.now.callers ()).evicts = true →
    maxInprogTasks ≤ h.sized ∧ h.sized ≤ h.now.workInprogChain.length + h.since.countP TaskNews.deletes

theorem valid_start : start.Valid [] [] fun _ => .unknown where
  ordered := TaskWorker.ordered_start
  lives := TaskWorker.lives_start
  follows := fun _ => rfl
  reported := fun _ impossible => by cases impossible
  sized := fun impossible => by cases impossible

theorem Valid.step {h h' : TaskHistory} {done : List TaskRecord} {pending : List WorkTask} {phases : Int → TaskPhase}
    {action : TaskAction Unit} (valid : h.Valid done pending phases) (polling : h.Polling action)
    (run : h.step action = some h') : ∃ done' pending' phases', h'.Valid done' pending' phases' := by
  obtain ⟨t, move, rfl⟩ := Option.map_eq_some_iff.mp run
  have does := TaskWorker.does_of_step (fun _ found => valid.ordered.victim_pos found) move
  obtain ⟨done', pending', ordered⟩ := valid.ordered.does polling does
  obtain ⟨phases', lives, follows⟩ := valid.lives.does valid.ordered polling does
  refine ⟨done', pending', phases', ordered, lives, fun taskID => ?_, fun report here => ?_, fun evicts => ?_⟩
  · have before := valid.follows taskID
    unfold lifeOf at before ⊢
    rw [List.foldlM_append, before]
    exact follows taskID
  · rw [List.filterMap_append]
    rcases does.polls with ⟨none, none' | same⟩ | ⟨report', one, here'⟩
    · rw [none'] at here
      cases here
    · rw [none, List.append_nil]
      exact valid.reported report (same.symm.trans here)
    · rw [one, List.getLast?_concat, ← here', here]
  · rcases does.evicts valid.ordered evicts with ⟨reads, full, same⟩ | ⟨reads, before, kept⟩
    · rw [if_pos reads, if_pos reads, same]
      exact ⟨full, le_rfl⟩
    · obtain ⟨full, enough⟩ := valid.sized before
      have still : ¬ action.readsSize = true := by
        rw [reads]
        exact Bool.false_ne_true
      have more : h.sized ≤ t.workInprogChain.length +
          (h.since.countP TaskNews.deletes + (h.now.newsOf action).countP TaskNews.deletes) := by omega
      rw [if_neg still, if_neg still, List.countP_append]
      exact ⟨full, more⟩

def InOrder (h : TaskHistory) : Prop := ∃ done pending phases, h.Valid done pending phases

theorem inOrder_reach {h : TaskHistory} (reach : Reach step Polling start h) : h.InOrder := by
  refine reach.invariant ⟨[], [], fun _ => .unknown, valid_start⟩ ?_
  rintro h h' action ⟨done, pending, phases, valid⟩ polling run
  exact valid.step polling run

/-- One thread that pushes and polls, interleaved with the worker: every task id goes through
its life cycle, in which a task that is preserved is reported in progress until it has
finished, and then once; a record that is evicted is the oldest one and finished, and
`push_task` stops with few records or with all of them in progress. -/
theorem task_life_cycle {h : TaskHistory} (reach : Reach step Polling start h) :
    (∀ taskID, ∃ phase, lifeOf taskID h.news = some phase ∧ h.now.InPhase taskID phase) ∧
      (∀ report, (h.now.callers ()).report = some report → (h.news.filterMap TaskNews.poll).getLast? = some report) ∧
      (∀ args victim, h.now.callers () = .removing args victim →
        maxInprogTasks ≤ h.sized ∧ h.sized ≤ h.now.workInprogChain.length + h.since.countP TaskNews.deletes ∧
          ∃ record rest, h.now.workInprogChain = record :: rest ∧ record.taskID = victim ∧ record.taskSts ≠ .inProg ∧
            (h.now.removeByIdent victim).workInprogChain = rest) ∧
      ∀ action h' args, h.Polling action → h.step action = some h' → h'.now.callers () = .generating args →
        h.now.callers () = .generating args ∨ h.now.workInprogChain.length < maxInprogTasks ∨
          ∀ record ∈ h.now.workInprogChain, record.taskSts = .inProg := by
  obtain ⟨done, pending, phases, valid⟩ := inOrder_reach reach
  refine ⟨fun taskID => ⟨phases taskID, valid.follows taskID, valid.lives.inPhase taskID⟩, valid.reported,
    fun args victim here => ?_, fun action h' args polling run there => ?_⟩
  · obtain ⟨full, enough⟩ := valid.sized (by rw [here]; rfl)
    obtain ⟨record, rest, split, same⟩ := valid.ordered.picked args victim here
    have chain : h.now.workInprogChain = record :: (rest ++ pending.map WorkTask.record) := by
      rw [valid.ordered.chain, split]
      rfl
    have ended := valid.ordered.finished record (by rw [split]; exact List.mem_cons_self)
    have own : (record.taskID == victim) = true := beq_iff_eq.mpr same
    refine ⟨full, enough, record, _, chain, same, ended, ?_⟩
    unfold TaskWorker.removeByIdent
    dsimp only
    rw [chain]
    exact List.eraseP_cons_of_pos own
  · obtain ⟨t, move, rfl⟩ := Option.map_eq_some_iff.mp run
    exact (TaskWorker.does_of_step (fun _ found => valid.ordered.victim_pos found) move).generating there

/-- A task is pushed, polled while it runs, polled when it has failed and polled again. -/
theorem task_life_cycle_polls : ∃ h, Reach step Polling start h ∧
    h.news = [.pushed 1, .polled 1 .inProg, .ran 1 .fail, .finished 1 true, .polled 1 .fail, .polled 1 .taskIdNotFound] ∧
      ∃ phase, lifeOf 1 h.news = some phase ∧ h.now.InPhase 1 phase := by
  obtain ⟨h, reach, same⟩ := exists_reach step Polling start
    [.caller () (.push ⟨0, [], .preserve⟩ true), .caller () .size, .caller () .generate, .caller () (.putWork true),
      .caller () (.putRecord true), .caller () .wakeup, .caller () .leave, .worker .semWait, .worker .chainGet,
      .caller () (.status 1), .caller () .readStatus, .caller () .leave, .worker (.runWork .fail), .worker .publish,
      .caller () (.status 1), .caller () .readStatus, .caller () .dropRecord, .caller () .leave,
      .caller () (.status 1), .caller () .readStatus]
    (fun h => h.news = [.pushed 1, .polled 1 .inProg, .ran 1 .fail, .finished 1 true, .polled 1 .fail,
      .polled 1 .taskIdNotFound]) (by decide +kernel)
  exact ⟨h, reach, same, (task_life_cycle reach).1 1⟩

end TaskHistory
end JsonRpcTcp
