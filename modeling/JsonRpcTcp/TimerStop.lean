import JsonRpcTcp.TimerStep

namespace JsonRpcTcp
open Function

theorem queueSignal_keeps {pending : List SigInfo} {info other : SigInfo} (member : other ∈ pending) :
    other ∈ queueSignal pending info := by
  unfold queueSignal
  split_ifs
  · exact member
  · exact List.mem_append_left _ member

/-- A signal of the same number is pending afterwards. -/
theorem queueSignal_has (pending : List SigInfo) (info : SigInfo) :
    ∃ other ∈ queueSignal pending info, other.sig = info.sig := by
  unfold queueSignal
  split_ifs with there
  · obtain ⟨other, member, same⟩ := List.any_eq_true.mp there.2
    exact ⟨other, member, beq_iff_eq.mp same⟩
  · exact ⟨info, List.mem_append_right _ (List.mem_singleton_self _), rfl⟩

theorem SigInfo.stops_congr {info other : SigInfo} (same : other.sig = info.sig) : other.stops = info.stops := by
  rw [stops, stops, same]

/-- What is still pending after one signal was taken. -/
theorem mem_take {ι : Type} [DecidableEq ι] {pending : ι → List SigInfo} {thread place : ι} {info other : SigInfo}
    (member : other ∈ pending thread) (kept : ¬ (thread = place ∧ other = info)) :
    other ∈ update pending place ((pending place).erase info) thread := by
  by_cases same : thread = place
  · subst same
    rw [update_self]
    exact (List.mem_erase_of_ne fun equal => kept ⟨rfl, equal⟩).mpr member
  · rw [update_of_ne same]
    exact member

namespace ADTimer
variable {ι : Type} {config : TimerConfig} {main : ι} {s t : ADTimer ι}

/-- A request to stop that the waiting thread has not been told about: a signal that is
pending, one in a handler, or one that it has taken. -/
def InTransit (s : ADTimer ι) : Prop :=
  (∃ thread, ∃ info ∈ s.pending thread, info.stops = true) ∨ (∃ run ∈ s.handlers, run.info.stops = true) ∨
    s.waiter = .storing

/-- What holds of the requests to stop. -/
structure Told (main : ι) (s : ADTimer ι) : Prop where
  tid : s.waiterTid = main
  targets : ∀ run ∈ s.handlers, ∀ target ∈ run.target, target = main
  onStack : ∀ run ∈ s.handlers, run.thread = main → s.waiter = .entering
  exitTargets : ∀ thread target, s.exits thread = .loaded target → target = main
  exitOthers : s.exits main = .outside
  transit : 0 < s.stopRequests → s.receivedUserStopSig = true ∨ s.InTransit
  awake : s.receivedUserStopSig = true → s.waiter = .waiting →
    s.pending main ≠ [] ∨ ∃ thread, s.exits thread ≠ .outside
  early : s.receivedUserStopSig = false → s.takenAfterStop = 0
  once : s.takenAfterStop = 0 ∨ s.takenAfterStop = 1 ∧ s.waiter ≠ .waiting

theorem told_start (main : ι) : (start main).Told main where
  tid := rfl
  targets := fun _ member => absurd member List.not_mem_nil
  onStack := fun _ member => absurd member List.not_mem_nil
  exitTargets := fun _ _ here => by cases here
  exitOthers := rfl
  transit := fun positive => absurd positive (lt_irrefl 0)
  awake := fun told => by cases told
  early := fun _ => rfl
  once := .inl rfl

/-- Steps that change nothing of what the requests to stop are about. -/
theorem Told.of_same (told : s.Told main) (waiter : t.waiter = s.waiter) (tid : t.waiterTid = s.waiterTid)
    (flag : t.receivedUserStopSig = s.receivedUserStopSig) (pending : t.pending = s.pending)
    (handlers : t.handlers = s.handlers) (exits : t.exits = s.exits) (requests : t.stopRequests = s.stopRequests)
    (taken : t.takenAfterStop = s.takenAfterStop) : t.Told main where
  tid := tid.trans told.tid
  targets := handlers ▸ told.targets
  onStack := by
    rw [handlers, waiter]
    exact told.onStack
  exitTargets := exits ▸ told.exitTargets
  exitOthers := exits ▸ told.exitOthers
  transit := by
    rw [requests, flag, InTransit, pending, handlers, waiter]
    exact told.transit
  awake := by
    rw [flag, waiter, pending, exits]
    exact told.awake
  early := by
    rw [flag, taken]
    exact told.early
  once := by
    rw [taken, waiter]
    exact told.once

/-- The waiting thread moves on inside its loop. -/
theorem Told.moved (told : s.Told main) (free : ∀ run ∈ s.handlers, run.thread ≠ main) (tid : t.waiterTid = main)
    (elsewhere : s.waiter ≠ .storing) (awake : t.waiter ≠ .waiting) (flag : t.receivedUserStopSig = s.receivedUserStopSig)
    (pending : t.pending = s.pending) (handlers : t.handlers = s.handlers) (exits : t.exits = s.exits)
    (requests : t.stopRequests = s.stopRequests) (taken : t.takenAfterStop = s.takenAfterStop) : t.Told main where
  tid := tid
  targets := handlers ▸ told.targets
  onStack := fun run member here => absurd here (free run (handlers ▸ member))
  exitTargets := exits ▸ told.exitTargets
  exitOthers := exits ▸ told.exitOthers
  transit := by
    rw [requests, flag]
    intro positive
    refine (told.transit positive).imp_right ?_
    rintro (there | there | there)
    · exact .inl (pending ▸ there)
    · exact .inr (.inl (handlers ▸ there))
    · exact absurd there elsewhere
  awake := fun _ here => absurd here awake
  early := by
    rw [flag, taken]
    exact told.early
  once := by
    rw [taken]
    exact told.once.imp_right fun one => ⟨one.1, awake⟩

variable [DecidableEq ι]

theorem not_interrupted (free : s.interruptedBy main = false) : ∀ run ∈ s.handlers, run.thread ≠ main := by
  intro run member here
  have found : s.interruptedBy main = true := List.any_eq_true.mpr ⟨run, member, decide_eq_true here⟩
  rw [free] at found
  cases found

theorem dispatch_ne_waiting (info : SigInfo) : dispatch config info ≠ .waiting := by
  unfold dispatch
  split_ifs <;> exact WaiterPc.noConfusion

theorem dispatch_storing {info : SigInfo} (stops : info.stops = true) : dispatch config info = .storing := if_pos stops

/-- A signal that the waiting thread takes is not forgotten. -/
theorem sigwaitinfo_told {info : SigInfo} (told : s.Told main) (free : ∀ run ∈ s.handlers, run.thread ≠ main)
    (run : s.waiterStep config main (.sigwaitinfo info) = some t) : t.Told main := by
  simp only [waiterStep, onlyIf_eq_some] at run
  obtain ⟨⟨here, member⟩, rfl⟩ := run
  have notYet : s.takenAfterStop = 0 := told.once.resolve_right fun one => one.2 here
  refine { told with
    onStack := fun run member here => absurd here (free run member)
    transit := ?_, awake := ?_, early := ?_, once := ?_ }
  · intro positive
    rcases told.transit positive with flag | ⟨thread, other, there, stops⟩ | ⟨run, there, stops⟩ | there
    · exact .inl flag
    · refine .inr ?_
      by_cases taken : thread = main ∧ other = info
      · obtain ⟨rfl, rfl⟩ := taken
        exact .inr (.inr (dispatch_storing stops))
      · exact .inl ⟨thread, other, mem_take there taken, stops⟩
    · exact .inr (.inr (.inl ⟨run, there, stops⟩))
    · rw [here] at there
      cases there
  · exact fun _ waits => absurd waits (dispatch_ne_waiting info)
  · intro untold
    change s.receivedUserStopSig = false at untold
    simp only [untold, Bool.false_eq_true, if_false]
    exact notYet
  · simp only
    split_ifs
    · exact .inr ⟨by rw [notYet], dispatch_ne_waiting info⟩
    · exact .inl notYet

theorem waiterStep_told {action : WaiterAction} (told : s.Told main) (free : ∀ run ∈ s.handlers, run.thread ≠ main)
    (run : s.waiterStep config main action = some t) : t.Told main := by
  cases action
  case sigwaitinfo info => exact sigwaitinfo_told told free run
  all_goals simp only [waiterStep, onlyIf_eq_some] at run
  case block =>
    obtain ⟨here, rfl⟩ := run
    exact told.moved free told.tid (by simp [here]) (by simp) rfl rfl rfl rfl rfl rfl
  case storeTid =>
    obtain ⟨here, rfl⟩ := run
    exact told.moved free rfl (by simp [here]) (by simp) rfl rfl rfl rfl rfl rfl
  case setitimer =>
    obtain ⟨here, rfl⟩ := run
    exact told.moved free told.tid (by simp [here]) (by simp) rfl rfl rfl rfl rfl rfl
  case loadStopSig =>
    obtain ⟨here, rfl⟩ := run
    by_cases flag : s.receivedUserStopSig = true
    · exact told.moved free told.tid (by simp [here]) (by simp [flag]) rfl rfl rfl rfl rfl rfl
    · have untold := Bool.not_eq_true _ ▸ flag
      refine { told with
        onStack := fun run member here => absurd here (free run member), transit := ?_, awake := ?_, once := ?_ }
      · intro positive
        refine (told.transit positive).imp_right (Or.imp_right (Or.imp_right fun there => ?_))
        rw [here] at there
        cases there
      · exact fun told' => absurd told' flag
      · exact .inl (told.early untold)
  case interrupted =>
    obtain ⟨here, rfl⟩ := run
    exact told.moved free told.tid (by simp [here]) (by simp) rfl rfl rfl rfl rfl rfl
  case storeStopSig =>
    obtain ⟨here, rfl⟩ := run
    refine { told with
      onStack := fun run member here => absurd here (free run member)
      transit := ?_, awake := ?_, early := ?_, once := ?_ }
    · exact fun _ => .inl rfl
    · exact fun _ waits => by cases waits
    · exact fun untold => by cases untold
    · exact told.once.imp_right fun one => ⟨one.1, WaiterPc.noConfusion⟩
  case notifySigio =>
    obtain ⟨here, rfl⟩ := run
    exact told.moved free told.tid (by simp [here]) (by simp) rfl rfl rfl rfl rfl rfl
  case loadStoptimer =>
    obtain ⟨here, rfl⟩ := run
    exact told.moved free told.tid (by simp [here]) (by simp only; split_ifs <;> simp) rfl rfl rfl rfl rfl rfl
  case exchangeTick =>
    obtain ⟨here, rfl⟩ := run
    exact told.moved free told.tid (by simp [here]) (by simp only; split_ifs <;> simp) rfl rfl rfl rfl rfl rfl
  case wakeTimer =>
    obtain ⟨here, rfl⟩ := run
    exact told.moved free told.tid (by simp [here]) (by simp) rfl rfl rfl rfl rfl rfl
  case scan =>
    split at run
    case h_1 here =>
      cases run
      exact told.moved free told.tid (by simp [here]) (by simp) rfl rfl rfl rfl rfl rfl
    case h_2 here =>
      split_ifs at run
      all_goals
        cases run
        exact told.moved free told.tid (by simp [here]) (by simp) rfl rfl rfl rfl rfl rfl
    case h_3 => cases run
  case wakeCustom =>
    split at run
    case h_1 here =>
      cases run
      exact told.moved free told.tid (by simp [here]) (by simp) rfl rfl rfl rfl rfl rfl
    case h_2 => cases run

omit [DecidableEq ι] in
/-- The threads of the timer have no part in it. -/
theorem threadStep_told {action : TimerThreadAction} (told : s.Told main) (run : s.threadStep config action = some t) :
    t.Told main := by
  cases action <;> simp only [threadStep, onlyIf_eq_some] at run
  case chainGet =>
    split at run <;>
      (obtain ⟨_, rfl⟩ := onlyIf_eq_some.mp run; exact told.of_same rfl rfl rfl rfl rfl rfl rfl rfl)
  case notifyNext =>
    split at run
    case h_3 => cases run
    all_goals
      cases run
      exact told.of_same rfl rfl rfl rfl rfl rfl rfl rfl
  all_goals
    obtain ⟨_, rfl⟩ := run
    exact told.of_same rfl rfl rfl rfl rfl rfl rfl rfl

/-- A signal that is sent makes nobody forget a request. -/
theorem send_transit (s : ADTimer ι) (thread : ι) (info : SigInfo) :
    s.InTransit → (s.send thread info).InTransit := by
  rintro (⟨other, held, there, stops⟩ | there | there)
  · refine .inl ⟨other, held, ?_, stops⟩
    by_cases same : other = thread
    · subst same
      simp only [send, update_self]
      exact queueSignal_keeps there
    · simp only [send, update_of_ne same]
      exact there
  · exact .inr (.inl there)
  · exact .inr (.inr there)

theorem send_stops (s : ADTimer ι) (thread : ι) {info : SigInfo} (stops : info.stops = true) :
    (s.send thread info).InTransit := by
  obtain ⟨other, member, same⟩ := queueSignal_has (s.pending thread) info
  refine .inl ⟨thread, other, ?_, (SigInfo.stops_congr same).trans stops⟩
  simp only [send, update_self]
  exact member

theorem send_pending (s : ADTimer ι) (thread : ι) (info : SigInfo) : (s.send thread info).pending thread ≠ [] := by
  obtain ⟨other, member, _⟩ := queueSignal_has (s.pending thread) info
  simp only [send, update_self]
  exact List.ne_nil_of_mem member

theorem send_pending_keeps (s : ADTimer ι) (thread : ι) (info : SigInfo) {other : ι} (there : s.pending other ≠ []) :
    (s.send thread info).pending other ≠ [] := by
  by_cases same : other = thread
  · rw [same]
    exact s.send_pending thread info
  · simp only [send, update_of_ne same]
    exact there

/-- A call of `forced_exit` moves on. -/
theorem exitTargets_update {exits : ι → ExitPc ι} (known : ∀ thread target, exits thread = .loaded target → target = main)
    (thread : ι) {pc : ExitPc ι} (fits : ∀ target, pc = .loaded target → target = main) :
    ∀ place target, update exits thread pc place = .loaded target → target = main := by
  intro place target loaded
  by_cases same : place = thread
  · subst same
    rw [update_self] at loaded
    exact fits target loaded
  · rw [update_of_ne same] at loaded
    exact known place target loaded

/-- A signal that arrives is pending. -/
theorem arrive_told {thread : ι} {info : SigInfo} (told : s.Told main)
    (run : s.outsideStep config main (.arrive thread info) = some t) : t.Told main := by
  simp only [outsideStep, onlyIf_eq_some] at run
  obtain ⟨_, rfl⟩ := run
  refine { told with transit := ?_, awake := ?_ }
  · intro positive
    by_cases stops : info.stops = true
    · exact .inr (s.send_stops thread stops)
    · simp only [stops] at positive
      exact (told.transit positive).imp_right (s.send_transit thread info)
  · intro flag here
    exact (told.awake flag here).imp_left (s.send_pending_keeps thread info)

/-- A pending signal moves to a handler. -/
theorem enterHandler_told {thread : ι} {info : SigInfo} (told : s.Told main)
    (run : s.outsideStep config main (.enterHandler thread info) = some t) : t.Told main := by
  simp only [outsideStep, onlyIf_eq_some] at run
  obtain ⟨⟨member, free⟩, rfl⟩ := run
  have entering : thread = main → s.waiter = .entering := by
    intro same
    simp only [blocks, same, decide_true, Bool.true_and, Bool.or_eq_false_iff] at free
    simpa using free.1
  refine { told with targets := ?_, onStack := ?_, transit := ?_, awake := ?_ }
  · intro run found
    rcases List.mem_append.mp found with old | new
    · exact told.targets run old
    · rw [List.mem_singleton.mp new]
      exact fun _ none => by cases none
  · intro run found
    rcases List.mem_append.mp found with old | new
    · exact told.onStack run old
    · rw [List.mem_singleton.mp new]
      exact entering
  · intro positive
    rcases told.transit positive with flag | ⟨place, other, there, stops⟩ | ⟨run, there, stops⟩ | there
    · exact .inl flag
    · refine .inr ?_
      by_cases taken : place = thread ∧ other = info
      · obtain ⟨rfl, rfl⟩ := taken
        exact .inr (.inl ⟨_, List.mem_append_right _ (List.mem_singleton_self _), stops⟩)
      · exact .inl ⟨place, other, mem_take there taken, stops⟩
    · exact .inr (.inr (.inl ⟨run, List.mem_append_left _ there, stops⟩))
    · exact .inr (.inr (.inr there))
  · intro flag here
    have elsewhere : main ≠ thread := by
      intro same
      have gone := (entering same.symm).symm.trans here
      cases gone
    refine (told.awake flag here).imp_left fun there => ?_
    simp only [update_of_ne elsewhere]
    exact there

/-- A handler keeps its signal while it reads where to send it. -/
theorem loadTarget_told {handler : HandlerRun ι} (told : s.Told main)
    (run : s.outsideStep config main (.loadTarget handler) = some t) : t.Told main := by
  simp only [outsideStep, onlyIf_eq_some] at run
  obtain ⟨⟨member, unread⟩, rfl⟩ := run
  have origin : ∀ run ∈ s.handlers.erase handler ++ [{ handler with target := some s.waiterTid }],
      run ∈ s.handlers ∨ run = { handler with target := some s.waiterTid } := fun run found =>
    (List.mem_append.mp found).imp List.mem_of_mem_erase List.mem_singleton.mp
  refine { told with targets := ?_, onStack := ?_, transit := ?_ }
  · intro run found target read
    rcases origin run found with old | rfl
    · exact told.targets run old target read
    · exact (Option.some.inj read).symm.trans told.tid
  · intro run found
    rcases origin run found with old | rfl
    · exact told.onStack run old
    · exact told.onStack handler member
  · intro positive
    refine (told.transit positive).imp_right ?_
    rintro (there | ⟨run, there, stops⟩ | there)
    · exact .inl there
    · by_cases same : run = handler
      · subst same
        exact .inr (.inl ⟨_, List.mem_append_right _ (List.mem_singleton_self _), stops⟩)
      · exact .inr (.inl ⟨run, List.mem_append_left _ ((List.mem_erase_of_ne same).mpr there), stops⟩)
    · exact .inr (.inr there)

/-- A handler has sent its signal to the waiting thread, or has stored the request itself. -/
theorem leaveHandler_told {handler : HandlerRun ι} {target : ι} (told : s.Told main)
    (run : s.outsideStep config main (.leaveHandler handler target) = some t) : t.Told main := by
  simp only [outsideStep, onlyIf_eq_some] at run
  obtain ⟨⟨member, read⟩, rfl⟩ := run
  have known : target = main := told.targets handler member target (Option.mem_def.mpr read)
  have old : ∀ {run}, run ∈ s.handlers.erase handler → run ∈ s.handlers := List.mem_of_mem_erase
  -- a request in another handler is still there
  have others : handler.info.stops = false → s.InTransit → InTransit { s with handlers := s.handlers.erase handler } := by
    rintro harmless (there | ⟨run, there, stops⟩ | there)
    · exact .inl there
    · refine .inr (.inl ⟨run, (List.mem_erase_of_ne ?_).mpr there, stops⟩)
      rintro rfl
      rw [harmless] at stops
      cases stops
    · exact .inr (.inr there)
  split_ifs with elsewhere stops
  · subst known
    refine { told with
      targets := fun run found => told.targets run (old found)
      onStack := fun run found => told.onStack run (old found)
      transit := ?_
      awake := fun _ _ => .inl (s.send_pending target handler.info) }
    intro positive
    by_cases stops : handler.info.stops = true
    · refine .inr ?_
      exact send_stops { s with handlers := s.handlers.erase handler } target stops
    · exact (told.transit positive).imp_right fun there =>
        send_transit { s with handlers := s.handlers.erase handler } target handler.info
          (others (Bool.not_eq_true _ ▸ stops) there)
  · have entering := told.onStack handler member ((not_not.mp elsewhere).trans known)
    refine { told with
      targets := fun run found => told.targets run (old found)
      onStack := fun run found => told.onStack run (old found)
      transit := fun _ => .inl rfl
      awake := ?_
      early := fun untold => by cases untold }
    intro _ here
    have gone := entering.symm.trans here
    cases gone
  · exact { told with
      targets := fun run found => told.targets run (old found)
      onStack := fun run found => told.onStack run (old found)
      transit := fun positive => (told.transit positive).imp_right (others (Bool.not_eq_true _ ▸ stops)) }

/-- `forced_exit` stores the request. -/
theorem forcedExit_told {thread : ι} (told : s.Told main)
    (run : s.outsideStep config main (.forcedExit thread) = some t) : t.Told main := by
  simp only [outsideStep, onlyIf_eq_some] at run
  obtain ⟨⟨here, other⟩, rfl⟩ := run
  refine { told with
    exitTargets := exitTargets_update told.exitTargets thread fun _ loaded => by cases loaded
    exitOthers := ?_
    transit := fun _ => .inl rfl
    awake := fun _ _ => .inr ⟨thread, ?_⟩
    early := fun untold => by cases untold }
  · simp only [update_of_ne (Ne.symm other)]
    exact told.exitOthers
  · simp

theorem loadWaiter_told {thread : ι} (told : s.Told main)
    (run : s.outsideStep config main (.loadWaiter thread) = some t) : t.Told main := by
  simp only [outsideStep, onlyIf_eq_some] at run
  obtain ⟨here, rfl⟩ := run
  have other : main ≠ thread := by
    rintro rfl
    rw [told.exitOthers] at here
    cases here
  refine { told with
    exitTargets := exitTargets_update told.exitTargets thread fun _ loaded =>
      (ExitPc.loaded.inj loaded).symm.trans told.tid
    exitOthers := ?_
    awake := ?_ }
  · simp only [update_of_ne other]
    exact told.exitOthers
  · exact fun _ _ => .inr ⟨thread, by simp⟩

/-- `forced_exit` wakes the waiting thread. -/
theorem tgkill_told {thread : ι} (told : s.Told main)
    (run : s.outsideStep config main (.tgkill thread) = some t) : t.Told main := by
  simp only [outsideStep] at run
  split at run
  case h_1 target here =>
    have known : target = main := told.exitTargets thread target here
    have other : target ≠ thread := by
      rintro rfl
      rw [known, told.exitOthers] at here
      cases here
    rw [if_pos other] at run
    cases run
    subst known
    refine { told with
      exitTargets := exitTargets_update told.exitTargets thread fun _ loaded => by cases loaded
      exitOthers := ?_
      transit := ?_
      awake := ?_ }
    · simp only [update_of_ne other]
      exact told.exitOthers
    · exact fun positive => (told.transit positive).imp_right (s.send_transit target _)
    · exact fun _ _ => .inl (s.send_pending target _)
  case h_2 => cases run

theorem outsideStep_told {action : SignalAction ι} (told : s.Told main)
    (run : s.outsideStep config main action = some t) : t.Told main := by
  cases action with
  | arrive => exact arrive_told told run
  | enterHandler => exact enterHandler_told told run
  | loadTarget => exact loadTarget_told told run
  | leaveHandler => exact leaveHandler_told told run
  | forcedExit => exact forcedExit_told told run
  | loadWaiter => exact loadWaiter_told told run
  | tgkill => exact tgkill_told told run
  | stopTimer =>
    cases run
    exact told.of_same rfl rfl rfl rfl rfl rfl rfl rfl

theorem step_told {action : TimerAction ι} (told : s.Told main) (run : s.step config main action = some t) :
    t.Told main := by
  cases action with
  | waiter action =>
    simp only [step] at run
    split_ifs at run with free
    exact waiterStep_told told (not_interrupted (Bool.not_eq_true _ ▸ free)) run
  | thread action => exact threadStep_told told run
  | outside action => exact outsideStep_told told run

theorem reach_told {allow : ADTimer ι → TimerAction ι → Prop}
    (reach : Reach (fun s => s.step config main) allow (start main) s) : s.Told main :=
  reach.invariant (told_start main) fun _ _ _ told _ run => step_told told run

/-- No request to stop is lost, by whatever thread the kernel hands the signal to: it is on its
way to the waiting thread or has arrived. A thread that was told does not sleep on, since it has
a signal to take or `forced_exit` is about to send one, and it takes at most one more. -/
theorem stop_request_arrives (config : TimerConfig) (main : ι) {s : ADTimer ι}
    (reach : Reach (fun s => s.step config main) (fun _ _ => True) (start main) s) :
    (0 < s.stopRequests → s.receivedUserStopSig = true ∨ s.InTransit) ∧
    (s.receivedUserStopSig = true → s.waiter = .waiting →
      s.pending main ≠ [] ∨ ∃ thread, s.exits thread ≠ .outside) ∧
    s.takenAfterStop ≤ 1 ∧
    (0 < s.stopRequests → s.handlers = [] → (∀ thread, s.exits thread = .outside) → (∀ thread, s.pending thread = []) →
      s.waiter ≠ .storing → s.receivedUserStopSig = true ∧ s.waiter ≠ .waiting) := by
  have told := reach_told reach
  refine ⟨told.transit, told.awake, by rcases told.once with none | one <;> omega, ?_⟩
  intro positive handlers exits pending elsewhere
  have flag : s.receivedUserStopSig = true := by
    rcases told.transit positive with flag | ⟨thread, info, there, _⟩ | ⟨run, there, _⟩ | there
    · exact flag
    · rw [pending thread] at there
      cases there
    · rw [handlers] at there
      cases there
    · exact absurd there elsewhere
  refine ⟨flag, fun here => ?_⟩
  rcases told.awake flag here with there | ⟨thread, there⟩
  · exact there (pending main)
  · exact there (exits thread)

/-- A worker thread (`false`) gets SIGTERM and forwards it while the main thread (`true`) waits. -/
def sigtermForwarded : List (TimerAction Bool) :=
  [.waiter .block, .waiter .storeTid, .waiter .setitimer, .waiter .loadStopSig,
    .outside (.arrive false { sig := sigTerm, siInt := 7 }), .outside (.enterHandler false { sig := sigTerm, siInt := 7 }),
    .outside (.loadTarget { thread := false, info := { sig := sigTerm, siInt := 7 }, target := none }),
    .outside (.leaveHandler { thread := false, info := { sig := sigTerm, siInt := 7 }, target := some true } true)]

theorem stop_request_arrives_sigterm :
    ∃ s : ADTimer Bool, (s.waiter = .waiting ∧ s.stopRequests = 1 ∧ s.pending true = [{ sig := sigTerm, siInt := 7 }]) ∧
      (0 < s.stopRequests → s.receivedUserStopSig = true ∨ s.InTransit) ∧
      (s.receivedUserStopSig = true → s.waiter = .waiting →
        s.pending true ≠ [] ∨ ∃ thread, s.exits thread ≠ .outside) ∧
      s.takenAfterStop ≤ 1 ∧
      (0 < s.stopRequests → s.handlers = [] → (∀ thread, s.exits thread = .outside) → (∀ thread, s.pending thread = []) →
        s.waiter ≠ .storing → s.receivedUserStopSig = true ∧ s.waiter ≠ .waiting) := by
  obtain ⟨s, reach, here⟩ := exists_reach (fun s => s.step { customSigs := [], subscribers := [] } true)
    (fun _ _ => True) (start true) sigtermForwarded
    (fun s => s.waiter = .waiting ∧ s.stopRequests = 1 ∧ s.pending true = [{ sig := sigTerm, siInt := 7 }]) (by decide)
  exact ⟨s, here, stop_request_arrives { customSigs := [], subscribers := [] } true reach⟩

end ADTimer
end JsonRpcTcp
