import JsonRpcTcp.TimerStep

namespace JsonRpcTcp
open Function

/-- The calls that one signal leads to: every subscriber with `notify_custom_sig` gets it. -/
def customCalls (info : SigInfo) (subscribers : List (Bool × Nat)) : List (Nat × Int) :=
  (subscribers.filter Prod.fst).map fun subscriber => (subscriber.2, info.siInt)

theorem customCalls_cons (info : SigInfo) (notified : Bool) (number : Nat) (rest : List (Bool × Nat)) :
    customCalls info ((notified, number) :: rest) =
      (if notified then [(number, info.siInt)] else []) ++ customCalls info rest := by
  cases notified <;> simp [customCalls]

/-- One signal is handed over once for each registration of its number. -/
def TimerConfig.handOver (config : TimerConfig) (info : SigInfo) : List SigInfo :=
  List.replicate (config.customSigs.count info.sig) info

/-- What the signals that were handed over lead to. -/
def TimerConfig.callsFor (config : TimerConfig) (copies : List SigInfo) : List (Nat × Int) :=
  copies.flatMap fun copy => customCalls copy config.subscribers.zipIdx

/-- What the loop of `notify_registered_signals` is still going to put into the chain. -/
def WaiterPc.toPut : WaiterPc → List SigInfo
  | .scanning info registrations => List.replicate (registrations.count info.sig) info
  | .wakingCustom info registrations => List.replicate (registrations.count info.sig) info
  | _ => []

/-- The thread is between `chain_put` and `wakeup_thread`. -/
def WaiterPc.owesWakeup : WaiterPc → Nat
  | .wakingCustom _ _ => 1
  | _ => 0

/-- The calls that `CustomSigThread` has begun and not made. -/
def CustomPc.toCall : CustomPc → List (Nat × Int)
  | .notifying info rest => customCalls info rest
  | _ => []

def CustomPc.tookWakeup : CustomPc → Nat
  | .woken => 1
  | _ => 0

namespace ADTimer
variable {ι : Type} {config : TimerConfig} {main : ι} {s t : ADTimer ι}

/-- The wake-ups of `TimerThread` that are on their way. -/
def ticksOnTheWay (s : ADTimer ι) : Nat :=
  s.timerSema + (if s.waiter = .waking then 1 else 0) + if s.tick = .woken then 1 else 0

/-- `timer_tick_pending` says whether a wake-up is on its way. -/
structure Ticking (s : ADTimer ι) : Prop where
  onTheWay : s.ticksOnTheWay = if s.timerTickPending then 1 else 0
  idle : s.timerTickPending = false → s.covered = s.alarms
  passes : s.passes ≤ s.covered
  past : s.covered ≤ s.alarms
  waits : s.timerTickPending = true → s.covered < s.alarms

theorem ticking_start (main : ι) : (start main).Ticking where
  onTheWay := rfl
  idle := fun _ => rfl
  passes := le_refl 0
  past := le_refl 0
  waits := fun pending => by cases pending

theorem Ticking.of_same (ticking : s.Ticking) (onTheWay : t.ticksOnTheWay = s.ticksOnTheWay)
    (pending : t.timerTickPending = s.timerTickPending) (alarms : t.alarms = s.alarms)
    (passes : t.passes = s.passes) (covered : t.covered = s.covered) : t.Ticking where
  onTheWay := by
    rw [onTheWay, pending]
    exact ticking.onTheWay
  idle := by
    rw [pending, covered, alarms]
    exact ticking.idle
  passes := by
    rw [passes, covered]
    exact ticking.passes
  past := by
    rw [covered, alarms]
    exact ticking.past
  waits := by
    rw [pending, covered, alarms]
    exact ticking.waits

/-- The waiting thread is at none of the points that deal with a tick. -/
theorem ticksOnTheWay_congr (sema : t.timerSema = s.timerSema) (tick : t.tick = s.tick)
    (before : s.waiter ≠ .waking) (after : t.waiter ≠ .waking) : t.ticksOnTheWay = s.ticksOnTheWay := by
  rw [ticksOnTheWay, ticksOnTheWay, sema, tick, if_neg before, if_neg after]

variable [DecidableEq ι]

theorem dispatch_ne_waking (info : SigInfo) : dispatch config info ≠ .waking := by
  unfold dispatch
  split_ifs <;> exact WaiterPc.noConfusion

theorem waiterStep_ticking {action : WaiterAction} (ticking : s.Ticking)
    (run : s.waiterStep config main action = some t) : t.Ticking := by
  cases action <;> simp only [waiterStep, onlyIf_eq_some] at run
  case exchangeTick =>
    obtain ⟨here, rfl⟩ := run
    have others := ticking.onTheWay
    have passes := ticking.passes
    have past := ticking.past
    simp only [ticksOnTheWay, here, reduceCtorEq, if_false] at others
    cases pending : s.timerTickPending with
    | true =>
      have waits := ticking.waits pending
      refine ⟨?_, (fun idle => by cases idle), passes, Nat.le_succ_of_le past, fun _ => Nat.lt_succ_of_lt waits⟩
      simpa only [ticksOnTheWay, pending, if_true, reduceCtorEq, if_false] using others
    | false =>
      have idle := ticking.idle pending
      refine ⟨?_, (fun idle => by cases idle), passes, Nat.le_succ_of_le past, fun _ => Nat.lt_succ_of_le past⟩
      simp only [pending, Bool.false_eq_true, if_false] at others
      simp only [ticksOnTheWay, Bool.false_eq_true, if_true, if_false]
      omega
  case wakeTimer =>
    obtain ⟨here, rfl⟩ := run
    refine ticking.of_same ?_ rfl rfl rfl rfl
    simp only [ticksOnTheWay, here, reduceCtorEq, if_true, if_false]
  case scan =>
    split at run
    case h_1 here =>
      cases run
      exact ticking.of_same (ticksOnTheWay_congr rfl rfl (by simp [here]) (by simp)) rfl rfl rfl rfl
    case h_2 here =>
      split_ifs at run
      all_goals
        cases run
        exact ticking.of_same (ticksOnTheWay_congr rfl rfl (by simp [here]) (by simp)) rfl rfl rfl rfl
    case h_3 => cases run
  case wakeCustom =>
    split at run
    case h_1 here =>
      cases run
      exact ticking.of_same (ticksOnTheWay_congr rfl rfl (by simp [here]) (by simp)) rfl rfl rfl rfl
    case h_2 => cases run
  case sigwaitinfo info =>
    obtain ⟨⟨here, _⟩, rfl⟩ := run
    exact ticking.of_same (ticksOnTheWay_congr rfl rfl (by simp [here]) (dispatch_ne_waking info)) rfl rfl rfl rfl
  case loadStopSig =>
    obtain ⟨here, rfl⟩ := run
    refine ticking.of_same (ticksOnTheWay_congr rfl rfl (by simp [here]) ?_) rfl rfl rfl rfl
    simp only
    split_ifs <;> exact WaiterPc.noConfusion
  case loadStoptimer =>
    obtain ⟨here, rfl⟩ := run
    refine ticking.of_same (ticksOnTheWay_congr rfl rfl (by simp [here]) ?_) rfl rfl rfl rfl
    simp only
    split_ifs <;> exact WaiterPc.noConfusion
  all_goals
    obtain ⟨here, rfl⟩ := run
    exact ticking.of_same (ticksOnTheWay_congr rfl rfl (by simp [here]) (by simp)) rfl rfl rfl rfl

omit [DecidableEq ι] in
theorem threadStep_ticking {action : TimerThreadAction} (ticking : s.Ticking)
    (run : s.threadStep config action = some t) : t.Ticking := by
  cases action <;> simp only [threadStep, onlyIf_eq_some] at run
  case timerSemWait =>
    obtain ⟨⟨here, some⟩, rfl⟩ := run
    refine ticking.of_same ?_ rfl rfl rfl rfl
    simp only [ticksOnTheWay, here, reduceCtorEq, if_true, if_false]
    omega
  case clearTick =>
    obtain ⟨here, rfl⟩ := run
    -- the wake-up that this thread took was the only one
    have others := ticking.onTheWay
    simp only [ticksOnTheWay, here, if_true] at others
    have pending : s.timerTickPending = true := by
      by_contra idle
      rw [if_neg idle] at others
      omega
    rw [if_pos pending] at others
    have passes := ticking.passes
    have waits := ticking.waits pending
    refine ⟨?_, fun _ => rfl, by simp only; omega, le_refl _, fun pending => by cases pending⟩
    simp only [ticksOnTheWay, reduceCtorEq, if_false, Bool.false_eq_true]
    omega
  case passDone =>
    obtain ⟨here, rfl⟩ := run
    refine ticking.of_same ?_ rfl rfl rfl rfl
    simp only [ticksOnTheWay, here, reduceCtorEq, if_false]
  case customSemWait =>
    obtain ⟨_, rfl⟩ := run
    exact ticking.of_same rfl rfl rfl rfl rfl
  case chainGet =>
    split at run <;> (obtain ⟨_, rfl⟩ := onlyIf_eq_some.mp run; exact ticking.of_same rfl rfl rfl rfl rfl)
  case notifyNext =>
    split at run
    case h_3 => cases run
    all_goals
      cases run
      exact ticking.of_same rfl rfl rfl rfl rfl

omit [DecidableEq ι] in
/-- What concerns neither the ticks nor the custom signals. -/
theorem Ticking.of_outside (ticking : s.Ticking) (waiter : t.waiter = s.waiter) (sema : t.timerSema = s.timerSema)
    (tick : t.tick = s.tick) (pending : t.timerTickPending = s.timerTickPending) (alarms : t.alarms = s.alarms)
    (passes : t.passes = s.passes) (covered : t.covered = s.covered) : t.Ticking := by
  refine ticking.of_same ?_ pending alarms passes covered
  rw [ticksOnTheWay, ticksOnTheWay, waiter, sema, tick]

/-- What the custom signals are about, which the steps outside the timer's threads leave alone. -/
structure SameTimers (s t : ADTimer ι) : Prop where
  waiter : t.waiter = s.waiter
  timerSema : t.timerSema = s.timerSema
  tick : t.tick = s.tick
  timerTickPending : t.timerTickPending = s.timerTickPending
  alarms : t.alarms = s.alarms
  passes : t.passes = s.passes
  covered : t.covered = s.covered
  sigInfoChain : t.sigInfoChain = s.sigInfoChain
  customSema : t.customSema = s.customSema
  custom : t.custom = s.custom
  takenCustom : t.takenCustom = s.takenCustom
  lostCustom : t.lostCustom = s.lostCustom
  popped : t.popped = s.popped
  calls : t.calls = s.calls

theorem outsideStep_same {action : SignalAction ι} (run : s.outsideStep config main action = some t) : s.SameTimers t := by
  cases action <;> simp only [outsideStep, onlyIf_eq_some] at run
  case leaveHandler =>
    obtain ⟨_, rfl⟩ := run
    split_ifs <;> exact ⟨rfl, rfl, rfl, rfl, rfl, rfl, rfl, rfl, rfl, rfl, rfl, rfl, rfl, rfl⟩
  case tgkill =>
    split at run
    case h_1 =>
      cases run
      split_ifs <;> exact ⟨rfl, rfl, rfl, rfl, rfl, rfl, rfl, rfl, rfl, rfl, rfl, rfl, rfl, rfl⟩
    case h_2 => cases run
  case stopTimer =>
    cases run
    exact ⟨rfl, rfl, rfl, rfl, rfl, rfl, rfl, rfl, rfl, rfl, rfl, rfl, rfl, rfl⟩
  all_goals
    obtain ⟨_, rfl⟩ := run
    exact ⟨rfl, rfl, rfl, rfl, rfl, rfl, rfl, rfl, rfl, rfl, rfl, rfl, rfl, rfl⟩

theorem step_ticking {action : TimerAction ι} (ticking : s.Ticking) (run : s.step config main action = some t) :
    t.Ticking := by
  cases action with
  | waiter action =>
    simp only [step] at run
    split_ifs at run
    exact waiterStep_ticking ticking run
  | thread action => exact threadStep_ticking ticking run
  | outside action =>
    have same := outsideStep_same run
    exact ticking.of_outside same.waiter same.timerSema same.tick same.timerTickPending same.alarms same.passes
      same.covered

/-- Ticks do not pile up and none is forgotten: at most one wake-up of `TimerThread` is on its
way, the thread passes over its subscribers at most once for each SIGALRM, and unless a wake-up
is on its way its last pass began after the last SIGALRM. -/
theorem ticks_coalesce (config : TimerConfig) (main : ι) {s : ADTimer ι}
    (reach : Reach (fun s => s.step config main) (fun _ _ => True) (start main) s) :
    s.timerSema ≤ 1 ∧ s.passes ≤ s.alarms ∧
    (s.covered < s.alarms ↔ s.waiter = .waking ∨ 0 < s.timerSema ∨ s.tick = .woken) := by
  have ticking : s.Ticking := reach.invariant (ticking_start main) fun _ _ _ ticking _ run => step_ticking ticking run
  have onTheWay := ticking.onTheWay
  have most : s.ticksOnTheWay ≤ 1 := by
    rw [onTheWay]
    split_ifs <;> omega
  refine ⟨?_, le_trans ticking.passes ticking.past, fun behind => ?_, fun coming => ?_⟩
  · unfold ticksOnTheWay at most
    omega
  · have pending : s.timerTickPending = true := by
      by_contra idle
      have even := ticking.idle (Bool.not_eq_true _ ▸ idle)
      omega
    rw [if_pos pending] at onTheWay
    by_contra none
    obtain ⟨waiter, sema, tick⟩ := not_or.mp none |>.imp_right not_or.mp
    rw [ticksOnTheWay, if_neg waiter, if_neg tick] at onTheWay
    omega
  · refine ticking.waits ?_
    by_contra idle
    rw [if_neg idle, ticksOnTheWay] at onTheWay
    rcases coming with waiter | sema | tick
    · rw [if_pos waiter] at onTheWay
      omega
    · omega
    · rw [if_pos tick] at onTheWay
      omega

/-- Two SIGALRM before `TimerThread` runs. -/
def twoAlarms : List (TimerAction Bool) :=
  [.waiter .block, .waiter .storeTid, .waiter .setitimer, .waiter .loadStopSig,
    .outside (.arrive true { sig := sigAlrm, siInt := 0 }), .waiter (.sigwaitinfo { sig := sigAlrm, siInt := 0 }),
    .waiter .loadStoptimer, .waiter .exchangeTick, .waiter .wakeTimer, .waiter .loadStopSig,
    .outside (.arrive true { sig := sigAlrm, siInt := 0 }), .waiter (.sigwaitinfo { sig := sigAlrm, siInt := 0 }),
    .waiter .loadStoptimer, .waiter .exchangeTick]

theorem ticks_coalesce_two :
    ∃ s : ADTimer Bool, (s.alarms = 2 ∧ s.passes = 0 ∧ s.waiter = .checking) ∧
      s.timerSema ≤ 1 ∧ s.passes ≤ s.alarms ∧
      (s.covered < s.alarms ↔ s.waiter = .waking ∨ 0 < s.timerSema ∨ s.tick = .woken) := by
  obtain ⟨s, reach, here⟩ := exists_reach (fun s => s.step { customSigs := [], subscribers := [] } true)
    (fun _ _ => True) (start true) twoAlarms (fun s => s.alarms = 2 ∧ s.passes = 0 ∧ s.waiter = .checking) (by decide)
  exact ⟨s, here, ticks_coalesce { customSigs := [], subscribers := [] } true reach⟩

/-- The copies that were put into the chain, and those that the loop is still going to put. -/
def handedOver (s : ADTimer ι) : List SigInfo := s.popped ++ s.sigInfoChain ++ s.waiter.toPut

/-- What holds of the custom signals between the kernel and the subscribers. -/
structure Delivers (config : TimerConfig) (s : ADTimer ι) : Prop where
  queue : s.handedOver.Sublist (s.takenCustom.flatMap config.handOver)
  lost : s.handedOver.length + s.lostCustom = (s.takenCustom.flatMap config.handOver).length
  calls : s.calls ++ s.custom.toCall = config.callsFor s.popped
  wakeups : s.sigInfoChain.length = s.customSema + s.waiter.owesWakeup + s.custom.tookWakeup

omit [DecidableEq ι] in
theorem delivers_start (main : ι) : (start main).Delivers config := ⟨List.Sublist.slnil, rfl, rfl, rfl⟩

omit [DecidableEq ι] in
theorem Delivers.of_same (delivers : s.Delivers config) (toPut : t.waiter.toPut = s.waiter.toPut)
    (owes : t.waiter.owesWakeup = s.waiter.owesWakeup) (chain : t.sigInfoChain = s.sigInfoChain)
    (sema : t.customSema = s.customSema) (custom : t.custom = s.custom) (taken : t.takenCustom = s.takenCustom)
    (lost : t.lostCustom = s.lostCustom) (popped : t.popped = s.popped) (calls : t.calls = s.calls) :
    t.Delivers config := by
  have same : t.handedOver = s.handedOver := by rw [handedOver, handedOver, popped, chain, toPut]
  refine ⟨?_, ?_, ?_, ?_⟩
  · rw [same, taken]
    exact delivers.queue
  · rw [same, taken, lost]
    exact delivers.lost
  · rw [calls, custom, popped]
    exact delivers.calls
  · rw [chain, sema, owes, custom]
    exact delivers.wakeups

omit [DecidableEq ι] in
/-- One more signal is taken, and the loop begins. -/
theorem Delivers.take (delivers : s.Delivers config) (here : s.waiter.toPut = []) (idle : s.waiter.owesWakeup = 0)
    {info : SigInfo} (toPut : t.waiter.toPut = config.handOver info) (owes : t.waiter.owesWakeup = 0)
    (chain : t.sigInfoChain = s.sigInfoChain) (sema : t.customSema = s.customSema) (custom : t.custom = s.custom)
    (taken : t.takenCustom = s.takenCustom ++ [info]) (lost : t.lostCustom = s.lostCustom) (popped : t.popped = s.popped)
    (calls : t.calls = s.calls) : t.Delivers config := by
  have queue := delivers.queue
  have count := delivers.lost
  have before : s.handedOver = s.popped ++ s.sigInfoChain := by rw [handedOver, here, List.append_nil]
  have after : t.handedOver = s.handedOver ++ config.handOver info := by rw [before, handedOver, popped, chain, toPut]
  refine ⟨?_, ?_, ?_, ?_⟩
  · rw [after, taken, List.flatMap_append, List.flatMap_singleton]
    exact queue.append (List.Sublist.refl _)
  · rw [after, taken, lost, List.flatMap_append, List.flatMap_singleton, List.length_append, List.length_append]
    omega
  · rw [calls, custom, popped]
    exact delivers.calls
  · rw [chain, sema, owes, custom, ← idle]
    exact delivers.wakeups

theorem dispatch_custom {info : SigInfo} (custom : info.custom = true) :
    dispatch config info = .scanning info config.customSigs := by
  simp only [SigInfo.custom, Bool.and_eq_true, Bool.not_eq_true', bne_iff_ne] at custom
  rw [dispatch, if_neg (by simp [custom.1.1]), if_neg custom.1.2, if_neg custom.2]

theorem dispatch_other {info : SigInfo} (other : ¬ info.custom = true) :
    (dispatch config info).toPut = [] ∧ (dispatch config info).owesWakeup = 0 := by
  unfold dispatch
  split_ifs with stops io alarm
  · exact ⟨rfl, rfl⟩
  · exact ⟨rfl, rfl⟩
  · exact ⟨rfl, rfl⟩
  · refine absurd ?_ other
    simp [SigInfo.custom, stops, io, alarm]

theorem scan_delivers {stored : Bool} (delivers : s.Delivers config)
    (run : s.waiterStep config main (.scan stored) = some t) : t.Delivers config := by
  have queue := delivers.queue
  have count := delivers.lost
  have wakeups := delivers.wakeups
  simp only [waiterStep] at run
  split at run
  case h_1 info here =>
    cases run
    exact delivers.of_same (by simp [here, WaiterPc.toPut]) (by simp [here, WaiterPc.owesWakeup]) rfl rfl rfl rfl rfl rfl rfl
  case h_2 info sig registrations here =>
    split_ifs at run with same put <;> cases run
    · subst same
      have kept : handedOver { s with
          waiter := .wakingCustom info registrations, sigInfoChain := s.sigInfoChain ++ [info] } = s.handedOver := by
        simp only [handedOver, here, WaiterPc.toPut, List.count_cons_self, List.replicate_succ]
        simp
      refine ⟨kept ▸ queue, kept ▸ count, delivers.calls, ?_⟩
      simp only [here, WaiterPc.owesWakeup, List.length_append, List.length_singleton] at wakeups ⊢
      omega
    · -- this copy is the first that was still to put
      subst same
      have first : s.handedOver = s.popped ++ s.sigInfoChain ++
          info :: List.replicate (registrations.count info.sig) info := by
        simp only [handedOver, here, WaiterPc.toPut, List.count_cons_self, List.replicate_succ]
      have fewer : List.Sublist (handedOver { s with
          waiter := .scanning info registrations, lostCustom := s.lostCustom + 1 }) s.handedOver := by
        rw [first]
        exact (List.Sublist.refl _).append (List.sublist_cons_self info _)
      refine ⟨fewer.trans queue, ?_, delivers.calls, ?_⟩
      · rw [first] at count
        simp only [handedOver, WaiterPc.toPut, List.length_append, List.length_cons] at count ⊢
        omega
      · simpa only [here, WaiterPc.owesWakeup] using wakeups
    · refine delivers.of_same ?_ (by simp [here, WaiterPc.owesWakeup]) rfl rfl rfl rfl rfl rfl rfl
      rw [here, WaiterPc.toPut, WaiterPc.toPut, List.count_cons_of_ne (Ne.symm same)]
  case h_3 => cases run

theorem waiterStep_delivers {action : WaiterAction} (delivers : s.Delivers config)
    (run : s.waiterStep config main action = some t) : t.Delivers config := by
  cases action
  case scan stored => exact scan_delivers delivers run
  all_goals simp only [waiterStep, onlyIf_eq_some] at run
  case sigwaitinfo info =>
    obtain ⟨⟨here, _⟩, rfl⟩ := run
    by_cases custom : info.custom = true
    · have scanning := @dispatch_custom config _ custom
      exact delivers.take (by rw [here]; rfl) (by rw [here]; rfl) (by rw [scanning]; rfl) (by rw [scanning]; rfl) rfl rfl
        rfl (if_pos custom) rfl rfl rfl
    · obtain ⟨toPut, owes⟩ := @dispatch_other config _ custom
      exact delivers.of_same (toPut.trans (by rw [here]; rfl)) (owes.trans (by rw [here]; rfl)) rfl rfl rfl
        (if_neg custom) rfl rfl rfl
  case wakeCustom =>
    split at run
    case h_1 info registrations here =>
      cases run
      have same : handedOver { s with
          waiter := .scanning info registrations, customSema := s.customSema + 1 } = s.handedOver := by
        simp only [handedOver, here, WaiterPc.toPut]
      have wakeups := delivers.wakeups
      refine ⟨same ▸ delivers.queue, same ▸ delivers.lost, delivers.calls, ?_⟩
      simp only [here, WaiterPc.owesWakeup] at wakeups ⊢
      omega
    case h_2 => cases run
  case loadStopSig =>
    obtain ⟨here, rfl⟩ := run
    refine delivers.of_same ?_ ?_ rfl rfl rfl rfl rfl rfl rfl <;> simp only [here] <;> split_ifs <;> rfl
  case loadStoptimer =>
    obtain ⟨here, rfl⟩ := run
    refine delivers.of_same ?_ ?_ rfl rfl rfl rfl rfl rfl rfl <;> simp only [here] <;> split_ifs <;> rfl
  case exchangeTick =>
    obtain ⟨here, rfl⟩ := run
    refine delivers.of_same ?_ ?_ rfl rfl rfl rfl rfl rfl rfl <;> simp only [here] <;> split_ifs <;> rfl
  all_goals
    obtain ⟨here, rfl⟩ := run
    exact delivers.of_same (by simp [here, WaiterPc.toPut]) (by simp [here, WaiterPc.owesWakeup]) rfl rfl rfl rfl rfl rfl
      rfl

omit [DecidableEq ι] in
theorem threadStep_delivers {action : TimerThreadAction} (delivers : s.Delivers config)
    (run : s.threadStep config action = some t) : t.Delivers config := by
  cases action <;> simp only [threadStep, onlyIf_eq_some] at run
  case customSemWait =>
    obtain ⟨⟨here, some⟩, rfl⟩ := run
    have calls := delivers.calls
    have wakeups := delivers.wakeups
    simp only [here, CustomPc.toCall, CustomPc.tookWakeup] at calls wakeups
    refine { delivers with calls := calls, wakeups := ?_ }
    simp only [CustomPc.tookWakeup]
    omega
  case chainGet =>
    have calls := delivers.calls
    have wakeups := delivers.wakeups
    split at run
    case h_1 empty =>
      -- cannot be: this thread took a wake-up, and a signal comes with each
      obtain ⟨here, rfl⟩ := onlyIf_eq_some.mp run
      simp only [empty, here, CustomPc.tookWakeup, List.length_nil] at wakeups
      omega
    case h_2 info rest chain =>
      obtain ⟨here, rfl⟩ := onlyIf_eq_some.mp run
      simp only [here, chain, CustomPc.toCall, CustomPc.tookWakeup, List.length_cons] at calls wakeups
      have same : handedOver { s with
          custom := .notifying info config.subscribers.zipIdx, sigInfoChain := rest, popped := s.popped ++ [info] } =
          s.handedOver := by
        simp [handedOver, chain]
      refine ⟨same ▸ delivers.queue, same ▸ delivers.lost, ?_, ?_⟩
      · rw [TimerConfig.callsFor] at calls
        simp only [CustomPc.toCall, TimerConfig.callsFor, List.flatMap_append, List.flatMap_singleton, ← calls,
          List.append_nil]
      · simp only [CustomPc.tookWakeup]
        omega
  case notifyNext =>
    have calls := delivers.calls
    have wakeups := delivers.wakeups
    split at run
    case h_1 info here =>
      cases run
      simp only [here, CustomPc.tookWakeup] at wakeups
      rw [here] at calls
      exact { delivers with calls := calls, wakeups := wakeups }
    case h_2 info notified number rest here =>
      cases run
      simp only [here, CustomPc.toCall, CustomPc.tookWakeup, customCalls_cons] at calls wakeups
      refine { delivers with calls := ?_, wakeups := wakeups }
      rw [← calls]
      cases notified <;> simp [CustomPc.toCall]
    case h_3 => cases run
  all_goals
    obtain ⟨_, rfl⟩ := run
    exact delivers.of_same rfl rfl rfl rfl rfl rfl rfl rfl rfl

theorem step_delivers {action : TimerAction ι} (delivers : s.Delivers config)
    (run : s.step config main action = some t) : t.Delivers config := by
  cases action with
  | waiter action =>
    simp only [step] at run
    split_ifs at run
    exact waiterStep_delivers delivers run
  | thread action => exact threadStep_delivers delivers run
  | outside action =>
    have same := outsideStep_same run
    exact delivers.of_same (by rw [same.waiter]) (by rw [same.waiter]) same.sigInfoChain same.customSema same.custom
      same.takenCustom same.lostCustom same.popped same.calls

/-- Every custom signal that the waiting thread took is handed to each subscriber once for each
registration of its number, in the order the signals came, but for the copies for which there
was no memory: what was called is a beginning of what has to be called, `CustomSigThread`
always finds the signal it was woken for, and when the threads rest nothing is left. -/
theorem custom_signals_delivered (config : TimerConfig) (main : ι) {s : ADTimer ι}
    (reach : Reach (fun s => s.step config main) (fun _ _ => True) (start main) s) :
    (∃ copies : List SigInfo, copies.Sublist (s.takenCustom.flatMap config.handOver) ∧
      copies.length + s.lostCustom = (s.takenCustom.flatMap config.handOver).length ∧
      s.calls <+: config.callsFor copies ∧
      (s.waiter = .waiting → s.custom = .waiting → s.customSema = 0 → s.calls = config.callsFor copies)) ∧
    (s.custom = .woken → s.sigInfoChain ≠ []) := by
  have delivers : s.Delivers config :=
    reach.invariant (delivers_start main) fun _ _ _ delivers _ run => step_delivers delivers run
  have wakeups := delivers.wakeups
  have whole : config.callsFor s.handedOver =
      s.calls ++ (s.custom.toCall ++ config.callsFor (s.sigInfoChain ++ s.waiter.toPut)) := by
    calc config.callsFor s.handedOver
        = config.callsFor s.popped ++ config.callsFor (s.sigInfoChain ++ s.waiter.toPut) := by
          rw [handedOver, List.append_assoc]
          exact List.flatMap_append
      _ = _ := by rw [← delivers.calls, List.append_assoc]
  refine ⟨⟨s.handedOver, delivers.queue, delivers.lost, whole ▸ List.prefix_append _ _, fun waiter custom sema => ?_⟩,
    fun woken empty => ?_⟩
  · rw [waiter, custom, sema] at wakeups
    have empty : s.sigInfoChain = [] := List.eq_nil_of_length_eq_zero wakeups
    rw [whole, custom, empty, waiter]
    exact (List.append_nil _).symm
  · rw [woken, empty] at wakeups
    simp only [List.length_nil, CustomPc.tookWakeup] at wakeups
    omega

/-- A real-time signal that is registered three times, for two subscribers of which one wants
it. There is no memory for the second copy. -/
def customSignal : List (TimerAction Bool) :=
  [.waiter .block, .waiter .storeTid, .waiter .setitimer, .waiter .loadStopSig,
    .outside (.arrive true { sig := 40, siInt := 5 }), .waiter (.sigwaitinfo { sig := 40, siInt := 5 }),
    .waiter (.scan true), .waiter .wakeCustom, .waiter (.scan false), .waiter (.scan true), .waiter .wakeCustom,
    .waiter (.scan true), .waiter .loadStopSig,
    .thread .customSemWait, .thread .chainGet, .thread .notifyNext, .thread .notifyNext, .thread .notifyNext,
    .thread .customSemWait, .thread .chainGet, .thread .notifyNext, .thread .notifyNext, .thread .notifyNext]

def sampleConfig : TimerConfig := { customSigs := [40, 40, 40], subscribers := [false, true] }

theorem custom_signals_delivered_twice :
    ∃ s : ADTimer Bool,
      (s.waiter = .waiting ∧ s.custom = .waiting ∧ s.customSema = 0 ∧ s.lostCustom = 1 ∧ s.calls = [(1, 5), (1, 5)]) ∧
      (∃ copies : List SigInfo, copies.Sublist (s.takenCustom.flatMap sampleConfig.handOver) ∧
        copies.length + s.lostCustom = (s.takenCustom.flatMap sampleConfig.handOver).length ∧
        s.calls <+: sampleConfig.callsFor copies ∧
        (s.waiter = .waiting → s.custom = .waiting → s.customSema = 0 → s.calls = sampleConfig.callsFor copies)) ∧
      (s.custom = .woken → s.sigInfoChain ≠ []) := by
  obtain ⟨s, reach, here⟩ := exists_reach (fun s => s.step sampleConfig true) (fun _ _ => True) (start true) customSignal
    (fun s => s.waiter = .waiting ∧ s.custom = .waiting ∧ s.customSema = 0 ∧ s.lostCustom = 1 ∧
      s.calls = [(1, 5), (1, 5)]) (by decide)
  exact ⟨s, here, custom_signals_delivered sampleConfig true reach⟩

end ADTimer
end JsonRpcTcp
