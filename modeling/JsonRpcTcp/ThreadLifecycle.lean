import JsonRpcTcp.ThreadStep

namespace JsonRpcTcp
open Function

namespace CallPc

/-- The caller holds `ctrl_lock`. -/
def holds : CallPc → Bool
  | .idle | .startLock | .stopLock _ | .returning _ => false
  | _ => true

/-- The caller relies on every pthread having ended. -/
def quiet : CallPc → Bool
  | .pthreadJoin _ | .clearing _ | .draining | .storingActive | .storingFinished | .creating | .restoringFinished => true
  | _ => false

/-- How many pthreads had been created when this call of `stop_thread` joined. -/
def stamp : CallPc → Option Nat
  | .unlocking (.stopped created) | .returning (.stopped created) => some created
  | _ => none

/-- The call stops the pthread it is made from. -/
def selfStop : CallPc → Bool
  | .stoppingSelf | .unlocking .stopRequested | .returning .stopRequested => true
  | _ => false

theorem holds_of_quiet {pc : CallPc} (sees : pc.quiet = true) : pc.holds = true := by
  cases pc <;> first | rfl | cases sees

/-- A call that goes on from `pc` to `next` keeps the lock as it is and learns nothing. -/
def Follows (pc next : CallPc) : Prop :=
  next.holds = pc.holds ∧ pc ≠ .marking ∧ next ≠ .creating ∧ (next.quiet = true → pc.quiet = true) ∧
    next.stamp = none ∧ (next.selfStop = true → pc.selfStop = true)

end CallPc

namespace ADThread
variable {ι : Type}

def AllEnded (s : ADThread ι) : Prop := ∀ pthread < s.created, s.pthreads pthread = .ended

/-- At most the last pthread is alive, and whoever is about to create another
one has `ctrl_lock` and has seen the last one end. -/
structure Lifecycle (s : ADThread ι) : Prop where
  lock : ∀ caller, (s.callers caller).holds = true → s.ctrlLock = some caller
  fresh : ∀ pthread, s.created ≤ pthread → s.pthreads pthread = .none
  earlier : ∀ pthread, pthread + 1 < s.created → s.pthreads pthread = .ended
  finished : s.finished = true → s.AllEnded
  unstarted : s.started = false → s.AllEnded ∨ ∃ caller, s.callers caller = .marking
  quiet : ∀ caller, (s.callers caller).quiet = true → s.AllEnded
  creating : ∀ caller, s.callers caller = .creating → s.finished = false
  stopped : ∀ caller created, (s.callers caller).stamp = some created →
    created ≤ s.created ∧ ∀ pthread < created, s.pthreads pthread = .ended
  selfStop : ∀ caller, (s.callers caller).selfStop = true → ∃ pthread, caller = .inside pthread

variable [DecidableEq ι]

/-- What the callers and the pthreads can do in one step. -/
inductive Move (s : ADThread ι) : ADThread ι → Prop
  | go {caller next threadState sema} (holds : next.holds = (s.callers caller).holds)
      (marked : s.callers caller ≠ .marking) (created : next ≠ .creating)
      (quiet : next.quiet = true → (s.callers caller).quiet = true ∨ s.finished = true ∨
        s.callers caller = .startCheck ∧ s.started = false)
      (stamp : ∀ created, next.stamp = some created → (s.callers caller).stamp = some created)
      (selfStop : next.selfStop = true → (s.callers caller).selfStop = true ∨ ∃ pthread, caller = .inside pthread) :
      Move s { s.goto caller next with threadState := threadState, oneShotSema := sema }
  | post {sema} : Move s { s with oneShotSema := sema }
  | lock {caller next} (here : s.callers caller = .startLock ∧ next = .startCheck ∨
        ∃ limited, s.callers caller = .stopLock limited ∧ next = .stopCheck limited) (free : s.ctrlLock = none) :
      Move s { s.goto caller next with ctrlLock := some caller }
  | unlock {caller result} (here : s.callers caller = .unlocking result) :
      Move s { s.goto caller (.returning result) with ctrlLock := none }
  | storeFinished {caller} (here : s.callers caller = .storingFinished) :
      Move s { s.goto caller .creating with finished := false }
  | create {caller} (here : s.callers caller = .creating) :
      Move s { s.goto caller .marking with pthreads := update s.pthreads s.created .checking, thread := s.created
                                           created := s.created + 1 }
  | restore {caller} (here : s.callers caller = .restoringFinished) :
      Move s { s.goto caller .restoringState with finished := true }
  | mark {caller} (here : s.callers caller = .marking) :
      Move s { s.goto caller (.unlocking .started) with started := true }
  | clear {caller call next} (here : s.callers caller = .clearing call)
      (arrives : next = .draining ∨ next = .unlocking (.stopped s.created)) :
      Move s { s.goto caller next with started := false }
  | runs {pthread next threadState sema} (alive : s.pthreads pthread ≠ .none ∧ s.pthreads pthread ≠ .ended) :
      Move s { s.run pthread next with threadState := threadState, oneShotSema := sema }
  | ends {pthread} (here : s.pthreads pthread = .finishing) : Move s { s.run pthread .ended with finished := true }

theorem Move.follow {s : ADThread ι} {caller : Caller ι} {next : CallPc} {threadState : ThreadState} {sema : Nat}
    (follows : (s.callers caller).Follows next) :
    Move s { s.goto caller next with threadState := threadState, oneShotSema := sema } := by
  obtain ⟨holds, marked, created, quiet, stamp, selfStop⟩ := follows
  refine .go holds marked created (fun sees => .inl (quiet sees)) (fun created stamped => ?_) fun stops => .inl (selfStop stops)
  rw [stamp] at stamped
  cases stamped

open CallPc in
theorem callAt_moves {config : ThreadConfig} {s t : ADThread ι} {caller : Caller ι} {pc : CallPc} {action : CallAction}
    (here : s.callers caller = pc) (run : s.callAt config caller pc action = some t) : Move s t := by
  have follow : ∀ {next threadState sema}, pc.Follows next →
      Move s { s.goto caller next with threadState := threadState, oneShotSema := sema } := by
    intro next threadState sema follows
    rw [← here] at follows
    exact .follow follows
  unfold callAt at run
  split at run
  case h_1 =>
    obtain ⟨_, rfl⟩ := onlyIf_eq_some.mp run
    split_ifs <;> exact follow (by simp [Follows, holds, quiet, CallPc.stamp, selfStop])
  case h_2 =>
    obtain ⟨free, rfl⟩ := onlyIf_eq_some.mp run
    exact .lock (.inl ⟨here, rfl⟩) free
  case h_3 =>
    cases run
    split_ifs with started
    · exact follow (by simp [Follows, holds, quiet, CallPc.stamp, selfStop])
    · refine .go ?_ ?_ ?_ (fun _ => .inr (.inr ⟨here, Bool.eq_false_iff.mpr started⟩)) ?_ ?_ <;>
        simp [here, holds, CallPc.stamp, selfStop]
  case h_4 =>
    cases run
    split_ifs <;> exact follow (by simp [Follows, holds, quiet, CallPc.stamp, selfStop])
  case h_5 =>
    cases run
    split_ifs
    · exact .post
    · exact follow (by simp [Follows, holds, quiet, CallPc.stamp, selfStop])
  case h_6 =>
    cases run
    exact follow (by simp [Follows, holds, quiet, CallPc.stamp, selfStop])
  case h_7 =>
    cases run
    exact .storeFinished here
  case h_8 succeeds =>
    cases run
    split_ifs
    · exact .create here
    · exact follow (by simp [Follows, holds, quiet, CallPc.stamp, selfStop])
  case h_9 =>
    cases run
    exact .restore here
  case h_10 =>
    cases run
    exact follow (by simp [Follows, holds, quiet, CallPc.stamp, selfStop])
  case h_11 =>
    cases run
    exact .mark here
  case h_12 limited =>
    obtain ⟨_, rfl⟩ := onlyIf_eq_some.mp run
    exact follow (by simp [Follows, holds, quiet, CallPc.stamp, selfStop])
  case h_13 limited =>
    obtain ⟨free, rfl⟩ := onlyIf_eq_some.mp run
    exact .lock (.inr ⟨limited, here, rfl⟩) free
  case h_14 limited =>
    cases run
    split_ifs with started itself
    · exact follow (by simp [Follows, holds, quiet, CallPc.stamp, selfStop])
    · refine .go ?_ ?_ ?_ ?_ ?_ (fun _ => .inr ⟨s.thread, itself⟩) <;> simp [here, holds, quiet, CallPc.stamp]
    · exact follow (by simp [Follows, holds, quiet, CallPc.stamp, selfStop])
  case h_15 =>
    cases run
    exact follow (by simp [Follows, holds, quiet, CallPc.stamp, selfStop])
  case h_16 limited =>
    cases run
    split_ifs <;> exact follow (by simp [Follows, holds, quiet, CallPc.stamp, selfStop])
  case h_17 limited =>
    cases run
    exact follow (by simp [Follows, holds, quiet, CallPc.stamp, selfStop])
  case h_18 call =>
    cases run
    split_ifs with finished
    · refine .go ?_ ?_ ?_ (fun _ => .inr (.inl finished)) ?_ ?_ <;> simp [here, holds, CallPc.stamp, selfStop]
    · exact follow (by simp [Follows, holds, quiet, CallPc.stamp, selfStop])
  case h_19 call =>
    cases run
    exact follow (by simp [Follows, holds, quiet, CallPc.stamp, selfStop])
  case h_20 =>
    cases run
    exact follow (by simp [Follows, holds, quiet, CallPc.stamp, selfStop])
  case h_21 call =>
    obtain ⟨_, rfl⟩ := onlyIf_eq_some.mp run
    exact follow (by simp [Follows, holds, quiet, CallPc.stamp, selfStop])
  case h_22 =>
    cases run
    exact .clear here (.inl rfl)
  case h_23 =>
    cases run
    exact .clear here (.inr rfl)
  case h_24 result =>
    cases run
    exact .unlock here
  case h_25 result =>
    cases run
    exact follow (by simp [Follows, holds, quiet, CallPc.stamp, selfStop])
  case h_26 =>
    obtain ⟨_, rfl⟩ := onlyIf_eq_some.mp run
    split_ifs
    · exact .post
    · exact .post
  case h_27 => cases run

theorem pthreadAt_moves {config : ThreadConfig} {s t : ADThread ι} {pthread : Nat} {pc : PthreadPc}
    {action : PthreadAction} (here : s.pthreads pthread = pc) (run : s.pthreadAt config pthread pc action = some t) :
    Move s t := by
  unfold pthreadAt at run
  split at run
  case h_1 | h_3 | h_4 | h_6 =>
    cases run
    exact .runs (by simp [here])
  case h_2 | h_5 =>
    obtain ⟨_, rfl⟩ := onlyIf_eq_some.mp run
    exact .runs (by simp [here])
  case h_7 =>
    cases run
    exact .ends here
  case h_8 => cases run

theorem step_moves {config : ThreadConfig} {s t : ADThread ι} {action : ThreadAction ι}
    (run : s.step config action = some t) : Move s t := by
  cases action with
  | call caller action => exact callAt_moves rfl run
  | pthread pthread action => exact pthreadAt_moves rfl run

omit [DecidableEq ι] in
theorem lifecycle_init : (init : ADThread ι).Lifecycle where
  lock := by simp [init, CallPc.holds]
  fresh := by simp [init]
  earlier := by simp [init]
  finished := by simp [init, AllEnded]
  unstarted := by simp [init, AllEnded]
  quiet := by simp [init, CallPc.quiet]
  creating := by simp [init]
  stopped := by simp [init, CallPc.stamp]
  selfStop := by simp [init, CallPc.selfStop]

omit [DecidableEq ι] in
/-- Only one caller has the lock. -/
theorem Lifecycle.alone {s : ADThread ι} (life : s.Lifecycle) {caller other : Caller ι}
    (holds : (s.callers caller).holds = true) (holds' : (s.callers other).holds = true) : caller = other := by
  have first := life.lock caller holds
  rw [life.lock other holds'] at first
  exact (Option.some.inj first).symm

omit [DecidableEq ι] in
/-- While every pthread has ended, none of them takes a step. -/
theorem Lifecycle.not_alive {s : ADThread ι} (life : s.Lifecycle) (ended : s.AllEnded) {pthread : Nat}
    (alive : s.pthreads pthread ≠ .none ∧ s.pthreads pthread ≠ .ended) : False := by
  rcases Nat.lt_or_ge pthread s.created with old | new
  · exact alive.2 (ended pthread old)
  · exact alive.1 (life.fresh pthread new)

/-- A caller moves and the pthreads do not. -/
theorem lifecycle_goto {s t : ADThread ι} {caller : Caller ι} {next : CallPc} (life : s.Lifecycle)
    (callers : t.callers = update s.callers caller next) (pthreads : t.pthreads = s.pthreads)
    (created : t.created = s.created) (lock : next.holds = true → t.ctrlLock = some caller)
    (others : ∀ other, other ≠ caller → (s.callers other).holds = true → t.ctrlLock = some other)
    (finished : t.finished = true → s.AllEnded)
    (unstarted : t.started = false → s.AllEnded ∨ s.started = false ∧ s.callers caller ≠ .marking)
    (quiet : next.quiet = true → s.AllEnded) (creating : next = .creating → t.finished = false)
    (unfinished : ∀ other, other ≠ caller → s.callers other = .creating → t.finished = false)
    (stamp : ∀ number, next.stamp = some number → number ≤ s.created ∧ ∀ pthread < number, s.pthreads pthread = .ended)
    (selfStop : next.selfStop = true → ∃ pthread, caller = .inside pthread) : t.Lifecycle := by
  have ended : s.AllEnded → t.AllEnded := by
    intro before
    rw [AllEnded, pthreads, created]
    exact before
  have here : t.callers caller = next := by rw [callers, update_self]
  have there : ∀ other, other ≠ caller → t.callers other = s.callers other := by
    intro other different
    rw [callers, update_of_ne different]
  constructor
  case lock =>
    intro other
    rcases eq_or_ne other caller with rfl | different
    · rw [here]
      exact lock
    · rw [there other different]
      exact others other different
  case fresh =>
    rw [pthreads, created]
    exact life.fresh
  case earlier =>
    rw [pthreads, created]
    exact life.earlier
  case finished => exact fun done => ended (finished done)
  case unstarted =>
    intro off
    rcases unstarted off with quiet' | ⟨before, marked⟩
    · exact .inl (ended quiet')
    · rcases life.unstarted before with quiet' | ⟨other, marks⟩
      · exact .inl (ended quiet')
      · have different : other ≠ caller := by
          rintro rfl
          exact marked marks
        exact .inr ⟨other, by rw [there other different]; exact marks⟩
  case quiet =>
    intro other
    rcases eq_or_ne other caller with rfl | different
    · rw [here]
      exact fun sees => ended (quiet sees)
    · rw [there other different]
      exact fun sees => ended (life.quiet other sees)
  case creating =>
    intro other
    rcases eq_or_ne other caller with rfl | different
    · rw [here]
      exact creating
    · rw [there other different]
      exact unfinished other different
  case stopped =>
    rw [pthreads, created]
    intro other number
    rcases eq_or_ne other caller with rfl | different
    · rw [here]
      exact stamp number
    · rw [there other different]
      exact life.stopped other number
  case selfStop =>
    intro other
    rcases eq_or_ne other caller with rfl | different
    · rw [here]
      exact selfStop
    · rw [there other different]
      exact life.selfStop other

/-- The new pthread is the only one alive. -/
theorem lifecycle_create {s : ADThread ι} {caller : Caller ι} (life : s.Lifecycle)
    (here : s.callers caller = .creating) :
    Lifecycle { s.goto caller .marking with pthreads := update s.pthreads s.created .checking, thread := s.created
                                            created := s.created + 1 } := by
  have holds : (s.callers caller).holds = true := by rw [here]; rfl
  have ended : s.AllEnded := life.quiet caller (by rw [here]; rfl)
  have old : ∀ pthread < s.created, update s.pthreads s.created .checking pthread = .ended := by
    intro pthread bound
    rw [update_of_ne (Nat.ne_of_lt bound)]
    exact ended pthread bound
  have idle : ∀ other, other ≠ caller → (s.callers other).holds = false := by
    intro other different
    by_contra also
    exact different (life.alone (Bool.not_eq_false _ ▸ also) holds)
  have there : ∀ other, (s.goto caller .marking).callers other = if other = caller then .marking else s.callers other :=
    fun other => update_apply ..
  constructor
  case lock =>
    intro other
    simp only [there]
    split_ifs with same
    · subst same
      exact fun _ => life.lock other holds
    · exact life.lock other
  case fresh =>
    intro pthread bound
    have different : pthread ≠ s.created := by simp only at bound; omega
    simp only [update_of_ne different]
    exact life.fresh pthread (by simp only at bound; omega)
  case earlier =>
    intro pthread bound
    exact old pthread (by simp only at bound; omega)
  case finished =>
    intro done
    simp only [goto, life.creating caller here] at done
    cases done
  case unstarted => exact fun _ => .inr ⟨caller, by simp only [there, if_true]⟩
  case quiet =>
    intro other sees
    simp only [there] at sees
    split_ifs at sees with same
    · cases sees
    · have free := idle other same
      rw [CallPc.holds_of_quiet sees] at free
      cases free
  case creating =>
    intro other creates
    simp only [there] at creates
    split_ifs at creates with same
    · have free := idle other same
      rw [creates] at free
      cases free
  case stopped =>
    intro other number stamped
    simp only [there] at stamped
    split_ifs at stamped with same
    · cases stamped
    · obtain ⟨bound, before⟩ := life.stopped other number stamped
      refine ⟨Nat.le_succ_of_le bound, fun pthread below => old pthread (Nat.lt_of_lt_of_le below bound)⟩
  case selfStop =>
    intro other stops
    simp only [there] at stops
    split_ifs at stops with same
    · cases stops
    · exact life.selfStop other stops

omit [DecidableEq ι] in
/-- A pthread moves: it is the last one, and nobody relies on its end. -/
theorem lifecycle_runs {s t : ADThread ι} {pthread : Nat} {next : PthreadPc} (life : s.Lifecycle)
    (alive : s.pthreads pthread ≠ .none ∧ s.pthreads pthread ≠ .ended)
    (pthreads : t.pthreads = update s.pthreads pthread next) (created : t.created = s.created)
    (callers : t.callers = s.callers) (lock : t.ctrlLock = s.ctrlLock) (started : t.started = s.started)
    (finished : t.finished = s.finished ∨ next = .ended) : t.Lifecycle := by
  have noisy : ¬ s.AllEnded := fun ended => life.not_alive ended alive
  have bound : pthread < s.created := by
    by_contra beyond
    exact alive.1 (life.fresh pthread (Nat.le_of_not_lt beyond))
  have last : s.created ≤ pthread + 1 := by
    by_contra below
    exact alive.2 (life.earlier pthread (Nat.lt_of_not_le below))
  have stays : ∀ other, s.pthreads other = .ended → t.pthreads other = .ended := by
    intro other ended
    have different : other ≠ pthread := by
      rintro rfl
      exact alive.2 ended
    rw [pthreads, update_of_ne different]
    exact ended
  constructor
  case lock =>
    rw [callers, lock]
    exact life.lock
  case fresh =>
    rw [created]
    intro other beyond
    have different : other ≠ pthread := by omega
    rw [pthreads, update_of_ne different]
    exact life.fresh other beyond
  case earlier =>
    rw [created]
    exact fun other below => stays other (life.earlier other below)
  case finished =>
    intro done other below
    rw [created] at below
    rcases finished with same | rfl
    · rw [same] at done
      exact absurd (life.finished done) noisy
    · rcases Nat.lt_or_ge other pthread with before | after
      · exact stays other (life.earlier other (by omega))
      · have same : other = pthread := by omega
        rw [pthreads, same, update_self]
  case unstarted =>
    rw [callers, started]
    exact fun off => .inr ((life.unstarted off).resolve_left noisy)
  case quiet =>
    rw [callers]
    exact fun caller sees => absurd (life.quiet caller sees) noisy
  case creating =>
    rw [callers]
    intro caller creates
    exact absurd (life.quiet caller (by rw [creates]; rfl)) noisy
  case stopped =>
    rw [callers, created]
    intro caller number stamped
    obtain ⟨upper, ended⟩ := life.stopped caller number stamped
    exact ⟨upper, fun other below => stays other (ended other below)⟩
  case selfStop =>
    rw [callers]
    exact life.selfStop

theorem lifecycle_move {s t : ADThread ι} (life : s.Lifecycle) (move : Move s t) : t.Lifecycle := by
  -- nobody else is creating while a caller has the lock
  have only : ∀ {caller}, (s.callers caller).holds = true → ∀ other, other ≠ caller → s.callers other ≠ .creating := by
    intro caller holds other different creates
    exact different (life.alone (by rw [creates]; rfl) holds)
  have keeps : ∀ {caller other : Caller ι}, other ≠ caller → (s.callers other).holds = true → s.ctrlLock = some other :=
    fun _ holds => life.lock _ holds
  cases move with
  | @go caller next _ _ holds marked created quiet stamp selfStop =>
    refine lifecycle_goto life rfl rfl rfl (fun now => life.lock caller (holds ▸ now)) (fun _ => keeps) life.finished
      (fun off => .inr ⟨off, marked⟩) (fun sees => ?_) (fun creates => absurd creates created)
      (fun other _ => life.creating other) (fun number stamped => life.stopped caller number (stamp number stamped))
      fun stops => ?_
    · rcases quiet sees with before | done | ⟨checks, off⟩
      · exact life.quiet caller before
      · exact life.finished done
      · rcases life.unstarted off with ended | ⟨other, marks⟩
        · exact ended
        · have same : caller = other := life.alone (by rw [checks]; rfl) (by rw [marks]; rfl)
          rw [same, marks] at checks
          cases checks
    · rcases selfStop stops with before | inside
      · exact life.selfStop caller before
      · exact inside
  | post => exact ⟨life.lock, life.fresh, life.earlier, life.finished, life.unstarted, life.quiet, life.creating,
      life.stopped, life.selfStop⟩
  | @lock caller next here free =>
    have nobody : ∀ other, (s.callers other).holds ≠ true := by
      intro other holds
      rw [life.lock other holds] at free
      cases free
    have blind : next.quiet = false ∧ next.stamp = none ∧ next.selfStop = false ∧ next ≠ .creating := by
      rcases here with ⟨_, rfl⟩ | ⟨limited, _, rfl⟩
      · exact ⟨rfl, rfl, rfl, by simp⟩
      · exact ⟨rfl, rfl, rfl, by simp⟩
    have marked : s.callers caller ≠ .marking := by
      intro marks
      exact nobody caller (by rw [marks]; rfl)
    refine lifecycle_goto life rfl rfl rfl (fun _ => rfl) (fun other _ holds => absurd holds (nobody other)) life.finished
      (fun off => .inr ⟨off, marked⟩) (fun sees => ?_) (fun creates => absurd creates blind.2.2.2)
      (fun other _ => life.creating other) (fun number stamped => ?_) fun stops => ?_
    · rw [blind.1] at sees
      cases sees
    · rw [blind.2.1] at stamped
      cases stamped
    · rw [blind.2.2.1] at stops
      cases stops
  | @unlock caller result here =>
    have holds : (s.callers caller).holds = true := by rw [here]; rfl
    have marked : s.callers caller ≠ .marking := by simp [here]
    refine lifecycle_goto life rfl rfl rfl (fun now => by cases now)
      (fun other different also => absurd (life.alone also holds) different) life.finished
      (fun off => .inr ⟨off, marked⟩) (fun sees => by cases sees) (fun creates => by cases creates)
      (fun other _ => life.creating other) (fun number stamped => life.stopped caller number ?_) fun stops =>
        life.selfStop caller ?_
    · rw [here]
      cases result <;> exact stamped
    · rw [here]
      cases result <;> first | rfl | cases stops
  | @storeFinished caller here =>
    have ended := life.quiet caller (by rw [here]; rfl)
    exact lifecycle_goto life rfl rfl rfl (fun _ => life.lock caller (by rw [here]; rfl)) (fun _ => keeps)
      (fun done => by cases done) (fun _ => .inl ended) (fun _ => ended) (fun _ => rfl) (fun _ _ _ => rfl)
      (fun _ stamped => by cases stamped) fun stops => by cases stops
  | create here => exact lifecycle_create life here
  | @restore caller here =>
    have holds : (s.callers caller).holds = true := by rw [here]; rfl
    have ended := life.quiet caller (by rw [here]; rfl)
    exact lifecycle_goto life rfl rfl rfl (fun _ => life.lock caller holds) (fun _ => keeps) (fun _ => ended)
      (fun _ => .inl ended) (fun _ => ended) (fun creates => by cases creates)
      (fun other different creates => absurd creates (only holds other different))
      (fun _ stamped => by cases stamped) fun stops => by cases stops
  | @mark caller here =>
    have holds : (s.callers caller).holds = true := by rw [here]; rfl
    exact lifecycle_goto life rfl rfl rfl (fun _ => life.lock caller holds) (fun _ => keeps) life.finished
      (fun off => by cases off) (fun sees => by cases sees) (fun creates => by cases creates)
      (fun other _ => life.creating other) (fun _ stamped => by cases stamped) fun stops => by cases stops
  | @clear caller call next here arrives =>
    have holds : (s.callers caller).holds = true := by rw [here]; rfl
    have ended := life.quiet caller (by rw [here]; rfl)
    refine lifecycle_goto life rfl rfl rfl (fun _ => life.lock caller holds) (fun _ => keeps) life.finished
      (fun _ => .inl ended) (fun _ => ended) (fun creates => ?_) (fun other _ => life.creating other)
      (fun number stamped => ?_) fun stops => ?_
    · rcases arrives with rfl | rfl <;> cases creates
    · rcases arrives with rfl | rfl
      · cases stamped
      · cases stamped
        exact ⟨Nat.le_refl _, ended⟩
    · rcases arrives with rfl | rfl <;> cases stops
  | runs alive => exact lifecycle_runs life alive rfl rfl rfl rfl rfl (.inl rfl)
  | ends here => exact lifecycle_runs life (by simp [here]) rfl rfl rfl rfl rfl (.inr rfl)

variable {config : ThreadConfig}

/-- Any sequence of calls from any number of threads, in any interleaving. -/
def Anything (_ : ADThread ι) (_ : ThreadAction ι) : Prop := True

instance (s : ADThread ι) (action : ThreadAction ι) : Decidable (s.Anything action) := instDecidableTrue

theorem reach_lifecycle {s : ADThread ι} (reach : Reach (step config) Anything init s) : s.Lifecycle :=
  reach.invariant lifecycle_init fun _ _ _ life _ run => lifecycle_move life (step_moves run)

/-- A pthread that has ended stays so. -/
theorem ended_stays {s t : ADThread ι} {pthread : Nat} (bound : pthread < s.created)
    (ended : s.pthreads pthread = .ended) (move : Move s t) : t.pthreads pthread = .ended ∧ pthread < t.created := by
  cases move with
  | create => exact ⟨by simp only [update_of_ne (Nat.ne_of_lt bound)]; exact ended, Nat.lt_succ_of_lt bound⟩
  | @runs other _ _ _ alive =>
    have different : pthread ≠ other := by
      rintro rfl
      exact alive.2 ended
    exact ⟨by simp only [run, update_of_ne different]; exact ended, bound⟩
  | @ends other here =>
    have different : pthread ≠ other := by
      rintro rfl
      rw [ended] at here
      cases here
    exact ⟨by simp only [run, update_of_ne different]; exact ended, bound⟩
  | _ => exact ⟨ended, bound⟩

theorem reach_ended {s t : ADThread ι} {pthread : Nat} (bound : pthread < s.created)
    (ended : s.pthreads pthread = .ended) (reach : Reach (step config) Anything s t) :
    t.pthreads pthread = .ended := by
  have both : t.pthreads pthread = .ended ∧ pthread < t.created := by
    induction reach with
    | start => exact ⟨ended, bound⟩
    | next _ _ run ih => exact ended_stays ih.2 ih.1 (step_moves run)
  exact both.1

/-- For every type of thread and every interleaving of calls: at most one pthread
runs its callback; when `stop_thread` returns 0 to a caller outside the callback,
every pthread created before it joined has ended, so that a callback that runs
then or later is of a pthread that was created afterwards; and no pthread is
created before the one before it has ended. -/
theorem thread_lifecycle {s : ADThread ι} (reach : Reach (step config) Anything init s) :
    (∀ pthread other, s.pthreads pthread = .callback → s.pthreads other = .callback → pthread = other) ∧
    (∀ thread result, s.callers (.outside thread) = .returning result → result.ofStop = true → result.code = 0 →
      ∃ created, result = .stopped created ∧ ∀ t, Reach (step config) Anything s t →
        ∀ pthread, t.pthreads pthread = .callback → created ≤ pthread ∧ pthread < t.created) ∧
    ∀ pthread, pthread + 1 < s.created → s.pthreads pthread = .ended := by
  have life := reach_lifecycle reach
  have last : ∀ pthread, s.pthreads pthread = .callback → pthread + 1 = s.created := by
    intro pthread runs
    rcases Nat.lt_trichotomy (pthread + 1) s.created with early | same | late
    · rw [life.earlier pthread early] at runs
      cases runs
    · exact same
    · rw [life.fresh pthread (by omega)] at runs
      cases runs
  refine ⟨fun pthread other runs runs' => ?_, fun thread result here stop code => ?_, life.earlier⟩
  · have first := last pthread runs
    have second := last other runs'
    omega
  · cases result with
    | started | startFailed => cases stop
    | notStarted | timedOut => cases code
    | stopRequested =>
      obtain ⟨pthread, impossible⟩ := life.selfStop (.outside thread) (by rw [here]; rfl)
      cases impossible
    | stopped created =>
      obtain ⟨bound, ended⟩ := life.stopped (.outside thread) created (by rw [here]; rfl)
      refine ⟨created, rfl, fun t further pthread runs => ⟨?_, ?_⟩⟩
      · by_contra below
        rw [reach_ended (by omega) (ended pthread (by omega)) further] at runs
        cases runs
      · by_contra beyond
        rw [(reach_lifecycle (reach.trans further)).fresh pthread (by omega)] at runs
        cases runs

/-- Steps of the one thread outside. -/
def calls (actions : List CallAction) : List (ThreadAction Unit) := actions.map (.call (.outside ()))

/-- A call of `start_thread` on a stopped thread, up to `pthread_create`. -/
def startsUp : List (ThreadAction Unit) :=
  calls [.start, .lock, .readStarted, .semTrywait, .storeState, .storeFinished, .pthreadCreate true]

/-- The rest of that call with its return. -/
def returnsUp : List (ThreadAction Unit) := calls [.setStarted, .unlock, .leave]

/-- A call of `stop_thread` up to its return, while the callback goes on and the
first look at `finished` is too early. -/
def stopsDown : List (ThreadAction Unit) :=
  calls [.stop false, .lock, .readStarted, .storeState, .loadFinished] ++
    [.pthread 0 .callbackReturns, .pthread 0 .storeState, .pthread 0 .storeFinished] ++
    calls [.sleepOver, .loadFinished, .pthreadJoin, .clearStarted, .unlock]

def sampleConfig : ThreadConfig := { thType := .noblock, attached := true, initFlag := true }

theorem thread_lifecycle_one_stop :
    ∃ s : ADThread Unit, s.callers (.outside ()) = .returning (.stopped 1) ∧ s.pthreads 0 = .ended ∧
      ∀ t, Reach (step sampleConfig) Anything s t → t.pthreads 0 ≠ .callback := by
  obtain ⟨s, reach, here, ended⟩ := exists_reach (step sampleConfig) Anything (init : ADThread Unit)
    (startsUp ++ returnsUp ++ [.pthread 0 .loadState] ++ stopsDown)
    (fun s => s.callers (.outside ()) = .returning (.stopped 1) ∧ s.pthreads 0 = .ended) (by decide +kernel)
  refine ⟨s, here, ended, fun t further runs => ?_⟩
  obtain ⟨created, same, later⟩ := (thread_lifecycle reach).2.1 () _ here rfl rfl
  cases same
  have bound := (later t further 0 runs).1
  omega

/-- No call of `start_thread` returns 0 in this step. -/
def NoStartReturns (s : ADThread ι) : ThreadAction ι → Prop
  | .call caller _ => s.callers caller ≠ .unlocking .started ∧ s.callers caller ≠ .returning .started
  | .pthread _ _ => True

instance (s : ADThread ι) (action : ThreadAction ι) : Decidable (s.NoStartReturns action) := by
  unfold NoStartReturns
  split <;> infer_instance

/-- After `stop_thread` has returned 0, the callback runs again while the next
`start_thread` has not returned yet. -/
theorem callback_before_start_returns :
    ∃ s t : ADThread Unit, Reach (step sampleConfig) Anything init s ∧
      s.callers (.outside ()) = .returning (.stopped 1) ∧ Reach (step sampleConfig) NoStartReturns s t ∧
      t.pthreads 1 = .callback :=
  exists_reach_then (step sampleConfig) Anything NoStartReturns (init : ADThread Unit)
    (startsUp ++ returnsUp ++ [.pthread 0 .loadState] ++ stopsDown)
    ([.call (.outside ()) .leave] ++ startsUp ++ [.pthread 1 .loadState])
    (fun s => s.callers (.outside ()) = .returning (.stopped 1)) (fun t => t.pthreads 1 = .callback) (by decide +kernel)

end ADThread
end JsonRpcTcp
