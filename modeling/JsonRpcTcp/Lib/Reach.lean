import Mathlib

universe u v

/-- The states reached from `start` by steps that all meet the condition
`allow`, which may look at the state before the step. -/
inductive Reach {σ : Type u} {α : Type v} (step : σ → α → Option σ) (allow : σ → α → Prop) (start : σ) :
    σ → Prop
  | start : Reach step allow start start
  | next {s t : σ} {a : α} : Reach step allow start s → allow s a → step s a = some t →
      Reach step allow start t

namespace Reach
variable {σ : Type u} {α : Type v} {step : σ → α → Option σ} {allow stricter : σ → α → Prop} {start s : σ}

/-- A property of the start that every permitted step preserves holds everywhere. -/
theorem invariant {holds : σ → Prop} (reach : Reach step allow start s) (initial : holds start)
    (preserved : ∀ s t a, holds s → allow s a → step s a = some t → holds t) : holds s := by
  induction reach with
  | start => exact initial
  | next _ permitted run ih => exact preserved _ _ _ ih permitted run

/-- As `invariant`, with what is already known of reachable states at hand. -/
theorem invariant_with {known holds : σ → Prop} (reach : Reach step allow start s)
    (always : ∀ s, Reach step allow start s → known s) (initial : holds start)
    (preserved : ∀ s t a, known s → holds s → allow s a → step s a = some t → holds t) : holds s := by
  induction reach with
  | start => exact initial
  | next before permitted run ih => exact preserved _ _ _ (always _ before) ih permitted run

theorem mono (reach : Reach step stricter start s) (weaker : ∀ s a, stricter s a → allow s a) :
    Reach step allow start s := by
  induction reach with
  | start => exact .start
  | next _ permitted run ih => exact .next ih (weaker _ _ permitted) run

theorem trans {t : σ} (reach : Reach step allow start s) (further : Reach step allow s t) :
    Reach step allow start t := by
  induction further with
  | start => exact reach
  | next _ permitted run ih => exact .next ih permitted run

universe u' v'

/-- A run whose steps are steps of another system or change nothing there is a
run of that system. -/
theorem simulation {τ : Type u'} {β : Type v'} {step' : τ → β → Option τ} {allow' : τ → β → Prop} (view : σ → τ)
    (simulates : ∀ s t a, Reach step allow start s → allow s a → step s a = some t →
      view t = view s ∨ ∃ b, allow' (view s) b ∧ step' (view s) b = some (view t))
    (reach : Reach step allow start s) : Reach step' allow' (view start) (view s) := by
  induction reach with
  | start => exact .start
  | next before permitted run ih =>
    rcases simulates _ _ _ before permitted run with same | ⟨b, permitted', run'⟩
    · rw [same]
      exact ih
    · exact .next ih permitted' run'

end Reach

/-- Execute a list of actions, each of which must be permitted. -/
def execute {σ : Type u} {α : Type v} (step : σ → α → Option σ) (allow : σ → α → Prop)
    [∀ s a, Decidable (allow s a)] : σ → List α → Option σ
  | s, [] => some s
  | s, a :: rest => if allow s a then (step s a).bind fun t => execute step allow t rest else none

/-- An executed list of actions is a run. -/
theorem reach_of_execute {σ : Type u} {α : Type v} {step : σ → α → Option σ} {allow : σ → α → Prop}
    [∀ s a, Decidable (allow s a)] {start s t : σ} (before : Reach step allow start s) {actions : List α}
    (run : execute step allow s actions = some t) : Reach step allow start t := by
  induction actions generalizing s with
  | nil =>
    cases Option.some.inj run
    exact before
  | cons a rest ih =>
    unfold execute at run
    split at run
    · rename_i permitted
      obtain ⟨u, first, later⟩ := Option.bind_eq_some_iff.mp run
      exact ih (.next before permitted first) later
    · cases run

/-- A state with a given property is reached when some list of actions ends in one. -/
theorem exists_reach {σ : Type u} {α : Type v} (step : σ → α → Option σ) (allow : σ → α → Prop)
    [∀ s a, Decidable (allow s a)] (start : σ) (actions : List α) (holds : σ → Prop) [DecidablePred holds]
    (run : (execute step allow start actions).any (fun s => decide (holds s)) = true) :
    ∃ s, Reach step allow start s ∧ holds s := by
  obtain ⟨s, executed, found⟩ := (Option.any_eq_true _ _).mp run
  exact ⟨s, reach_of_execute .start executed, of_decide_eq_true found⟩

/-- A run to a state with one property, and from there on to one with another. -/
theorem exists_reach_then {σ : Type u} {α : Type v} (step : σ → α → Option σ) (allow later : σ → α → Prop)
    [∀ s a, Decidable (allow s a)] [∀ s a, Decidable (later s a)] (start : σ) (actions rest : List α)
    (holds after : σ → Prop) [DecidablePred holds] [DecidablePred after]
    (run : (execute step allow start actions).any (fun s => decide (holds s) &&
      (execute step later s rest).any fun t => decide (after t)) = true) :
    ∃ s t, Reach step allow start s ∧ holds s ∧ Reach step later s t ∧ after t := by
  obtain ⟨s, executed, found⟩ := (Option.any_eq_true _ _).mp run
  obtain ⟨here, further⟩ := Bool.and_eq_true_iff.mp found
  obtain ⟨t, executed', there⟩ := (Option.any_eq_true _ _).mp further
  exact ⟨s, t, reach_of_execute .start executed, of_decide_eq_true here, reach_of_execute .start executed',
    of_decide_eq_true there⟩

/-- A step that is only possible under a condition. -/
def onlyIf {σ : Type u} (condition : Prop) [Decidable condition] (t : σ) : Option σ :=
  if condition then some t else none

theorem onlyIf_eq_some {σ : Type u} {condition : Prop} [Decidable condition] {t u : σ} :
    onlyIf condition t = some u ↔ condition ∧ t = u := by
  simp only [onlyIf, Option.ite_none_right_eq_some, Option.some.injEq]
