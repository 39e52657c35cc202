import Mathlib

universe u v w

/-- A machine that reads one input at a time, emits finitely many outputs
and may reject. A rejected run keeps what it emitted before the rejection. -/
structure Transducer (σ : Type u) (ι : Type v) (ο : Type w) where
  step : σ → ι → Option (σ × List ο)

namespace Transducer
variable {σ : Type u} {ι : Type v} {ο : Type w} (T : Transducer σ ι ο)

def run : σ → List ι → Option σ × List ο
  | s, [] => (some s, [])
  | s, i :: rest =>
    match T.step s i with
    | none => (none, [])
    | some (t, out) => ((run t rest).1, out ++ (run t rest).2)

/-- Continue a run with further input. A rejected run reads nothing more. -/
def resume : Option σ × List ο → List ι → Option σ × List ο
  | (none, out), _ => (none, out)
  | (some s, out), input => ((T.run s input).1, out ++ (T.run s input).2)

@[simp] theorem run_nil (s : σ) : T.run s [] = (some s, []) := rfl

theorem run_cons_none {s : σ} {i : ι} (rejects : T.step s i = none) (rest : List ι) :
    T.run s (i :: rest) = (none, []) := by
  simp only [run, rejects]

theorem run_cons_some {s t : σ} {i : ι} {out : List ο} (reads : T.step s i = some (t, out))
    (rest : List ι) : T.run s (i :: rest) = ((T.run t rest).1, out ++ (T.run t rest).2) := by
  simp only [run, reads]

@[simp] theorem resume_none (out : List ο) (input : List ι) :
    T.resume (none, out) input = (none, out) := rfl

theorem resume_some (s : σ) (out : List ο) (input : List ι) :
    T.resume (some s, out) input = ((T.run s input).1, out ++ (T.run s input).2) := rfl

@[simp] theorem resume_nil (r : Option σ × List ο) : T.resume r [] = r := by
  obtain ⟨_ | s, out⟩ := r
  · rfl
  · simp only [resume_some, run_nil, List.append_nil]

theorem run_append (s : σ) (xs ys : List ι) : T.run s (xs ++ ys) = T.resume (T.run s xs) ys := by
  induction xs generalizing s with
  | nil => simp only [List.nil_append, run_nil, resume_some]
  | cons x xs ih =>
    cases reads : T.step s x with
    | none => simp only [List.cons_append, T.run_cons_none reads, resume_none]
    | some pair =>
      obtain ⟨t, out⟩ := pair
      rw [List.cons_append, T.run_cons_some reads, T.run_cons_some reads, ih t]
      obtain ⟨_ | u, emitted⟩ := T.run t xs
      · rfl
      · simp only [resume_some, List.append_assoc]

/-- Where the input is cut does not matter: two continuations in a row are
one continuation with the joined input. -/
theorem resume_append (r : Option σ × List ο) (xs ys : List ι) :
    T.resume r (xs ++ ys) = T.resume (T.resume r xs) ys := by
  obtain ⟨_ | s, out⟩ := r
  · rfl
  · rw [resume_some, run_append, resume_some]
    obtain ⟨_ | t, emitted⟩ := T.run s xs
    · rfl
    · simp only [resume_some, List.append_assoc]

/-- What holds at the start and is kept by every input that is read holds after a
run, of what was read, of the state and of what was emitted. -/
theorem run_invariant {holds : List ι → σ → List ο → Prop}
    (preserved : ∀ read s out i t new, holds read s out → T.step s i = some (t, new) →
      holds (read ++ [i]) t (out ++ new))
    {read : List ι} {s t : σ} {out : List ο} (before : holds read s out) (input : List ι)
    (run : (T.run s input).1 = some t) : holds (read ++ input) t (out ++ (T.run s input).2) := by
  induction input generalizing read s out with
  | nil =>
    cases run
    simpa only [run_nil, List.append_nil] using before
  | cons i rest ih =>
    cases reads : T.step s i with
    | none =>
      rw [T.run_cons_none reads] at run
      cases run
    | some pair =>
      obtain ⟨u, new⟩ := pair
      rw [T.run_cons_some reads] at run ⊢
      have later := ih (preserved read s out i u new before reads) run
      rwa [List.append_assoc, List.singleton_append, List.append_assoc] at later

end Transducer
