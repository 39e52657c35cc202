import Mathlib

universe u

/-! The searches of `std::string`. -/

namespace TextSearch
variable {α : Type u} [DecidableEq α]

/-- `find`: the first place of a text. -/
def find (wanted : List α) : List α → Option Nat
  | [] => if wanted = [] then some 0 else none
  | c :: rest => if wanted <+: c :: rest then some 0 else (find wanted rest).map (· + 1)

/-- `find` from a place on. -/
def findFrom (wanted text : List α) (pos : Nat) : Option Nat :=
  if pos ≤ text.length then (find wanted (text.drop pos)).map (pos + ·) else none

/-- `rfind`: the last place of a text. -/
def rfind (wanted : List α) : List α → Option Nat
  | [] => if wanted = [] then some 0 else none
  | c :: rest =>
    match rfind wanted rest with
    | some place => some (place + 1)
    | none => if wanted <+: c :: rest then some 0 else none

variable {c : α} {wanted front back : List α}

/-- A text is found behind what lacks its first character. -/
theorem find_append (lacks : c ∉ front) (begins : wanted.head? = some c) :
    find wanted (front ++ (wanted ++ back)) = some front.length := by
  obtain ⟨rest, rfl⟩ := List.head?_eq_some_iff.mp begins
  induction front with
  | nil => exact if_pos (List.prefix_append _ _)
  | cons d front ih =>
    obtain ⟨other, later⟩ := not_or.mp (List.mem_cons.not.mp lacks)
    have apart : ¬ c :: rest <+: d :: (front ++ (c :: rest ++ back)) := fun starts =>
      other (List.cons_prefix_cons.mp starts).1
    rw [List.cons_append, find, if_neg apart, ih later]
    rfl

theorem find_none (lacks : c ∉ front) (begins : wanted.head? = some c) : find wanted front = none := by
  obtain ⟨rest, rfl⟩ := List.head?_eq_some_iff.mp begins
  induction front with
  | nil => exact if_neg (List.cons_ne_nil c rest)
  | cons d front ih =>
    obtain ⟨other, later⟩ := not_or.mp (List.mem_cons.not.mp lacks)
    have apart : ¬ c :: rest <+: d :: front := fun starts => other (List.cons_prefix_cons.mp starts).1
    rw [find, if_neg apart, ih later]
    rfl

theorem rfind_none (lacks : c ∉ front) : rfind [c] front = none := by
  induction front with
  | nil => exact if_neg (List.cons_ne_nil c [])
  | cons d front ih =>
    obtain ⟨other, later⟩ := not_or.mp (List.mem_cons.not.mp lacks)
    have apart : ¬ [c] <+: d :: front := fun starts => other (List.cons_prefix_cons.mp starts).1
    rw [rfind, ih later]
    exact if_neg apart

/-- The last place of a character. -/
theorem rfind_last (lacks : c ∉ back) (front : List α) : rfind [c] (front ++ c :: back) = some front.length := by
  induction front with
  | nil =>
    rw [List.nil_append, rfind, rfind_none lacks]
    exact if_pos (List.prefix_append [c] back)
  | cons d front ih =>
    rw [List.cons_append, rfind, ih]
    rfl

/-- A character of the text is found, inside it. -/
theorem exists_rfind {text : List α} (member : c ∈ text) :
    ∃ place, rfind [c] text = some place ∧ place < text.length := by
  induction text with
  | nil => exact absurd member List.not_mem_nil
  | cons d text ih =>
    rw [rfind]
    by_cases later : c ∈ text
    · obtain ⟨place, found, inside⟩ := ih later
      rw [found]
      exact ⟨place + 1, rfl, Nat.succ_lt_succ inside⟩
    · have here : c = d := (List.mem_cons.mp member).resolve_right later
      rw [rfind_none later, here]
      exact ⟨0, if_pos (List.prefix_append [d] text), Nat.succ_pos _⟩

end TextSearch
