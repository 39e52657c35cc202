import Mathlib

universe u v

namespace List

/-- Two members of a list, in their order. -/
theorem pair_sublist_iff {α : Type u} {a b : α} {l : List α} :
    [a, b].Sublist l ↔ ∃ before between after, l = before ++ a :: (between ++ b :: after) := by
  constructor
  · intro pair
    obtain ⟨left, right, rfl, first, second⟩ := cons_sublist_iff.mp pair
    obtain ⟨before, between, rfl⟩ := append_of_mem first
    obtain ⟨later, after, rfl⟩ := append_of_mem (singleton_sublist.mp second)
    exact ⟨before, between ++ later, after, by simp⟩
  · rintro ⟨before, between, after, rfl⟩
    refine sublist_append_of_sublist_right (.cons_cons a ?_)
    exact singleton_sublist.mpr (by simp)

/-- Lists whose members correspond have the same pairs in order. -/
theorem pairwise_iff_of_forall₂ {α : Type u} {β : Type v} {related : α → β → Prop} {r : α → α → Prop} {q : β → β → Prop}
    (alike : ∀ {a a' b b'}, related a b → related a' b' → (r a a' ↔ q b b')) {l : List α} {m : List β}
    (both : Forall₂ related l m) : l.Pairwise r ↔ m.Pairwise q := by
  induction both with
  | nil => exact iff_of_true .nil .nil
  | @cons a b l m here rest ih =>
    have heads : (∀ a' ∈ l, r a a') ↔ ∀ b' ∈ m, q b b' := by
      clear ih
      induction rest with
      | nil => simp
      | cons next _ ih => simp only [forall_mem_cons, alike here next, ih]
    rw [pairwise_cons, pairwise_cons, ih, heads]

theorem exists_of_forall₂ {α : Type u} {β : Type v} {related : α → β → Prop} {l : List α} {m : List β}
    (both : Forall₂ related l m) : ∀ b ∈ m, ∃ a, related a b := by
  induction both with
  | nil => simp
  | cons here _ ih => exact forall_mem_cons.mpr ⟨⟨_, here⟩, ih⟩

end List
