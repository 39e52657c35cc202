import Mathlib

universe u v

/-- Lists in which no two elements have the same key. -/
def Keyed {α : Type u} {κ : Type v} (key : α → κ) (l : List α) : Prop := l.Pairwise fun a b => key a ≠ key b

namespace Keyed
variable {α : Type u} {κ : Type v} {key : α → κ} {l : List α}

theorem nil : Keyed key [] := List.Pairwise.nil

theorem head_absent {a : α} (keyed : Keyed key (a :: l)) : ∀ b ∈ l, key b ≠ key a :=
  fun b member => ((List.pairwise_cons.mp keyed).1 b member).symm

theorem tail {a : α} (keyed : Keyed key (a :: l)) : Keyed key l := (List.pairwise_cons.mp keyed).2

/-- An element is known by its key. -/
theorem eq_of_key (keyed : Keyed key l) {a b : α} (member : a ∈ l) (member' : b ∈ l) (same : key a = key b) :
    a = b := by
  have injective := List.inj_on_of_nodup_map (List.pairwise_map.mpr keyed)
  exact injective member member' same

theorem append_singleton (keyed : Keyed key l) {a : α} (fresh : ∀ b ∈ l, key b ≠ key a) : Keyed key (l ++ [a]) := by
  refine List.pairwise_append.mpr ⟨keyed, List.pairwise_singleton _ _, ?_⟩
  intro b member c last
  rw [List.mem_singleton.mp last]
  exact fresh b member

theorem filter (keyed : Keyed key l) (p : α → Bool) : Keyed key (l.filter p) := List.Pairwise.filter p keyed

/-- A change that keeps the keys. -/
theorem map (keyed : Keyed key l) {f : α → α} (keeps : ∀ a ∈ l, key (f a) = key a) : Keyed key (l.map f) := by
  refine List.pairwise_map.mpr (List.Pairwise.imp_of_mem ?_ keyed)
  intro a b member member' different
  rw [keeps a member, keeps b member']
  exact different

/-- Another key that tells the same elements apart. -/
theorem rekey {μ : Type*} {other : α → μ} (keyed : Keyed key l)
    (tells : ∀ a ∈ l, ∀ b ∈ l, other a = other b → key a = key b) : Keyed other l :=
  List.Pairwise.imp_of_mem (fun member member' different same => different (tells _ member _ member' same)) keyed

variable [DecidableEq κ]

theorem eraseP_eq_filter (keyed : Keyed key l) (k : κ) :
    l.eraseP (fun a => key a == k) = l.filter fun a => key a != k := by
  induction l with
  | nil => rfl
  | cons a rest ih =>
    by_cases here : key a = k
    · have unchanged : rest.filter (fun b => key b != k) = rest := by
        refine List.filter_eq_self.mpr fun b member => ?_
        rw [← here]
        exact bne_iff_ne.mpr (keyed.head_absent b member)
      simp [here, unchanged]
    · simp [here, ih keyed.tail]

theorem modify_eq_map (keyed : Keyed key l) (k : κ) (f : α → α) :
    l.modify (l.findIdx fun a => key a == k) f = l.map fun a => if key a = k then f a else a := by
  induction l with
  | nil => rfl
  | cons a rest ih =>
    by_cases here : key a = k
    · have unchanged : rest.map (fun b => if key b = k then f b else b) = rest := by
        refine List.map_congr_left (fun b member => ?_) |>.trans (List.map_id rest)
        rw [← here]
        exact if_neg (keyed.head_absent b member)
      simp [List.findIdx_cons, here, unchanged]
    · have elsewhere : (key a == k) = false := beq_eq_false_iff_ne.mpr here
      simp [List.findIdx_cons, here, elsewhere, ih keyed.tail]

end Keyed
