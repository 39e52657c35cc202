import Mathlib

universe u v

/-- A `std::map`: entries in the order of their keys, each key once. -/
structure SortedMap (κ : Type u) (α : Type v) [LT κ] where
  entries : List (κ × α)
  sorted : entries.Pairwise fun entry later => entry.1 < later.1

namespace SortedMap

theorem find_cons {κ : Type u} {α : Type v} [DecidableEq κ] (k : κ) (first : κ × α) (rest : List (κ × α)) :
    ((first :: rest).find? fun entry => entry.1 = k) =
      if first.1 = k then some first else rest.find? fun entry => entry.1 = k := by
  by_cases here : first.1 = k
  · rw [if_pos here]
    exact List.find?_cons_of_pos (decide_eq_true here)
  · rw [if_neg here]
    exact List.find?_cons_of_neg fun yes => here (of_decide_eq_true yes)

section
variable {κ : Type u} {α : Type v} [LT κ]

theorem ext_entries {m m' : SortedMap κ α} (same : m.entries = m'.entries) : m = m' := by
  cases m
  cases m'
  cases same
  rfl

instance [DecidableEq κ] [DecidableEq α] : DecidableEq (SortedMap κ α) := fun m m' =>
  decidable_of_iff (m.entries = m'.entries) ⟨ext_entries, fun same => same ▸ Eq.refl _⟩

def empty : SortedMap κ α := ⟨[], List.Pairwise.nil⟩

/-- `find`. -/
def find [DecidableEq κ] (m : SortedMap κ α) (k : κ) : Option α :=
  (m.entries.find? fun entry => entry.1 = k).map Prod.snd

/-- `erase`. -/
def erase [DecidableEq κ] (m : SortedMap κ α) (k : κ) : SortedMap κ α :=
  ⟨m.entries.filter fun entry => entry.1 ≠ k, m.sorted.filter _⟩

/-- An entry put in its place, instead of the one with its key. -/
def insertEntry [DecidableEq κ] [DecidableLT κ] (k : κ) (a : α) : List (κ × α) → List (κ × α)
  | [] => [(k, a)]
  | entry :: rest =>
    if k < entry.1 then (k, a) :: entry :: rest
    else if entry.1 = k then (k, a) :: rest
    else entry :: insertEntry k a rest

theorem mem_insertEntry [DecidableEq κ] [DecidableLT κ] {k : κ} {a : α} {l : List (κ × α)} {entry : κ × α}
    (member : entry ∈ insertEntry k a l) : entry = (k, a) ∨ entry ∈ l := by
  induction l with
  | nil => exact .inl (List.mem_singleton.mp member)
  | cons first rest ih =>
    unfold insertEntry at member
    split_ifs at member
    · exact List.mem_cons.mp member
    · exact (List.mem_cons.mp member).imp_right (List.mem_cons_of_mem first)
    · rcases List.mem_cons.mp member with rfl | later
      · exact .inr List.mem_cons_self
      · exact (ih later).imp_right (List.mem_cons_of_mem first)

theorem find_insertEntry_self [DecidableEq κ] [DecidableLT κ] (k : κ) (a : α) (l : List (κ × α)) :
    ((insertEntry k a l).find? fun entry => entry.1 = k) = some (k, a) := by
  induction l with
  | nil => rw [insertEntry, find_cons, if_pos (Eq.refl k)]
  | cons first rest ih =>
    unfold insertEntry
    split_ifs with before same
    · rw [find_cons, if_pos (Eq.refl k)]
    · rw [find_cons, if_pos (Eq.refl k)]
    · rw [find_cons, if_neg same, ih]

theorem find_insertEntry_of_ne [DecidableEq κ] [DecidableLT κ] {k other : κ} (different : other ≠ k) (a : α)
    (l : List (κ × α)) :
    ((insertEntry k a l).find? fun entry => entry.1 = other) = l.find? fun entry => entry.1 = other := by
  induction l with
  | nil => rw [insertEntry, find_cons, if_neg different.symm]
  | cons first rest ih =>
    unfold insertEntry
    split_ifs with before same
    · rw [find_cons, if_neg different.symm]
    · have gone : ¬ first.1 = other := fun here => different (here.symm.trans same)
      rw [find_cons, if_neg different.symm, find_cons, if_neg gone]
    · rw [find_cons, find_cons, ih]

theorem find_erase_of_ne [DecidableEq κ] (m : SortedMap κ α) {k other : κ} (different : other ≠ k) :
    (m.erase k).find other = m.find other := by
  have both : ((m.entries.filter fun entry => entry.1 ≠ k).find? fun entry => entry.1 = other) =
      m.entries.find? fun entry => entry.1 = other := by
    rw [List.find?_filter]
    congr 1
    funext entry
    by_cases here : entry.1 = other
    · simp [here, different]
    · simp [here]
  exact congrArg (Option.map Prod.snd) both

theorem mem_of_find [DecidableEq κ] {m : SortedMap κ α} {k : κ} {a : α} (found : m.find k = some a) :
    (k, a) ∈ m.entries := by
  obtain ⟨entry, here, rfl⟩ := Option.map_eq_some_iff.mp found
  have same : entry.1 = k := by simpa using List.find?_some here
  have member := List.mem_of_find?_eq_some here
  rw [← same]
  exact member

end

section
variable {κ : Type u} {α : Type v} [LT κ] [LE κ] [Std.IsLinearOrder κ] [Std.LawfulOrderLT κ] [DecidableEq κ]
  [DecidableLT κ]

theorem sorted_insertEntry (k : κ) (a : α) {l : List (κ × α)}
    (sorted : l.Pairwise fun entry later => entry.1 < later.1) :
    (insertEntry k a l).Pairwise fun entry later => entry.1 < later.1 := by
  induction l with
  | nil => exact List.pairwise_singleton _ _
  | cons first rest ih =>
    obtain ⟨below, tail⟩ := List.pairwise_cons.mp sorted
    unfold insertEntry
    split_ifs with before same
    · refine List.pairwise_cons.mpr ⟨fun entry member => ?_, sorted⟩
      rcases List.mem_cons.mp member with rfl | later
      · exact before
      · exact Std.lt_trans before (below entry later)
    · subst same
      exact List.pairwise_cons.mpr ⟨below, tail⟩
    · refine List.pairwise_cons.mpr ⟨fun entry member => ?_, ih tail⟩
      rcases mem_insertEntry member with rfl | later
      · exact Std.lt_of_le_of_ne (Std.not_lt.mp before) same
      · exact below entry later

/-- `operator[]` followed by an assignment. -/
def insert (m : SortedMap κ α) (k : κ) (a : α) : SortedMap κ α :=
  ⟨insertEntry k a m.entries, sorted_insertEntry k a m.sorted⟩

theorem find_insert_self (m : SortedMap κ α) (k : κ) (a : α) : (m.insert k a).find k = some a :=
  congrArg (Option.map Prod.snd) (find_insertEntry_self k a m.entries)

theorem find_insert_of_ne (m : SortedMap κ α) {k other : κ} (different : other ≠ k) (a : α) :
    (m.insert k a).find other = m.find other :=
  congrArg (Option.map Prod.snd) (find_insertEntry_of_ne different a m.entries)

/-- Erasing a key first makes no difference to what is put under it. -/
theorem insert_erase (m : SortedMap κ α) (k : κ) (a : α) : (m.erase k).insert k a = m.insert k a := by
  apply ext_entries
  have both : ∀ l : List (κ × α), (l.Pairwise fun entry later => entry.1 < later.1) →
      insertEntry k a (l.filter fun entry => entry.1 ≠ k) = insertEntry k a l := by
    intro l sorted
    induction l with
    | nil => rfl
    | cons first rest ih =>
      obtain ⟨below, tail⟩ := List.pairwise_cons.mp sorted
      by_cases here : first.1 = k
      · -- all others lie behind it
        have others : (rest.filter fun entry => entry.1 ≠ k) = rest := by
          refine List.filter_eq_self.mpr fun entry member => decide_eq_true ?_
          rw [← here]
          exact (Std.ne_of_lt (below entry member)).symm
        have behind : ¬ k < first.1 := by
          rw [here]
          exact Std.lt_irrefl
        have front : ∀ entry ∈ rest, k < entry.1 := fun entry member => here ▸ below entry member
        rw [List.filter_cons_of_neg (by simp [here]), others, insertEntry, if_neg behind, if_pos here]
        cases rest with
        | nil => rfl
        | cons second rest => rw [insertEntry, if_pos (front second List.mem_cons_self)]
      · rw [List.filter_cons_of_pos (by simp [here]), insertEntry, insertEntry, ih tail, if_neg here, if_neg here]
        by_cases before : k < first.1
        · have untouched : (rest.filter fun entry => entry.1 ≠ k) = rest := by
            refine List.filter_eq_self.mpr fun entry member => decide_eq_true ?_
            exact (Std.ne_of_lt (Std.lt_trans before (below entry member))).symm
          rw [if_pos before, if_pos before, untouched]
        · rw [if_neg before, if_neg before]
  exact both m.entries m.sorted

/-- The map that is filled with pairs one after the other. -/
def insertAll (m : SortedMap κ α) (pairs : List (κ × α)) : SortedMap κ α :=
  pairs.foldl (fun m pair => m.insert pair.1 pair.2) m

theorem insertAll_concat (m : SortedMap κ α) (pairs : List (κ × α)) (k : κ) (a : α) :
    m.insertAll (pairs ++ [(k, a)]) = (m.insertAll pairs).insert k a := by
  unfold insertAll
  rw [List.foldl_append]
  rfl

/-- A key behind all others goes to the end. -/
theorem insertEntry_last {k : κ} (a : α) {l : List (κ × α)} (above : ∀ entry ∈ l, entry.1 < k) :
    insertEntry k a l = l ++ [(k, a)] := by
  induction l with
  | nil => rfl
  | cons first rest ih =>
    have here := above first List.mem_cons_self
    have tail := ih fun entry member => above entry (List.mem_cons_of_mem first member)
    have behind : ¬ k < first.1 := Std.not_lt.mpr (Std.le_of_lt here)
    have different : ¬ first.1 = k := Std.ne_of_lt here
    unfold insertEntry
    rw [if_neg behind, if_neg different, tail]
    exact (List.cons_append).symm

theorem entries_insertAll (m : SortedMap κ α) {pairs : List (κ × α)}
    (sorted : (m.entries ++ pairs).Pairwise fun entry later => entry.1 < later.1) :
    (m.insertAll pairs).entries = m.entries ++ pairs := by
  induction pairs generalizing m with
  | nil => exact (List.append_nil m.entries).symm
  | cons pair rest ih =>
    have above : ∀ entry ∈ m.entries, entry.1 < pair.1 := fun entry member =>
      (List.pairwise_append.mp sorted).2.2 entry member pair List.mem_cons_self
    have last : (m.insert pair.1 pair.2).entries = m.entries ++ [pair] := insertEntry_last pair.2 above
    have regrouped : m.entries ++ pair :: rest = (m.insert pair.1 pair.2).entries ++ rest := by
      rw [last, List.append_assoc, List.singleton_append]
    rw [regrouped] at sorted ⊢
    exact ih (m.insert pair.1 pair.2) sorted

/-- A map is filled again with its own entries. -/
theorem insertAll_entries (m : SortedMap κ α) : empty.insertAll m.entries = m := by
  apply ext_entries
  exact entries_insertAll empty m.sorted

end
end SortedMap
