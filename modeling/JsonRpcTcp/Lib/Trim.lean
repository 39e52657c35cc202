import Mathlib

universe u

/-- A list without the elements at its two ends that meet a test. -/
def trim {α : Type u} (p : α → Bool) (l : List α) : List α := (l.dropWhile p).rdropWhile p

/-- Neither the first nor the last element meets the test. -/
structure Trimmed {α : Type u} (p : α → Bool) (l : List α) : Prop where
  head : l.head?.all (fun a => !p a) = true
  last : l.getLast?.all (fun a => !p a) = true

section
variable {α : Type u} {p : α → Bool} {l : List α}

instance (p : α → Bool) (l : List α) : Decidable (Trimmed p l) :=
  decidable_of_iff (l.head?.all (fun a => !p a) = true ∧ l.getLast?.all (fun a => !p a) = true)
    ⟨fun both => ⟨both.1, both.2⟩, fun trimmed => ⟨trimmed.head, trimmed.last⟩⟩

theorem trimmed_nil : Trimmed p [] := ⟨rfl, rfl⟩

theorem Trimmed.head_not (trimmed : Trimmed p l) {a : α} (first : l.head? = some a) : p a = false := by
  have ends := trimmed.head
  rw [first, Option.all_some] at ends
  simpa using ends

theorem dropWhile_of_head (head : l.head?.all (fun a => !p a) = true) : l.dropWhile p = l := by
  cases l with
  | nil => rfl
  | cons a rest =>
    have first : p a = false := by simpa using head
    rw [List.dropWhile_cons, first]
    rfl

theorem rdropWhile_of_last (last : l.getLast?.all (fun a => !p a) = true) : l.rdropWhile p = l := by
  refine List.rdropWhile_eq_self_iff.mpr ?_
  intro nonempty meets
  rw [List.getLast?_eq_getLast_of_ne_nil nonempty, Option.all_some, meets] at last
  exact Bool.noConfusion last

theorem trim_of_trimmed (trimmed : Trimmed p l) : trim p l = l := by
  unfold trim
  rw [dropWhile_of_head trimmed.head, rdropWhile_of_last trimmed.last]

theorem trim_sublist (p : α → Bool) (l : List α) : (trim p l).Sublist l :=
  (List.rdropWhile_prefix p (l.dropWhile p)).sublist.trans (List.dropWhile_sublist p)

theorem dropWhile_head (p : α → Bool) (l : List α) : (l.dropWhile p).head?.all (fun a => !p a) = true := by
  have first := List.head?_dropWhile_not p l
  cases found : (l.dropWhile p).head? with
  | none => rfl
  | some a =>
    rw [found] at first
    simpa using first

theorem rdropWhile_last (p : α → Bool) (l : List α) : (l.rdropWhile p).getLast?.all (fun a => !p a) = true := by
  by_cases nonempty : l.rdropWhile p = []
  · rw [nonempty]
    rfl
  · rw [List.getLast?_eq_getLast_of_ne_nil nonempty, Option.all_some]
    simpa using List.rdropWhile_last_not p l nonempty

/-- A prefix that is not empty has the same head. -/
theorem head_all_of_prefix {short : List α} (before : short <+: l) (head : l.head?.all (fun a => !p a) = true) :
    short.head?.all (fun a => !p a) = true := by
  obtain ⟨rest, rfl⟩ := before
  cases short with
  | nil => rfl
  | cons a short => exact head

theorem last_all_of_suffix {short : List α} (after : short <:+ l) (last : l.getLast?.all (fun a => !p a) = true) :
    short.getLast?.all (fun a => !p a) = true := by
  obtain ⟨front, rfl⟩ := after
  by_cases empty : short = []
  · rw [empty]
    rfl
  · rwa [List.getLast?_append_of_ne_nil front empty] at last

theorem trimmed_trim (p : α → Bool) (l : List α) : Trimmed p (trim p l) where
  head := head_all_of_prefix (List.rdropWhile_prefix p (l.dropWhile p)) (dropWhile_head p l)
  last := rdropWhile_last p (l.dropWhile p)

theorem trim_concat {a : α} (meets : p a = true) (l : List α) : trim p (l ++ [a]) = trim p l := by
  unfold trim
  rw [List.dropWhile_append]
  split_ifs with empty
  · rw [List.isEmpty_iff.mp empty, List.dropWhile_cons, if_pos meets]
    rfl
  · exact List.rdropWhile_concat_pos p (l.dropWhile p) a meets

/-- What is trimmed already is found between elements that meet the test. -/
theorem trim_between (trimmed : Trimmed p l) {leading trailing : List α} (before : ∀ a ∈ leading, p a = true)
    (after : ∀ a ∈ trailing, p a = true) : trim p (leading ++ l ++ trailing) = l := by
  induction trailing using List.reverseRecOn with
  | nil =>
    rw [List.append_nil]
    induction leading with
    | nil => exact trim_of_trimmed trimmed
    | cons a rest ih =>
      have first := before a List.mem_cons_self
      rw [List.cons_append, trim, List.dropWhile_cons, if_pos first]
      exact ih fun b member => before b (List.mem_cons_of_mem _ member)
  | append_singleton rest a ih =>
    rw [← List.append_assoc, trim_concat (after a (List.mem_append_right _ List.mem_cons_self))]
    exact ih fun b member => after b (List.mem_append_left _ member)

theorem mem_dropLast_of_initial {short : List α} (before : short <+: l) {a : α} (member : a ∈ short.dropLast) :
    a ∈ l.dropLast := by
  obtain ⟨rest, rfl⟩ := before
  by_cases empty : rest = []
  · rwa [empty, List.append_nil]
  · rw [List.dropLast_append_of_ne_nil empty]
    exact List.mem_append_left _ (List.dropLast_subset _ member)

/-- An element that meets the test and is left by trimming is not the last one. -/
theorem mem_dropLast_of_trim {a : α} (meets : p a = true) (member : a ∈ trim p l) : a ∈ l.dropLast := by
  by_cases empty : l = []
  · rw [empty] at member
    exact absurd member List.not_mem_nil
  · have split := List.dropLast_append_getLast empty
    by_cases last : p (l.getLast empty) = true
    · rw [← split, trim_concat last] at member
      exact (trim_sublist p l.dropLast).mem member
    · have inside := (trim_sublist p l).mem member
      rw [← split] at inside
      rcases List.mem_append.mp inside with front | same
      · exact front
      · rw [List.mem_singleton.mp same] at meets
        exact absurd meets last

end
