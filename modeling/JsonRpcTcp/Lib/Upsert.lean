import JsonRpcTcp.Lib.Keyed

universe u v

/-- Change the elements with a key, or append a new one where there is none. -/
def upsert {α : Type u} {κ : Type v} [DecidableEq κ] (key : α → κ) (k : κ) (change : α → α) (new : α) (l : List α) :
    List α :=
  if (l.find? fun a => key a = k).isSome then l.map fun a => if key a = k then change a else a else l ++ [new]

section
variable {α : Type u} {κ : Type v} [DecidableEq κ] {key : α → κ} {k : κ} {change : α → α} {new : α} {l : List α}

theorem key_of_find {a : α} (found : (l.find? fun b => key b = k) = some a) : key a = k := by
  simpa using List.find?_some found

theorem absent_of_find (absent : ¬ (l.find? fun a => key a = k).isSome = true) : ∀ a ∈ l, key a ≠ k := by
  intro a member same
  have none := Option.not_isSome_iff_eq_none.mp absent
  exact List.find?_eq_none.mp none a member (decide_eq_true same)

theorem change_keeps_key (keeps : ∀ a, key a = k → key (change a) = k) (a : α) :
    key (if key a = k then change a else a) = key a := by
  by_cases here : key a = k
  · rw [if_pos here, keeps a here, here]
  · rw [if_neg here]

/-- What is found after an upsert: the changed or new element under its key, and the
others as before. -/
theorem find_upsert (key : α → κ) (k : κ) (change : α → α) (new : α) (l : List α)
    (keeps : ∀ a, key a = k → key (change a) = k) (named : key new = k) (other : κ) :
    ((upsert key k change new l).find? fun a => key a = other) =
      if other = k then some (((l.find? fun a => key a = k).map change).getD new)
      else l.find? fun a => key a = other := by
  unfold upsert
  by_cases present : (l.find? fun a => key a = k).isSome = true
  · obtain ⟨found, here⟩ := Option.isSome_iff_exists.mp present
    rw [if_pos present, List.find?_map]
    have sameTest : ((fun a => decide (key a = other)) ∘ fun a => if key a = k then change a else a) =
        fun a => decide (key a = other) := by
      funext a
      simp only [Function.comp_apply, change_keeps_key keeps]
    rw [sameTest]
    by_cases same : other = k
    · subst same
      have named : key found = other := key_of_find here
      rw [if_pos rfl, here, Option.map_some, if_pos named, Option.map_some, Option.getD_some]
    · rw [if_neg same]
      cases there : l.find? (fun a => key a = other) with
      | none => rfl
      | some a =>
        have named : key a = other := key_of_find there
        rw [Option.map_some, if_neg (by rw [named]; exact same)]
  · have absent := absent_of_find present
    have none := Option.not_isSome_iff_eq_none.mp present
    rw [if_neg present, List.find?_append]
    by_cases same : other = k
    · subst same
      rw [if_pos rfl, none, Option.none_or, Option.map_none, Option.getD_none]
      exact List.find?_cons_of_pos (decide_eq_true named)
    · rw [if_neg same]
      have missed : ([new].find? fun a => key a = other) = Option.none := by
        refine List.find?_eq_none.mpr ?_
        intro a member found
        rw [List.mem_singleton.mp member] at found
        exact same ((of_decide_eq_true found).symm.trans named)
      rw [missed, Option.or_none]

theorem keyed_upsert (keyed : Keyed key l) (keeps : ∀ a, key a = k → key (change a) = k) (named : key new = k) :
    Keyed key (upsert key k change new l) := by
  unfold upsert
  split_ifs with present
  · exact keyed.map fun a _ => change_keeps_key keeps a
  · refine keyed.append_singleton ?_
    intro a member
    rw [named]
    exact absent_of_find present a member

/-- A property of all elements that the change keeps and the new element has. -/
theorem forall_mem_upsert {holds : α → Prop} (before : ∀ a ∈ l, holds a)
    (changed : ∀ a ∈ l, key a = k → holds (change a)) (fresh : holds new) :
    ∀ a ∈ upsert key k change new l, holds a := by
  intro a member
  unfold upsert at member
  split_ifs at member
  · obtain ⟨old, inside, rfl⟩ := List.mem_map.mp member
    by_cases here : key old = k
    · rw [if_pos here]
      exact changed old inside here
    · rw [if_neg here]
      exact before old inside
  · rcases List.mem_append.mp member with old | new
    · exact before a old
    · rw [List.mem_singleton.mp new]
      exact fresh

/-- An upsert seen through a view of the elements that keeps their keys. -/
theorem map_upsert {β : Type*} {key' : β → κ} {change' : β → β} {view : α → β} (named : ∀ a, key' (view a) = key a)
    (changed : ∀ a ∈ l, key a = k → view (change a) = change' (view a)) :
    (upsert key k change new l).map view = upsert key' k change' (view new) (l.map view) := by
  have found : (((l.map view).find? fun b => key' b = k).isSome) = (l.find? fun a => key a = k).isSome := by
    rw [List.find?_map, Option.isSome_map]
    refine congrArg (fun test => (l.find? test).isSome) ?_
    funext a
    simp only [Function.comp_apply, named]
  unfold upsert
  rw [found]
  split_ifs
  · rw [List.map_map, List.map_map]
    refine List.map_congr_left ?_
    intro a member
    simp only [Function.comp_apply, named]
    split_ifs with here
    · exact changed a member here
    · rfl
  · rw [List.map_append, List.map_singleton]

/-- Two lists that are related element by element, with the same keys, still are after an
upsert in both. -/
theorem forall₂_upsert {β : Type*} {key' : β → κ} {change' : β → β} {new' : β} {rel : α → β → Prop} {l' : List β}
    (related : List.Forall₂ rel l l') (named : ∀ a b, rel a b → key a = key' b)
    (changed : ∀ a ∈ l, ∀ b ∈ l', rel a b → key a = k → rel (change a) (change' b)) (fresh : (∀ a ∈ l, key a ≠ k) → rel new new') :
    List.Forall₂ rel (upsert key k change new l) (upsert key' k change' new' l') := by
  have found : (l.find? fun a => key a = k).isSome = (l'.find? fun b => key' b = k).isSome := by
    clear changed fresh
    induction related with
    | nil => rfl
    | @cons a b rest rest' here _ ih =>
      rw [List.find?_cons, List.find?_cons, named a b here]
      split
      · rfl
      · exact ih
  have mapped : List.Forall₂ rel (l.map fun a => if key a = k then change a else a)
      (l'.map fun b => if key' b = k then change' b else b) := by
    clear found fresh
    induction related with
    | nil => exact .nil
    | @cons a b rest rest' here _ ih =>
      rw [List.map_cons, List.map_cons]
      refine .cons ?_ (ih fun a' inside b' inside' => changed a' (.tail _ inside) b' (.tail _ inside'))
      rw [← named a b here]
      split_ifs with chosen
      · exact changed a (.head _) b (.head _) here chosen
      · exact here
  by_cases present : (l.find? fun a => key a = k).isSome = true
  · rw [upsert, upsert, if_pos present, if_pos (found ▸ present)]
    exact mapped
  · rw [upsert, upsert, if_neg present, if_neg (found ▸ present)]
    exact List.rel_append related (.cons (fresh (absent_of_find present)) .nil)

/-- With unique keys, a change of the first element with a key is an upsert. -/
theorem Keyed.modify_eq_upsert (keyed : Keyed key l) {found : α} (here : (l.find? fun a => key a = k) = some found)
    {f : α → α} (same : f found = change found) :
    l.modify (l.findIdx fun a => key a = k) f = upsert key k change new l := by
  have present : (l.find? fun a => key a = k).isSome = true := by rw [here, Option.isSome_some]
  rw [upsert, if_pos present]
  refine (keyed.modify_eq_map k f).trans (List.map_congr_left fun a member => ?_)
  split_ifs with chosen
  · have only : a = found :=
      keyed.eq_of_key member (List.mem_of_find?_eq_some here) (chosen.trans (key_of_find here).symm)
    rw [only, same]
  · rfl

/-- With unique keys, an element is in the list exactly when its key finds it. -/
theorem Keyed.find_iff (keyed : Keyed key l) {a : α} : (l.find? fun b => key b = key a) = some a ↔ a ∈ l := by
  constructor
  · exact List.mem_of_find?_eq_some
  · intro member
    cases found : l.find? fun b => key b = key a with
    | none => exact absurd (decide_eq_true rfl) (List.find?_eq_none.mp found a member)
    | some b =>
      rw [keyed.eq_of_key (List.mem_of_find?_eq_some found) member (key_of_find found)]

end
