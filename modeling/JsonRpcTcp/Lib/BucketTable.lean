import JsonRpcTcp.Lib.Upsert

universe u v

/-! Hash tables with a fixed number of buckets, each a list of elements in the order of their
insertion. `index` is the hash of a key, before it is reduced to the number of buckets. -/

namespace BucketTable
variable {α : Type u} {κ : Type v} (key : α → κ) (index : κ → Nat)

/-- The bucket of a key. -/
def slot (buckets : List (List α)) (k : κ) : Nat := index k % buckets.length

/-- The elements of a list that belong into one of `capacity` buckets. -/
def part (capacity : Nat) (l : List α) (i : Nat) : List α := l.filter fun a => index (key a) % capacity == i

/-- The table holds the elements of a list, each in its bucket and in the order of the list. -/
def Holds (capacity : Nat) (buckets : List (List α)) (l : List α) : Prop :=
  buckets = (List.range capacity).map (part key index capacity l)

variable {key index} {capacity : Nat} {buckets : List (List α)} {l : List α} {k : κ} {change : α → α} {new : α}

theorem Holds.length (holds : Holds key index capacity buckets l) : buckets.length = capacity := by
  rw [holds, List.length_map, List.length_range]

theorem Holds.bucket (holds : Holds key index capacity buckets l) {i : Nat} (inside : i < capacity) :
    buckets[i]? = some (part key index capacity l i) := by
  rw [holds, List.getElem?_map, List.getElem?_range inside, Option.map_some]

theorem Holds.bucket_eq (holds : Holds key index capacity buckets l) (positive : 0 < capacity) {bucket : List α}
    (inside : buckets[slot index buckets k]? = some bucket) :
    bucket = part key index capacity l (index k % capacity) := by
  rw [slot, holds.length, holds.bucket (Nat.mod_lt _ positive)] at inside
  exact (Option.some.inj inside).symm

/-- Only what a change does to the bucket that is there counts. -/
theorem modify_congr {f g : List α → List α} {i : Nat}
    (same : ∀ bucket, buckets[i]? = some bucket → f bucket = g bucket) : buckets.modify i f = buckets.modify i g := by
  refine List.ext_getElem? fun j => ?_
  rw [List.getElem?_modify, List.getElem?_modify]
  cases here : buckets[j]? with
  | none => rfl
  | some bucket =>
    rw [Option.map_eq_map, Option.map_eq_map, Option.map_some, Option.map_some]
    split_ifs with chosen
    · subst chosen
      rw [same bucket here]
    · rfl

theorem holds_empty : Holds key index capacity (List.replicate capacity []) [] := by
  have nothing : part key index capacity ([] : List α) = fun _ => [] := by
    funext i
    exact List.filter_nil
  rw [Holds, nothing, List.map_const', List.length_range]

theorem part_append (l l' : List α) (i : Nat) :
    part key index capacity (l ++ l') i = part key index capacity l i ++ part key index capacity l' i :=
  List.filter_append _ _

theorem Holds.flatten (holds : Holds key index capacity buckets l) :
    buckets.flatten = (List.range capacity).flatMap (part key index capacity l) := by
  rw [holds, List.flatMap_def]

/-- One of the numbers below a bound is a given one. -/
theorem sum_indicator {capacity i : Nat} (inside : i < capacity) :
    ((List.range capacity).map fun j => if i = j then 1 else 0).sum = 1 := by
  rw [← List.sum_toFinset _ List.nodup_range, List.toFinset_range, Finset.sum_ite_eq,
    if_pos (Finset.mem_range.mpr inside)]

/-- Every element is in one bucket. -/
theorem Holds.size (holds : Holds key index capacity buckets l) (positive : 0 < capacity) :
    buckets.flatten.length = l.length := by
  rw [holds.flatten, List.length_flatMap]
  clear holds
  induction l with
  | nil => simp [part]
  | cons a rest ih =>
    have split : ∀ i, (part key index capacity (a :: rest) i).length =
        (if index (key a) % capacity = i then 1 else 0) + (part key index capacity rest i).length := by
      intro i
      rw [part, List.filter_cons]
      split_ifs with here there there
      · exact Nat.add_comm _ _
      · exact absurd (beq_iff_eq.mp here) there
      · exact absurd (beq_iff_eq.mpr there) here
      · exact (Nat.zero_add _).symm
    have one := sum_indicator (Nat.mod_lt (index (key a)) positive)
    simp only [split]
    rw [List.sum_map_add, one, ih, List.length_cons, Nat.add_comm]

/-- A property that all elements have still holds of the table. -/
theorem Holds.forall_mem (holds : Holds key index capacity buckets l) (positive : 0 < capacity) {good : α → Prop} :
    (∀ bucket ∈ buckets, ∀ a ∈ bucket, good a) ↔ ∀ a ∈ l, good a := by
  constructor
  · intro all a member
    have inside : index (key a) % capacity < capacity := Nat.mod_lt _ positive
    refine all _ (List.mem_of_getElem? (holds.bucket inside)) a ?_
    exact List.mem_filter.mpr ⟨member, beq_self_eq_true _⟩
  · intro all bucket found a member
    rw [holds] at found
    obtain ⟨i, _, rfl⟩ := List.mem_map.mp found
    exact all a (List.mem_of_mem_filter member)

section
variable [DecidableEq κ]

/-- The first element with a key, looked for in the key's own bucket only. -/
def find (key : α → κ) (index : κ → Nat) (buckets : List (List α)) (k : κ) : Option α :=
  (buckets[slot index buckets k]?.getD []).find? fun a => key a = k

/-- Change the element with a key, or append a new one to its bucket. -/
def put (key : α → κ) (index : κ → Nat) (k : κ) (change : α → α) (new : α) (buckets : List (List α)) :
    List (List α) :=
  buckets.modify (slot index buckets k) (upsert key k change new)

/-- Looking for a key in its own part finds what the whole list has. -/
theorem find_part (l : List α) (k : κ) :
    ((part key index capacity l (index k % capacity)).find? fun a => key a = k) = l.find? fun a => key a = k := by
  rw [part, List.find?_filter]
  refine congrArg (fun test => l.find? test) ?_
  funext a
  by_cases here : key a = k
  · simp [here]
  · simp [here]

theorem Holds.find (holds : Holds key index capacity buckets l) (positive : 0 < capacity) (k : κ) :
    find key index buckets k = l.find? fun a => key a = k := by
  have inside : index k % capacity < capacity := Nat.mod_lt _ positive
  rw [BucketTable.find, slot, holds.length, holds.bucket inside, Option.getD_some, find_part]

/-- An upsert changes the part of its key only. -/
theorem part_upsert (keeps : ∀ a, key a = k → key (change a) = k) (named : key new = k) (i : Nat) :
    part key index capacity (upsert key k change new l) i =
      if index k % capacity = i then upsert key k change new (part key index capacity l i)
      else part key index capacity l i := by
  have mapped : part key index capacity (l.map fun a => if key a = k then change a else a) i =
      (part key index capacity l i).map fun a => if key a = k then change a else a := by
    rw [part, part, List.filter_map]
    refine congrArg _ (congrArg (fun test => l.filter test) ?_)
    funext a
    simp only [Function.comp_apply, change_keeps_key keeps]
  by_cases here : index k % capacity = i
  · subst here
    rw [if_pos rfl, upsert, upsert, find_part]
    split_ifs with present
    · exact mapped
    · rw [part_append]
      refine congrArg _ (List.filter_eq_self.mpr ?_)
      intro a member
      rw [List.mem_singleton.mp member, named]
      exact beq_self_eq_true _
  · rw [if_neg here, upsert]
    split_ifs with present
    · rw [mapped]
      refine (List.map_congr_left ?_).trans (List.map_id _)
      intro a member
      have there := beq_iff_eq.mp (List.mem_filter.mp member).2
      refine if_neg fun same => here ?_
      rw [← same]
      exact there
    · have outside : part key index capacity [new] i = [] := by
        refine List.filter_eq_nil_iff.mpr ?_
        intro a member
        rw [List.mem_singleton.mp member, named]
        simp [here]
      rw [part_append, outside, List.append_nil]

theorem Holds.put (holds : Holds key index capacity buckets l) (keeps : ∀ a, key a = k → key (change a) = k)
    (named : key new = k) :
    Holds key index capacity (put key index k change new buckets) (upsert key k change new l) := by
  have length := holds.length
  refine List.ext_getElem? fun i => ?_
  rw [BucketTable.put, List.getElem?_modify, slot, length]
  rcases Nat.lt_or_ge i capacity with inside | outside
  · rw [holds.bucket inside, List.getElem?_map, List.getElem?_range inside, Option.map_eq_map, Option.map_some,
      Option.map_some, part_upsert keeps named]
  · have none : buckets[i]? = none := List.getElem?_eq_none (by omega)
    have none' : ((List.range capacity).map (part key index capacity (upsert key k change new l)))[i]? = .none :=
      List.getElem?_eq_none (by simpa using outside)
    rw [none, none', Option.map_eq_map, Option.map_none]

end
end BucketTable
