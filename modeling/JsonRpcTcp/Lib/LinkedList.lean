import Mathlib
open Function

universe u v

/-- A cell of a doubly linked list. -/
structure Cell (κ : Type u) (δ : Type v) where
  data : δ
  prev : Option κ
  next : Option κ

/-- The cells that are allocated, by their addresses. -/
abbrev Cells (κ : Type u) (δ : Type v) := κ → Option (Cell κ δ)

namespace Cells
variable {κ : Type u} {δ : Type v}

def nextOf (cells : Cells κ δ) (p : κ) : Option (Option κ) := (cells p).map Cell.next

def prevOf (cells : Cells κ δ) (p : κ) : Option (Option κ) := (cells p).map Cell.prev

def dataOf (cells : Cells κ δ) (p : κ) : Option δ := (cells p).map Cell.data

/-- The cells behind `here`, with their data. -/
def Path (cells : Cells κ δ) : κ → List (κ × δ) → Prop
  | _, [] => True
  | here, (p, data) :: rest =>
    cells.nextOf here = some (some p) ∧ cells.prevOf p = some (some here) ∧ cells.dataOf p = some data ∧
      cells.Path p rest

/-- The last address of a path. -/
def lastOf : κ → List (κ × δ) → κ
  | here, [] => here
  | _, (p, _) :: rest => lastOf p rest

/-- A doubly linked list behind the cell `base`, which has no data of its own. -/
structure Linked (cells : Cells κ δ) (base : κ) (l : List (κ × δ)) : Prop where
  path : cells.Path base l
  ends : cells.nextOf (lastOf base l) = some none
  distinct : (base :: l.map Prod.fst).Nodup

variable {cells other : Cells κ δ} {here base p : κ} {data : δ} {l front back : List (κ × δ)}

theorem path_append : cells.Path here (front ++ back) ↔ cells.Path here front ∧
    cells.Path (lastOf here front) back := by
  induction front generalizing here with
  | nil => exact ⟨fun path => ⟨trivial, path⟩, And.right⟩
  | cons first rest ih =>
    obtain ⟨q, data⟩ := first
    simp only [List.cons_append, Path, lastOf, ih, and_assoc]

theorem lastOf_append (here : κ) (front back : List (κ × δ)) :
    lastOf here (front ++ back) = lastOf (lastOf here front) back := by
  induction front generalizing here with
  | nil => rfl
  | cons first rest ih => exact ih first.1

theorem lastOf_mem (here : κ) (l : List (κ × δ)) : lastOf here l ∈ here :: l.map Prod.fst := by
  induction l generalizing here with
  | nil => exact List.mem_cons_self
  | cons first rest ih => exact List.mem_cons_of_mem _ (ih first.1)

/-- A path stays when the cells on it keep their fields, but for the end of the last one. -/
theorem Path.frame (path : cells.Path here l) (distinct : (here :: l.map Prod.fst).Nodup)
    (next : ∀ q ∈ here :: l.map Prod.fst, q ≠ lastOf here l → other.nextOf q = cells.nextOf q)
    (fields : ∀ q ∈ l.map Prod.fst, other.prevOf q = cells.prevOf q ∧ other.dataOf q = cells.dataOf q) :
      other.Path here l := by
  induction l generalizing here with
  | nil => trivial
  | cons first rest ih =>
    obtain ⟨q, data⟩ := first
    obtain ⟨forth, back, kept, later⟩ := path
    obtain ⟨apart, distinct'⟩ := List.nodup_cons.mp distinct
    have inner : here ≠ lastOf q rest := by
      intro same
      exact apart (same ▸ lastOf_mem q rest)
    obtain ⟨prev, same⟩ := fields q List.mem_cons_self
    refine ⟨(next here List.mem_cons_self inner).trans forth, prev.trans back, same.trans kept, ?_⟩
    exact ih later distinct' (fun q' member => next q' (List.mem_cons_of_mem _ member))
      fun q' member => fields q' (List.mem_cons_of_mem _ member)

/-- Every cell on a path has its data. -/
theorem Path.data_mem (path : cells.Path here l) {entry : κ × δ} (member : entry ∈ l) :
    cells.dataOf entry.1 = some entry.2 := by
  induction l generalizing here with
  | nil => cases member
  | cons first rest ih =>
    obtain ⟨q, data⟩ := first
    obtain ⟨_, _, kept, later⟩ := path
    rcases List.mem_cons.mp member with same | inside
    · rw [same]
      exact kept
    · exact ih later inside

/-- A cell with a next one is pointed back to, and only the last cell has none. -/
theorem Path.forth (path : cells.Path here l) (listed : p ∈ here :: l.map Prod.fst) :
    p = lastOf here l ∨ ∃ q, cells.nextOf p = some (some q) ∧ cells.prevOf q = some (some p) := by
  induction l generalizing here with
  | nil => exact .inl (List.mem_singleton.mp listed)
  | cons first rest ih =>
    obtain ⟨q, data⟩ := first
    obtain ⟨next, prev, _, later⟩ := path
    rcases List.mem_cons.mp listed with same | inside
    · rw [same]
      exact .inr ⟨q, next, prev⟩
    · exact ih later inside

theorem Path.pointed (path : cells.Path here l) {q : κ} (behind : q ∈ l.map Prod.fst) :
    ∃ p, cells.nextOf p = some (some q) ∧ cells.prevOf q = some (some p) := by
  induction l generalizing here with
  | nil => cases behind
  | cons first rest ih =>
    obtain ⟨q', data⟩ := first
    obtain ⟨next, prev, _, later⟩ := path
    rcases List.mem_cons.mp behind with same | inside
    · rw [same]
      exact ⟨here, next, prev⟩
    · exact ih later inside

namespace Linked

/-- The pointers back are the inverse of the pointers forth. -/
theorem prev_iff (linked : cells.Linked base l) {q : κ} (listed : p ∈ base :: l.map Prod.fst)
    (behind : q ∈ l.map Prod.fst) :
    cells.nextOf p = some (some q) ↔ cells.prevOf q = some (some p) := by
  constructor
  · intro next
    rcases linked.path.forth listed with last | ⟨q', next', prev⟩
    · rw [last, linked.ends] at next
      cases next
    · rw [next] at next'
      cases next'
      exact prev
  · intro prev
    obtain ⟨p', next, prev'⟩ := linked.path.pointed behind
    rw [prev] at prev'
    cases prev'
    exact next

theorem first (linked : cells.Linked base l) : cells.nextOf base = some (l.head?.map Prod.fst) := by
  cases l with
  | nil => exact linked.ends
  | cons entry rest => exact linked.path.1

/-- A new cell behind the last one. -/
theorem append (linked : cells.Linked base l) (fresh : p ∉ base :: l.map Prod.fst)
    (joined : other.nextOf (lastOf base l) = some (some p)) (prev : other.prevOf p = some (some (lastOf base l)))
    (kept : other.dataOf p = some data) (last : other.nextOf p = some none)
    (next : ∀ q ∈ base :: l.map Prod.fst, q ≠ lastOf base l → other.nextOf q = cells.nextOf q)
    (fields : ∀ q ∈ l.map Prod.fst, other.prevOf q = cells.prevOf q ∧ other.dataOf q = cells.dataOf q) :
    other.Linked base (l ++ [(p, data)]) where
  path := path_append.mpr ⟨linked.path.frame linked.distinct next fields, joined, prev, kept, trivial⟩
  ends := by
    rw [lastOf_append]
    exact last
  distinct := by
    rw [List.map_append, ← List.cons_append, List.nodup_append]
    refine ⟨linked.distinct, List.nodup_singleton _, fun q member q' same => ?_⟩
    rw [List.map_singleton, List.mem_singleton] at same
    rw [same]
    rintro rfl
    exact fresh member

/-- The pointers around a cell are joined, and the cell is no longer part of the list. -/
theorem unlink (linked : cells.Linked base (front ++ (p, data) :: back))
    (joined : other.nextOf (lastOf base front) = some (back.head?.map Prod.fst))
    (prev : ∀ q, back.head?.map Prod.fst = some q → other.prevOf q = some (some (lastOf base front)))
    (next : ∀ q, q ≠ p → q ≠ lastOf base front → other.nextOf q = cells.nextOf q)
    (prevs : ∀ q, q ≠ p → back.head?.map Prod.fst ≠ some q → other.prevOf q = cells.prevOf q)
    (datas : ∀ q, q ≠ p → other.dataOf q = cells.dataOf q) : other.Linked base (front ++ back) := by
  obtain ⟨path, ends, distinct⟩ := linked
  obtain ⟨before, _, _, _, behind⟩ := path_append.mp path
  rw [List.map_append, List.map_cons, ← List.cons_append] at distinct
  obtain ⟨distinct₁, distinct₂, apart⟩ := List.nodup_append.mp distinct
  obtain ⟨gone, distinct₃⟩ := List.nodup_cons.mp distinct₂
  rw [lastOf_append] at ends
  have front_ne : ∀ q ∈ base :: front.map Prod.fst, q ≠ p := fun q member => apart q member p List.mem_cons_self
  have back_ne : ∀ q ∈ back.map Prod.fst, q ≠ p := by
    rintro q member rfl
    exact gone member
  have head_mem : ∀ q, back.head?.map Prod.fst = some q → q ∈ back.map Prod.fst := by
    intro q here
    obtain ⟨entry, head, same⟩ := Option.map_eq_some_iff.mp here
    rw [← same]
    exact List.mem_map_of_mem (List.mem_of_head? head)
  have first : other.Path base front := by
    refine before.frame distinct₁ (fun q member => next q (front_ne q member)) fun q member => ?_
    have member' := List.mem_cons_of_mem base member
    refine ⟨prevs q (front_ne q member') fun here => ?_, datas q (front_ne q member')⟩
    exact apart q member' q (List.mem_cons_of_mem p (head_mem q here)) rfl
  have last_ne : ∀ q ∈ back.map Prod.fst, q ≠ lastOf base front :=
    fun q member same => apart _ (lastOf_mem base front) q (List.mem_cons_of_mem p member) same.symm
  have joint : other.Path (lastOf base front) back ∧ other.nextOf (lastOf (lastOf base front) back) = some none := by
    cases back with
    | nil => exact ⟨trivial, joined⟩
    | cons entry rest =>
      obtain ⟨q, data'⟩ := entry
      obtain ⟨_, _, kept, later⟩ := behind
      have own : q ∈ q :: rest.map Prod.fst := List.mem_cons_self
      refine ⟨⟨joined, prev q rfl, (datas q (back_ne q own)).trans kept, ?_⟩, ?_⟩
      · refine later.frame distinct₃ (fun q' member _ => next q' (back_ne q' member) (last_ne q' member)) fun q' member => ?_
        have member' := List.mem_cons_of_mem q member
        refine ⟨prevs q' (back_ne q' member') fun same => ?_, datas q' (back_ne q' member')⟩
        cases same
        exact (List.nodup_cons.mp distinct₃).1 member
      · have member := lastOf_mem q rest
        exact (next _ (back_ne _ member) (last_ne _ member)).trans ends
  refine ⟨path_append.mpr ⟨first, joint.1⟩, ?_, ?_⟩
  · rw [lastOf_append]
    exact joint.2
  · rw [List.map_append, ← List.cons_append]
    refine List.nodup_append.mpr ⟨distinct₁, distinct₃, fun q member q' member' => ?_⟩
    exact apart q member q' (List.mem_cons_of_mem p member')

end Linked

/-- Go to the last cell. It takes at most `fuel` steps, which is enough unless there is a cycle. -/
def last (cells : Cells κ δ) : Nat → κ → Option κ
  | 0, _ => none
  | fuel + 1, p => (cells.nextOf p).bind fun next =>
    match next with
    | none => some p
    | some q => cells.last fuel q

/-- Go to the first cell whose data passes the test, and to the null pointer if there is none. -/
def find (cells : Cells κ δ) (test : δ → Bool) : Nat → Option κ → Option (Option κ)
  | _, none => some none
  | 0, some _ => none
  | fuel + 1, some p => (cells p).bind fun cell => if test cell.data then some (some p) else cells.find test fuel cell.next

/-- Go on by some cells. -/
def skip (cells : Cells κ δ) : Nat → Option κ → Option (Option κ)
  | 0, p => some p
  | _ + 1, none => none
  | steps + 1, some p => (cells.nextOf p).bind fun next => cells.skip steps next

theorem Path.last (path : cells.Path here l) (ends : cells.nextOf (lastOf here l) = some none) {fuel : Nat}
    (enough : l.length < fuel) : cells.last fuel here = some (lastOf here l) := by
  induction l generalizing here fuel with
  | nil =>
    obtain ⟨fuel, rfl⟩ := Nat.exists_eq_succ_of_ne_zero (Nat.ne_of_gt enough)
    have ends : cells.nextOf here = some none := ends
    rw [Cells.last, ends]
    rfl
  | cons first rest ih =>
    obtain ⟨fuel, rfl⟩ := Nat.exists_eq_succ_of_ne_zero (Nat.ne_of_gt ((Nat.zero_le _).trans_lt enough))
    obtain ⟨next, _, _, later⟩ := path
    rw [Cells.last, next]
    exact ih later ends (Nat.lt_of_succ_lt_succ enough)

theorem cell_of_fields {next : Option κ} (forth : cells.nextOf p = some next) (kept : cells.dataOf p = some data) :
    ∃ cell, cells p = some cell ∧ cell.data = data ∧ cell.next = next := by
  obtain ⟨cell, found, same⟩ := Option.map_eq_some_iff.mp forth
  unfold dataOf at kept
  rw [found] at kept
  exact ⟨cell, found, Option.some.inj kept, same⟩

theorem Path.find (path : cells.Path here l) (ends : cells.nextOf (lastOf here l) = some none) (test : δ → Bool)
    {fuel : Nat} (enough : l.length ≤ fuel) :
    cells.find test fuel (l.head?.map Prod.fst) = some ((l.find? fun entry => test entry.2).map Prod.fst) := by
  induction l generalizing here fuel with
  | nil => cases fuel <;> rfl
  | cons first rest ih =>
    obtain ⟨fuel, rfl⟩ := Nat.exists_eq_succ_of_ne_zero (Nat.ne_of_gt ((Nat.zero_lt_succ _).trans_le enough))
    obtain ⟨q, data⟩ := first
    obtain ⟨_, _, kept, later⟩ := path
    have forth : cells.nextOf q = some (rest.head?.map Prod.fst) := by
      cases rest with
      | nil => exact ends
      | cons entry rest => exact later.1
    obtain ⟨cell, found, same, next⟩ := cell_of_fields forth kept
    have step : cells.find test (fuel + 1) (some q) =
        if test data then some (some q) else cells.find test fuel (rest.head?.map Prod.fst) := by
      rw [Cells.find, found, ← same, ← next]
      rfl
    rw [List.find?_cons]
    refine step.trans ?_
    cases passes : test data with
    | true => rfl
    | false => exact ih later ends (Nat.le_of_succ_le_succ enough)

theorem Path.skip (path : cells.Path here l) (ends : cells.nextOf (lastOf here l) = some none) {steps : Nat}
    (inside : steps ≤ l.length) : cells.skip steps (l.head?.map Prod.fst) = some ((l.drop steps).head?.map Prod.fst) := by
  induction steps generalizing here l with
  | zero => rfl
  | succ steps ih =>
    cases l with
    | nil => cases inside
    | cons first rest =>
      obtain ⟨q, data⟩ := first
      obtain ⟨_, _, _, later⟩ := path
      have forth : cells.nextOf q = some (rest.head?.map Prod.fst) := by
        cases rest with
        | nil => exact ends
        | cons entry rest => exact later.1
      have step : cells.skip (steps + 1) (some q) = cells.skip steps (rest.head?.map Prod.fst) := by
        rw [Cells.skip, forth]
        rfl
      exact step.trans (ih later ends (Nat.le_of_succ_le_succ inside))

section Writes
variable [DecidableEq κ]

def setData (cells : Cells κ δ) (p : κ) (data : δ) : Option (Cells κ δ) :=
  (cells p).map fun cell => update cells p (some { cell with data := data })

def setPrev (cells : Cells κ δ) (p : κ) (prev : Option κ) : Option (Cells κ δ) :=
  (cells p).map fun cell => update cells p (some { cell with prev := prev })

def setNext (cells : Cells κ δ) (p : κ) (next : Option κ) : Option (Cells κ δ) :=
  (cells p).map fun cell => update cells p (some { cell with next := next })

/-- The fields of all cells after a write to one cell. -/
theorem fields_update (cells : Cells κ δ) (p : κ) (cell : Option (Cell κ δ)) (q : κ) :
    nextOf (update cells p cell) q = (if q = p then cell.map Cell.next else cells.nextOf q) ∧
      prevOf (update cells p cell) q = (if q = p then cell.map Cell.prev else cells.prevOf q) ∧
      dataOf (update cells p cell) q = if q = p then cell.map Cell.data else cells.dataOf q := by
  unfold nextOf prevOf dataOf
  by_cases same : q = p
  · rw [same, update_self, if_pos rfl, if_pos rfl, if_pos rfl]
    exact ⟨rfl, rfl, rfl⟩
  · rw [update_of_ne same, if_neg same, if_neg same, if_neg same]
    exact ⟨rfl, rfl, rfl⟩

theorem setNext_fields (known : cells p ≠ none) (next : Option κ) :
    ∃ other, cells.setNext p next = some other ∧ ∀ q, other.nextOf q = (if q = p then some next else cells.nextOf q) ∧
      other.prevOf q = cells.prevOf q ∧ other.dataOf q = cells.dataOf q := by
  obtain ⟨cell, found⟩ := Option.ne_none_iff_exists'.mp known
  refine ⟨_, by rw [setNext, found]; rfl, fun q => ?_⟩
  obtain ⟨nexts, prevs, datas⟩ := cells.fields_update p (some { cell with next := next }) q
  refine ⟨nexts, prevs.trans ?_, datas.trans ?_⟩
  · split_ifs with same
    · rw [same, prevOf, found]
      rfl
    · rfl
  · split_ifs with same
    · rw [same, dataOf, found]
      rfl
    · rfl

theorem setPrev_fields (known : cells p ≠ none) (prev : Option κ) :
    ∃ other, cells.setPrev p prev = some other ∧ ∀ q, other.nextOf q = cells.nextOf q ∧
      other.prevOf q = (if q = p then some prev else cells.prevOf q) ∧ other.dataOf q = cells.dataOf q := by
  obtain ⟨cell, found⟩ := Option.ne_none_iff_exists'.mp known
  refine ⟨_, by rw [setPrev, found]; rfl, fun q => ?_⟩
  obtain ⟨nexts, prevs, datas⟩ := cells.fields_update p (some { cell with prev := prev }) q
  refine ⟨nexts.trans ?_, prevs, datas.trans ?_⟩
  · split_ifs with same
    · rw [same, nextOf, found]
      rfl
    · rfl
  · split_ifs with same
    · rw [same, dataOf, found]
      rfl
    · rfl

theorem setData_fields (known : cells p ≠ none) (data : δ) :
    ∃ other, cells.setData p data = some other ∧ ∀ q, other.nextOf q = cells.nextOf q ∧
      other.prevOf q = cells.prevOf q ∧
      other.dataOf q = if q = p then some data else cells.dataOf q := by
  obtain ⟨cell, found⟩ := Option.ne_none_iff_exists'.mp known
  refine ⟨_, by rw [setData, found]; rfl, fun q => ?_⟩
  obtain ⟨nexts, prevs, datas⟩ := cells.fields_update p (some { cell with data := data }) q
  refine ⟨nexts.trans ?_, prevs.trans ?_, datas⟩
  · split_ifs with same
    · rw [same, nextOf, found]
      rfl
    · rfl
  · split_ifs with same
    · rw [same, prevOf, found]
      rfl
    · rfl

end Writes

/-- A cell is allocated when it has data. -/
theorem ne_none_iff (cells : Cells κ δ) (p : κ) : cells p ≠ none ↔ cells.dataOf p ≠ none := by
  rw [dataOf, ne_eq, ne_eq, Option.map_eq_none_iff]

end Cells
