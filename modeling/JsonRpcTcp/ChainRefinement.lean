import JsonRpcTcp.ChainState

namespace JsonRpcTcp
open Function Cells

/-- What a chain is for: a list of elements, a counter, and the elements given back to their owner. -/
structure ChainList (α : Type) where
  elements : List (Option α)
  identGenerator : Int
  autoRemove : Bool
  freed : List (Option α)

namespace ChainList
variable {α : Type}

def start : ChainList α := { elements := [], identGenerator := 0, autoRemove := true, freed := [] }

def clear (l : ChainList α) : ChainList α :=
  { l with elements := [], freed := if l.autoRemove then l.freed ++ l.elements else l.freed }

def elementAt (l : ChainList α) (index : Int) : Option α := if 0 ≤ index then l.elements[index.toNat]?.join else none

/-- The calls, on a list. -/
def step (consumer : ChainConsumer α) (l : ChainList α) : ChainCall α → ChainResult α × ChainList α
  | .put data _ => (.code 0, { l with elements := l.elements ++ [data] })
  | .get => (.element l.elements.head?.join, { l with elements := l.elements.tail })
  | .removeByIdent ident =>
    (.element (l.elements.find? fun element => consumer.identify element ident == 0).join,
      { l with elements := l.elements.eraseP fun element => consumer.identify element ident == 0 })
  | .removeByDoubleIdent ident1 ident2 =>
    (.element (l.elements.find? fun element => consumer.doubleIdentify element ident1 ident2 == 0).join,
      { l with elements := l.elements.eraseP fun element => consumer.doubleIdentify element ident1 ident2 == 0 })
  | .getByIdent ident => (.element (l.elements.find? fun element => consumer.identify element ident == 0).join, l)
  | .getByDoubleIdent ident1 ident2 =>
    (.element (l.elements.find? fun element => consumer.doubleIdentify element ident1 ident2 == 0).join, l)
  | .getByIndex index => (.element (l.elementAt index), l)
  | .getTop => (.element l.elements.head?.join, l)
  | .getChainSize => (.code l.elements.length, l)
  | .generateIdent => (.code (l.identGenerator + 1), { l with identGenerator := l.identGenerator + 1 })
  | .removeAll => (.code 0, l.clear)
  | .empty => (.code 0, { l.clear with identGenerator := 0 })
  | .disableAutoRemove => (.code 0, { l with autoRemove := false })
  | .enableAutoRemove => (.code 0, { l with autoRemove := true })

/-- The results of some calls, and the list after them. -/
def run (consumer : ChainConsumer α) (calls : List (ChainCall α)) : List (ChainResult α) × ChainList α :=
  calls.foldl (fun (results, l) call => (results ++ [(l.step consumer call).1], (l.step consumer call).2)) ([], start)

theorem run_append (consumer : ChainConsumer α) (calls : List (ChainCall α)) (call : ChainCall α) :
    run consumer (calls ++ [call]) = ((run consumer calls).1 ++ [((run consumer calls).2.step consumer call).1],
      ((run consumer calls).2.step consumer call).2) := List.foldl_concat ..

end ChainList

namespace ADGenericChain
variable {α : Type}

/-- The holders of a chain, from the first one to the last one, with their elements. -/
structure Holds (c : ADGenericChain α) (consumer : ChainConsumer α) (nodes : List (Nat × Option α)) : Prop where
  linked : c.holders.Linked 0 nodes
  owned : ∀ p, c.holders p ≠ none ↔ p ∈ 0 :: nodes.map Prod.fst
  size : c.chainSize = nodes.length
  allocated : c.allocated = nodes.length
  attached : c.pConsumer = some consumer
  ready : c.initFlag = true

/-- The chain is that list. -/
structure Represents (c : ADGenericChain α) (consumer : ChainConsumer α) (nodes : List (Nat × Option α))
    (l : ChainList α) :
    Prop where
  holds : c.Holds consumer nodes
  elements : nodes.map Prod.snd = l.elements
  generator : c.identGenerator = l.identGenerator
  mode : c.disableAutoremove = !l.autoRemove
  freed : c.freed = l.freed

variable {c : ADGenericChain α} {consumer : ChainConsumer α} {nodes front back : List (Nat × Option α)} {p : Nat}
  {data : Option α}

theorem holds_start (consumer : ChainConsumer α) : (start consumer).Holds consumer [] where
  linked := ⟨trivial, rfl, List.nodup_singleton _⟩
  owned := by
    intro p
    rw [List.map_nil, List.mem_singleton, start]
    dsimp only
    by_cases base : p = 0
    · rw [base, update_self]
      exact ⟨fun _ => rfl, fun _ impossible => by cases impossible⟩
    · rw [update_of_ne base]
      exact ⟨fun none => absurd rfl none, fun same => absurd same base⟩
  size := rfl
  allocated := rfl
  attached := rfl
  ready := rfl

theorem represents_start (consumer : ChainConsumer α) : (start consumer).Represents consumer [] .start :=
  ⟨holds_start consumer, rfl, rfl, rfl, rfl⟩

theorem Holds.enough (holds : c.Holds consumer nodes) : nodes.length < c.allocated + 1 := by
  have allocated := holds.allocated
  omega

/-- Another state with these holders. -/
theorem Holds.congr {other : ADGenericChain α} (holds : c.Holds consumer nodes) (holders : other.holders = c.holders)
    (size : other.chainSize = c.chainSize) (allocated : other.allocated = c.allocated)
    (attached : other.pConsumer = c.pConsumer)
    (ready : other.initFlag = c.initFlag) : other.Holds consumer nodes where
  linked := holders ▸ holds.linked
  owned := holders ▸ holds.owned
  size := size.trans holds.size
  allocated := allocated.trans holds.allocated
  attached := attached.trans holds.attached
  ready := ready.trans holds.ready

/-- A new holder goes behind the last one. -/
theorem Holds.put (holds : c.Holds consumer nodes) (fresh : c.holders p = none) (room : c.chainSize < 2 ^ 31 - 1)
    (data : Option α) : ∃ holders peak, c.chainAdd data p = some { c with holders := holders, allocated := c.allocated + 1
                                                                          chainSize := c.chainSize + 1, chainPeakSize := peak } ∧
      Holds { c with holders := holders, allocated := c.allocated + 1, chainSize := c.chainSize + 1, chainPeakSize := peak }
        consumer (nodes ++ [(p, data)]) := by
  obtain ⟨linked, owned, size, allocated, attached, ready⟩ := holds
  have unlisted : p ∉ 0 :: nodes.map Prod.fst := fun member => (owned p).mpr member fresh
  have end_ne : lastOf 0 nodes ≠ p := fun same => unlisted (same ▸ lastOf_mem 0 nodes)
  -- the new holder, whose pointers are not written yet
  obtain ⟨made, new⟩ : ∃ made : Cells Nat (Option α), made = update c.holders p (some { data := data, prev := none, next := none }) :=
    ⟨_, rfl⟩
  have others : ∀ q, q ≠ p → made.nextOf q = c.holders.nextOf q ∧ made.prevOf q = c.holders.prevOf q ∧
      made.dataOf q = c.holders.dataOf q := by
    intro q other
    obtain ⟨next, prev, kept⟩ := c.holders.fields_update p (some { data := data, prev := none, next := none }) q
    rw [if_neg other] at next prev kept
    rw [new]
    exact ⟨next, prev, kept⟩
  have listed : ∀ q ∈ 0 :: nodes.map Prod.fst, q ≠ p := by
    rintro q member rfl
    exact unlisted member
  have path : made.Path 0 nodes := by
    refine linked.path.frame linked.distinct (fun q member _ => (others q (listed q member)).1) fun q member => ?_
    exact (others q (listed q (List.mem_cons_of_mem 0 member))).2
  have ends : made.nextOf (lastOf 0 nodes) = some none := (others _ end_ne).1.trans linked.ends
  have walk : made.last (c.allocated + 1) 0 = some (lastOf 0 nodes) := path.last ends (by omega)
  have own : made p = some { data := data, prev := none, next := none } := by rw [new, update_self]
  have known : made (lastOf 0 nodes) ≠ none := by
    rw [made.ne_none_iff, (others _ end_ne).2.2, ← c.holders.ne_none_iff]
    exact (owned _).mpr (lastOf_mem 0 nodes)
  obtain ⟨first, write₁, fields₁⟩ := setNext_fields known (some p)
  have known₁ : first p ≠ none := by
    rw [first.ne_none_iff, (fields₁ p).2.2, ← made.ne_none_iff, own]
    exact Option.some_ne_none _
  obtain ⟨second, write₂, fields₂⟩ := setPrev_fields known₁ (some (lastOf 0 nodes))
  have known₂ : second p ≠ none := by
    rw [second.ne_none_iff, (fields₂ p).2.2, ← first.ne_none_iff]
    exact known₁
  obtain ⟨third, write₃, fields₃⟩ := setNext_fields known₂ none
  have nexts : ∀ q, q ≠ p → third.nextOf q = if q = lastOf 0 nodes then some (some p) else c.holders.nextOf q := by
    intro q other
    rw [(fields₃ q).1, if_neg other, (fields₂ q).1, (fields₁ q).1, (others q other).1]
  have rest : ∀ q, q ≠ p → third.prevOf q = c.holders.prevOf q ∧ third.dataOf q = c.holders.dataOf q := by
    intro q other
    rw [(fields₃ q).2.1, (fields₂ q).2.1, if_neg other, (fields₁ q).2.1, (fields₃ q).2.2, (fields₂ q).2.2,
      (fields₁ q).2.2]
    exact (others q other).2
  have kept : third.dataOf p = some data := by
    rw [(fields₃ p).2.2, (fields₂ p).2.2, (fields₁ p).2.2, dataOf, own]
    rfl
  refine ⟨third, if c.chainSize + 1 > c.chainPeakSize then c.chainSize + 1 else c.chainPeakSize, ?_, ?_,
    fun q => ?_, ?_, ?_, attached, ready⟩
  · unfold ADGenericChain.chainAdd
    dsimp only
    rw [← new, walk]
    simp only [Option.bind_eq_bind, Option.bind_some, write₁, write₂, write₃]
    exact if_pos room
  · refine linked.append unlisted ?_ ?_ kept ?_ (fun q member inner => ?_) fun q member => ?_
    · rw [nexts _ end_ne, if_pos rfl]
    · rw [(fields₃ p).2.1, (fields₂ p).2.1, if_pos rfl]
    · rw [(fields₃ p).1, if_pos rfl]
    · rw [nexts q (listed q member), if_neg inner]
    · exact rest q (listed q (List.mem_cons_of_mem 0 member))
  · dsimp only
    rw [third.ne_none_iff, List.map_append, ← List.cons_append, List.mem_append, List.map_singleton, List.mem_singleton]
    by_cases same : q = p
    · rw [same, kept]
      exact ⟨fun _ => .inr rfl, fun _ => Option.some_ne_none _⟩
    · rw [(rest q same).2, ← c.holders.ne_none_iff, owned q]
      exact ⟨.inl, fun member => member.resolve_right same⟩
  · dsimp only
    rw [size, List.length_append, List.length_singleton, Nat.cast_succ]
  · dsimp only
    rw [allocated, List.length_append, List.length_singleton]

theorem Holds.first (holds : c.Holds consumer nodes) : c.holders.nextOf 0 = some (nodes.head?.map Prod.fst) :=
  holds.linked.first

theorem Holds.dataOf (holds : c.Holds consumer nodes) {entry : Nat × Option α} (member : entry ∈ nodes) :
    c.holders.dataOf entry.1 = some entry.2 := holds.linked.path.data_mem member

/-- The holders around the one that leaves are joined. -/
theorem unlink_fields {c : ADGenericChain α} {last : Nat} {next : Option Nat}
    (prev : c.holders.prevOf p = some (some last))
    (after : c.holders.nextOf p = some next) (apart : last ≠ p) (known : c.holders last ≠ none)
    (knownNext : ∀ q, next = some q → c.holders q ≠ none) : ∃ joined : Cells Nat (Option α),
      c.unlink p = some { c with holders := update joined p none, allocated := c.allocated - 1, chainSize := c.chainSize - 1 } ∧
        (∀ q, joined.nextOf q = if q = last then some next else c.holders.nextOf q) ∧
        (∀ q, joined.prevOf q = if next = some q then some (some last) else c.holders.prevOf q) ∧
        ∀ q, joined.dataOf q = c.holders.dataOf q := by
  obtain ⟨holder, found, next'⟩ := Option.map_eq_some_iff.mp after
  have prev' : holder.prev = some last := by
    rw [prevOf, found] at prev
    exact Option.some.inj prev
  unfold ADGenericChain.unlink
  cases next with
  | none =>
    obtain ⟨joined, write, fields⟩ := setNext_fields known none
    refine ⟨joined, ?_, fun q => (fields q).1, fun q => ?_, fun q => (fields q).2.2⟩
    · rw [found]
      simp only [Option.bind_eq_bind, Option.bind_some, prev', next', write]
    · rw [if_neg (by simp)]
      exact (fields q).2.1
  | some q =>
    obtain ⟨joined₁, write₁, fields₁⟩ := setNext_fields known (some q)
    have again : joined₁.nextOf p = some (some q) := by
      rw [(fields₁ p).1, if_neg apart.symm, after]
    obtain ⟨holder', found', next''⟩ := Option.map_eq_some_iff.mp again
    have prev'' : holder'.prev = some last := by
      have same := (fields₁ p).2.1
      rw [prev, prevOf, found'] at same
      exact Option.some.inj same
    have known₁ : joined₁ q ≠ none := by
      rw [joined₁.ne_none_iff, (fields₁ q).2.2, ← c.holders.ne_none_iff]
      exact knownNext q rfl
    obtain ⟨joined, write, fields⟩ := setPrev_fields known₁ (some last)
    refine ⟨joined, ?_, fun q' => (fields q').1.trans (fields₁ q').1, fun q' => ?_,
      fun q' => (fields q').2.2.trans (fields₁ q').2.2⟩
    · rw [found]
      simp only [Option.bind_eq_bind, Option.bind_some, prev', next', write₁, found', next'', prev'', write]
    · rw [(fields q').2.1, (fields₁ q').2.1]
      by_cases same : q' = q
      · rw [same, if_pos rfl]
        exact (if_pos rfl).symm
      · rw [if_neg same]
        refine (if_neg fun equal => ?_).symm
        exact same (Option.some.inj equal).symm

/-- A holder is taken out, and the order of the others stays. -/
theorem Holds.unlink (holds : c.Holds consumer (front ++ (p, data) :: back)) : ∃ holders,
    c.unlink p = some { c with holders := holders, allocated := c.allocated - 1, chainSize := c.chainSize - 1 } ∧
      Holds { c with holders := holders, allocated := c.allocated - 1, chainSize := c.chainSize - 1 } consumer (front ++ back) := by
  obtain ⟨linked, owned, size, allocated, attached, ready⟩ := holds
  obtain ⟨_, joint⟩ := path_append.mp linked.path
  obtain ⟨forth, prev, kept, later⟩ := joint
  have distinct := linked.distinct
  rw [List.map_append, List.map_cons, ← List.cons_append] at distinct
  obtain ⟨_, distinct₂, apart⟩ := List.nodup_append.mp distinct
  have unlisted : p ∉ back.map Prod.fst := (List.nodup_cons.mp distinct₂).1
  have end_ne : lastOf 0 front ≠ p := apart _ (lastOf_mem 0 front) p List.mem_cons_self
  have next : c.holders.nextOf p = some (back.head?.map Prod.fst) := by
    have ends := linked.ends
    rw [lastOf_append] at ends
    cases back with
    | nil => exact ends
    | cons entry rest => exact later.1
  have known : c.holders (lastOf 0 front) ≠ none := by
    refine (owned _).mpr ?_
    rw [List.map_append, ← List.cons_append]
    exact List.mem_append_left _ (lastOf_mem 0 front)
  have knownNext : ∀ q, back.head?.map Prod.fst = some q → c.holders q ≠ none := by
    intro q here
    obtain ⟨entry, head, same⟩ := Option.map_eq_some_iff.mp here
    refine (owned q).mpr (List.mem_cons_of_mem 0 ?_)
    rw [List.map_append]
    exact List.mem_append_right _ (List.mem_cons_of_mem p (same ▸ List.mem_map_of_mem (List.mem_of_head? head)))
  obtain ⟨joined, run, nexts, prevs, datas⟩ := unlink_fields prev next end_ne known knownNext
  obtain ⟨holders, freed⟩ : ∃ holders : Cells Nat (Option α), holders = update joined p none := ⟨_, rfl⟩
  have rest : ∀ q, q ≠ p → holders.nextOf q = joined.nextOf q ∧ holders.prevOf q = joined.prevOf q ∧
      holders.dataOf q = joined.dataOf q := by
    intro q other
    obtain ⟨nexts, prevs, datas⟩ := joined.fields_update p none q
    rw [if_neg other] at nexts prevs datas
    rw [freed]
    exact ⟨nexts, prevs, datas⟩
  have head_ne : ∀ q, back.head?.map Prod.fst = some q → q ≠ p := by
    rintro q here rfl
    obtain ⟨entry, head, same⟩ := Option.map_eq_some_iff.mp here
    exact unlisted (same ▸ List.mem_map_of_mem (List.mem_of_head? head))
  have length : (front ++ (p, data) :: back).length = (front ++ back).length + 1 := by
    rw [List.length_append, List.length_append, List.length_cons]
    omega
  refine ⟨holders, freed ▸ run, ?_, fun q => ?_, ?_, ?_, attached, ready⟩
  · refine linked.unlink ?_ (fun q here => ?_) (fun q other inner => ?_) (fun q other inner => ?_) fun q other => ?_
    · rw [(rest _ end_ne).1, nexts, if_pos rfl]
    · rw [(rest q (head_ne q here)).2.1, prevs, if_pos here]
    · rw [(rest q other).1, nexts, if_neg inner]
    · rw [(rest q other).2.1, prevs, if_neg inner]
    · rw [(rest q other).2.2, datas]
  · dsimp only
    by_cases same : q = p
    · have gone : holders p = none := by rw [freed, update_self]
      have absent : p ∉ 0 :: (front ++ back).map Prod.fst := by
        rw [List.map_append, ← List.cons_append]
        intro member
        rcases List.mem_append.mp member with before | behind
        · exact apart p before p List.mem_cons_self rfl
        · exact unlisted behind
      rw [same]
      exact ⟨fun allocated => absurd gone allocated, fun member => absurd member absent⟩
    · rw [holders.ne_none_iff, (rest q same).2.2, datas, ← c.holders.ne_none_iff, owned q]
      rw [List.map_append, List.map_append, List.map_cons, ← List.cons_append, ← List.cons_append, List.mem_append,
        List.mem_append]
      exact or_congr_right (List.mem_cons.trans (or_iff_right same))
  · dsimp only
    rw [size, length, Nat.cast_succ]
    omega
  · dsimp only
    rw [allocated, length]
    exact Nat.add_sub_cancel _ 1

theorem Holds.helper (holds : c.Holds consumer nodes) : c.isHelperAttached = 0 := by
  rw [isHelperAttached, holds.attached]
  rfl

/-- The first match is looked up. -/
theorem Holds.getMatch (holds : c.Holds consumer nodes) (test : Option α → Bool) :
    c.getMatch test = some ((nodes.map Prod.snd).find? test).join := by
  have search := holds.linked.path.find holds.linked.ends test holds.enough.le
  unfold ADGenericChain.getMatch
  rw [holds.first, List.find?_map]
  simp only [Option.bind_eq_bind, Option.bind_some]
  rw [search, holds.helper]
  cases nodes with
  | nil => rfl
  | cons entry rest =>
    have some' : ¬ ((entry :: rest).head?.map Prod.fst = none) := Option.some_ne_none _
    rw [if_neg some', if_neg (by simp)]
    cases found : (entry :: rest).find? fun entry => test entry.2 with
    | none =>
      have none' : (entry :: rest).find? (test ∘ Prod.snd) = none := found
      rw [none']
      rfl
    | some entry' =>
      have some'' : (entry :: rest).find? (test ∘ Prod.snd) = some entry' := found
      rw [some'']
      exact holds.dataOf (List.mem_of_find?_eq_some found)

/-- The first match is looked up and deleted. -/
theorem Holds.removeMatch (holds : c.Holds consumer nodes) (test : Option α → Bool) : ∃ holders nodes',
    c.removeMatch test = some (((nodes.map Prod.snd).find? test).join,
      { c with holders := holders, allocated := nodes'.length, chainSize := nodes'.length }) ∧
      Holds { c with holders := holders, allocated := nodes'.length, chainSize := nodes'.length } consumer nodes' ∧
        nodes'.map Prod.snd = (nodes.map Prod.snd).eraseP test := by
  have search := holds.linked.path.find holds.linked.ends test holds.enough.le
  have unchanged : c = { c with holders := c.holders, allocated := nodes.length, chainSize := nodes.length } := by
    rw [← holds.size, ← holds.allocated]
  have body : c.removeMatch test = (c.holders.find test (c.allocated + 1) (nodes.head?.map Prod.fst)).bind fun found =>
      found.elim (some (none, c)) fun pHolder =>
        (c.holders.dataOf pHolder).bind fun data => (c.unlink pHolder).bind fun c => some (data, c) := by
    unfold ADGenericChain.removeMatch
    rw [holds.first]
    simp only [Option.bind_eq_bind, Option.bind_some]
    rw [if_neg (by simp [holds.ready]), holds.helper]
    cases nodes with
    | nil => rfl
    | cons entry rest =>
      rw [search]
      cases List.find? (fun entry => test entry.2) (entry :: rest) with
      | none => rfl
      | some found => rfl
  rw [body, search, List.find?_map]
  cases found : nodes.find? fun entry => test entry.2 with
  | none =>
    have none' : nodes.find? (test ∘ Prod.snd) = none := found
    have kept : (nodes.map Prod.snd).eraseP test = nodes.map Prod.snd := by
      refine List.eraseP_of_forall_not fun element member => ?_
      obtain ⟨entry, member', rfl⟩ := List.mem_map.mp member
      exact List.find?_eq_none.mp found entry member'
    rw [none', kept]
    refine ⟨c.holders, nodes, ?_, ?_, rfl⟩
    · rw [← unchanged]
      rfl
    · rw [← unchanged]
      exact holds
  | some entry =>
    obtain ⟨p, data⟩ := entry
    have some' : nodes.find? (test ∘ Prod.snd) = some (p, data) := found
    obtain ⟨passes, front, back, rfl, others⟩ := List.find?_eq_some_iff_append.mp found
    have data' : c.holders.dataOf p = some data := holds.dataOf (List.mem_of_find?_eq_some found)
    obtain ⟨holders, run, after⟩ := holds.unlink
    have erased : ((front ++ (p, data) :: back).map Prod.snd).eraseP test = (front ++ back).map Prod.snd := by
      have before : ∀ element ∈ front.map Prod.snd, ¬ test element = true := by
        intro element member
        obtain ⟨entry, member', rfl⟩ := List.mem_map.mp member
        simpa using others entry member'
      rw [List.map_append, List.map_append, List.map_cons, List.eraseP_append_right _ before]
      exact congrArg (front.map Prod.snd ++ ·) (List.eraseP_cons_of_pos passes)
    have size : c.chainSize - 1 = (front ++ back).length := after.size
    have allocated : c.allocated - 1 = (front ++ back).length := after.allocated
    rw [size, allocated] at run after
    rw [some', erased]
    refine ⟨holders, front ++ back, ?_, after, rfl⟩
    dsimp only [Option.map_some, Option.bind_some, Option.elim_some]
    rw [data', run]
    rfl

theorem Holds.getTop (holds : c.Holds consumer nodes) : c.getTop = some (nodes.map Prod.snd).head?.join := by
  unfold ADGenericChain.getTop
  rw [if_neg (by simp [holds.ready]), holds.first]
  cases nodes with
  | nil => rfl
  | cons entry rest => exact holds.dataOf List.mem_cons_self

/-- The first holder is taken out. -/
theorem Holds.chainRemove {entry : Nat × Option α} {rest : List (Nat × Option α)}
    (holds : c.Holds consumer (entry :: rest)) :
    ∃ holders, c.chainRemove = some (0, { c with holders := holders, allocated := c.allocated - 1, chainSize := c.chainSize - 1 }) ∧
      Holds { c with holders := holders, allocated := c.allocated - 1, chainSize := c.chainSize - 1 } consumer rest := by
  have split : c.Holds consumer ([] ++ (entry.1, entry.2) :: rest) := holds
  obtain ⟨holders, run, after⟩ := split.unlink
  refine ⟨holders, ?_, after⟩
  unfold ADGenericChain.chainRemove
  rw [holds.first]
  simp only [List.head?_cons, Option.map_some, Option.bind_eq_bind, Option.bind_some, run]

/-- An index is looked up, and one below 0 is taken for 0. -/
theorem Holds.chainGetByIndex (holds : c.Holds consumer nodes) (index : Int) :
    c.chainGetByIndex index = some (nodes.map Prod.snd)[index.toNat]?.join := by
  unfold ADGenericChain.chainGetByIndex
  rw [holds.first]
  simp only [Option.bind_eq_bind, Option.bind_some]
  cases nodes with
  | nil => rfl
  | cons entry rest =>
    have some' : ¬ ((entry :: rest).head?.map Prod.fst = none) := Option.some_ne_none _
    rw [if_neg some']
    by_cases large : index ≥ c.chainSize
    · have size := holds.size
      have beyond : (entry :: rest).length ≤ index.toNat := by omega
      rw [if_pos large, List.getElem?_map, List.getElem?_eq_none beyond]
      rfl
    · have size := holds.size
      have inside : index.toNat < (entry :: rest).length := by
        have more : 0 < (entry :: rest).length := Nat.zero_lt_succ _
        omega
      have search := holds.linked.path.skip holds.linked.ends inside.le
      rw [if_neg large, search, List.head?_drop, List.getElem?_map]
      simp only [Option.bind_some]
      rw [List.getElem?_eq_getElem inside]
      exact holds.dataOf (List.getElem_mem inside)

theorem Holds.chainGet (holds : c.Holds consumer nodes) : ∃ holders,
    c.chainGet = some ((nodes.map Prod.snd).head?.join,
      { c with holders := holders, allocated := nodes.tail.length, chainSize := nodes.tail.length }) ∧
      Holds { c with holders := holders, allocated := nodes.tail.length, chainSize := nodes.tail.length } consumer nodes.tail := by
  unfold ADGenericChain.chainGet
  rw [if_neg (by simp [holds.ready]), holds.first]
  cases nodes with
  | nil =>
    have unchanged : c = { c with holders := c.holders, allocated := 0, chainSize := 0 } := by
      have size : (0 : Int) = c.chainSize := holds.size.symm
      have allocated : 0 = c.allocated := holds.allocated.symm
      rw [size, allocated]
    refine ⟨c.holders, ?_, ?_⟩
    · exact congrArg (fun c => some (none, c)) unchanged
    · exact unchanged ▸ holds
  | cons entry rest =>
    obtain ⟨holders, run, after⟩ := holds.chainRemove
    have size : c.chainSize - 1 = rest.length := after.size
    have allocated : c.allocated - 1 = rest.length := after.allocated
    rw [size, allocated] at run after
    refine ⟨holders, ?_, after⟩
    have data : c.holders.dataOf entry.1 = some entry.2 := holds.dataOf List.mem_cons_self
    simp only [List.head?_cons, Option.map_some, Option.bind_eq_bind, Option.bind_some, data, run]
    rfl

/-- The element of the first holder is given back, and the holder stays. -/
theorem Holds.release {rest : List (Nat × Option α)} (holds : c.Holds consumer ((p, data) :: rest)) : ∃ holders data',
    c.release p = some { c with holders := holders, freed := if c.disableAutoremove then c.freed else c.freed ++ [data] } ∧
      Holds { c with holders := holders, freed := if c.disableAutoremove then c.freed else c.freed ++ [data] } consumer
        ((p, data') :: rest) := by
  unfold ADGenericChain.release
  by_cases elsewhere : c.disableAutoremove = true
  · rw [if_pos elsewhere, if_pos elsewhere]
    exact ⟨c.holders, data, rfl, holds⟩
  · rw [if_neg elsewhere, if_neg elsewhere]
    have known : c.holders p ≠ none := (holds.owned p).mpr (List.mem_cons_of_mem 0 List.mem_cons_self)
    obtain ⟨holders, write, fields⟩ := setData_fields known none
    obtain ⟨linked, owned, size, allocated, attached, ready⟩ := holds
    have path := linked.path
    obtain ⟨forth, prev, kept, later⟩ := path
    have distinct := List.nodup_cons.mp (List.nodup_cons.mp linked.distinct).2
    have path : holders.Path 0 ((p, none) :: rest) := by
      refine ⟨(fields 0).1.trans forth, (fields p).2.1.trans prev, ?_, ?_⟩
      · rw [(fields p).2.2, if_pos rfl]
      · refine later.frame (List.nodup_cons.mp linked.distinct).2 (fun q _ _ => (fields q).1) fun q member => ?_
        refine ⟨(fields q).2.1, ?_⟩
        rw [(fields q).2.2, if_neg]
        rintro rfl
        exact distinct.1 member
    refine ⟨holders, none, ?_, ⟨path, (fields _).1.trans linked.ends, linked.distinct⟩, fun q => ?_, size, allocated,
      attached, ready⟩
    · simp only [Option.bind_eq_bind, Option.bind_some, kept, write]
    · dsimp only
      refine Iff.trans ?_ (owned q)
      rw [holders.ne_none_iff, (fields q).2.2, c.holders.ne_none_iff]
      split_ifs with same
      · rw [same, kept]
        exact ⟨fun _ => Option.some_ne_none _, fun _ => Option.some_ne_none _⟩
      · exact Iff.rfl

/-- All elements are given back and all holders are freed. -/
theorem Holds.removeAllWithin (holds : c.Holds consumer nodes) {fuel : Nat} (enough : nodes.length < fuel) : ∃ holders,
    c.removeAllWithin fuel = some { c with holders := holders, allocated := 0, chainSize := 0
                                           freed := if c.disableAutoremove then c.freed else c.freed ++ nodes.map Prod.snd } ∧
      Holds { c with holders := holders, allocated := 0, chainSize := 0
                     freed := if c.disableAutoremove then c.freed else c.freed ++ nodes.map Prod.snd } consumer [] := by
  induction nodes generalizing c fuel with
  | nil =>
    obtain ⟨fuel, rfl⟩ := Nat.exists_eq_succ_of_ne_zero (Nat.ne_of_gt enough)
    have unchanged : c = { c with holders := c.holders, allocated := 0, chainSize := 0
                                  freed := if c.disableAutoremove then c.freed else c.freed ++ [] } := by
      have size : (0 : Int) = c.chainSize := holds.size.symm
      have allocated : 0 = c.allocated := holds.allocated.symm
      rw [size, allocated, List.append_nil, ite_self]
    refine ⟨c.holders, ?_, ?_⟩
    · unfold ADGenericChain.removeAllWithin
      rw [holds.first]
      exact congrArg some unchanged
    · exact unchanged ▸ holds
  | cons entry rest ih =>
    obtain ⟨fuel, rfl⟩ := Nat.exists_eq_succ_of_ne_zero (Nat.ne_of_gt ((Nat.zero_le _).trans_lt enough))
    obtain ⟨p, data⟩ := entry
    obtain ⟨holders₁, data', given, holds₁⟩ := holds.release
    obtain ⟨holders₂, removed, holds₂⟩ := holds₁.chainRemove
    obtain ⟨holders, run, after⟩ := ih holds₂ (Nat.lt_of_succ_lt_succ enough)
    have first := holds.first
    have freed : (if c.disableAutoremove then (if c.disableAutoremove then c.freed else c.freed ++ [data])
        else (if c.disableAutoremove then c.freed else c.freed ++ [data]) ++ rest.map Prod.snd) =
        if c.disableAutoremove then c.freed else c.freed ++ ((p, data) :: rest).map Prod.snd := by
      cases c.disableAutoremove with
      | true => rfl
      | false => exact List.append_assoc _ _ _
    dsimp only at run after
    rw [freed] at run after
    refine ⟨holders, ?_, after⟩
    unfold ADGenericChain.removeAllWithin
    rw [first]
    simp only [List.head?_cons, Option.map_some, Option.bind_eq_bind, Option.bind_some, given, removed, run]

/-- `malloc` returns an address that is not in use, and `chain_size` does not overflow. -/
def Possible (c : ADGenericChain α) : ChainCall α → Prop
  | .put _ pNewHolder => c.holders pNewHolder = none ∧ c.chainSize < 2 ^ 31 - 1
  | .generateIdent => c.identGenerator < 2 ^ 31 - 1
  | _ => True

/-- `chain_get_by_index` is not called with an index below 0 when there is a first element. -/
def Indexed (c : ADGenericChain α) : ChainCall α → Prop
  | .getByIndex index => 0 ≤ index ∨ c.getTop = some none
  | _ => True

instance (c : ADGenericChain α) (call : ChainCall α) : Decidable (c.Possible call) := by
  unfold Possible
  split <;> infer_instance

instance [DecidableEq α] (c : ADGenericChain α) (call : ChainCall α) : Decidable (c.Indexed call) := by
  unfold Indexed
  split <;> infer_instance

theorem Holds.identify (holds : c.Holds consumer nodes) (element : Option α) (ident : Int) :
    c.identifyChainElement element ident = consumer.identify element ident := by
  rw [identifyChainElement, holds.attached]

theorem Holds.doubleIdentify (holds : c.Holds consumer nodes) (element : Option α) (ident1 ident2 : Int) :
    c.doubleIdentifyChainElement element ident1 ident2 = consumer.doubleIdentify element ident1 ident2 := by
  rw [doubleIdentifyChainElement, holds.attached]

variable {l : ChainList α}

theorem Represents.getMatch (represents : c.Represents consumer nodes l) (test : Option α → Bool) :
    c.getMatch test = some (l.elements.find? test).join := by
  rw [represents.holds.getMatch test, represents.elements]

theorem Represents.removeMatch (represents : c.Represents consumer nodes l) (test : Option α → Bool) : ∃ c' nodes',
    c.removeMatch test = some ((l.elements.find? test).join, c') ∧
      c'.Represents consumer nodes' { l with elements := l.elements.eraseP test } := by
  obtain ⟨holders, nodes', run, after, same⟩ := represents.holds.removeMatch test
  rw [represents.elements] at run same
  exact ⟨_, nodes', run, after, same, represents.generator, represents.mode, represents.freed⟩

theorem Represents.removeAll (represents : c.Represents consumer nodes l) : ∃ c' nodes',
    c.removeAll = some (0, c') ∧ c'.Represents consumer nodes' l.clear := by
  obtain ⟨holders, run, after⟩ := represents.holds.removeAllWithin represents.holds.enough
  refine ⟨_, [], ?_, after, rfl, represents.generator, represents.mode, ?_⟩
  · rw [ADGenericChain.removeAll, run]
    rfl
  · have freed : (if c.disableAutoremove then c.freed else c.freed ++ nodes.map Prod.snd) =
        if l.autoRemove then l.freed ++ l.elements else l.freed := by
      rw [represents.freed, represents.mode, represents.elements]
      cases l.autoRemove <;> rfl
    exact freed

/-- An index is looked up as the list has it exactly when it does not run into the missing check. -/
theorem Represents.getByIndex_iff (represents : c.Represents consumer nodes l) {index : Int} :
    c.chainGetByIndex index = some (l.elementAt index) ↔ c.Indexed (.getByIndex index) := by
  rw [represents.holds.chainGetByIndex, Option.some_inj, ChainList.elementAt]
  unfold Indexed
  dsimp only
  rw [represents.holds.getTop, represents.elements, Option.some_inj]
  by_cases inside : 0 ≤ index
  · rw [if_pos inside]
    exact ⟨fun _ => .inl inside, fun _ => rfl⟩
  · have zero : index.toNat = 0 := by omega
    rw [if_neg inside, zero, ← List.head?_eq_getElem?]
    exact ⟨.inr, fun indexed => indexed.resolve_left inside⟩

/-- Every call does to the holders what it does to the list. -/
theorem Represents.step (represents : c.Represents consumer nodes l) {call : ChainCall α} (possible : c.Possible call)
    (indexed : c.Indexed call) : ∃ c' nodes', c.step call = some ((l.step consumer call).1, c') ∧
      c'.Represents consumer nodes' (l.step consumer call).2 := by
  have holds := represents.holds
  have same := represents.elements
  unfold ADGenericChain.step
  cases call with
  | put data pNewHolder =>
    obtain ⟨holders, peak, run, after⟩ := holds.put possible.1 possible.2 data
    refine ⟨_, nodes ++ [(pNewHolder, data)], ?_, after, ?_, represents.generator, represents.mode, represents.freed⟩
    · dsimp only
      rw [chainPut, if_neg (by simp [holds.ready]), run]
      rfl
    · rw [List.map_append, same]
      rfl
  | get =>
    obtain ⟨holders, run, after⟩ := holds.chainGet
    refine ⟨_, nodes.tail, ?_, after, ?_, represents.generator, represents.mode, represents.freed⟩
    · dsimp only
      rw [run, same]
      rfl
    · rw [List.map_tail, same]
      rfl
  | removeByIdent ident =>
    obtain ⟨c', nodes', run, after⟩ := represents.removeMatch fun element => c.identifyChainElement element ident == 0
    simp only [holds.identify] at run after
    refine ⟨c', nodes', ?_, after⟩
    dsimp only [chainRemoveByIdent]
    simp only [holds.identify, run]
    rfl
  | removeByDoubleIdent ident1 ident2 =>
    obtain ⟨c', nodes', run, after⟩ :=
      represents.removeMatch fun element => c.doubleIdentifyChainElement element ident1 ident2 == 0
    simp only [holds.doubleIdentify] at run after
    refine ⟨c', nodes', ?_, after⟩
    dsimp only [chainRemoveByDoubleIdent]
    simp only [holds.doubleIdentify, run]
    rfl
  | getByIdent ident =>
    refine ⟨c, nodes, ?_, represents⟩
    dsimp only [chainGetByIdent]
    simp only [holds.identify, represents.getMatch]
    rfl
  | getByDoubleIdent ident1 ident2 =>
    refine ⟨c, nodes, ?_, represents⟩
    dsimp only [chainGetByDoubleIdent]
    simp only [holds.doubleIdentify, represents.getMatch]
    rfl
  | getByIndex index =>
    refine ⟨c, nodes, ?_, represents⟩
    dsimp only
    rw [represents.getByIndex_iff.mpr indexed]
    rfl
  | getTop =>
    refine ⟨c, nodes, ?_, represents⟩
    dsimp only
    rw [holds.getTop, same]
    rfl
  | getChainSize =>
    refine ⟨c, nodes, ?_, represents⟩
    dsimp only
    rw [holds.size, ← List.length_map (f := Prod.snd), same]
    rfl
  | generateIdent =>
    refine ⟨{ c with identGenerator := c.identGenerator + 1 }, nodes, ?_, holds.congr rfl rfl rfl rfl rfl, same,
      congrArg (· + 1) represents.generator, represents.mode, represents.freed⟩
    dsimp only
    have room : c.identGenerator < 2 ^ 31 - 1 := possible
    rw [chainGenerateIdent, onlyIf, if_pos room, represents.generator]
    rfl
  | removeAll =>
    obtain ⟨c', nodes', run, after⟩ := represents.removeAll
    refine ⟨c', nodes', ?_, after⟩
    dsimp only
    rw [run]
    rfl
  | empty =>
    obtain ⟨c', nodes', run, after⟩ := represents.removeAll
    refine ⟨{ c' with identGenerator := 0 }, nodes', ?_, after.holds.congr rfl rfl rfl rfl rfl, after.elements, rfl,
      after.mode, after.freed⟩
    dsimp only
    rw [chainEmpty, run]
    rfl
  | disableAutoRemove =>
    exact ⟨_, nodes, rfl, holds.congr rfl rfl rfl rfl rfl, same, represents.generator, rfl, represents.freed⟩
  | enableAutoRemove =>
    exact ⟨_, nodes, rfl, holds.congr rfl rfl rfl rfl rfl, same, represents.generator, rfl, represents.freed⟩

end ADGenericChain

/-- A chain, with the calls so far and what they returned. -/
structure ChainHistory (α : Type) where
  chain : ADGenericChain α
  calls : List (ChainCall α)
  results : List (ChainResult α)

namespace ChainHistory
variable {α : Type}

def start (consumer : ChainConsumer α) : ChainHistory α := ⟨.start consumer, [], []⟩

def step (h : ChainHistory α) (call : ChainCall α) : Option (ChainHistory α) :=
  (h.chain.step call).map fun (result, c) => { chain := c, calls := h.calls ++ [call], results := h.results ++ [result] }

def Possible (h : ChainHistory α) (call : ChainCall α) : Prop := h.chain.Possible call

def Regular (h : ChainHistory α) (call : ChainCall α) : Prop := h.chain.Possible call ∧ h.chain.Indexed call

instance (h : ChainHistory α) (call : ChainCall α) : Decidable (h.Possible call) :=
  inferInstanceAs (Decidable (h.chain.Possible call))

instance [DecidableEq α] (h : ChainHistory α) (call : ChainCall α) : Decidable (h.Regular call) :=
  inferInstanceAs (Decidable (_ ∧ _))

/-- The results so far are those of the list, and the chain is what the list has become. -/
structure Refines (h : ChainHistory α) (consumer : ChainConsumer α) (nodes : List (Nat × Option α)) : Prop where
  represents : h.chain.Represents consumer nodes (ChainList.run consumer h.calls).2
  results : h.results = (ChainList.run consumer h.calls).1

theorem Refines.step {h : ChainHistory α} {consumer : ChainConsumer α} {nodes : List (Nat × Option α)}
    {call : ChainCall α} (refines : h.Refines consumer nodes) (regular : h.Regular call) :
    ∃ h' nodes', h.step call = some h' ∧ h'.Refines consumer nodes' := by
  obtain ⟨c', nodes', run, after⟩ := refines.represents.step regular.1 regular.2
  refine ⟨⟨c', h.calls ++ [call], h.results ++ [((ChainList.run consumer h.calls).2.step consumer call).1]⟩, nodes',
    ?_, ?_, ?_⟩
  · rw [ChainHistory.step, run]
    rfl
  · rw [ChainList.run_append]
    exact after
  · rw [ChainList.run_append, refines.results]

def IsList (consumer : ChainConsumer α) (h : ChainHistory α) : Prop := ∃ nodes, h.Refines consumer nodes

theorem isList_reach {h : ChainHistory α} {consumer : ChainConsumer α} (reach : Reach step Regular (start consumer) h) :
    h.IsList consumer := by
  refine reach.invariant (⟨[], ADGenericChain.represents_start consumer, rfl⟩ : IsList consumer _) ?_
  rintro h h' call ⟨nodes, refines⟩ regular run
  obtain ⟨h'', nodes', run', after⟩ := refines.step regular
  rw [run] at run'
  cases run'
  exact ⟨nodes', after⟩

/-- Any sequence of calls in which no index below 0 meets a first element: the holders are the
list that the calls describe, the pointers back are the inverse of the pointers forth, all
results are those of the list, no call is undefined, and an index is looked up as the list
has it exactly when it is not one of those. -/
theorem chain_refines_list {h : ChainHistory α} {consumer : ChainConsumer α}
    (reach : Reach step Regular (start consumer) h) :
    (∃ nodes, h.chain.Represents consumer nodes (ChainList.run consumer h.calls).2 ∧
        ∀ p ∈ 0 :: nodes.map Prod.fst, ∀ q ∈ nodes.map Prod.fst,
          (h.chain.holders.nextOf p = some (some q) ↔ h.chain.holders.prevOf q = some (some p))) ∧
      h.results = (ChainList.run consumer h.calls).1 ∧
      (∀ call, h.Regular call → (h.step call).isSome = true) ∧
      ∀ index, h.chain.chainGetByIndex index = some ((ChainList.run consumer h.calls).2.elementAt index) ↔
        h.chain.Indexed (.getByIndex index) := by
  obtain ⟨nodes, refines⟩ := isList_reach reach
  refine ⟨⟨nodes, refines.represents, fun p listed q behind => refines.represents.holds.linked.prev_iff listed behind⟩,
    refines.results, fun call regular => ?_, fun index => refines.represents.getByIndex_iff⟩
  obtain ⟨h', _, run, _⟩ := refines.step regular
  rw [run]
  rfl

/-- Elements that are their own ident. -/
def numbers : ChainConsumer Int where
  identify element ident := if element = some ident then 0 else 1
  doubleIdentify element ident1 _ := if element = some ident1 then 0 else 1

/-- Three elements, of which the middle one is removed and the others are looked up and taken. -/
theorem chain_refines_list_three : ∃ h, Reach step Regular (start numbers) h ∧
    h.calls = [.put (some 7) 1, .put (some 8) 2, .put (some 9) 3, .removeByIdent 8, .getByIndex 1, .get, .getChainSize] ∧
      h.results = (ChainList.run numbers h.calls).1 := by
  obtain ⟨h, reach, calls⟩ := exists_reach step Regular (start numbers)
    [.put (some 7) 1, .put (some 8) 2, .put (some 9) 3, .removeByIdent 8, .getByIndex 1, .get, .getChainSize]
    (fun h => h.calls =
      [.put (some 7) 1, .put (some 8) 2, .put (some 9) 3, .removeByIdent 8, .getByIndex 1, .get, .getChainSize])
    (by decide +kernel)
  exact ⟨h, reach, calls, (chain_refines_list reach).2.1⟩

/-- The index -1 finds the first element, where a list has none. -/
theorem negative_index_finds_first : ∃ h, Reach step Possible (start numbers) h ∧
    h.results = [.code 0, .element (some 7)] ∧ (ChainList.run numbers h.calls).1 = [.code 0, .element none] :=
  exists_reach step Possible (start numbers) [.put (some 7) 1, .getByIndex (-1)]
    (fun h => h.results = [.code 0, .element (some 7)] ∧ (ChainList.run numbers h.calls).1 = [.code 0, .element none])
    (by decide +kernel)

end ChainHistory
end JsonRpcTcp
