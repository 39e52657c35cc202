import JsonRpcTcp.StrTable
import JsonRpcTcp.SettingsLines

namespace JsonRpcTcp

/-- The strings of a pair and their final NULs are inside what is allocated for them. -/
structure MapPair.Fits (pair : MapPair) : Prop where
  key : pair.key.length < pair.keyRoom
  value : pair.value.length < pair.valueRoom

/-- What `sm_enum` shows of a pair. -/
def MapPair.content (pair : MapPair) : List Byte × List Byte := (pair.key, pair.value)

namespace StrTable
variable {charSigned : Bool}

theorem charValue_mod (c : Byte) : (charValue charSigned c).toNat % 256 = c.toNat := by
  have extended : ∀ bits : BitVec 8, (bits.signExtend 64).toNat % 256 = bits.toNat := by decide +kernel
  unfold charValue
  split_ifs
  · exact extended c.toBitVec
  · have short := c.toBitVec.isLt
    simp only [BitVec.toNat_setWidth]
    change c.toBitVec.toNat % 2 ^ 64 % 256 = c.toBitVec.toNat
    omega

theorem hash_step (value : BitVec 64) (other c : Nat) (char : BitVec 64) (same : value.toNat % 256 = other % 256)
    (here : char.toNat % 256 = c % 256) :
    (((value <<< 5) + value) + char).toNat % 256 = (other * 33 + c) % 2 ^ 64 % 256 := by
  simp only [BitVec.toNat_add, BitVec.toNat_shiftLeft, Nat.shiftLeft_eq]
  omega

/-- The sign of a char makes no difference to the bucket of a key. -/
theorem hash_mod (str : List Byte) : (hash charSigned str).toNat % 256 = StrMap.hash str % 256 := by
  have go : ∀ (value : BitVec 64) (other : Nat), value.toNat % 256 = other % 256 →
      (str.foldl (fun (hash : BitVec 64) c => ((hash <<< 5) + hash) + charValue charSigned c) value).toNat % 256 =
        str.foldl (fun value c => (value * 33 + c.toNat) % 2 ^ 64) other % 256 := by
    induction str with
    | nil => exact fun _ _ same => same
    | cons c rest ih =>
      intro value other same
      have char := @charValue_mod charSigned c
      have small : c.toNat < 256 := c.toNat_lt
      exact ih _ _ (hash_step value other c.toNat (charValue charSigned c) same (by omega))
  exact go 5381 5381 rfl

/-- The hash as a number. -/
def hashNat (charSigned : Bool) (key : List Byte) : Nat := (hash charSigned key).toNat

/-- The table holds the pairs of a list, and each string fits. -/
structure Represents (charSigned : Bool) (table : StrTable) (held : List MapPair) : Prop where
  holds : BucketTable.Holds MapPair.key (hashNat charSigned) StrMap.capacity table held
  keyed : Keyed MapPair.key held
  fits : ∀ pair ∈ held, pair.Fits

variable {table : StrTable} {held : List MapPair}

theorem represents_new : Represents charSigned (smNew StrMap.capacity) [] :=
  ⟨BucketTable.holds_empty, Keyed.nil, fun _ member => absurd member List.not_mem_nil⟩

theorem capacity_pos : 0 < StrMap.capacity := by decide

theorem Represents.found (rep : Represents charSigned table held) (key : List Byte) :
    table.found charSigned key = held.find? fun pair => pair.key = key :=
  rep.holds.find capacity_pos key

/-- Looking for a pair in the list of its contents. -/
theorem getPair_contents (held : List MapPair) (key : List Byte) :
    StrMap.getPair (held.map MapPair.content) key = (held.find? fun pair => pair.key = key).map MapPair.content :=
  List.find?_map ..

theorem Represents.smEnum (rep : Represents charSigned table held) :
    table.smEnum = StrMap.enum (held.map MapPair.content) := by
  have parts : ∀ i, (BucketTable.part MapPair.key (hashNat charSigned) StrMap.capacity held i).map MapPair.content =
      (held.map MapPair.content).filter fun pair => StrMap.hash pair.1 % StrMap.capacity == i := by
    intro i
    rw [BucketTable.part, List.filter_map]
    refine congrArg _ (congrArg (fun test => held.filter test) ?_)
    funext pair
    exact congrArg (· == i) (hash_mod pair.key)
  rw [StrTable.smEnum, rep.holds.flatten, List.map_flatMap, StrMap.enum]
  refine congrArg (List.flatMap · _) ?_
  funext i
  exact parts i

theorem Represents.smGetCount (rep : Represents charSigned table held) : table.smGetCount = held.length := by
  rw [StrTable.smGetCount, ← List.length_flatten, rep.holds.size capacity_pos]

/-- What a successful `sm_put` does to the table. -/
def putPair (charSigned : Bool) (key value : List Byte) (table : StrTable) : StrTable :=
  BucketTable.put MapPair.key (hashNat charSigned) key (replaced value) (newPair key value) table

theorem modify_replaced (rep : Represents charSigned table held) {key : List Byte} {pair : MapPair}
    (here : table.found charSigned key = some pair) (value : List Byte) :
    (table.modify (index charSigned table key) fun bucket =>
        bucket.modify (bucket.findIdx fun other => other.key = key) (replaced value)) =
      putPair charSigned key value table := by
  refine BucketTable.modify_congr fun bucket inside => ?_
  have part : bucket = BucketTable.part MapPair.key (hashNat charSigned) StrMap.capacity held
      (hashNat charSigned key % StrMap.capacity) := rep.holds.bucket_eq capacity_pos inside
  have present : (bucket.find? fun other => other.key = key).isSome = true := by
    rw [found, getPair, inside, Option.getD_some] at here
    rw [here, Option.isSome_some]
  have keyed : Keyed MapPair.key bucket := by
    rw [part]
    exact rep.keyed.filter _
  rw [upsert, if_pos present]
  exact keyed.modify_eq_map key (replaced value)

theorem modify_appended {key : List Byte} (absent : table.found charSigned key = none) (value : List Byte) :
    (table.modify (index charSigned table key) fun bucket => bucket ++ [newPair key value]) =
      putPair charSigned key value table := by
  refine BucketTable.modify_congr fun bucket inside => ?_
  rw [found, getPair, inside, Option.getD_some] at absent
  rw [upsert, absent, Option.isSome_none, if_neg (by simp)]

theorem Fits.replaced {pair : MapPair} (fits : pair.Fits) (value : List Byte) : (replaced value pair).Fits := by
  refine ⟨fits.key, ?_⟩
  have room := fits.value
  simp only [StrTable.replaced]
  split_ifs with longer
  · omega
  · omega

theorem Represents.putPair (rep : Represents charSigned table held) (key value : List Byte) :
    Represents charSigned (putPair charSigned key value table)
      (upsert MapPair.key key (replaced value) (newPair key value) held) where
  holds := rep.holds.put (fun _ here => here) rfl
  keyed := keyed_upsert rep.keyed (fun _ here => here) rfl
  fits := forall_mem_upsert rep.fits (fun _ member _ => Fits.replaced (rep.fits _ member) value)
    ⟨Nat.lt_succ_self _, Nat.lt_succ_self _⟩

theorem contents_upsert (held : List MapPair) (key value : List Byte) :
    (upsert MapPair.key key (replaced value) (newPair key value) held).map MapPair.content =
      StrMap.put (held.map MapPair.content) key value := by
  refine map_upsert (fun _ => rfl) ?_
  intro pair _ here
  exact congrArg (·, value) here

/-- `sm_put` either fails and changes nothing, or puts the pair. -/
theorem Represents.smPut (rep : Represents charSigned table held) (key value : List Byte) (memory : PutMemory) :
    table.smPut charSigned key value memory = (0, table) ∨
      table.smPut charSigned key value memory = (1, StrTable.putPair charSigned key value table) := by
  cases here : table.found charSigned key with
  | some pair =>
    simp only [StrTable.smPut, here]
    rw [modify_replaced rep here]
    split_ifs
    · exact .inl rfl
    · exact .inr rfl
  | none =>
    simp only [StrTable.smPut, here]
    rw [modify_appended here]
    split_ifs
    · exact .inl rfl
    · exact .inl rfl
    · exact .inl rfl
    · exact .inr rfl

/-- `sm_put` only fails for want of memory. -/
theorem smPut_enough (table : StrTable) (key value : List Byte) :
    (table.smPut charSigned key value enoughMemory).1 = 1 := by
  cases here : table.found charSigned key with
  | some pair =>
    have longer : ¬ (pair.value.length < value.length ∧ enoughMemory.longerValue = false) := fun both =>
      Bool.noConfusion both.2
    simp only [StrTable.smPut, here]
    rw [if_neg longer]
  | none =>
    simp only [StrTable.smPut, here]
    rfl

end StrTable

/-- A call of `settings_set`. -/
structure SetCall where
  name : List Byte
  key : List Byte
  value : List Byte
  memory : PutMemory
  deriving DecidableEq, Repr

/-- Settings with the calls of `settings_set` that made them and what these returned. -/
structure SettingsRun where
  table : TableSettings
  done : List (SetCall × Nat)

/-- One more call. -/
def SettingsRun.call (charSigned : Bool) (run : SettingsRun) (c : SetCall) : SettingsRun :=
  let put := run.table.set charSigned c.name c.key c.value c.memory
  { table := put.2, done := run.done ++ [(c, put.1)] }

/-- What a call of `settings_set` means: the value is there from now on, or else at least the
section is. -/
def Settings.record (settings : Settings) (done : SetCall × Nat) : Settings :=
  if done.1.name = [] then settings
  else if done.2 = 1 then settings.put done.1.name done.1.key done.1.value
  else upsert SettingsSection.name done.1.name id { name := done.1.name, pairs := [] } settings

namespace TableSettings
open StrTable
variable {charSigned : Bool}

/-- A section and the settings it stands for. -/
structure SectionStands (charSigned : Bool) (sec : TableSection) (stands : SettingsSection) : Prop where
  name : sec.name = stands.name
  map : ∃ held, Represents charSigned sec.map held ∧ held.map MapPair.content = stands.pairs

structure Stands (charSigned : Bool) (table : TableSettings) (settings : Settings) : Prop where
  sections : List.Forall₂ (SectionStands charSigned) table settings
  keyed : Keyed TableSection.name table

variable {table : TableSettings} {settings : Settings}

/-- The table after a call, as an upsert. -/
theorem set_eq (keyed : Keyed TableSection.name table) {name : List Byte} (named : name ≠ []) (key value : List Byte)
    (memory : PutMemory) :
    (table.set charSigned name key value memory).2 =
      upsert TableSection.name name (fun sec => { sec with map := (sec.map.smPut charSigned key value memory).2 })
        { name := name, map := ((smNew StrMap.capacity).smPut charSigned key value memory).2 } table := by
  cases here : table.getSection name with
  | none =>
    have absent : ¬ (table.find? fun sec => sec.name = name).isSome = true := by
      rw [show (table.find? fun sec => sec.name = name) = none from here]
      simp
    simp only [set, if_neg named, here, upsert, if_neg absent]
  | some sec =>
    simp only [set, if_neg named, here]
    exact keyed.modify_eq_upsert here rfl

theorem stands_nil : Stands charSigned [] [] := ⟨.nil, Keyed.nil⟩

/-- The section that is found, with what it stands for. -/
theorem Stands.getSection (stands : Stands charSigned table settings) (name : List Byte) :
    (table.getSection name = none ∧ settings.getSection name = none) ∨
      ∃ sec stood, table.getSection name = some sec ∧ settings.getSection name = some stood ∧
        SectionStands charSigned sec stood := by
  have sections := stands.sections
  clear stands
  induction sections with
  | nil => exact .inl ⟨rfl, rfl⟩
  | @cons sec stood rest rest' here _ ih =>
    simp only [TableSettings.getSection, Settings.getSection, List.find?_cons, here.name]
    split
    · exact .inr ⟨sec, stood, rfl, rfl, here⟩
    · exact ih

/-- `sm_put` in a section. -/
theorem SectionStands.smPut {sec : TableSection} {stood : SettingsSection} (stands : SectionStands charSigned sec stood)
    (key value : List Byte) (memory : PutMemory) :
    SectionStands charSigned { sec with map := (sec.map.smPut charSigned key value memory).2 }
      (if (sec.map.smPut charSigned key value memory).1 = 1 then { stood with pairs := stood.pairs.put key value }
        else stood) := by
  obtain ⟨held, rep, contents⟩ := stands.map
  rcases rep.smPut key value memory with failed | put
  · rw [failed, if_neg Nat.zero_ne_one]
    exact stands
  · rw [put, if_pos rfl]
    refine ⟨stands.name, _, rep.putPair key value, ?_⟩
    rw [contents_upsert, contents]

/-- One call of `settings_set`. -/
theorem Stands.call {run : SettingsRun} (stands : Stands charSigned run.table settings) (c : SetCall) :
    Stands charSigned (run.call charSigned c).table
      (settings.record (c, (run.table.set charSigned c.name c.key c.value c.memory).1)) := by
  by_cases named : c.name = []
  · simp only [SettingsRun.call, TableSettings.set, Settings.record, if_pos named]
    exact stands
  · have sections := stands.sections
    have fresh : SectionStands charSigned { name := c.name, map := smNew StrMap.capacity } { name := c.name, pairs := [] } :=
      ⟨rfl, [], represents_new, rfl⟩
    have result : ∀ sec ∈ run.table, sec.name = c.name →
        (run.table.set charSigned c.name c.key c.value c.memory).1 =
          (sec.map.smPut charSigned c.key c.value c.memory).1 := by
      intro sec member here
      have found : run.table.getSection c.name = some sec := by
        rw [← here]
        exact stands.keyed.find_iff.mpr member
      simp only [TableSettings.set, if_neg named, found]
    have resultNew : (∀ sec ∈ run.table, sec.name ≠ c.name) →
        (run.table.set charSigned c.name c.key c.value c.memory).1 =
          ((smNew StrMap.capacity).smPut charSigned c.key c.value c.memory).1 := by
      intro absent
      have none : run.table.getSection c.name = none :=
        List.find?_eq_none.mpr fun sec member same => absent sec member (of_decide_eq_true same)
      simp only [TableSettings.set, if_neg named, none]
    refine ⟨?_, ?_⟩
    · simp only [SettingsRun.call, set_eq stands.keyed named, Settings.record, if_neg named]
      split_ifs with put
      · refine forall₂_upsert sections (fun _ _ here => here.name) ?_ ?_
        · intro sec member stood _ here same
          have after := here.smPut c.key c.value c.memory
          rw [if_pos ((result sec member same).symm.trans put)] at after
          exact after
        · intro absent
          have after := fresh.smPut c.key c.value c.memory
          rw [if_pos ((resultNew absent).symm.trans put)] at after
          exact after
      · refine forall₂_upsert sections (fun _ _ here => here.name) ?_ ?_
        · intro sec member stood _ here same
          have after := here.smPut c.key c.value c.memory
          rw [if_neg fun one => put ((result sec member same).trans one)] at after
          exact after
        · intro absent
          have after := fresh.smPut c.key c.value c.memory
          rw [if_neg fun one => put ((resultNew absent).trans one)] at after
          exact after
    · rw [SettingsRun.call, set_eq stands.keyed named]
      exact keyed_upsert stands.keyed (fun _ here => here) rfl

theorem set_enough (table : TableSettings) {name : List Byte} (named : name ≠ []) (key value : List Byte) :
    (table.set charSigned name key value enoughMemory).1 = 1 := by
  unfold TableSettings.set
  rw [if_neg named]
  cases table.getSection name with
  | none => exact smPut_enough _ key value
  | some sec => exact smPut_enough sec.map key value

/-- Every call that has a section and the memory it needs succeeds. -/
theorem done_run (charSigned : Bool) (calls : List SetCall) :
    let run := calls.foldl (SettingsRun.call charSigned) { table := [], done := [] }
    run.done.map Prod.fst = calls ∧
      ∀ put ∈ run.done, put.1.name ≠ [] → put.1.memory = enoughMemory → put.2 = 1 := by
  induction calls using List.reverseRecOn with
  | nil => exact ⟨rfl, fun put member => absurd member List.not_mem_nil⟩
  | append_singleton calls c ih =>
    simp only [List.foldl_append, List.foldl_cons, List.foldl_nil, SettingsRun.call, List.map_append, List.map_cons,
      List.map_nil]
    refine ⟨by rw [ih.1], fun put member named enough => ?_⟩
    rcases List.mem_append.mp member with old | new
    · exact ih.2 put old named enough
    · obtain rfl := List.mem_singleton.mp new
      rw [show c.memory = enoughMemory from enough]
      exact set_enough _ named c.key c.value

/-- What the calls that were made mean together. -/
theorem stands_run (charSigned : Bool) (calls : List SetCall) :
    let run := calls.foldl (SettingsRun.call charSigned) { table := [], done := [] }
    Stands charSigned run.table (run.done.foldl Settings.record []) := by
  have go : ∀ (run : SettingsRun), Stands charSigned run.table (run.done.foldl Settings.record []) →
      let after := calls.foldl (SettingsRun.call charSigned) run
      Stands charSigned after.table (after.done.foldl Settings.record []) := by
    induction calls with
    | nil => exact fun _ stands => stands
    | cons c rest ih =>
      intro run stands
      refine ih (run.call charSigned c) ?_
      simp only [SettingsRun.call, List.foldl_append, List.foldl_cons, List.foldl_nil]
      exact stands.call c
  exact go _ stands_nil

theorem SectionStands.save {sec : TableSection} {stood : SettingsSection} (stands : SectionStands charSigned sec stood) :
    sec.map.smEnum = stood.pairs.enum := by
  obtain ⟨held, rep, contents⟩ := stands.map
  rw [rep.smEnum, contents]

theorem SectionStands.get {sec : TableSection} {stood : SettingsSection} (stands : SectionStands charSigned sec stood)
    (key : List Byte) (size : Nat) :
    (sec.map.smGet charSigned key true size).2 =
      ((stood.pairs.getPair key).map Prod.snd).filter fun value => value.length < size := by
  obtain ⟨held, rep, contents⟩ := stands.map
  rw [← contents, getPair_contents, ← rep.found, smGet]
  cases sec.map.found charSigned key with
  | none => rfl
  | some pair =>
    by_cases large : pair.value.length ≥ size
    · simp [MapPair.content, large, Option.filter]
    · simp [MapPair.content, large, Option.filter]

theorem SectionStands.count {sec : TableSection} {stood : SettingsSection} (stands : SectionStands charSigned sec stood) :
    sec.map.smGetCount = stood.pairs.length := by
  obtain ⟨held, rep, contents⟩ := stands.map
  rw [rep.smGetCount, ← contents, List.length_map]

theorem Stands.save (stands : Stands charSigned table settings) : table.save = settings.save := by
  have sections := stands.sections
  clear stands
  induction sections with
  | nil => rfl
  | cons here _ ih =>
    rw [TableSettings.save, Settings.save] at ih
    rw [TableSettings.save, Settings.save, List.flatMap_cons, List.flatMap_cons, ih, Settings.saveSection, here.name,
      here.save]

end TableSettings
end JsonRpcTcp
