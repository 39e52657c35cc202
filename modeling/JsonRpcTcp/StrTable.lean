import JsonRpcTcp.SettingsText
import JsonRpcTcp.Lib.BucketTable

namespace JsonRpcTcp

/-! The hash table of `strmap.cpp` and the sections of `settings.cpp` that hold one each. The
index of a bucket and the number of buckets are as in the source. -/

/-- `Pair`, with the bytes that are allocated for its two strings. -/
structure MapPair where
  key : List Byte
  value : List Byte
  keyRoom : Nat
  valueRoom : Nat
  deriving DecidableEq, Repr

/-- Which allocations of `sm_put` succeed: the new key, the new value, the longer array of
pairs, and the longer value of a pair that exists. -/
structure PutMemory where
  newKey : Bool
  newValue : Bool
  pairs : Bool
  longerValue : Bool
  deriving DecidableEq, Repr

def enoughMemory : PutMemory := ⟨true, true, true, true⟩

/-- The table of a `StrMap`, whose `count` is the number of buckets. The `count` of a bucket
is the number of its pairs. -/
abbrev StrTable := List (List MapPair)

namespace StrTable
variable (charSigned : Bool)

/-- A char as the int `c` of `hash`, converted to unsigned long. -/
def charValue (c : Byte) : BitVec 64 :=
  if charSigned then c.toBitVec.signExtend 64 else c.toBitVec.setWidth 64

/-- `hash`. -/
def hash (str : List Byte) : BitVec 64 :=
  str.foldl (fun hash c => ((hash <<< 5) + hash) + charValue charSigned c) 5381

/-- `sm_new`, while there is memory. -/
def smNew (capacity : Nat) : StrTable := List.replicate capacity []

/-- The `index` of a key. -/
def index (table : StrTable) (key : List Byte) : Nat := (hash charSigned key).toNat % table.length

/-- `get_pair`. -/
def getPair (bucket : List MapPair) (key : List Byte) : Option MapPair := bucket.find? fun pair => pair.key = key

/-- The pair that `sm_get`, `sm_exists` and `sm_put` find. -/
def found (table : StrTable) (key : List Byte) : Option MapPair :=
  getPair (table[index charSigned table key]?.getD []) key

/-- `sm_get` into a buffer of `size` bytes, or into no buffer: its result and what it copies. -/
def smGet (table : StrTable) (key : List Byte) (buffer : Bool) (size : Nat) : Nat × Option (List Byte) :=
  match table.found charSigned key with
  | none => (0, none)
  | some pair =>
    if buffer = false ∧ size = 0 then (pair.value.length + 1, none)
    else if buffer = false then (0, none)
    else if pair.value.length ≥ size then (0, none)
    else (1, some pair.value)

/-- A pair after its value was replaced. -/
def replaced (value : List Byte) (pair : MapPair) : MapPair :=
  { pair with
    value := value
    valueRoom := if pair.value.length < value.length then value.length + 1 else pair.valueRoom }

/-- The pair that `sm_put` appends. -/
def newPair (key value : List Byte) : MapPair :=
  { key := key, value := value, keyRoom := key.length + 1, valueRoom := value.length + 1 }

/-- `sm_put`. -/
def smPut (table : StrTable) (key value : List Byte) (memory : PutMemory) : Nat × StrTable :=
  match table.found charSigned key with
  | some pair =>
    if pair.value.length < value.length ∧ memory.longerValue = false then (0, table)
    else (1, table.modify (index charSigned table key) fun bucket =>
      bucket.modify (bucket.findIdx fun other => other.key = key) (replaced value))
  | none =>
    if memory.newKey = false then (0, table)
    else if memory.newValue = false then (0, table)
    else if memory.pairs = false then (0, table)
    else (1, table.modify (index charSigned table key) fun bucket => bucket ++ [newPair key value])

/-- `sm_get_count`. -/
def smGetCount (table : StrTable) : Nat := (table.map List.length).sum

/-- The pairs for which `sm_enum` calls its function, in its order. -/
def smEnum (table : StrTable) : List (List Byte × List Byte) := table.flatten.map fun pair => (pair.key, pair.value)

end StrTable

/-- `Section`. -/
structure TableSection where
  name : List Byte
  map : StrTable
  deriving DecidableEq, Repr

/-- `Settings`. -/
abbrev TableSettings := List TableSection

namespace TableSettings
variable (charSigned : Bool)

/-- `get_section`. -/
def getSection (settings : TableSettings) (name : List Byte) : Option TableSection :=
  settings.find? fun sec => sec.name = name

/-- `settings_get` into a buffer of `size` bytes. -/
def get (settings : TableSettings) (name key : List Byte) (size : Nat) : Option (List Byte) :=
  (settings.getSection name).bind fun sec => (sec.map.smGet charSigned key true size).2

/-- `settings_set`, while there is memory for a new section. -/
def set (settings : TableSettings) (name key value : List Byte) (memory : PutMemory) : Nat × TableSettings :=
  if name = [] then (0, settings)
  else match settings.getSection name with
    | none =>
      let put := (StrTable.smNew StrMap.capacity).smPut charSigned key value memory
      (put.1, settings ++ [{ name := name, map := put.2 }])
    | some sec =>
      let put := sec.map.smPut charSigned key value memory
      (put.1, settings.modify (settings.findIdx fun other => other.name = name) fun sec => { sec with map := put.2 })

/-- `settings_section_get_count`. -/
def sectionGetCount (settings : TableSettings) (name : List Byte) : Nat :=
  match settings.getSection name with
  | none => 0
  | some sec => sec.map.smGetCount

/-- `settings_section_enum`: its result and the pairs it calls its function for. -/
def sectionEnum (settings : TableSettings) (name : List Byte) : Nat × List (List Byte × List Byte) :=
  match settings.getSection name with
  | none => (0, [])
  | some sec => (1, sec.map.smEnum)

/-- `settings_save`. -/
def save (settings : TableSettings) : List Byte :=
  settings.flatMap fun sec =>
    [sectionStartChar] ++ sec.name ++ [sectionEndChar, newline] ++ sec.map.smEnum.flatMap Settings.enumMap ++ [newline]

end TableSettings
end JsonRpcTcp
