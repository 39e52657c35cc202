import JsonRpcTcp.Lib.LinkedList
import JsonRpcTcp.Lib.Reach

namespace JsonRpcTcp
open Function

/-- `ADChainConsumer`: its tests yield 0 for a match. An element is a `void *`, and `none` is NULL. -/
structure ChainConsumer (α : Type) where
  identify : Option α → Int → Int
  doubleIdentify : Option α → Int → Int → Int

/-- `ADGenericChain`. Its operations yield `none` where they are undefined: a pointer that does not
point to a holder, an overflow, a loop that does not end. -/
structure ADGenericChain (α : Type) where
  pConsumer : Option (ChainConsumer α)
  disableAutoremove : Bool
  -- the chain_holder objects by address, with base_chain at 0
  holders : Cells Nat (Option α)
  chainPeakSize : Int
  chainSize : Int
  identGenerator : Int
  initFlag : Bool
  -- history, not in the source: how many holders are allocated, and the elements that
  -- were handed to free_chain_element_data and to the element deleter
  allocated : Nat
  freed : List (Option α)

/-- The calls. `pNewHolder` is what `malloc` returns. -/
inductive ChainCall (α : Type) where
  | put (data : Option α) (pNewHolder : Nat)
  | get
  | removeByIdent (ident : Int)
  | removeByDoubleIdent (ident1 ident2 : Int)
  | getByIdent (ident : Int)
  | getByDoubleIdent (ident1 ident2 : Int)
  | getByIndex (index : Int)
  | getTop
  | getChainSize
  | generateIdent
  | removeAll
  | empty
  | disableAutoRemove
  | enableAutoRemove
  deriving DecidableEq

/-- What a call returns. -/
inductive ChainResult (α : Type) where
  | code (value : Int)
  | element (data : Option α)
  deriving DecidableEq, Repr

namespace ADGenericChain
variable {α : Type}

/-- The constructor, and `attach_helper`. -/
def start (consumer : ChainConsumer α) : ADGenericChain α where
  pConsumer := some consumer
  disableAutoremove := false
  holders := update (fun _ => none) 0 (some { data := none, prev := none, next := none })
  chainPeakSize := 0
  chainSize := 0
  identGenerator := 0
  initFlag := true
  allocated := 0
  freed := []

def isHelperAttached (c : ADGenericChain α) : Int := if c.pConsumer.isNone then -1 else 0

def identifyChainElement (c : ADGenericChain α) (element : Option α) (ident : Int) : Int :=
  match c.pConsumer with
  | some consumer => consumer.identify element ident
  | none => -1

def doubleIdentifyChainElement (c : ADGenericChain α) (element : Option α) (ident1 ident2 : Int) : Int :=
  match c.pConsumer with
  | some consumer => consumer.doubleIdentify element ident1 ident2
  | none => -1

/-- `chain_add`. The pointers of a new holder have no value before they are written. -/
def chainAdd (c : ADGenericChain α) (data : Option α) (pNewHolder : Nat) : Option (ADGenericChain α) := do
  let holders : Cells Nat (Option α) := update c.holders pNewHolder (some { data := data, prev := none, next := none })
  let pHolder ← holders.last (c.allocated + 1) 0
  let holders ← holders.setNext pHolder (some pNewHolder)
  let holders ← holders.setPrev pNewHolder (some pHolder)
  let holders ← holders.setNext pNewHolder none
  onlyIf (c.chainSize < 2 ^ 31 - 1)
    { c with holders := holders, allocated := c.allocated + 1, chainSize := c.chainSize + 1
             chainPeakSize := if c.chainSize + 1 > c.chainPeakSize then c.chainSize + 1 else c.chainPeakSize }

def chainPut (c : ADGenericChain α) (data : Option α) (pNewHolder : Nat) : Option (Int × ADGenericChain α) :=
  if c.initFlag = false then some (-1, c) else (c.chainAdd data pNewHolder).map fun c => (0, c)

/-- The holder is taken out of the chain and freed. -/
def unlink (c : ADGenericChain α) (pHolder : Nat) : Option (ADGenericChain α) := do
  let holder ← c.holders pHolder
  let pPrev ← holder.prev
  let holders ← match holder.next with
    | some _ => do
      let holders ← c.holders.setNext pPrev holder.next
      let holder ← holders pHolder
      let pNext ← holder.next
      holders.setPrev pNext holder.prev
    | none => c.holders.setNext pPrev none
  some { c with holders := update holders pHolder none, allocated := c.allocated - 1, chainSize := c.chainSize - 1 }

/-- The data of the first holder that passes the test. -/
def getMatch (c : ADGenericChain α) (test : Option α → Bool) : Option (Option α) := do
  let pHolder ← c.holders.nextOf 0
  if pHolder = none then some none
  else if c.isHelperAttached ≠ 0 then some none
  else
    match ← c.holders.find test (c.allocated + 1) pHolder with
    | none => some none
    | some pHolder => c.holders.dataOf pHolder

/-- As `getMatch`, and the holder goes. -/
def removeMatch (c : ADGenericChain α) (test : Option α → Bool) : Option (Option α × ADGenericChain α) := do
  let pHolder ← c.holders.nextOf 0
  if c.initFlag = false then some (none, c)
  else if pHolder = none then some (none, c)
  else if c.isHelperAttached ≠ 0 then some (none, c)
  else
    match ← c.holders.find test (c.allocated + 1) pHolder with
    | none => some (none, c)
    | some pHolder => do
      let data ← c.holders.dataOf pHolder
      let c ← c.unlink pHolder
      some (data, c)

def chainGetByIdent (c : ADGenericChain α) (ident : Int) : Option (Option α) :=
  c.getMatch fun element => c.identifyChainElement element ident == 0

def chainGetByDoubleIdent (c : ADGenericChain α) (ident1 ident2 : Int) : Option (Option α) :=
  c.getMatch fun element => c.doubleIdentifyChainElement element ident1 ident2 == 0

def chainRemoveByIdent (c : ADGenericChain α) (ident : Int) : Option (Option α × ADGenericChain α) :=
  c.removeMatch fun element => c.identifyChainElement element ident == 0

def chainRemoveByDoubleIdent (c : ADGenericChain α) (ident1 ident2 : Int) : Option (Option α × ADGenericChain α) :=
  c.removeMatch fun element => c.doubleIdentifyChainElement element ident1 ident2 == 0

/-- `chain_get_by_index`. An index below 0 is not looked for. -/
def chainGetByIndex (c : ADGenericChain α) (index : Int) : Option (Option α) := do
  let pHolder ← c.holders.nextOf 0
  if pHolder = none then some none
  else if index ≥ c.chainSize then some none
  else
    match ← c.holders.skip index.toNat pHolder with
    | none => some none
    | some pHolder => c.holders.dataOf pHolder

/-- `chain_remove`, and `remove`, which is the same. -/
def chainRemove (c : ADGenericChain α) : Option (Int × ADGenericChain α) := do
  match ← c.holders.nextOf 0 with
  | none => some (-1, c)
  | some pHolder => (c.unlink pHolder).map fun c => (0, c)

def chainGet (c : ADGenericChain α) : Option (Option α × ADGenericChain α) := do
  if c.initFlag = false then some (none, c)
  else
    match ← c.holders.nextOf 0 with
    | none => some (none, c)
    | some pHolder => do
      let data ← c.holders.dataOf pHolder
      let (_, c) ← c.chainRemove
      some (data, c)

def getTop (c : ADGenericChain α) : Option (Option α) := do
  if c.initFlag = false then some none
  else
    match ← c.holders.nextOf 0 with
    | none => some none
    | some pHolder => c.holders.dataOf pHolder

/-- The element of the first holder is handed to its owner, unless `disable_auto_remove` was called. -/
def release (c : ADGenericChain α) (pHolder : Nat) : Option (ADGenericChain α) :=
  if c.disableAutoremove then some c
  else do
    let data ← c.holders.dataOf pHolder
    let holders ← c.holders.setData pHolder none
    some { c with holders := holders, freed := c.freed ++ [data] }

/-- The loop of `remove_all`. -/
def removeAllWithin : Nat → ADGenericChain α → Option (ADGenericChain α)
  | 0, _ => none
  | fuel + 1, c => do
    match ← c.holders.nextOf 0 with
    | none => some c
    | some pHolder => do
      let c ← c.release pHolder
      let (_, c) ← c.chainRemove
      removeAllWithin fuel c

def removeAll (c : ADGenericChain α) : Option (Int × ADGenericChain α) :=
  (c.removeAllWithin (c.allocated + 1)).map fun c => (0, c)

def chainEmpty (c : ADGenericChain α) : Option (Int × ADGenericChain α) :=
  c.removeAll.map fun (_, c) => (0, { c with identGenerator := 0 })

def chainGenerateIdent (c : ADGenericChain α) : Option (Int × ADGenericChain α) :=
  onlyIf (c.identGenerator < 2 ^ 31 - 1) (c.identGenerator + 1, { c with identGenerator := c.identGenerator + 1 })

def step (c : ADGenericChain α) : ChainCall α → Option (ChainResult α × ADGenericChain α)
  | .put data pNewHolder => (c.chainPut data pNewHolder).map fun (value, c) => (.code value, c)
  | .get => c.chainGet.map fun (data, c) => (.element data, c)
  | .removeByIdent ident => (c.chainRemoveByIdent ident).map fun (data, c) => (.element data, c)
  | .removeByDoubleIdent ident1 ident2 =>
    (c.chainRemoveByDoubleIdent ident1 ident2).map fun (data, c) => (.element data, c)
  | .getByIdent ident => (c.chainGetByIdent ident).map fun data => (.element data, c)
  | .getByDoubleIdent ident1 ident2 => (c.chainGetByDoubleIdent ident1 ident2).map fun data => (.element data, c)
  | .getByIndex index => (c.chainGetByIndex index).map fun data => (.element data, c)
  | .getTop => c.getTop.map fun data => (.element data, c)
  | .getChainSize => some (.code c.chainSize, c)
  | .generateIdent => c.chainGenerateIdent.map fun (ident, c) => (.code ident, c)
  | .removeAll => c.removeAll.map fun (value, c) => (.code value, c)
  | .empty => c.chainEmpty.map fun (value, c) => (.code value, c)
  | .disableAutoRemove => some (.code 0, { c with disableAutoremove := true })
  | .enableAutoRemove => some (.code 0, { c with disableAutoremove := false })

end ADGenericChain
end JsonRpcTcp
