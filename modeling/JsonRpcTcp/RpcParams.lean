import JsonRpcTcp.ProxyStep

namespace JsonRpcTcp

/-! The parameters of a request, as the macros of `ADCommon.hpp` take them out of its text. -/

/-- The text of a parameter, of any length. -/
def paramText (lib : JsonC) (data name : List Byte) : Option (List Byte) := do
  let request ← lib.tokenerParse (cString data)
  let params ← request.objectGet (ascii "params")
  let _ ← lib.getString params
  let value ← params.objectGet name
  lib.getString value

/-- `find_single_param`, into a buffer of `valueSize` bytes. -/
def findSingleParam (lib : JsonC) (jsonString paramName : List Byte) (valueSize : Nat) : Option (List Byte) :=
  if valueSize = 0 then none
  else (paramText lib jsonString paramName).map fun src => (cString src).take (valueSize - 1)

/-- The size of `param_value` in the macros. -/
def paramValueSize : Nat := 255

/-- `adlib_copy_param` into an array of `size` bytes. -/
def adlibCopyParam (size : Nat) (src : List Byte) : List Byte := src.take (size - 1)

/-- `JSON_STRING_TO_STRING`. -/
def jsonStringToString (lib : JsonC) (data name : List Byte) (size : Nat) : Option (List Byte) :=
  (findSingleParam lib data name paramValueSize).map (adlibCopyParam size)

/-- `string_to_enum`, with the entries of the table that are below the maximum. -/
def stringToEnum {α : Type} (table : List (α × List Byte)) (string : List Byte) : Option α :=
  (table.find? fun entry => entry.2 = string).map Prod.fst

/-- `JSON_STRING_TO_ENUM`. -/
def jsonStringToEnum {α : Type} (lib : JsonC) (data name : List Byte) (table : List (α × List Byte)) : Option α :=
  (findSingleParam lib data name paramValueSize).bind (stringToEnum table)

/-- What the macros keep of a parameter. -/
def keptText (text : List Byte) : List Byte := (cString text).take (paramValueSize - 1)

/-- A parameter of which nothing is lost. -/
def WholeText (text : List Byte) : Prop := (0 : Byte) ∉ text ∧ text.length < paramValueSize

instance (text : List Byte) : Decidable (WholeText text) := inferInstanceAs (Decidable (_ ∧ _))

theorem findSingleParam_eq (lib : JsonC) (data name : List Byte) :
    findSingleParam lib data name paramValueSize = (paramText lib data name).map keptText := if_neg (by decide)

theorem keptText_start (text : List Byte) : keptText text <+: text :=
  (List.take_prefix _ _).trans (List.takeWhile_prefix _)

theorem keptText_length (text : List Byte) : (keptText text).length ≤ text.length := (keptText_start text).length_le

theorem keptText_lt (text : List Byte) : (keptText text).length < paramValueSize := by
  have short : (keptText text).length ≤ paramValueSize - 1 := List.length_take_le _ _
  have positive : 0 < paramValueSize := by decide
  omega

theorem keptText_no_zero (text : List Byte) : (0 : Byte) ∉ keptText text := by
  intro member
  have inside : (0 : Byte) ∈ cString text := List.mem_of_mem_take member
  have other := List.mem_takeWhile_imp inside
  simp at other

/-- A text is kept when it has no NUL and fits. -/
theorem keptText_eq_iff {text : List Byte} : keptText text = text ↔ WholeText text := by
  constructor
  · intro same
    refine ⟨?_, ?_⟩
    · rw [← same]
      exact keptText_no_zero text
    · rw [← same]
      exact keptText_lt text
  · rintro ⟨noZero, short⟩
    have positive : 0 < paramValueSize := by decide
    rw [keptText, cString_of_no_zero noZero, List.take_of_length_le (by omega)]

/-- A packet field of at least that size loses nothing more. -/
theorem jsonStringToString_eq (lib : JsonC) (data name : List Byte) {size : Nat} (enough : paramValueSize ≤ size) :
    jsonStringToString lib data name size = (paramText lib data name).map keptText := by
  have copied : adlibCopyParam size ∘ keptText = keptText := by
    funext text
    have short := keptText_lt text
    exact List.take_of_length_le (by omega)
  rw [jsonStringToString, findSingleParam_eq, Option.map_map, copied]

/-- A request as a client writes it. -/
def requestObject (method : List Byte) (params : List (List Byte × Json)) : Json :=
  .object [(ascii "jsonrpc", .string (ascii "2.0")), (ascii "method", .string method), (ascii "params", .object params),
    (ascii "id", .int 1)]

def requestText (method : List Byte) (params : List (List Byte × Json)) : List Byte :=
  Proxy.spaced (requestObject method params)

/-- json-c on the text of that request. -/
def requestLib (method : List Byte) (params : List (List Byte × Json)) : JsonC :=
  { Proxy.sampleLib with
    tokenerParse := fun text => if text = requestText method params then some (requestObject method params) else none }

end JsonRpcTcp
