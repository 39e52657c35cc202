import JsonRpcTcp.Lib.Numeral
import JsonRpcTcp.SysRpc
import JsonRpcTcp.XmppState

namespace JsonRpcTcp

/-! The middleware registers, `read_byte` and `write_byte` and their wider siblings. -/

/-- `RPCMGR_MIDDLEWARE_PACKET`. -/
structure MiddlewarePacket where
  addr : UInt32
  byte : UInt8
  word : UInt16
  dword : UInt32
  deriving DecidableEq, Repr

/-- `RPC_SRV_REQ` with a middleware packet. -/
structure MiddlewareReq where
  action : RpcAct
  dataRef : MiddlewarePacket
  deriving DecidableEq, Repr

/-- The width of a register. -/
inductive MwWidth where
  | byte | word | dword
  deriving DecidableEq, Repr

def MwWidth.bits : MwWidth → Nat
  | .byte => 8
  | .word => 16
  | .dword => 32

/-- The value of that width in a packet. -/
def MiddlewarePacket.value (packet : MiddlewarePacket) : MwWidth → Nat
  | .byte => packet.byte.toNat
  | .word => packet.word.toNat
  | .dword => packet.dword.toNat

namespace Middleware

section Decoders
variable (lib : JsonC) (memory : Option MiddlewarePacket) (tmp : UInt64) (data : List Byte)

/-- `JSON_STRING_TO_ULONG`, into a variable that holds `tmp`. -/
def jsonStringToUlong (name : List Byte) (tmp : UInt64) : Except TaskResult UInt64 :=
  match findSingleParam lib data name paramValueSize with
  | none => .error .invalidParam
  | some paramValue => .ok ((scanUlong paramValue).elim tmp UInt64.ofNat)

/-- `PREPARE_JSON_REQUEST`. The packet is what memory held, if there was memory. -/
def prepareJsonRequest : Except TaskResult MiddlewarePacket :=
  match memory with
  | none => .error .memFail
  | some packet => .ok packet

/-- The decoders of the reads. -/
def jsonToBinGetMw : Except TaskResult MiddlewareReq := do
  let packet ← prepareJsonRequest memory
  let tmp ← jsonStringToUlong lib data (ascii "addr") tmp
  return { action := .read, dataRef := { packet with addr := tmp.toUInt32 } }

def jsonToBinGetMwByte : Except TaskResult MiddlewareReq := jsonToBinGetMw lib memory tmp data

def jsonToBinGetMwWord : Except TaskResult MiddlewareReq := jsonToBinGetMw lib memory tmp data

def jsonToBinGetMwDword : Except TaskResult MiddlewareReq := jsonToBinGetMw lib memory tmp data

/-- The decoders of the writes. One variable takes both numbers, and each decoder casts the second one
to a byte. -/
def jsonToBinSetMw (store : MiddlewarePacket → UInt8 → MiddlewarePacket) : Except TaskResult MiddlewareReq := do
  let packet ← prepareJsonRequest memory
  let tmp ← jsonStringToUlong lib data (ascii "addr") tmp
  let packet := { packet with addr := tmp.toUInt32 }
  let tmp ← jsonStringToUlong lib data (ascii "data") tmp
  return { action := .write, dataRef := store packet tmp.toUInt8 }

def jsonToBinSetMwByte : Except TaskResult MiddlewareReq :=
  jsonToBinSetMw lib memory tmp data fun packet value => { packet with byte := value }

def jsonToBinSetMwWord : Except TaskResult MiddlewareReq :=
  jsonToBinSetMw lib memory tmp data fun packet value => { packet with word := value.toUInt16 }

def jsonToBinSetMwDword : Except TaskResult MiddlewareReq :=
  jsonToBinSetMw lib memory tmp data fun packet value => { packet with dword := value.toUInt32 }

end Decoders

/-- `convert_server_result_to_string`. -/
def convertServerResultToString (result : RpcResult) : List Byte :=
  if result = .none then RpcResult.unknown.text else result.text

/-- `prepare_result_string` with a parameter that is an int. -/
def prepareResultString (result : RpcResult) (name : List Byte) (value : Int32) : Json :=
  .object [(ascii "return", .string (convertServerResultToString result)), (name, .int value.toInt)]

/-- `PREPARE_JSON_RESP_INT`. -/
def prepareJsonRespInt (result : RpcResult) (name : List Byte) (value : Int32) : Json :=
  if result = .success ∨ result = .inProg then prepareResultString result name value
  else .object [(ascii "return", .string (convertServerResultToString result))]

def binToJsonGetMwByte (result : RpcResult) (packet : MiddlewarePacket) : Json :=
  prepareJsonRespInt result (ascii "data") (Int32.ofNat packet.byte.toNat)

def binToJsonGetMwWord (result : RpcResult) (packet : MiddlewarePacket) : Json :=
  prepareJsonRespInt result (ascii "data") (Int32.ofNat packet.word.toNat)

def binToJsonGetMwDword (result : RpcResult) (packet : MiddlewarePacket) : Json :=
  prepareJsonRespInt result (ascii "data") packet.dword.toInt32

/-- The three reads. -/
def decodeGet (lib : JsonC) (memory : Option MiddlewarePacket) (tmp : UInt64) (data : List Byte) :
    MwWidth → Except TaskResult MiddlewareReq
  | .byte => jsonToBinGetMwByte lib memory tmp data
  | .word => jsonToBinGetMwWord lib memory tmp data
  | .dword => jsonToBinGetMwDword lib memory tmp data

/-- The three writes. -/
def decodeSet (lib : JsonC) (memory : Option MiddlewarePacket) (tmp : UInt64) (data : List Byte) :
    MwWidth → Except TaskResult MiddlewareReq
  | .byte => jsonToBinSetMwByte lib memory tmp data
  | .word => jsonToBinSetMwWord lib memory tmp data
  | .dword => jsonToBinSetMwDword lib memory tmp data

/-- The three responses to a read. -/
def encodeGet (result : RpcResult) (packet : MiddlewarePacket) : MwWidth → Json
  | .byte => binToJsonGetMwByte result packet
  | .word => binToJsonGetMwWord result packet
  | .dword => binToJsonGetMwDword result packet

/-- The response to a successful read reports a value. -/
def Reports (width : MwWidth) (packet : MiddlewarePacket) (value : Nat) : Prop :=
  ∃ reported : Int, ((encodeGet .success packet width).objectGet (ascii "data") = some (.int reported)) ∧ reported = value

section Property
variable (lib : JsonC) (memory : Option MiddlewarePacket) (tmp : UInt64) (data : List Byte) (width : MwWidth)
  (stored : MiddlewarePacket)

/-- Access to the registers is lossless: a write whose parameters are numerals in range has the values
modulo the widths of their fields, and reading them back reports them; no read and no write takes a
parameter that is no numeral; and a read reports the value that is stored. -/
structure Lossless : Prop where
  writes : ∀ addr value, paramText lib data (ascii "addr") = some addr → paramText lib data (ascii "data") = some value →
    Numeral addr → readNat addr < 2 ^ 64 → Numeral value → readNat value < 2 ^ 64 →
    ∃ req, decodeSet lib memory tmp data width = .ok req ∧ req.dataRef.addr.toNat = readNat addr % 2 ^ 32 ∧
      req.dataRef.value width = readNat value % 2 ^ width.bits ∧
      Reports width req.dataRef (readNat value % 2 ^ width.bits)
  rejectsAddr : ∀ addr, paramText lib data (ascii "addr") = some addr → ¬ Numeral addr →
    decodeGet lib memory tmp data width = .error .invalidParam ∧
      decodeSet lib memory tmp data width = .error .invalidParam
  rejectsData : ∀ value, paramText lib data (ascii "data") = some value → ¬ Numeral value →
    decodeSet lib memory tmp data width = .error .invalidParam
  reads : Reports width stored (stored.value width)

/-- There is memory for the packet of a write in range, what the macro keeps of the address has its
value modulo `2 ^ 32`, and the data fits in a byte, which is what is kept of it; every parameter that is
there is a numeral, but for the data of a write without an address; and the value that is stored is below
`2 ^ 31`. -/
structure Fits : Prop where
  writes : ∀ addr value, paramText lib data (ascii "addr") = some addr → paramText lib data (ascii "data") = some value →
    Numeral addr → readNat addr < 2 ^ 64 → Numeral value → readNat value < 2 ^ 64 →
    memory ≠ none ∧ readNat (keptText addr) % 2 ^ 32 = readNat addr % 2 ^ 32 ∧
      readNat (keptText value) % 2 ^ 8 = readNat value % 2 ^ width.bits
  addr : ∀ addr, paramText lib data (ascii "addr") = some addr → Numeral addr
  data : ∀ value, paramText lib data (ascii "data") = some value → ¬ Numeral value →
    memory ≠ none ∧ paramText lib data (ascii "addr") = none
  reads : stored.value width < 2 ^ 31

end Property

/-! What the decoders make of the parameters. -/

/-- What the macro makes of a parameter. -/
def scanned (text : List Byte) (tmp : UInt64) : UInt64 := (scanUlong (keptText text)).elim tmp UInt64.ofNat

/-- The field of a width. -/
def store : MwWidth → MiddlewarePacket → UInt8 → MiddlewarePacket
  | .byte, packet, value => { packet with byte := value }
  | .word, packet, value => { packet with word := value.toUInt16 }
  | .dword, packet, value => { packet with dword := value.toUInt32 }

theorem store_addr (width : MwWidth) (packet : MiddlewarePacket) (value : UInt8) :
    (store width packet value).addr = packet.addr := by
  cases width <;> rfl

theorem store_value (width : MwWidth) (packet : MiddlewarePacket) (value : UInt8) :
    (store width packet value).value width = value.toNat := by
  cases width with
  | byte => rfl
  | word => exact UInt8.toNat_toUInt16 value
  | dword => exact UInt8.toNat_toUInt32 value

section Decoding
variable {lib : JsonC} {memory : Option MiddlewarePacket} {tmp : UInt64} {data : List Byte}

theorem jsonStringToUlong_some {name text : List Byte} (found : paramText lib data name = some text) :
    jsonStringToUlong lib data name tmp = .ok (scanned text tmp) := by
  rw [jsonStringToUlong, findSingleParam_eq, found]
  rfl

theorem jsonStringToUlong_none {name : List Byte} (missing : paramText lib data name = none) :
    jsonStringToUlong lib data name tmp = .error .invalidParam := by
  rw [jsonStringToUlong, findSingleParam_eq, missing]
  rfl

theorem decodeSet_eq (width : MwWidth) :
    decodeSet lib memory tmp data width = jsonToBinSetMw lib memory tmp data (store width) := by
  cases width <;> rfl

theorem decodeGet_eq (width : MwWidth) : decodeGet lib memory tmp data width = jsonToBinGetMw lib memory tmp data := by
  cases width <;> rfl

/-- A write with both parameters always has a packet. -/
theorem decodeSet_some {packet : MiddlewarePacket} {addr value : List Byte} (width : MwWidth)
    (foundAddr : paramText lib data (ascii "addr") = some addr) (foundValue : paramText lib data (ascii "data") = some value) :
    decodeSet lib (some packet) tmp data width = .ok
      { action := .write,
        dataRef := store width { packet with addr := (scanned addr tmp).toUInt32 }
          (scanned value (scanned addr tmp)).toUInt8 } := by
  rw [decodeSet_eq, jsonToBinSetMw, prepareJsonRequest, jsonStringToUlong_some foundAddr]
  dsimp only [Except.bind, bind]
  rw [jsonStringToUlong_some foundValue]
  rfl

theorem decodeSet_no_addr {packet : MiddlewarePacket} (width : MwWidth)
    (missing : paramText lib data (ascii "addr") = none) :
    decodeSet lib (some packet) tmp data width = .error .invalidParam := by
  rw [decodeSet_eq, jsonToBinSetMw, prepareJsonRequest, jsonStringToUlong_none missing]
  rfl

theorem decodeGet_some {packet : MiddlewarePacket} {addr : List Byte} (width : MwWidth)
    (found : paramText lib data (ascii "addr") = some addr) :
    decodeGet lib (some packet) tmp data width =
      .ok { action := .read, dataRef := { packet with addr := (scanned addr tmp).toUInt32 } } := by
  rw [decodeGet_eq, jsonToBinGetMw, prepareJsonRequest, jsonStringToUlong_some found]
  rfl

theorem decodeSet_no_memory (width : MwWidth) : decodeSet lib none tmp data width = .error .memFail := by
  rw [decodeSet_eq]
  rfl

theorem decodeGet_no_memory (width : MwWidth) : decodeGet lib none tmp data width = .error .memFail := by
  rw [decodeGet_eq]
  rfl

end Decoding

/-- Of a numeral, the macro makes the value of what it keeps. -/
theorem scanned_numeral {text : List Byte} (numeral : Numeral text) (small : readNat text < 2 ^ 64) (tmp : UInt64) :
    scanned text tmp = UInt64.ofNat (readNat (keptText text)) ∧ readNat (keptText text) < 2 ^ 64 := by
  have noZero : (0 : Byte) ∉ text := by
    intro member
    exact absurd (numeral.2 0 member) (by decide)
  have nonempty : keptText text ≠ [] := by
    obtain ⟨c, rest, same⟩ := List.exists_cons_of_ne_nil numeral.1
    rw [keptText, cString_of_no_zero noZero, same]
    exact List.cons_ne_nil c _
  have kept := numeral.of_prefix (keptText_start text) nonempty
  have below := readNat_prefix_le numeral.2 (keptText_start text)
  have inRange : readNat (keptText text) < 2 ^ 64 := by omega
  rw [scanned, scanUlong_numeral kept inRange]
  exact ⟨rfl, inRange⟩

theorem toUInt32_ofNat {n : Nat} (small : n < 2 ^ 64) : (UInt64.ofNat n).toUInt32.toNat = n % 2 ^ 32 := by
  rw [UInt64.toNat_toUInt32, UInt64.toNat_ofNat', Nat.mod_eq_of_lt small]

theorem toUInt8_ofNat {n : Nat} (small : n < 2 ^ 64) : (UInt64.ofNat n).toUInt8.toNat = n % 2 ^ 8 := by
  rw [UInt64.toNat_toUInt8, UInt64.toNat_ofNat', Nat.mod_eq_of_lt small]

/-! What a read reports. -/

/-- The int in the response. -/
def reportedInt (packet : MiddlewarePacket) : MwWidth → Int32
  | .byte => Int32.ofNat packet.byte.toNat
  | .word => Int32.ofNat packet.word.toNat
  | .dword => packet.dword.toInt32

theorem encodeGet_data (packet : MiddlewarePacket) (width : MwWidth) :
    (encodeGet .success packet width).objectGet (ascii "data") = some (.int (reportedInt packet width).toInt) := by
  have other : (ascii "data" == ascii "return") = false := by decide +kernel
  have read : ∀ value : Int32, (prepareJsonRespInt .success (ascii "data") value).objectGet (ascii "data") =
      some (.int value.toInt) := by
    intro value
    simp only [prepareJsonRespInt, prepareResultString, true_or, if_true, Json.objectGet, Json.member, List.lookup_cons,
      other, beq_self_eq_true]
  cases width with
  | byte => exact read _
  | word => exact read _
  | dword => exact read _

/-- The int is the value where it is below `2 ^ 31`, and negative elsewhere. -/
theorem reportedInt_toInt (packet : MiddlewarePacket) (width : MwWidth) :
    (reportedInt packet width).toInt =
      if packet.value width < 2 ^ 31 then (packet.value width : Int) else packet.value width - 2 ^ 32 := by
  cases width with
  | byte =>
    have bound := packet.byte.toNat_lt
    have small : packet.byte.toNat < 2 ^ 31 := by omega
    rw [MiddlewarePacket.value, if_pos small]
    exact Int32.toInt_ofNat_of_lt small
  | word =>
    have bound := packet.word.toNat_lt
    have small : packet.word.toNat < 2 ^ 31 := by omega
    rw [MiddlewarePacket.value, if_pos small]
    exact Int32.toInt_ofNat_of_lt small
  | dword =>
    have bits : packet.dword.toInt32.toInt = packet.dword.toBitVec.toInt := rfl
    have bound := packet.dword.toNat_lt
    have same : packet.dword.toBitVec.toNat = packet.dword.toNat := rfl
    rw [MiddlewarePacket.value, reportedInt, bits, BitVec.toInt_eq_toNat_cond, same]
    split_ifs <;> omega

theorem reports_iff (width : MwWidth) (packet : MiddlewarePacket) :
    Reports width packet (packet.value width) ↔ packet.value width < 2 ^ 31 := by
  have reported := encodeGet_data packet width
  have int := reportedInt_toInt packet width
  constructor
  · rintro ⟨value, read, same⟩
    rw [reported] at read
    have equal : (reportedInt packet width).toInt = value := Json.int.inj (Option.some.inj read)
    by_contra large
    rw [if_neg large] at int
    omega
  · intro small
    rw [if_pos small] at int
    exact ⟨_, reported, int⟩

/-- What a write of numerals puts into the packet. -/
theorem write_numerals {lib : JsonC} (packet : MiddlewarePacket) (tmp : UInt64) {data addr value : List Byte}
    (width : MwWidth) (foundAddr : paramText lib data (ascii "addr") = some addr)
    (foundValue : paramText lib data (ascii "data") = some value) (numeralAddr : Numeral addr)
    (smallAddr : readNat addr < 2 ^ 64) (numeralValue : Numeral value) (smallValue : readNat value < 2 ^ 64) :
    ∃ req, decodeSet lib (some packet) tmp data width = .ok req ∧
      req.dataRef.addr.toNat = readNat (keptText addr) % 2 ^ 32 ∧
      req.dataRef.value width = readNat (keptText value) % 2 ^ 8 := by
  obtain ⟨scannedAddr, inRangeAddr⟩ := scanned_numeral numeralAddr smallAddr tmp
  obtain ⟨scannedValue, inRangeValue⟩ := scanned_numeral numeralValue smallValue (scanned addr tmp)
  refine ⟨_, decodeSet_some width foundAddr foundValue, ?_, ?_⟩
  · rw [store_addr, scannedAddr]
    exact toUInt32_ofNat inRangeAddr
  · rw [store_value, scannedValue]
    exact toUInt8_ofNat inRangeValue

/-- Access to the registers is lossless exactly when the parameters and the stored value fit. -/
theorem middleware_lossless (lib : JsonC) (memory : Option MiddlewarePacket) (tmp : UInt64) (data : List Byte)
    (width : MwWidth) (stored : MiddlewarePacket) :
    Lossless lib memory tmp data width stored ↔ Fits lib memory data width stored := by
  constructor
  · intro lossless
    refine ⟨?_, ?_, ?_, (reports_iff width stored).mp lossless.reads⟩
    · intro addr value foundAddr foundValue numeralAddr smallAddr numeralValue smallValue
      obtain ⟨req, decoded, addrKept, valueKept, _⟩ :=
        lossless.writes addr value foundAddr foundValue numeralAddr smallAddr
        numeralValue smallValue
      cases room : memory with
      | none =>
        rw [room, decodeSet_no_memory] at decoded
        cases decoded
      | some packet =>
        rw [room] at decoded
        obtain ⟨made, same, addrMade, valueMade⟩ := write_numerals packet tmp width foundAddr foundValue
          numeralAddr smallAddr numeralValue smallValue
        rw [same] at decoded
        cases decoded
        rw [addrMade] at addrKept
        rw [valueMade] at valueKept
        exact ⟨Option.some_ne_none packet, addrKept, valueKept⟩
    · intro addr found
      by_contra noNumeral
      have rejected := (lossless.rejectsAddr addr found noNumeral).1
      cases room : memory with
      | none =>
        rw [room, decodeGet_no_memory] at rejected
        cases rejected
      | some packet =>
        rw [room, decodeGet_some width found] at rejected
        cases rejected
    · intro value found noNumeral
      have rejected := lossless.rejectsData value found noNumeral
      cases room : memory with
      | none =>
        rw [room, decodeSet_no_memory] at rejected
        cases rejected
      | some packet =>
        refine ⟨Option.some_ne_none packet, ?_⟩
        by_contra present
        obtain ⟨addr, foundAddr⟩ := Option.ne_none_iff_exists'.mp present
        rw [room, decodeSet_some width foundAddr found] at rejected
        cases rejected
  · intro fits
    refine ⟨?_, ?_, ?_, (reports_iff width stored).mpr fits.reads⟩
    · intro addr value foundAddr foundValue numeralAddr smallAddr numeralValue smallValue
      obtain ⟨room, addrKept, valueKept⟩ := fits.writes addr value foundAddr foundValue numeralAddr smallAddr numeralValue
        smallValue
      obtain ⟨packet, found⟩ := Option.ne_none_iff_exists'.mp room
      obtain ⟨req, decoded, addrMade, valueMade⟩ := write_numerals packet tmp width foundAddr foundValue
        numeralAddr smallAddr numeralValue smallValue
      -- a byte is below `2 ^ 31`, so that the read reports it
      have small : req.dataRef.value width < 2 ^ 31 := by
        have byte := Nat.mod_lt (readNat (keptText value)) (show 2 ^ 8 > 0 by decide)
        omega
      have reported := (reports_iff width req.dataRef).mpr small
      have written : req.dataRef.value width = readNat value % 2 ^ width.bits := by
        rw [valueMade]
        exact valueKept
      rw [written] at reported
      rw [found]
      exact ⟨req, decoded, by rw [addrMade]; exact addrKept, written, reported⟩
    · intro addr found noNumeral
      exact absurd (fits.addr addr found) noNumeral
    · intro value found noNumeral
      obtain ⟨room, missing⟩ := fits.data value found noNumeral
      obtain ⟨packet, same⟩ := Option.ne_none_iff_exists'.mp room
      rw [same]
      exact decodeSet_no_addr width missing

/-- For numerals of fewer than 255 digits, a write is lossless where the data fits in a byte. -/
theorem short_numeral_fits {value : List Byte} (numeral : Numeral value) (short : value.length < paramValueSize)
    (width : MwWidth) :
    readNat (keptText value) % 2 ^ 8 = readNat value % 2 ^ width.bits ↔ readNat value % 2 ^ width.bits < 2 ^ 8 := by
  have noZero : (0 : Byte) ∉ value := by
    intro member
    exact absurd (numeral.2 0 member) (by decide)
  rw [keptText_eq_iff.mpr ⟨noZero, short⟩]
  have byte := Nat.mod_lt (readNat value) (show 2 ^ 8 > 0 by decide)
  cases width with
  | byte => exact iff_of_true rfl byte
  | word =>
    show readNat value % 2 ^ 8 = readNat value % 2 ^ 16 ↔ readNat value % 2 ^ 16 < 2 ^ 8
    omega
  | dword =>
    show readNat value % 2 ^ 8 = readNat value % 2 ^ 32 ↔ readNat value % 2 ^ 32 < 2 ^ 8
    omega

/-- The word 300 is written as 44. -/
def writeParams : List (List Byte × Json) :=
  [(ascii "addr", .string (ascii "16")), (ascii "data", .string (ascii "300"))]

def writeLib : JsonC := requestLib (ascii "write_word") writeParams

def writeText : List Byte := requestText (ascii "write_word") writeParams

def emptyPacket : MiddlewarePacket := { addr := 0, byte := 0, word := 0, dword := 0 }

theorem word_loses_high_byte :
    decodeSet writeLib (some emptyPacket) 0 writeText .word =
        .ok { action := .write, dataRef := { addr := 16, byte := 0, word := 44, dword := 0 } } ∧
      ¬ Lossless writeLib (some emptyPacket) 0 writeText .word emptyPacket := by
  have decoded : decodeSet writeLib (some emptyPacket) 0 writeText .word =
      .ok { action := .write, dataRef := { addr := 16, byte := 0, word := 44, dword := 0 } } := by decide +kernel
  refine ⟨decoded, ?_⟩
  intro lossless
  obtain ⟨req, same, _, value, _⟩ := lossless.writes (ascii "16") (ascii "300") (by decide +kernel) (by decide +kernel)
    (by decide +kernel) (by decide +kernel) (by decide +kernel) (by decide +kernel)
  rw [decoded] at same
  cases same
  have wrong : (44 : Nat) ≠ readNat (ascii "300") % 2 ^ 16 := by decide +kernel
  exact wrong value

end Middleware
end JsonRpcTcp
