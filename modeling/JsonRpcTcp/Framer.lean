import JsonRpcTcp.Lib.Transducer

namespace JsonRpcTcp

abbrev Byte := UInt8

abbrev space : Byte := 0x20
abbrev newline : Byte := 0x0a

/-- The bytes of an ASCII text. -/
def ascii (text : String) : List Byte := text.toList.map fun c => UInt8.ofNat c.toNat

/-- The bytes that `feed` skips between two messages. -/
def isSeparator (c : Byte) : Bool :=
  c == 0x20 || c == 0x09 || c == 0x0d || c == 0x0a || c == 0x00 || c == 0x2c

def isOpening (c : Byte) : Bool := c == 0x7b || c == 0x5b

def isClosing (c : Byte) : Bool := c == 0x7d || c == 0x5d

def isQuote (c : Byte) : Bool := c == 0x22

def isBackslash (c : Byte) : Bool := c == 0x5c

/-- `ADJsonStreamFramer`. `scan` is the next byte of `buf` to look at, `start`
the first byte of the current message (valid while `depth` is positive). -/
structure Framer where
  buf : List Byte
  ready : List (List Byte)
  maxMsg : Nat
  scan : Nat
  start : Nat
  depth : Nat
  inString : Bool
  escape : Bool
  error : Bool
  deriving DecidableEq, Repr

namespace Framer

/-- The constructor of `ADJsonStreamFramer`. -/
def new (maxMsgSize : Nat) : Framer :=
  { buf := [], ready := [], maxMsg := maxMsgSize, scan := 0, start := 0, depth := 0,
    inString := false, escape := false, error := false }

def reset (f : Framer) : Framer :=
  { f with buf := [], ready := [], scan := 0, start := 0, depth := 0,
           inString := false, escape := false, error := false }

def pendingBytes (f : Framer) : Nat := f.buf.length

def available (f : Framer) : Nat := f.ready.length

def hasError (f : Framer) : Bool := f.error

/-- `next`: the popped message, or `none` where the source returns false. -/
def next (f : Framer) : Option (List Byte) × Framer :=
  match f.ready with
  | [] => (none, f)
  | message :: rest => (some message, { f with ready := rest })

/-- The body of the loop of `feed` at the byte `c = buf[scan]`, with the local
`consumed` of `feed`. The loop is left when `error` is set. -/
def scanByte (f : Framer) (consumed : Nat) (c : Byte) : Framer × Nat :=
  if f.depth = 0 then
    if isSeparator c then (f, f.scan + 1)
    else if !isOpening c then ({ f with error := true }, consumed)
    else ({ f with start := f.scan, depth := 1, inString := false, escape := false }, consumed)
  else if f.scan - f.start + 1 > f.maxMsg then ({ f with error := true }, consumed)
  else if f.inString then
    if f.escape then ({ f with escape := false }, consumed)
    else if isBackslash c then ({ f with escape := true }, consumed)
    else if isQuote c then ({ f with inString := false }, consumed)
    else (f, consumed)
  else if isQuote c then ({ f with inString := true }, consumed)
  else if isOpening c then ({ f with depth := f.depth + 1 }, consumed)
  else if isClosing c then
    if f.depth - 1 = 0 then
      ({ f with depth := f.depth - 1
                ready := f.ready ++ [(f.buf.drop f.start).take (f.scan - f.start + 1)] }, f.scan + 1)
    else ({ f with depth := f.depth - 1 }, consumed)
  else (f, consumed)

/-- The loop of `feed` over the bytes of `buf` from `scan` on. -/
def scanLoop : List Byte → Framer → Nat → Framer × Nat
  | [], f, consumed => (f, consumed)
  | c :: rest, f, consumed =>
    if (f.scanByte consumed c).1.error then f.scanByte consumed c
    else scanLoop rest { (f.scanByte consumed c).1 with scan := (f.scanByte consumed c).1.scan + 1 }
      (f.scanByte consumed c).2

/-- The end of `feed` after an error. -/
def abandon (f : Framer) : Framer :=
  { f with buf := [], scan := 0, start := 0, depth := 0 }

/-- The end of `feed` without an error: drop the bytes no longer needed. -/
def compact (f : Framer) (consumed : Nat) : Framer :=
  let unneeded := if 0 < f.depth ∧ consumed < f.start then f.start else consumed
  if 0 < unneeded then
    { f with buf := f.buf.drop unneeded, scan := f.scan - unneeded,
             start := if 0 < f.depth then f.start - unneeded else f.start }
  else f

def append (f : Framer) (data : List Byte) : Framer := { f with buf := f.buf ++ data }

/-- `feed`: the returned int and the new state. The number of ready messages
is cast to a 32-bit int as in the source. A null pointer is an empty chunk. -/
def feed (f : Framer) (data : List Byte) : Int × Framer :=
  if f.error then (-1, f)
  else
    let looped := scanLoop ((f.append data).buf.drop f.scan) (f.append data) 0
    if looped.1.error then (-1, looped.1.abandon)
    else ((looped.1.ready.length : Int).bmod (2 ^ 32), looped.1.compact looped.2)

end Framer

/-- What a user of one framer can do between two resets. -/
inductive FramerCall where
  | feed (chunk : List Byte)
  | next
  deriving DecidableEq, Repr

namespace FramerCall

/-- One call: the message it pops, if any, and the new framer. -/
def perform (f : Framer) : FramerCall → List (List Byte) × Framer
  | .feed chunk => ([], (f.feed chunk).2)
  | .next => (f.next.1.toList, f.next.2)

/-- A sequence of calls: the messages popped, in order, and the last framer. -/
def performAll (f : Framer) : List FramerCall → List (List Byte) × Framer
  | [] => ([], f)
  | call :: calls =>
    ((call.perform f).1 ++ (performAll (call.perform f).2 calls).1,
      (performAll (call.perform f).2 calls).2)

/-- The bytes that a sequence of calls feeds, joined. -/
def stream : List FramerCall → List Byte
  | [] => []
  | .feed chunk :: calls => chunk ++ stream calls
  | .next :: calls => stream calls

end FramerCall

end JsonRpcTcp
