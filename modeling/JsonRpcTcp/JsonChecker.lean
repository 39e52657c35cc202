import JsonRpcTcp.Framer

namespace JsonRpcTcp

/-! The pushdown automaton of `ADJsonChecker.cpp`, which looks at a request
before json-c parses it. -/

/-- `enum classes`. -/
inductive CharClass where
  | space | white | lcurb | rcurb | lsqrb | rsqrb | colon | comma | quote | backs | slash | plus | minus
  | point | zero | digit | lowA | lowB | lowC | lowD | lowE | lowF | lowL | lowN | lowR | lowS | lowT | lowU
  | abcdf | e | etc
  deriving DecidableEq, Repr

/-- `enum states`. -/
inductive CheckerState where
  | go | ok | ob | ke | co | va | ar | st | es | u1 | u2 | u3 | u4 | mi | ze | int | fr | e1 | e2 | e3
  | t1 | t2 | t3 | f1 | f2 | f3 | f4 | n1 | n2 | n3
  deriving DecidableEq, Repr

/-- `enum modes`. -/
inductive CheckerMode where
  | array | done | key | object
  deriving DecidableEq, Repr

/-- An entry of `state_transition_table`: a state, or one of the negative numbers
from `__` (-1) down to -9. -/
inductive CheckerMove where
  | enter (next : CheckerState)
  | bad
  | colon
  | comma
  | quote
  | openArray
  | openObject
  | closeArray
  | closeObject
  | closeEmpty
  deriving DecidableEq, Repr

/-- `ascii_class`, and `C_ETC` for the bytes from 128 on. The bytes of class `__`
have none. -/
def charClass (c : Byte) : Option CharClass :=
  if c < 0x20 then if c == 0x09 || c == 0x0a || c == 0x0d then some .white else none
  else if c == 0x20 then some .space
  else if c == 0x22 then some .quote
  else if c == 0x2b then some .plus
  else if c == 0x2c then some .comma
  else if c == 0x2d then some .minus
  else if c == 0x2e then some .point
  else if c == 0x2f then some .slash
  else if c == 0x30 then some .zero
  else if 0x31 ≤ c && c ≤ 0x39 then some .digit
  else if c == 0x3a then some .colon
  else if c == 0x45 then some .e
  else if 0x41 ≤ c && c ≤ 0x46 then some .abcdf
  else if c == 0x5b then some .lsqrb
  else if c == 0x5c then some .backs
  else if c == 0x5d then some .rsqrb
  else if c == 0x61 then some .lowA
  else if c == 0x62 then some .lowB
  else if c == 0x63 then some .lowC
  else if c == 0x64 then some .lowD
  else if c == 0x65 then some .lowE
  else if c == 0x66 then some .lowF
  else if c == 0x6c then some .lowL
  else if c == 0x6e then some .lowN
  else if c == 0x72 then some .lowR
  else if c == 0x73 then some .lowS
  else if c == 0x74 then some .lowT
  else if c == 0x75 then some .lowU
  else if c == 0x7b then some .lcurb
  else if c == 0x7d then some .rcurb
  else some .etc

/-- The part that the rows of `OK`, `ZE`, `IN`, `FR` and `E3` share: a value ends. -/
def afterValue : CharClass → CheckerMove
  | .space | .white => .enter .ok
  | .rcurb => .closeObject
  | .rsqrb => .closeArray
  | .comma => .comma
  | _ => .bad

/-- The part that the rows of `VA` and `AR` share: a value begins. -/
def beginValue (blank : CheckerState) : CharClass → CheckerMove
  | .space | .white => .enter blank
  | .lcurb => .openObject
  | .lsqrb => .openArray
  | .quote => .enter .st
  | .minus => .enter .mi
  | .zero => .enter .ze
  | .digit => .enter .int
  | .lowF => .enter .f1
  | .lowN => .enter .n1
  | .lowT => .enter .t1
  | _ => .bad

/-- The rows of `U1` to `U4`. -/
def hexDigit (next : CheckerState) : CharClass → CheckerMove
  | .zero | .digit | .lowA | .lowB | .lowC | .lowD | .lowE | .lowF | .abcdf | .e => .enter next
  | _ => .bad

/-- A row with a single entry: the letters of `true`, `false` and `null`. -/
def oneLetter (letter : CharClass) (next : CheckerState) (cls : CharClass) : CheckerMove :=
  if cls = letter then .enter next else .bad

/-- `state_transition_table`. -/
def stateTransition : CheckerState → CharClass → CheckerMove
  | .go, cls => match cls with
    | .space | .white => .enter .go
    | .lcurb => .openObject
    | .lsqrb => .openArray
    | _ => .bad
  | .ok, cls => afterValue cls
  | .ob, cls => match cls with
    | .space | .white => .enter .ob
    | .rcurb => .closeEmpty
    | .quote => .enter .st
    | _ => .bad
  | .ke, cls => match cls with
    | .space | .white => .enter .ke
    | .quote => .enter .st
    | _ => .bad
  | .co, cls => match cls with
    | .space | .white => .enter .co
    | .colon => .colon
    | _ => .bad
  | .va, cls => beginValue .va cls
  | .ar, cls => if cls = .rsqrb then .closeArray else beginValue .ar cls
  | .st, cls => match cls with
    | .white => .bad
    | .quote => .quote
    | .backs => .enter .es
    | _ => .enter .st
  | .es, cls => match cls with
    | .quote | .backs | .slash | .lowB | .lowF | .lowN | .lowR | .lowT => .enter .st
    | .lowU => .enter .u1
    | _ => .bad
  | .u1, cls => hexDigit .u2 cls
  | .u2, cls => hexDigit .u3 cls
  | .u3, cls => hexDigit .u4 cls
  | .u4, cls => hexDigit .st cls
  | .mi, cls => match cls with
    | .zero => .enter .ze
    | .digit => .enter .int
    | _ => .bad
  | .ze, cls => if cls = .point then .enter .fr else afterValue cls
  | .int, cls => match cls with
    | .point => .enter .fr
    | .zero | .digit => .enter .int
    | .lowE | .e => .enter .e1
    | _ => afterValue cls
  | .fr, cls => match cls with
    | .zero | .digit => .enter .fr
    | .lowE | .e => .enter .e1
    | _ => afterValue cls
  | .e1, cls => match cls with
    | .plus | .minus => .enter .e2
    | .zero | .digit => .enter .e3
    | _ => .bad
  | .e2, cls => match cls with
    | .zero | .digit => .enter .e3
    | _ => .bad
  | .e3, cls => match cls with
    | .zero | .digit => .enter .e3
    | _ => afterValue cls
  | .t1, cls => oneLetter .lowR .t2 cls
  | .t2, cls => oneLetter .lowU .t3 cls
  | .t3, cls => oneLetter .lowE .ok cls
  | .f1, cls => oneLetter .lowA .f2 cls
  | .f2, cls => oneLetter .lowL .f3 cls
  | .f3, cls => oneLetter .lowS .f4 cls
  | .f4, cls => oneLetter .lowE .ok cls
  | .n1, cls => oneLetter .lowU .n2 cls
  | .n2, cls => oneLetter .lowL .n3 cls
  | .n3, cls => oneLetter .lowL .ok cls

/-- `JSON_checker_struct`. The top of the stack is the head of the list. -/
structure JsonChecker where
  state : CheckerState
  depth : Nat
  stack : List CheckerMode
  deriving DecidableEq, Repr

namespace JsonChecker

/-- `push`, or `none` where the source returns false and gives the checker up. -/
def push (jc : JsonChecker) (mode : CheckerMode) : Option JsonChecker :=
  if jc.stack.length ≥ jc.depth then none else some { jc with stack := mode :: jc.stack }

def pop (jc : JsonChecker) (mode : CheckerMode) : Option JsonChecker :=
  match jc.stack with
  | [] => none
  | top :: rest => if top = mode then some { jc with stack := rest } else none

/-- `new_JSON_checker`. It does not look at the result of its `push`. -/
def new (depth : Nat) : JsonChecker :=
  let jc : JsonChecker := { state := .go, depth := depth, stack := [] }
  (jc.push .done).getD jc

def enter (jc : JsonChecker) (state : CheckerState) : JsonChecker := { jc with state := state }

/-- `JSON_checker_char`, or `none` where the byte is rejected. -/
def char (jc : JsonChecker) (nextChar : Byte) : Option JsonChecker := do
  let nextClass ← charClass nextChar
  match stateTransition jc.state nextClass with
  | .enter next => return jc.enter next
  | .closeEmpty => return (← jc.pop .key).enter .ok
  | .closeObject => return (← jc.pop .object).enter .ok
  | .closeArray => return (← jc.pop .array).enter .ok
  | .openObject => return (← jc.push .key).enter .ob
  | .openArray => return (← jc.push .array).enter .ar
  | .quote => match jc.stack with
    | .key :: _ => return jc.enter .co
    | .array :: _ | .object :: _ => return jc.enter .ok
    | _ => none
  | .comma => match jc.stack with
    | .object :: _ => return (← (← jc.pop .object).push .key).enter .ke
    | .array :: _ => return jc.enter .va
    | _ => none
  | .colon => return (← (← jc.pop .key).push .object).enter .va
  | .bad => none

/-- `JSON_checker_done`. -/
def done (jc : JsonChecker) : Bool := jc.state == .ok && (jc.pop .done).isSome

end JsonChecker

/-- The bytes of a NUL-terminated string. -/
def cString (data : List Byte) : List Byte := data.takeWhile (· != 0)

theorem cString_of_no_zero {str : List Byte} (noZero : (0 : Byte) ∉ str) : cString str = str := by
  refine List.takeWhile_eq_self_iff.mpr ?_
  intro c member
  refine bne_iff_ne.mpr ?_
  intro zero
  exact noZero (zero ▸ member)

/-- `json_checker_function`. -/
def jsonCheckerFunction (data : List Byte) : Int :=
  match (cString data).foldlM JsonChecker.char (JsonChecker.new 20) with
  | none => -1
  | some jc => if jc.done then 0 else -1

end JsonRpcTcp
