import JsonRpcTcp.Framer

namespace JsonRpcTcp

/-! Descriptors are numbers (`fd`, `sockDescriptor`) and are reused. A connection
as the kernel knows it (`conn`) is the number of the accept that made it, so no
two connections share it. -/

/-- `FD_SETSIZE`. -/
def fdSetSize : Nat := 1024

/-- `AD_NET_SERVER_MAX_PENDING_PER_CONN`. -/
def maxPendingPerConn : Int := 256

/-- `AD_NET_SERVER_MAX_JSON_MSG_SIZE`. -/
def maxJsonMsgSize : Nat := 256 * 1024

/-- The bytes one `recv` may return: `sizeof(receive_buffer) - 1`. -/
def maxReceive : Nat := 0xffff - 1

/-- `AD_NET_SERVER_SEND_WAIT_BUDGET_MS`. -/
def sendWaitBudgetMs : Int := 5000

/-- `AD_NET_SERVER_SEND_WAIT_WINDOW_MS`. -/
def sendWaitWindowMs : Int := 60000

/-- The text of `send_protocol_error`:
`{ "jsonrpc": "2.0", "error": { "code": -32700, "message": "Parse error." }, "id": null }`. -/
def protocolErrorText : List Byte :=
  [0x7b, 0x20, 0x22, 0x6a, 0x73, 0x6f, 0x6e, 0x72, 0x70, 0x63, 0x22, 0x3a, 0x20, 0x22, 0x32, 0x2e,
   0x30, 0x22, 0x2c, 0x20, 0x22, 0x65, 0x72, 0x72, 0x6f, 0x72, 0x22, 0x3a, 0x20, 0x7b, 0x20, 0x22,
   0x63, 0x6f, 0x64, 0x65, 0x22, 0x3a, 0x20, 0x2d, 0x33, 0x32, 0x37, 0x30, 0x30, 0x2c, 0x20, 0x22,
   0x6d, 0x65, 0x73, 0x73, 0x61, 0x67, 0x65, 0x22, 0x3a, 0x20, 0x22, 0x50, 0x61, 0x72, 0x73, 0x65,
   0x20, 0x65, 0x72, 0x72, 0x6f, 0x72, 0x2e, 0x22, 0x20, 0x7d, 0x2c, 0x20, 0x22, 0x69, 0x64, 0x22,
   0x3a, 0x20, 0x6e, 0x75, 0x6c, 0x6c, 0x20, 0x7d]

/-- The record of a connection in `clientInfo_chain`. `conn` is not in the
source: it names the connection the record was made for. -/
structure ClientInfo where
  ident : Int
  sockDescriptor : Nat
  port : Int
  ip : List Byte
  conn : Nat
  deriving DecidableEq, Repr

/-- A request in `request_chain` and later in the hands of the RPC threads. The
last two fields are not in the source: the position of the request among all
admitted ones, and the connections whose bytes had been fed to its framer. -/
structure Request where
  ident : Int
  sockDescriptor : Nat
  port : Int
  ip : List Byte
  cltid : Int
  data : List Byte
  serial : Nat
  arrivedOn : List Nat
  deriving DecidableEq, Repr

/-- A response in `response_chain`. `request` is not in the source: it names the
request that was answered. -/
structure Response where
  sockDescriptor : Nat
  cltid : Int
  data : List Byte
  request : Request
  deriving DecidableEq, Repr

/-- `conn_pending`. -/
structure ConnPending where
  count : Int := 0
  paused : Bool := false
  dead : Bool := false
  waitMs : Int := 0
  windowStartMs : Int := 0
  deriving DecidableEq, Repr

abbrev PendingMap := Int → Option ConnPending

/-- A framer in `framers`. `fedBy` is not in the source: the connections whose
bytes were fed to it. -/
structure FramerEntry where
  framer : Framer
  fedBy : List Nat
  deriving DecidableEq, Repr

/-- Bytes that the kernel accepted in one `send`, with the response they belong
to (or none for the protocol error) and their offset in its text. -/
structure Piece where
  source : Option Response
  offset : Nat
  bytes : List Byte
  deriving DecidableEq, Repr

/-- The kernel's side of a connection: what was sent to the peer, and whether
`shutdown` ended it. -/
structure Socket where
  sent : List Piece := []
  shut : Bool := false
  deriving DecidableEq, Repr

/-- Who called `queue_framed_requests`: the receive loop, with the result of
`feed` and the descriptors that `select` reported after this one, or
`resume_paused_connections`, with the place its iterator has moved on to. -/
inductive QueueCaller where
  | receive (frc : Int) (ready : List Nat)
  | resume (cursor : Nat)
  deriving DecidableEq, Repr

/-- Program points of the listen thread. `ready` are the descriptors that
`select` reported and the loop has not looked at yet. -/
inductive ListenPc where
  | top
  | scanning (ready : List Nat)
  | accepting (ready : List Nat)
  | registering (newSd : Nat) (ready : List Nat)
  | receiving (fd : Nat) (ready : List Nat)
  | checking (fd : Nat) (caller : QueueCaller)
  | admitting (fd : Nat) (info : ClientInfo) (queued : Nat) (caller : QueueCaller)
  | queueing (fd : Nat) (info : ClientInfo) (queued : Nat) (caller : QueueCaller)
  | releasing (fd : Nat) (info : ClientInfo) (queued : Nat) (caller : QueueCaller)
  | releaseWake (fd : Nat) (queued : Nat) (caller : QueueCaller)
  | notifying (fd : Nat) (paused : Bool) (caller : QueueCaller)
  | returning (fd : Nat) (paused : Bool) (caller : QueueCaller)
  | protocolError (fd : Nat) (ready : List Nat)
  | closing (fd : Nat) (ready : List Nat)
  | deregistering (fd : Nat) (ready : List Nat)
  | closeFd (fd : Nat) (ready : List Nat)
  | resuming (cursor : Nat)
  | loopEnd
  | exited
  deriving DecidableEq, Repr

/-- Program points of the response thread, with the response it works on, the
dup of its socket and the number of bytes sent. `wake` is the local of the same
name in `drop_connection` and `response_done`. -/
inductive ResponsePc where
  | idle
  | checking (resp : Response)
  | dupping (resp : Response)
  | sending (resp : Response) (dup : Nat) (sent : Nat)
  | dropping (resp : Response) (dup : Nat) (sent : Nat)
  | shutting (resp : Response) (dup : Nat) (sent : Nat) (wake : Bool)
  | dropWake (resp : Response) (dup : Nat)
  | closingDup (resp : Response) (dup : Nat)
  | finishing (resp : Response)
  | doneWake
  deriving DecidableEq, Repr

/-- The descriptors of the server itself. -/
structure Descriptors where
  listenSd : Nat
  wakeIn : Nat
  wakeOut : Nat
  distinct : listenSd ≠ wakeIn

/-- `ADNetServer` in JSON mode with its threads, the kernel objects it uses and
the RPC threads as far as the server sees them. -/
structure Server where
  -- the listen thread
  pc : ListenPc
  masterSet : Finset Nat
  maxSd : Nat
  framers : Nat → Option FramerEntry
  pausedFds : Finset Nat
  requestChain : List Request
  requestIdent : Int
  -- the response thread
  respPc : ResponsePc
  -- shared: `clientInfo_chain`, `pending`, `response_chain`, the wake pipe
  endServer : Bool
  clientInfoChain : List ClientInfo
  clientIdent : Int
  pending : PendingMap
  responseChain : List Response
  wakePipe : Nat
  -- the kernel
  fdTable : Nat → Option Nat
  accepted : Nat
  sockets : Nat → Socket
  -- the RPC threads: every request they took, and those not answered yet
  taken : List Request
  unanswered : List Request
  -- history, not in the source: every client record made, the connection ids of
  -- every admission and of every `response_done`, every request popped from a
  -- framer, every response scheduled and every response dealt with
  issued : List ClientInfo
  admissions : List Int
  finished : List Int
  admitted : List Request
  scheduled : List Response
  answered : List Response

namespace Server

/-- The state after `start_listening`, with the value that `ident_generator` of
`clientInfo_chain` has from earlier runs. -/
def start (ds : Descriptors) (clientIdent : Nat) : Server where
  pc := .top
  masterSet := {ds.listenSd, ds.wakeIn}
  maxSd := if ds.listenSd > ds.wakeIn then ds.listenSd else ds.wakeIn
  framers := fun _ => none
  pausedFds := ∅
  requestChain := []
  requestIdent := 0
  respPc := .idle
  endServer := false
  clientInfoChain := []
  clientIdent := clientIdent
  pending := fun _ => none
  responseChain := []
  wakePipe := 0
  fdTable := fun _ => none
  accepted := 0
  sockets := fun _ => {}
  taken := []
  unanswered := []
  issued := []
  admissions := []
  finished := []
  admitted := []
  scheduled := []
  answered := []

/-- `get_client_info`: the first record with this descriptor. -/
def getClientInfo (s : Server) (sockDescr : Nat) : Option ClientInfo :=
  s.clientInfoChain.find? fun info => info.sockDescriptor == sockDescr

/-- `connection_dead`. -/
def connectionDead (s : Server) (cltid : Int) : Bool :=
  if cltid < 0 then false
  else match s.pending cltid with
    | some p => p.dead
    | none => false

/-- The bytes the peer of a connection was sent so far. -/
def stream (s : Server) (conn : Nat) : List Byte := (s.sockets conn).sent.flatMap Piece.bytes

end Server
end JsonRpcTcp
