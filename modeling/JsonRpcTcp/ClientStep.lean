import JsonRpcTcp.Lib.Reach
import JsonRpcTcp.ProxyState

namespace JsonRpcTcp

/-- `ADJSON_STREAM_FRAMER_DEFAULT_MAX_MSG`. -/
def framerDefaultMaxMsg : Nat := 256 * 1024

/-- One TCP connection as the client sees it: the bytes it has read, those in its
receive buffer, and those that the server has sent and that have not arrived. -/
structure Connection where
  past : List Byte
  buffer : List Byte
  wire : List Byte
  deriving DecidableEq, Repr

namespace Connection

def fresh : Connection := { past := [], buffer := [], wire := [] }

/-- The bytes that the client has not read. -/
def unread (c : Connection) : List Byte := c.buffer ++ c.wire

/-- What the server has sent on this connection. -/
def stream (c : Connection) : List Byte := c.past ++ c.unread

def write (c : Connection) (data : List Byte) : Connection := { c with wire := c.wire ++ data }

/-- The network delivers some more bytes, in order. -/
def arrive (c : Connection) (count : Nat) : Connection :=
  { c with buffer := c.buffer ++ c.wire.take count, wire := c.wire.drop count }

/-- `recv` of `count` bytes that have arrived. -/
def recv (c : Connection) (count : Nat) : Connection :=
  { c with past := c.past ++ c.buffer.take count, buffer := c.buffer.drop count }

end Connection

/-- Where the thread of the client is, in `send_request` and `receive_response`. -/
inductive ClientPc where
  | idle
  | connecting
  | draining
  | transmitting
  | waiting
  | receiving
  deriving DecidableEq, Repr

/-- `ADJsonRpcClient` with its `ADNetClient`, whose `connected` is `sockConnected`. -/
structure RpcClient where
  pc : ClientPc
  connected : Bool
  reconnectNeeded : Bool
  txId : Int
  txMsg : List Byte
  rxMsg : List Byte
  ip : List Byte
  port : Int
  sockConnected : Bool
  rxFramer : Framer
  sock : Connection
  -- history, not in the source: what the server has sent on all connections, and the
  -- messages that `receive_response` has returned, each with the `tx_id` of its request
  served : List (List Byte)
  returned : List (Int × List Byte)
  deriving DecidableEq, Repr

inductive ClientAction where
  | rpcServerConnect (ipAddr : List Byte) (portNum : Int) (established : Bool)
  | rpcServerDisconnect
  | call (txId : Int) (txMsg : List Byte)
  | sockConnect (established : Bool)
  | drain (count : Nat)
  | drained
  | send (delivered : Bool)
  | receiveJson
  | deadline
  | nextMessage
  | timeout
  | recv (count : Nat)
  | recvFails
  | serve (separators message : List Byte)
  | arrive (count : Nat)
  deriving DecidableEq, Repr

namespace RpcClient

def start : RpcClient where
  pc := .idle
  connected := false
  reconnectNeeded := false
  txId := -1
  txMsg := []
  rxMsg := []
  ip := []
  port := -1
  sockConnected := false
  rxFramer := Framer.new framerDefaultMaxMsg
  sock := .fresh
  served := []
  returned := []

/-- `sock_connect` without arguments: whether it returns 0, and the client. The
connection that `established` offers is a new one. -/
def sockConnect (s : RpcClient) (established : Bool) : Bool × RpcClient :=
  if s.sockConnected ∨ s.port < 1 ∨ s.ip = [] then (false, s)
  else if established then (true, { s with rxFramer := s.rxFramer.reset, sockConnected := true, sock := .fresh })
  else (false, s)

/-- `sock_connect` with an address, of which `ip` keeps 15 bytes. -/
def sockConnectTo (s : RpcClient) (ipAddr : List Byte) (portNum : Int) (established : Bool) : Bool × RpcClient :=
  if s.sockConnected ∨ portNum < 1 ∨ ipAddr = [] then (false, s)
  else sockConnect { s with ip := ipAddr.take 15, port := portNum } established

/-- `sock_disconnect`. -/
def sockDisconnect (s : RpcClient) : RpcClient :=
  { s with sockConnected := false, rxFramer := s.rxFramer.reset, sock := .fresh }

/-- `rpc_server_connect`. -/
def rpcServerConnect (s : RpcClient) (ipAddr : List Byte) (portNum : Int) (established : Bool) : RpcClient :=
  if s.connected then s
  else if (s.sockConnectTo ipAddr portNum established).1 then
    { (s.sockConnectTo ipAddr portNum established).2 with connected := true }
  else (s.sockConnectTo ipAddr portNum established).2

/-- `rpc_server_disconnect`. -/
def rpcServerDisconnect (s : RpcClient) : RpcClient :=
  { (if s.connected then s.sockDisconnect else s) with connected := false }

/-- `send_request` from `rx_msg.clear()` on, up to the loop of `send_data` that drains
the socket. A refused `send_data` sets `reconnect_needed`. -/
def sendData (s : RpcClient) : RpcClient :=
  if !s.sockConnected ∨ s.txMsg = [] then { s with rxMsg := [], reconnectNeeded := true, pc := .waiting }
  else { s with rxMsg := [], rxFramer := s.rxFramer.reset, pc := .draining }

/-- A request is stored by `store_request`, or by the caller with a `tx_id` of -1, and
`send_request` begins. -/
def call (s : RpcClient) (txId : Int) (txMsg : List Byte) : RpcClient :=
  let stored := { s with txId := txId, txMsg := txMsg }
  if s.reconnectNeeded then { stored.sockDisconnect with pc := .connecting } else stored.sendData

/-- `send_request` after `sock_disconnect`. -/
def reconnect (s : RpcClient) (established : Bool) : RpcClient :=
  if (s.sockConnect established).1 then sendData { (s.sockConnect established).2 with reconnectNeeded := false }
  else (s.sockConnect established).2.sendData

/-- The end of `receive_response`. -/
def finish (s : RpcClient) : RpcClient :=
  if s.rxMsg ≠ [] ∧ s.reconnectNeeded = false then
    { s with pc := .idle, returned := s.returned ++ [(s.txId, s.rxMsg)] }
  else { s with pc := .idle, rxMsg := if s.reconnectNeeded then [] else s.rxMsg }

/-- The comparison of `receive_response`: `match` for a message and a `tx_id`. -/
def isMatch (lib : JsonC) (message : List Byte) (txId : Int) : Bool :=
  match lib.tokenerParse (cString message) with
  | none => true
  | some resp => (resp.objectGet (ascii "id")).all fun jid => lib.getInt jid == txId

/-- `receive_response` after `receive_json_blocking` has returned a message. -/
def takeMessage (lib : JsonC) (s : RpcClient) (message : List Byte) (rxFramer : Framer) : RpcClient :=
  let received := { s with rxMsg := message, rxFramer := rxFramer }
  if s.txId < 0 ∨ isMatch lib message s.txId then received.finish
  else { received with rxMsg := [], pc := .waiting }

/-- The result -2 of `receive_json_blocking`. -/
def peerClosed (s : RpcClient) : RpcClient := finish { s with reconnectNeeded := true }

/-- A turn of the loop of `receive_json_blocking` that finds neither a message nor an error. -/
def Starved (s : RpcClient) : Prop := s.pc = .receiving ∧ s.rxFramer.ready = [] ∧ s.rxFramer.hasError = false

instance (s : RpcClient) : Decidable s.Starved := inferInstanceAs (Decidable (_ ∧ _ ∧ _))

/-- One step of the client, the server or the network. Time-outs and the amounts that
`recv` returns are arbitrary. -/
def step (lib : JsonC) (s : RpcClient) : ClientAction → Option RpcClient
  | .rpcServerConnect ipAddr portNum established =>
    onlyIf (s.pc = .idle) (s.rpcServerConnect ipAddr portNum established)
  | .rpcServerDisconnect => onlyIf (s.pc = .idle) s.rpcServerDisconnect
  | .call txId txMsg => onlyIf (s.pc = .idle) (s.call txId txMsg)
  | .sockConnect established => onlyIf (s.pc = .connecting) (s.reconnect established)
  | .drain count =>
    onlyIf (s.pc = .draining ∧ 0 < count ∧ count ≤ 1024 ∧ count ≤ s.sock.buffer.length)
      { s with sock := s.sock.recv count }
  -- `recv` returns 0 or less: nothing is left, or the connection is broken
  | .drained => onlyIf (s.pc = .draining) { s with pc := .transmitting }
  | .send delivered =>
    onlyIf (s.pc = .transmitting) { s with pc := .waiting, reconnectNeeded := s.reconnectNeeded || !delivered }
  | .receiveJson =>
    onlyIf (s.pc = .waiting) (if s.sockConnected then { s with rxMsg := [], pc := .receiving } else
      finish { s with rxMsg := [] })
  | .deadline => onlyIf (s.pc = .waiting) s.finish
  | .nextMessage =>
    match s.rxFramer.next with
    | (some message, rxFramer) => onlyIf (s.pc = .receiving) (takeMessage lib s message rxFramer)
    | (none, _) => onlyIf (s.pc = .receiving ∧ s.rxFramer.hasError = true) s.peerClosed
  | .timeout => onlyIf s.Starved s.finish
  | .recv count =>
    onlyIf (s.Starved ∧ 0 < count ∧ count ≤ 4096 ∧ count ≤ s.sock.buffer.length)
      { s with rxFramer := (s.rxFramer.feed (s.sock.buffer.take count)).2, sock := s.sock.recv count }
  | .recvFails => onlyIf s.Starved s.peerClosed
  | .serve separators message =>
    onlyIf (s.sockConnected = true)
      { s with sock := s.sock.write (separators ++ message), served := s.served ++ [message] }
  | .arrive count => onlyIf (s.sockConnected = true) { s with sock := s.sock.arrive count }

end RpcClient
end JsonRpcTcp
