import JsonRpcTcp.ServerState
import JsonRpcTcp.Lib.Reach

namespace JsonRpcTcp
open Function

/-! Critical sections of `pending_lock`. -/

/-- The section of `queue_framed_requests`: admit one more request, or decide
to pause. The entry is created by `operator[]` if it is missing. -/
def admissionSection (pending : PendingMap) (cltid : Int) : PendingMap × Bool :=
  let p := (pending cltid).getD {}
  if p.count ≥ maxPendingPerConn then (update pending cltid (some { p with paused := true }), true)
  else (update pending cltid (some { p with count := p.count + 1 }), false)

/-- The section of `response_done`, with its local `wake`. -/
def responseDoneSection (pending : PendingMap) (cltid : Int) : PendingMap × Bool :=
  if cltid < 0 then (pending, false)
  else match pending cltid with
    | none => (pending, false)
    | some old =>
      let p := if old.count > 0 then { old with count := old.count - 1 } else old
      if p.paused = true ∧ p.count ≤ maxPendingPerConn / 2 then
        (update pending cltid (some { p with paused := false }), true)
      else (update pending cltid (some p), false)

/-- The section of `drop_connection`, with its local `wake`. As in the source
the entry is created if it is missing. -/
def dropSection (pending : PendingMap) (cltid : Int) : PendingMap × Bool :=
  if cltid < 0 then (pending, false)
  else
    let p := (pending cltid).getD {}
    if p.paused then (update pending cltid (some { p with dead := true, paused := false }), true)
    else (update pending cltid (some { p with dead := true }), false)

/-- The section of `over_send_wait_budget` and its result. -/
def overSendWaitBudget (pending : PendingMap) (cltid waitedMs now : Int) : PendingMap × Bool :=
  if cltid < 0 ∨ waitedMs ≤ 0 then (pending, false)
  else match pending cltid with
    | none => (pending, false)
    | some old =>
      let p := if now - old.windowStartMs > sendWaitWindowMs then
          { old with windowStartMs := now, waitMs := 0 } else old
      (update pending cltid (some { p with waitMs := p.waitMs + waitedMs }),
        decide (p.waitMs + waitedMs > sendWaitBudgetMs))

/-- The loop that lowers `max_sd` after the highest descriptor was closed. -/
def lowerMaxSd (masterSet : Finset Nat) : Nat → Nat
  | 0 => 0
  | n + 1 => if n + 1 ∈ masterSet then n + 1 else lowerMaxSd masterSet n

/-- What the listen thread does next, with the results of its system calls. The
other arguments repeat the program point. -/
inductive ListenAction where
  | select (ready : List Nat)
  | selectFails (fatal : Bool)
  | readWake (ready : List Nat)
  | startAccept (ready : List Nat)
  | startReceive (fd : Nat) (ready : List Nat)
  | endScan (ready : List Nat)
  | accept (newSd : Nat) (ready : List Nat)
  | acceptRefused (newSd : Nat) (ready : List Nat)
  | acceptFails (fatal : Bool) (ready : List Nat)
  | register (newSd : Nat) (ready : List Nat) (conn : Nat) (port : Int) (ip : List Byte) (put : Bool)
  | recv (fd : Nat) (ready : List Nat) (conn : Nat) (bytes : List Byte)
  | recvBlocks (fd : Nat) (ready : List Nat)
  | recvEnds (fd : Nat) (ready : List Nat)
  | checkConnection (fd : Nat) (caller : QueueCaller)
  | admission (fd : Nat) (info : ClientInfo) (queued : Nat) (caller : QueueCaller)
  | queueRequest (fd : Nat) (info : ClientInfo) (queued : Nat) (caller : QueueCaller) (put : Bool)
  | release (fd : Nat) (info : ClientInfo) (queued : Nat) (caller : QueueCaller)
  | releaseWake (fd : Nat) (queued : Nat) (caller : QueueCaller) (written : Bool)
  | takeRequest (fd : Nat) (paused : Bool) (caller : QueueCaller) (request : Request)
  | notifyDone (fd : Nat) (paused : Bool) (caller : QueueCaller)
  | queueReturn (fd : Nat) (paused : Bool) (caller : QueueCaller)
  | sendProtocolError (fd : Nat) (ready : List Nat) (conn : Nat) (count : Nat)
  | erasePending (fd : Nat) (ready : List Nat)
  | deregister (fd : Nat) (ready : List Nat)
  | closeSocket (fd : Nat) (ready : List Nat)
  | resumeNext (cursor fd : Nat)
  | resumeDone (cursor : Nat)
  | loopCheck
  deriving DecidableEq, Repr

inductive ResponseAction where
  | chainGet (resp : Response)
  | checkDead (resp : Response) (alive : Bool)
  | dup (resp : Response) (newFd : Option Nat)
  | send (resp : Response) (dup : Nat) (sent : Nat) (conn : Nat) (count : Nat)
  | sendFails (resp : Response) (dup : Nat) (sent : Nat)
  | sendWaited (resp : Response) (dup : Nat) (waitedMs now : Int)
  | drop (resp : Response) (dup : Nat) (sent : Nat)
  | shutdown (resp : Response) (dup : Nat) (sent : Nat) (wake : Bool) (conn : Nat)
  | dropWake (resp : Response) (dup : Nat) (written : Bool)
  | closeDup (resp : Response) (dup : Nat)
  | responseDone (resp : Response)
  | doneWake (written : Bool)
  deriving DecidableEq, Repr

/-- What other threads do to the server: the RPC threads schedule responses, and
`stop_receiving` sets `end_server` and then writes to the wake pipe. -/
inductive OutsideAction where
  | schedule (request : Request) (text : List Byte) (put : Bool)
  | requestStop
  | stopWake (written : Bool)
  deriving DecidableEq, Repr

inductive ServerAction where
  | listen (action : ListenAction)
  | respond (action : ResponseAction)
  | outside (action : OutsideAction)
  deriving DecidableEq, Repr

/-- The result of the `chain_put` in an action. -/
def ServerAction.put : ServerAction → Bool
  | .listen (.register _ _ _ _ _ put) | .listen (.queueRequest _ _ _ _ put) | .outside (.schedule _ _ put) => put
  | _ => true

/-- The request that an action answers. -/
def ServerAction.answers : ServerAction → Option Request
  | .outside (.schedule request _ _) => some request
  | _ => none

namespace Server
variable (ds : Descriptors)

/-- The kernel may give out this descriptor number. -/
def FreshFd (s : Server) (fd : Nat) : Prop :=
  s.fdTable fd = none ∧ fd ≠ ds.listenSd ∧ fd ≠ ds.wakeIn ∧ fd ≠ ds.wakeOut

instance (s : Server) (fd : Nat) : Decidable (s.FreshFd ds fd) := by
  unfold FreshFd
  infer_instance

/-- A one-byte write to the non-blocking wake pipe. It fails only while the
pipe still holds bytes. -/
def CanWriteWake (s : Server) (written : Bool) : Prop := written = true ∨ 0 < s.wakePipe

instance (s : Server) (written : Bool) : Decidable (s.CanWriteWake written) := by
  unfold CanWriteWake
  infer_instance

def writeWake (s : Server) (written : Bool) : Server :=
  { s with wakePipe := if written then s.wakePipe + 1 else s.wakePipe }

/-- `send` accepts these bytes on an open connection. -/
def transmit (s : Server) (conn : Nat) (piece : Piece) : Server :=
  let socket := s.sockets conn
  { s with sockets := update s.sockets conn { socket with sent := socket.sent ++ [piece] } }

/-- After the loop of `queue_framed_requests`: the consumer is only notified
when something was queued. -/
def afterQueueing (fd : Nat) (queued : Nat) (paused : Bool) (caller : QueueCaller) : ListenPc :=
  if 0 < queued then .notifying fd paused caller else .returning fd paused caller

/-- `queue_framed_requests` up to its loop. `get_client_info` and
`connection_dead` are two critical sections, but only the listen thread itself
changes the client records. -/
def checkConnection (s : Server) (fd : Nat) (caller : QueueCaller) : Server :=
  match s.framers fd with
  | none => { s with pc := .returning fd false caller }
  | some entry =>
    if entry.framer.available = 0 then { s with pc := .returning fd false caller }
    else
      let discarded := { s with
        framers := update s.framers fd (some { entry with framer := entry.framer.reset })
        pc := .returning fd false caller }
      match s.getClientInfo fd with
      | none => discarded
      | some info =>
        if s.connectionDead info.ident then discarded
        else { s with pc := .admitting fd info 0 caller }

/-- The head of the loop of `queue_framed_requests` and its critical section. -/
def admission (s : Server) (fd : Nat) (info : ClientInfo) (queued : Nat) (caller : QueueCaller) : Server :=
  match s.framers fd with
  | none => { s with pc := afterQueueing fd queued false caller }
  | some entry =>
    if entry.framer.available = 0 then { s with pc := afterQueueing fd queued false caller }
    else if info.ident < 0 then { s with pc := .queueing fd info queued caller }
    else if (admissionSection s.pending info.ident).2 then
      { s with pending := (admissionSection s.pending info.ident).1
               pc := afterQueueing fd queued true caller }
    else { s with pending := (admissionSection s.pending info.ident).1
                  admissions := s.admissions ++ [info.ident]
                  pc := .queueing fd info queued caller }

/-- The message that `next` pops in `queue_framed_requests`, as a request. -/
def poppedRequest (s : Server) (fd : Nat) (info : ClientInfo) (entry : FramerEntry) : Request :=
  { ident := (s.requestIdent + 1).bmod (2 ^ 32), sockDescriptor := fd, port := info.port, ip := info.ip,
    cltid := info.ident, data := entry.framer.next.1.getD [], serial := s.admitted.length,
    arrivedOn := entry.fedBy }

/-- The rest of the loop body: pop the message and put it into `request_chain`.
When that fails the request is given up and the loop is left. -/
def queueRequest (s : Server) (fd : Nat) (info : ClientInfo) (queued : Nat) (caller : QueueCaller)
    (put : Bool) : Server :=
  match s.framers fd with
  | none => { s with pc := afterQueueing fd queued false caller }
  | some entry =>
    let popped := { s with
      framers := update s.framers fd (some { entry with framer := entry.framer.next.2 })
      requestIdent := (s.requestIdent + 1).bmod (2 ^ 32)
      admitted := s.admitted ++ [s.poppedRequest fd info entry] }
    if put then { popped with requestChain := s.requestChain ++ [s.poppedRequest fd info entry]
                              pc := .admitting fd info (queued + 1) caller }
    else { popped with pc := .releasing fd info queued caller }

/-- The callers of `queue_framed_requests` after its return. -/
def queueReturn (s : Server) (fd : Nat) (paused : Bool) : QueueCaller → Server
  | .receive frc ready =>
    if frc < 0 then { s with pc := .protocolError fd ready }
    else if paused then
      { s with masterSet := s.masterSet.erase fd, pausedFds := insert fd s.pausedFds
               pc := .scanning ready }
    else { s with pc := .receiving fd ready }
  | .resume cursor =>
    if paused then { s with pausedFds := insert fd s.pausedFds, pc := .resuming cursor }
    else { s with masterSet := insert fd s.masterSet
                  maxSd := if fd > s.maxSd then fd else s.maxSd, pc := .resuming cursor }

/-- The critical section of `close_connection`. -/
def closeSection (s : Server) (fd : Nat) : PendingMap :=
  match s.getClientInfo fd with
  | none => s.pending
  | some info => update s.pending info.ident none

/-- One descriptor of `resume_paused_connections`. -/
def resumeNext (s : Server) (fd : Nat) : Server :=
  let stays := match s.getClientInfo fd with
    | none => false
    | some info => match s.pending info.ident with
      | none => false
      | some p => p.paused
  if stays then { s with pc := .resuming (fd + 1) }
  else { s with pausedFds := s.pausedFds.erase fd, pc := .checking fd (.resume (fd + 1)) }

/-- `register_client_info` and the rest of the accept loop. -/
def register (s : Server) (newSd : Nat) (ready : List Nat) (info : ClientInfo) (put : Bool) : Server :=
  { s with
    clientIdent := info.ident
    clientInfoChain := if put then s.clientInfoChain ++ [info] else s.clientInfoChain
    issued := s.issued ++ [info]
    framers := update s.framers newSd (some { framer := Framer.new maxJsonMsgSize, fedBy := [] })
    masterSet := insert newSd s.masterSet
    maxSd := if newSd > s.maxSd then newSd else s.maxSd
    pc := .accepting ready }

/-- `recv` returned bytes of a connection. -/
def recv (s : Server) (fd : Nat) (ready : List Nat) (conn : Nat) (bytes : List Byte) : Server :=
  match s.framers fd with
  | none => { s with pc := .protocolError fd ready }
  | some entry =>
    { s with
      framers := update s.framers fd
        (some { framer := (entry.framer.feed bytes).2, fedBy := entry.fedBy ++ [conn] })
      pc := .checking fd (.receive (entry.framer.feed bytes).1 ready) }

/-- One step of the listen thread. A signed overflow of `ident_generator` is
undefined in the source, so there is no step for it. -/
def listenStep (s : Server) : ListenAction → Option Server
  | .select ready =>
    onlyIf (s.pc = .top ∧ ready.Pairwise (· < ·) ∧ ∀ fd ∈ ready, fd ∈ s.masterSet ∧ fd ≤ s.maxSd)
      { s with pc := if s.endServer then .exited
                     else if ready ≠ [] then .scanning ready
                     else if s.pausedFds ≠ ∅ then .resuming 0 else .loopEnd }
  | .selectFails fatal =>
    onlyIf (s.pc = .top) { s with pc := if s.endServer ∨ fatal then .exited else .loopEnd }
  | .readWake ready =>
    onlyIf (s.pc = .scanning (ds.wakeIn :: ready) ∧ ds.wakeIn ≤ s.maxSd)
      { s with wakePipe := s.wakePipe - 64
               pc := if s.endServer then .loopEnd else .resuming 0 }
  | .startAccept ready =>
    onlyIf (s.pc = .scanning (ds.listenSd :: ready) ∧ ds.listenSd ≤ s.maxSd)
      { s with pc := .accepting ready }
  | .startReceive fd ready =>
    onlyIf (s.pc = .scanning (fd :: ready) ∧ fd ≤ s.maxSd ∧ fd ≠ ds.wakeIn ∧ fd ≠ ds.listenSd)
      { s with pc := .receiving fd ready }
  | .endScan ready =>
    onlyIf (s.pc = .scanning ready ∧ ∀ fd ∈ ready.head?, s.maxSd < fd) { s with pc := .loopEnd }
  | .accept newSd ready =>
    onlyIf (s.pc = .accepting ready ∧ s.FreshFd ds newSd ∧ newSd < fdSetSize)
      { s with fdTable := update s.fdTable newSd (some s.accepted), accepted := s.accepted + 1
               pc := .registering newSd ready }
  | .acceptRefused newSd ready =>
    onlyIf (s.pc = .accepting ready ∧ s.FreshFd ds newSd ∧ fdSetSize ≤ newSd)
      { s with accepted := s.accepted + 1 }
  | .acceptFails fatal ready =>
    onlyIf (s.pc = .accepting ready) { s with endServer := s.endServer || fatal, pc := .scanning ready }
  | .register newSd ready conn port ip put =>
    onlyIf (s.pc = .registering newSd ready ∧ s.fdTable newSd = some conn ∧ s.clientIdent + 1 < 2 ^ 31)
      (s.register newSd ready
        { ident := s.clientIdent + 1, sockDescriptor := newSd, port := port, ip := ip, conn := conn } put)
  | .recv fd ready conn bytes =>
    onlyIf (s.pc = .receiving fd ready ∧ s.fdTable fd = some conn ∧ bytes ≠ [] ∧ bytes.length ≤ maxReceive)
      (s.recv fd ready conn bytes)
  | .recvBlocks fd ready => onlyIf (s.pc = .receiving fd ready) { s with pc := .scanning ready }
  | .recvEnds fd ready => onlyIf (s.pc = .receiving fd ready) { s with pc := .closing fd ready }
  | .checkConnection fd caller => onlyIf (s.pc = .checking fd caller) (s.checkConnection fd caller)
  | .admission fd info queued caller =>
    onlyIf (s.pc = .admitting fd info queued caller) (s.admission fd info queued caller)
  | .queueRequest fd info queued caller put =>
    onlyIf (s.pc = .queueing fd info queued caller) (s.queueRequest fd info queued caller put)
  | .release fd info queued caller =>
    onlyIf (s.pc = .releasing fd info queued caller)
      { s with pending := (responseDoneSection s.pending info.ident).1
               finished := s.finished ++ [info.ident]
               pc := if (responseDoneSection s.pending info.ident).2 then .releaseWake fd queued caller
                     else afterQueueing fd queued false caller }
  | .releaseWake fd queued caller written =>
    onlyIf (s.pc = .releaseWake fd queued caller ∧ s.CanWriteWake written)
      { s.writeWake written with pc := afterQueueing fd queued false caller }
  | .takeRequest fd paused caller request =>
    onlyIf (s.pc = .notifying fd paused caller ∧ s.requestChain.head? = some request)
      { s with requestChain := s.requestChain.tail, taken := s.taken ++ [request]
               unanswered := s.unanswered ++ [request] }
  | .notifyDone fd paused caller =>
    onlyIf (s.pc = .notifying fd paused caller ∧ s.requestChain = []) { s with pc := .returning fd paused caller }
  | .queueReturn fd paused caller =>
    onlyIf (s.pc = .returning fd paused caller) (s.queueReturn fd paused caller)
  | .sendProtocolError fd ready conn count =>
    onlyIf (s.pc = .protocolError fd ready ∧ (0 < count → s.fdTable fd = some conn ∧
        (s.sockets conn).shut = false ∧ count ≤ protocolErrorText.length))
      (if 0 < count then
        { s.transmit conn { source := none, offset := 0, bytes := protocolErrorText.take count } with
          pc := .closing fd ready }
      else { s with pc := .closing fd ready })
  | .erasePending fd ready =>
    onlyIf (s.pc = .closing fd ready)
      { s with pending := s.closeSection fd
               pausedFds := s.pausedFds.erase fd
               pc := .deregistering fd ready }
  | .deregister fd ready =>
    onlyIf (s.pc = .deregistering fd ready)
      (match s.getClientInfo fd with
        | none => { s with pc := .closeFd fd ready }
        | some _ => { s with clientInfoChain :=
            s.clientInfoChain.eraseP fun info => info.sockDescriptor == fd })
  | .closeSocket fd ready =>
    onlyIf (s.pc = .closeFd fd ready)
      { s with framers := update s.framers fd none, fdTable := update s.fdTable fd none
               masterSet := s.masterSet.erase fd
               maxSd := if fd = s.maxSd then lowerMaxSd (s.masterSet.erase fd) s.maxSd else s.maxSd
               pc := .scanning ready }
  | .resumeNext cursor fd =>
    onlyIf (s.pc = .resuming cursor ∧ fd ∈ s.pausedFds ∧ cursor ≤ fd ∧
        ∀ other ∈ s.pausedFds, cursor ≤ other → fd ≤ other)
      (s.resumeNext fd)
  | .resumeDone cursor =>
    onlyIf (s.pc = .resuming cursor ∧ ∀ other ∈ s.pausedFds, other < cursor) { s with pc := .loopEnd }
  | .loopCheck => onlyIf (s.pc = .loopEnd) { s with pc := if s.endServer then .exited else .top }

/-- One step of the response thread. -/
def responseStep (s : Server) : ResponseAction → Option Server
  | .chainGet resp =>
    onlyIf (s.respPc = .idle ∧ s.responseChain.head? = some resp)
      { s with responseChain := s.responseChain.tail, respPc := .checking resp }
  | .checkDead resp alive =>
    onlyIf (s.respPc = .checking resp)
      { s with respPc := if resp.cltid < 0 then (if alive then .dupping resp else .finishing resp)
                         else if s.connectionDead resp.cltid then .finishing resp else .dupping resp }
  | .dup resp newFd =>
    onlyIf (s.respPc = .dupping resp ∧ ∀ fd ∈ newFd, s.FreshFd ds fd)
      (if resp.cltid < 0 ∨ (s.getClientInfo resp.sockDescriptor).map ClientInfo.ident = some resp.cltid then
        match newFd, s.fdTable resp.sockDescriptor with
        | some fd, some conn => { s with fdTable := update s.fdTable fd (some conn), respPc := .sending resp fd 0 }
        | _, _ => { s with respPc := .finishing resp }
      else { s with respPc := .finishing resp })
  | .send resp dup sent conn count =>
    onlyIf (s.respPc = .sending resp dup sent ∧ s.fdTable dup = some conn ∧ (s.sockets conn).shut = false ∧
        0 < count ∧ sent + count ≤ resp.data.length)
      { s.transmit conn { source := some resp, offset := sent, bytes := (resp.data.drop sent).take count } with
        respPc := .sending resp dup (sent + count) }
  | .sendFails resp dup sent =>
    onlyIf (s.respPc = .sending resp dup sent ∧ sent < resp.data.length) { s with respPc := .dropping resp dup sent }
  | .sendWaited resp dup waitedMs now =>
    onlyIf (s.respPc = .sending resp dup resp.data.length)
      { s with pending := (overSendWaitBudget s.pending resp.cltid waitedMs now).1
               respPc := if (overSendWaitBudget s.pending resp.cltid waitedMs now).2
                         then .dropping resp dup resp.data.length else .closingDup resp dup }
  | .drop resp dup sent =>
    onlyIf (s.respPc = .dropping resp dup sent)
      { s with pending := (dropSection s.pending resp.cltid).1
               respPc := .shutting resp dup sent (dropSection s.pending resp.cltid).2 }
  | .shutdown resp dup sent wake conn =>
    onlyIf (s.respPc = .shutting resp dup sent wake ∧ s.fdTable dup = some conn)
      { s with sockets := update s.sockets conn { s.sockets conn with shut := true }
               respPc := if wake then .dropWake resp dup else .closingDup resp dup }
  | .dropWake resp dup written =>
    onlyIf (s.respPc = .dropWake resp dup ∧ s.CanWriteWake written)
      { s.writeWake written with respPc := .closingDup resp dup }
  | .closeDup resp dup =>
    onlyIf (s.respPc = .closingDup resp dup)
      { s with fdTable := update s.fdTable dup none, respPc := .finishing resp }
  | .responseDone resp =>
    onlyIf (s.respPc = .finishing resp)
      { s with pending := (responseDoneSection s.pending resp.cltid).1
               respPc := if (responseDoneSection s.pending resp.cltid).2 then .doneWake else .idle
               finished := s.finished ++ [resp.cltid], answered := s.answered ++ [resp] }
  | .doneWake written =>
    onlyIf (s.respPc = .doneWake ∧ s.CanWriteWake written) { s.writeWake written with respPc := .idle }

/-- A step of another thread. `schedule` is `schedule_response` with the socket
and the connection id of a request that the RPC threads took. -/
def outsideStep (s : Server) : OutsideAction → Option Server
  | .schedule request text put =>
    onlyIf (request ∈ s.taken)
      (let resp : Response := { sockDescriptor := request.sockDescriptor, cltid := request.cltid,
                                data := text, request := request }
       if put then { s with responseChain := s.responseChain ++ [resp], scheduled := s.scheduled ++ [resp]
                            unanswered := s.unanswered.erase request }
       else s)
  | .requestStop => some { s with endServer := true }
  | .stopWake written => onlyIf (s.endServer = true ∧ s.CanWriteWake written) (s.writeWake written)

def step (s : Server) : ServerAction → Option Server
  | .listen action => s.listenStep ds action
  | .respond action => s.responseStep ds action
  | .outside action => s.outsideStep action

/-- `chain_put` finds memory for its holder in this step. -/
def AllocationSucceeds (_ : Server) (action : ServerAction) : Prop := action.put = true

instance (s : Server) (action : ServerAction) : Decidable (s.AllocationSucceeds action) :=
  inferInstanceAs (Decidable (action.put = true))

/-- A request is only answered while it has no answer yet. -/
def AnsweredOnce (s : Server) (action : ServerAction) : Prop :=
  ∀ request ∈ action.answers, request ∈ s.unanswered

instance (s : Server) (action : ServerAction) : Decidable (s.AnsweredOnce action) :=
  inferInstanceAs (Decidable (∀ request ∈ action.answers, request ∈ s.unanswered))

/-- Descriptors as a process gets them after the three standard ones. -/
def sampleDescriptors : Descriptors := { listenSd := 3, wakeIn := 4, wakeOut := 5, distinct := by decide }

/-- A client connects and gets descriptor 7. -/
def greeting : List ServerAction :=
  [.listen (.select [3]), .listen (.startAccept []), .listen (.accept 7 []),
   .listen (.register 7 [] 0 40000 [] true), .listen (.acceptFails false []), .listen (.endScan []),
   .listen .loopCheck]

def sampleClient : ClientInfo := { ident := 1, sockDescriptor := 7, port := 40000, ip := [], conn := 0 }

def sampleRequest : Request :=
  { ident := 1, sockDescriptor := 7, port := 40000, ip := [], cltid := 1, data := [0x7b, 0x7d], serial := 0,
    arrivedOn := [0] }

def sampleResponse : Response :=
  { sockDescriptor := 7, cltid := 1, data := [0x7b, 0x7d], request := sampleRequest }

/-- The client sends an empty object, which the RPC threads take. -/
def asking : List ServerAction :=
  [.listen (.select [7]), .listen (.startReceive 7 []), .listen (.recv 7 [] 0 [0x7b, 0x7d]),
   .listen (.checkConnection 7 (.receive 1 [])), .listen (.admission 7 sampleClient 0 (.receive 1 [])),
   .listen (.queueRequest 7 sampleClient 0 (.receive 1 []) true),
   .listen (.admission 7 sampleClient 1 (.receive 1 [])),
   .listen (.takeRequest 7 false (.receive 1 []) sampleRequest),
   .listen (.notifyDone 7 false (.receive 1 [])), .listen (.queueReturn 7 false (.receive 1 []))]

/-- The response is scheduled, and the response thread gets a dup of its socket. -/
def answering : List ServerAction :=
  [.outside (.schedule sampleRequest [0x7b, 0x7d] true), .respond (.chainGet sampleResponse),
   .respond (.checkDead sampleResponse false), .respond (.dup sampleResponse (some 8))]

end Server
end JsonRpcTcp
