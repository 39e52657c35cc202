import JsonRpcTcp.ServerConnections
import JsonRpcTcp.ServerRouting

namespace JsonRpcTcp
open Function

/-- The text that bytes on a connection belong to: a response or the protocol error. -/
def textOf : Option Response → List Byte
  | none => protocolErrorText
  | some resp => resp.data

/-- A response on its way, with the dup and the bytes sent so far. -/
structure Transfer where
  resp : Response
  dup : Nat
  sent : Nat
  deriving DecidableEq, Repr

/-- The transfer of the response thread, until it is whole or the socket is shut down. -/
def ResponsePc.progress : ResponsePc → Option Transfer
  | .sending resp dup sent | .dropping resp dup sent | .shutting resp dup sent _ => some ⟨resp, dup, sent⟩
  | _ => none

theorem ResponsePc.dup_of_progress {pc : ResponsePc} {transfer : Transfer} (progress : transfer ∈ pc.progress) :
    pc.dup = some transfer.dup := by
  cases pc <;> cases progress <;> rfl

theorem ResponsePc.response_of_progress {pc : ResponsePc} {transfer : Transfer} (progress : transfer ∈ pc.progress) :
    pc.response = some transfer.resp := by
  cases pc <;> cases progress <;> rfl

/-- Between the bytes of a response its transfer changes only by sending more. -/
theorem ResponseFlow.progress {pc next : ResponsePc} {action : ResponseAction} (flow : ResponseFlow pc action next)
    (quiet : action.transmits = false) {transfer : Transfer} (begun : 0 < transfer.sent)
    (unfinished : transfer.sent < transfer.resp.data.length) :
    transfer ∈ next.progress ↔ transfer ∈ pc.progress := by
  cases flow
  case dup resp fd =>
    refine ⟨?_, by simp [ResponsePc.progress]⟩
    intro progress
    cases progress
    exact absurd begun (Nat.lt_irrefl 0)
  case whole resp dup waitedMs now =>
    refine ⟨by simp [ResponsePc.progress], ?_⟩
    intro progress
    cases progress
    exact absurd unfinished (Nat.lt_irrefl _)
  all_goals first | (cases quiet; done) | exact Iff.rfl

/-- The descriptor that the listen thread sends nothing more on. -/
def ListenPc.closesFd : ListenPc → Option Nat
  | .closing fd _ | .deregistering fd _ | .closeFd fd _ => some fd
  | _ => none

/-- The connection on which an action sends bytes of the protocol error. -/
def ServerAction.errorOn : ServerAction → Option Nat
  | .listen (.sendProtocolError _ _ conn count) => if 0 < count then some conn else none
  | _ => none

/-- The connection on which an action sends bytes of a response. -/
def ServerAction.sendOn : ServerAction → Option Nat
  | .respond (.send _ _ _ conn _) => some conn
  | _ => none

theorem ListenFlow.closesFd {ds : Descriptors} {pc next : ListenPc} {action : ListenAction} {fd : Nat}
    (flow : ListenFlow ds pc action next) (closing : pc.closesFd = some fd)
    (closes : ∀ fd ready, action ≠ .closeSocket fd ready) : next.closesFd = some fd := by
  cases flow
  case closeSocket other ready => exact absurd rfl (closes other ready)
  all_goals first | exact closing | cases closing

namespace Server
variable {ds : Descriptors}


/-- The response thread has sent a part of a response on this connection. -/
def Midway (s : Server) (conn : Nat) : Prop :=
  ∃ transfer ∈ s.respPc.progress, s.fdTable transfer.dup = some conn ∧ 0 < transfer.sent ∧
    transfer.sent < transfer.resp.data.length

instance (s : Server) (conn : Nat) : Decidable (s.Midway conn) :=
  inferInstanceAs (Decidable (∃ transfer ∈ s.respPc.progress, s.fdTable transfer.dup = some conn ∧
    0 < transfer.sent ∧ transfer.sent < transfer.resp.data.length))

/-- Bytes of the protocol error were sent on this connection. -/
def ErrorSent (s : Server) (conn : Nat) : Prop := ∃ piece ∈ (s.sockets conn).sent, piece.source = none

/-- Only a part of the protocol error was sent on this connection. -/
def ErrorCut (s : Server) (conn : Nat) : Prop :=
  ∃ piece ∈ (s.sockets conn).sent, piece.source = none ∧ piece.bytes.length < protocolErrorText.length

instance (s : Server) (conn : Nat) : Decidable (s.ErrorCut conn) :=
  inferInstanceAs (Decidable (∃ piece ∈ (s.sockets conn).sent, piece.source = none ∧
    piece.bytes.length < protocolErrorText.length))

/-- The two threads do not write into each other's texts: the protocol error is
not sent while a response is partly sent on the connection, and no response is
sent after a protocol error of which the kernel took only a part. -/
def Unmixed (s : Server) (action : ServerAction) : Prop :=
  (∀ conn ∈ action.errorOn, ¬ s.Midway conn) ∧ ∀ conn ∈ action.sendOn, ¬ s.ErrorCut conn

instance (s : Server) (action : ServerAction) : Decidable (s.Unmixed action) :=
  inferInstanceAs (Decidable (_ ∧ _))

/-- The stream of a connection is made of whole texts, each a scheduled response
or the protocol error, which comes at most once. A part of one more text may
follow. -/
def WholeTexts (s : Server) (conn : Nat) : Prop :=
  ∃ (sources : List (Option Response)) (part : List Byte), s.stream conn = sources.flatMap textOf ++ part ∧
    (∀ resp, some resp ∈ sources → resp ∈ s.scheduled) ∧ sources.count none ≤ 1 ∧
    (part = [] ∨ ∃ source, (∀ resp, source = some resp → resp ∈ s.scheduled) ∧
      (source = none → none ∉ sources) ∧ part <+: textOf source ∧ part.length < (textOf source).length)

/-- What follows the whole texts: the part that the response thread has sent of
its response, or a part that is never continued because the socket was shut
down or the protocol error was cut short. -/
def Tail (s : Server) (conn : Nat) (part : List Byte) : Prop :=
  (∃ transfer ∈ s.respPc.progress, s.fdTable transfer.dup = some conn ∧ 0 < transfer.sent ∧
    transfer.sent < transfer.resp.data.length ∧ part = transfer.resp.data.take transfer.sent) ∨
  (¬ s.Midway conn ∧
    (part = [] ∨
      ((s.sockets conn).shut = true ∧ ∃ resp ∈ s.scheduled, ∃ n < resp.data.length, part = resp.data.take n) ∨
      (s.ErrorCut conn ∧ ∃ n < protocolErrorText.length, part = protocolErrorText.take n)))

/-- The stream of a connection with the state of the two writers. -/
def Written (s : Server) (conn : Nat) : Prop :=
  ∃ (sources : List (Option Response)) (part : List Byte), s.stream conn = sources.flatMap textOf ++ part ∧
    (∀ resp, some resp ∈ sources → resp ∈ s.scheduled) ∧ sources.count none ≤ 1 ∧
    (none ∈ sources → s.ErrorSent conn ∧ ¬ s.ErrorCut conn) ∧ s.Tail conn part

structure Wire (s : Server) : Prop where
  unsent : ∀ conn, s.accepted ≤ conn → (s.sockets conn).sent = []
  lastWord : ∀ conn, s.ErrorSent conn → ∀ fd, s.Client fd → s.fdTable fd = some conn → s.pc.closesFd = some fd
  written : ∀ conn, s.Written conn

theorem wire_start (clientIdent : Nat) : (start ds clientIdent).Wire where
  unsent := by simp [start]
  lastWord := by simp [start, ErrorSent]
  written conn := by
    refine ⟨[], [], rfl, by simp, Nat.zero_le _, by simp, Or.inr ⟨?_, Or.inl rfl⟩⟩
    rintro ⟨_, none, _⟩
    cases none

/-- The transfers that are partly done on a connection are the same before and
after a step. -/
def SameProgress (s t : Server) (conn : Nat) : Prop :=
  ∀ transfer : Transfer, 0 < transfer.sent → transfer.sent < transfer.resp.data.length →
    ((transfer ∈ t.respPc.progress ∧ t.fdTable transfer.dup = some conn) ↔
      (transfer ∈ s.respPc.progress ∧ s.fdTable transfer.dup = some conn))

theorem SameProgress.midway {s t : Server} {conn : Nat} (same : s.SameProgress t conn) (midway : t.Midway conn) :
    s.Midway conn := by
  obtain ⟨transfer, there, denotes, begun, unfinished⟩ := midway
  obtain ⟨here, before⟩ := (same transfer begun unfinished).mp ⟨there, denotes⟩
  exact ⟨transfer, here, before, begun, unfinished⟩

/-- A step that sends nothing on a connection and continues no transfer. -/
theorem Written.keep {s t : Server} {conn : Nat} (written : s.Written conn) (same : s.SameProgress t conn)
    (scheduled : ∀ resp ∈ s.scheduled, resp ∈ t.scheduled)
    (socket : (t.sockets conn).sent = (s.sockets conn).sent)
    (shut : (s.sockets conn).shut = true → (t.sockets conn).shut = true) : t.Written conn := by
  obtain ⟨sources, part, stream, valid, once, errors, tail⟩ := written
  have errorCut : t.ErrorCut conn ↔ s.ErrorCut conn := by
    unfold ErrorCut
    rw [socket]
  refine ⟨sources, part, ?_, ?_, once, ?_, ?_⟩
  · unfold Server.stream at stream ⊢
    rw [socket]
    exact stream
  · intro resp member
    exact scheduled resp (valid resp member)
  · unfold ErrorSent
    rw [errorCut, socket]
    exact errors
  · rcases tail with ⟨transfer, here, denotes, begun, unfinished, sent⟩ | ⟨notMidway, rest⟩
    · obtain ⟨there, after⟩ := (same transfer begun unfinished).mpr ⟨here, denotes⟩
      exact Or.inl ⟨transfer, there, after, begun, unfinished, sent⟩
    · refine Or.inr ⟨fun midway => notMidway (same.midway midway), ?_⟩
      rcases rest with empty | ⟨dead, resp, known, n, bound, cut⟩ | ⟨cut, rest⟩
      · exact Or.inl empty
      · exact Or.inr (Or.inl ⟨shut dead, resp, scheduled resp known, n, bound, cut⟩)
      · exact Or.inr (Or.inr ⟨errorCut.mpr cut, rest⟩)

theorem transmit_stream (s : Server) (conn : Nat) (piece : Piece) :
    (s.transmit conn piece).stream conn = s.stream conn ++ piece.bytes := by
  simp only [stream, transmit, update_self, List.flatMap_append, List.flatMap_singleton]

theorem transmit_sent (s : Server) (conn : Nat) (piece : Piece) :
    ((s.transmit conn piece).sockets conn).sent = (s.sockets conn).sent ++ [piece] := by
  simp only [transmit, update_self]

/-- The response thread sends the next bytes of its response. -/
theorem send_written {s : Server} {resp : Response} {dup sent conn count : Nat} (wire : s.Wire)
    (handled : resp ∈ s.scheduled) (here : s.respPc = .sending resp dup sent) (denotes : s.fdTable dup = some conn)
    (isOpen : (s.sockets conn).shut = false) (some_ : 0 < count) (bound : sent + count ≤ resp.data.length)
    (uncut : ¬ s.ErrorCut conn) :
    Written { s.transmit conn { source := some resp, offset := sent,
                                bytes := (resp.data.drop sent).take count } with
              respPc := .sending resp dup (sent + count) } conn := by
  obtain ⟨sources, part, stream, valid, once, errors, tail⟩ := wire.written conn
  have sofar : part = resp.data.take sent := by
    rcases tail with ⟨transfer, progress, _, _, _, cut⟩ | ⟨notMidway, rest⟩
    · rw [here] at progress
      cases progress
      exact cut
    · have zero : sent = 0 := by
        by_contra positive
        have unsent : sent < resp.data.length := by omega
        exact notMidway ⟨⟨resp, dup, sent⟩, by rw [here]; rfl, denotes, Nat.pos_of_ne_zero positive, unsent⟩
      rw [zero, List.take_zero]
      rcases rest with empty | ⟨dead, _⟩ | ⟨cut, _⟩
      · exact empty
      · rw [isOpen] at dead
        cases dead
      · exact absurd cut uncut
  have joined : s.stream conn ++ (resp.data.drop sent).take count =
      sources.flatMap textOf ++ resp.data.take (sent + count) := by
    rw [stream, sofar, List.append_assoc, ← List.take_add]
  have errorSent : none ∈ sources → ∀ t : Server, (t.sockets conn).sent = (s.sockets conn).sent ++
      [{ source := some resp, offset := sent, bytes := (resp.data.drop sent).take count }] →
      t.ErrorSent conn ∧ ¬ t.ErrorCut conn := by
    intro member t appended
    obtain ⟨⟨piece, old, error⟩, _⟩ := errors member
    unfold ErrorSent ErrorCut
    rw [appended]
    refine ⟨⟨piece, List.mem_append_left _ old, error⟩, ?_⟩
    rintro ⟨other, found, isError, short⟩
    rcases List.mem_append.mp found with before | new
    · exact uncut ⟨other, before, isError, short⟩
    · rw [List.mem_singleton.mp new] at isError
      cases isError
  by_cases whole : sent + count = resp.data.length
  · refine ⟨sources ++ [some resp], [], ?_, ?_, ?_, ?_, Or.inr ⟨?_, Or.inl rfl⟩⟩
    · rw [List.flatMap_append, List.flatMap_singleton, List.append_nil]
      rw [whole, List.take_length] at joined
      exact (transmit_stream s conn _).trans joined
    · intro other member
      rcases List.mem_append.mp member with old | new
      · exact valid other old
      · cases List.mem_singleton.mp new
        exact handled
    · rw [List.count_append]
      simpa using once
    · intro member
      have old : none ∈ sources := by simpa using member
      exact errorSent old _ (transmit_sent ..)
    · rintro ⟨transfer, progress, _, _, unfinished⟩
      cases progress
      dsimp only at unfinished
      omega
  · refine ⟨sources, resp.data.take (sent + count), ?_, valid, once, ?_, Or.inl ?_⟩
    · exact (transmit_stream s conn _).trans joined
    · exact fun old => errorSent old _ (transmit_sent ..)
    · exact ⟨⟨resp, dup, sent + count⟩, rfl, denotes, by dsimp only; omega, by dsimp only; omega, rfl⟩

/-- The listen thread sends the protocol error, or the part of it that the
kernel takes. -/
theorem protocolError_written {s : Server} {conn count : Nat} (wire : s.Wire) (isOpen : (s.sockets conn).shut = false)
    (bound : count ≤ protocolErrorText.length) (notMidway : ¬ s.Midway conn)
    (first : ¬ s.ErrorSent conn) (pc : ListenPc) :
    Written { s.transmit conn { source := none, offset := 0, bytes := protocolErrorText.take count } with
              pc := pc } conn := by
  obtain ⟨sources, part, stream, valid, once, errors, tail⟩ := wire.written conn
  have fresh : none ∉ sources := fun member => first (errors member).1
  have empty : part = [] := by
    rcases tail with ⟨transfer, progress, denotes, begun, unfinished, _⟩ | ⟨_, rest⟩
    · exact absurd ⟨transfer, progress, denotes, begun, unfinished⟩ notMidway
    · rcases rest with empty | ⟨dead, _⟩ | ⟨⟨piece, member, error, _⟩, _⟩
      · exact empty
      · rw [isOpen] at dead
        cases dead
      · exact absurd ⟨piece, member, error⟩ first
  rw [empty, List.append_nil] at stream
  have joined := (transmit_stream s conn
    { source := none, offset := 0, bytes := protocolErrorText.take count }).trans (by rw [stream])
  have appended := transmit_sent s conn { source := none, offset := 0, bytes := protocolErrorText.take count }
  by_cases whole : count = protocolErrorText.length
  · refine ⟨sources ++ [none], [], ?_, ?_, ?_, ?_, Or.inr ⟨notMidway, Or.inl rfl⟩⟩
    · rw [List.flatMap_append, List.flatMap_singleton, List.append_nil]
      rw [whole, List.take_length] at joined
      rw [whole, List.take_length]
      exact joined
    · intro resp member
      refine valid resp ?_
      simpa using member
    · rw [List.count_append, List.count_eq_zero.mpr fresh]
      simp
    · intro _
      unfold ErrorSent ErrorCut
      rw [appended]
      refine ⟨⟨_, List.mem_append_right _ (List.mem_singleton_self _), rfl⟩, ?_⟩
      rintro ⟨piece, member, error, short⟩
      rcases List.mem_append.mp member with old | new
      · exact first ⟨piece, old, error⟩
      · rw [List.mem_singleton.mp new, List.length_take] at short
        omega
  · refine ⟨sources, protocolErrorText.take count, joined, valid, once, fun member => absurd member fresh,
      Or.inr ⟨notMidway, Or.inr (Or.inr ⟨?_, count, by omega, rfl⟩)⟩⟩
    unfold ErrorCut
    rw [appended]
    refine ⟨_, List.mem_append_right _ (List.mem_singleton_self _), rfl, ?_⟩
    rw [List.length_take]
    omega

/-- `shutdown` ends a transfer for good. -/
theorem shutdown_written {s : Server} {resp : Response} {dup sent conn : Nat} {wake : Bool} (wire : s.Wire)
    (handled : resp ∈ s.scheduled) (here : s.respPc = .shutting resp dup sent wake) {next : ResponsePc}
    (ended : next.progress = none) :
    Written { s with sockets := update s.sockets conn { s.sockets conn with shut := true }, respPc := next } conn := by
  obtain ⟨sources, part, stream, valid, once, errors, tail⟩ := wire.written conn
  have socket : (update s.sockets conn { s.sockets conn with shut := true } conn).sent = (s.sockets conn).sent := by
    rw [update_self]
  have dead : (update s.sockets conn { s.sockets conn with shut := true } conn).shut = true := by rw [update_self]
  have none : ¬ Midway { s with sockets := update s.sockets conn { s.sockets conn with shut := true },
                                respPc := next } conn := by
    rintro ⟨transfer, progress, _⟩
    rw [ended] at progress
    cases progress
  refine ⟨sources, part, ?_, valid, once, ?_, Or.inr ⟨none, ?_⟩⟩
  · unfold Server.stream at stream ⊢
    rw [socket]
    exact stream
  · unfold ErrorSent ErrorCut at errors ⊢
    rw [socket]
    exact errors
  · rcases tail with ⟨transfer, progress, _, _, unfinished, cut⟩ | ⟨_, rest⟩
    · rw [here] at progress
      cases progress
      exact Or.inr (Or.inl ⟨dead, resp, handled, sent, unfinished, cut⟩)
    · rcases rest with empty | ⟨_, cut⟩ | ⟨cut, rest⟩
      · exact Or.inl empty
      · exact Or.inr (Or.inl ⟨dead, cut⟩)
      · refine Or.inr (Or.inr ⟨?_, rest⟩)
        unfold ErrorCut at cut ⊢
        rw [socket]
        exact cut

theorem shutdown_wire {s : Server} (wire : s.Wire) {resp : Response} {dup sent conn : Nat} {wake : Bool}
    (handled : resp ∈ s.scheduled) (here : s.respPc = .shutting resp dup sent wake)
    (denotes : s.fdTable dup = some conn) {next : ResponsePc} (ended : next.progress = none) :
    Wire { s with sockets := update s.sockets conn { s.sockets conn with shut := true }, respPc := next } := by
  have sent_ : ∀ other, (update s.sockets conn { s.sockets conn with shut := true } other).sent =
      (s.sockets other).sent := by
    intro other
    by_cases same : other = conn
    · rw [same, update_self]
    · rw [update_of_ne same]
  refine ⟨?_, ?_, ?_⟩
  · intro other new
    exact (sent_ other).trans (wire.unsent other new)
  · intro other error
    unfold ErrorSent at error
    dsimp only at error
    rw [sent_] at error
    exact wire.lastWord other error
  · intro other
    by_cases same : other = conn
    · rw [same]
      exact shutdown_written wire handled here ended
    · refine (wire.written other).keep ?_ (fun _ => id) (sent_ other) ?_
      · intro transfer _ _
        constructor
        · rintro ⟨progress, _⟩
          rw [ended] at progress
          cases progress
        · rintro ⟨progress, target⟩
          rw [here] at progress
          cases progress
          exact absurd (Option.some.inj (target.symm.trans denotes)) same
      · intro dead
        dsimp only
        rw [update_of_ne same]
        exact dead

/-- A step that leaves the sockets alone. -/
theorem Wire.keep {s t : Server} (wire : s.Wire) (accepted : s.accepted ≤ t.accepted)
    (sockets : t.sockets = s.sockets) (scheduled : ∀ resp ∈ s.scheduled, resp ∈ t.scheduled)
    (same : ∀ conn, s.SameProgress t conn)
    (lastWord : ∀ conn, s.ErrorSent conn → ∀ fd, t.Client fd → t.fdTable fd = some conn → t.pc.closesFd = some fd) :
    t.Wire where
  unsent conn new := by
    rw [sockets]
    exact wire.unsent conn (Nat.le_trans accepted new)
  lastWord conn sent := by
    unfold ErrorSent at sent
    rw [sockets] at sent
    exact lastWord conn sent
  written conn := (wire.written conn).keep (same conn) scheduled (by rw [sockets]) (by rw [sockets]; exact id)

/-- Bytes on one connection change nothing for the others. -/
theorem transmit_other (s : Server) {conn other : Nat} (differ : other ≠ conn) (piece : Piece) :
    (s.transmit conn piece).sockets other = s.sockets other := by
  simp only [transmit, update_of_ne differ]

/-- The listen thread has one descriptor for the connection, and it closes it
after the protocol error. -/
theorem protocolError_wire {s : Server} (table : s.Table ds) (connected : s.Connected) (wire : s.Wire)
    {fd conn count : Nat} {ready : List Nat} (here : s.pc = .protocolError fd ready)
    (denotes : s.fdTable fd = some conn) (isOpen : (s.sockets conn).shut = false)
    (bound : count ≤ protocolErrorText.length) (notMidway : ¬ s.Midway conn) :
    Wire { s.transmit conn { source := none, offset := 0, bytes := protocolErrorText.take count } with
           pc := .closing fd ready } := by
  obtain ⟨member, notListen, notWake, _⟩ := table.located.handled fd (by rw [here]; rfl)
  have client : s.Client fd := Or.inl ((table.containers.owned fd).mpr (Or.inl ⟨member, notListen, notWake⟩))
  have first : ¬ s.ErrorSent conn := by
    intro error
    have closing := wire.lastWord conn error fd client denotes
    rw [here] at closing
    cases closing
  refine ⟨?_, ?_, ?_⟩
  · intro other new
    have differ : other ≠ conn := by
      rintro rfl
      have old := connected.old fd other denotes
      exact absurd new (Nat.not_le.mpr old)
    exact (congrArg Socket.sent (transmit_other s differ _)).trans (wire.unsent other new)
  · intro other error next clientNext denotesNext
    by_cases same : other = conn
    · subst same
      have old : s.Client next := clientNext.elim Or.inl (by simp [ListenPc.joining])
      rw [connected.unique next fd other old client denotesNext denotes]
      rfl
    · have before : s.ErrorSent other := by
        unfold ErrorSent at error
        dsimp only at error
        rw [transmit_other s same] at error
        exact error
      have old : s.Client next := clientNext.elim Or.inl (by simp [ListenPc.joining])
      have closing := wire.lastWord other before next old denotesNext
      rw [here] at closing
      cases closing
  · intro other
    by_cases same : other = conn
    · subst same
      exact protocolError_written wire isOpen bound notMidway first _
    · have socket := transmit_other s same
        { source := none, offset := 0, bytes := protocolErrorText.take count }
      exact (wire.written other).keep (fun _ _ _ => Iff.rfl) (fun _ => id)
        (congrArg Socket.sent socket) (fun dead => (congrArg Socket.shut socket).trans dead)

theorem listenStep_wire {s t : Server} (table : s.Table ds) (connected : s.Connected) (wire : s.Wire)
    {action : ListenAction} (unmixed : s.Unmixed (.listen action)) (run : s.listenStep ds action = some t) :
    t.Wire := by
  have flow := listenStep_flow table.located.holding run
  have accepted := (listenStep_frame run).accepted
  have progress : t.respPc = s.respPc → (∀ fd, s.respPc.dup = some fd → t.fdTable fd = s.fdTable fd) →
      ∀ conn, s.SameProgress t conn := by
    intro respPc fdTable conn transfer _ _
    rw [respPc]
    refine and_congr_right fun here => ?_
    rw [fdTable transfer.dup (ResponsePc.dup_of_progress here)]
  by_cases accepts : ∀ newSd ready, action ≠ .accept newSd ready
  swap
  · push Not at accepts
    obtain ⟨newSd, ready, rfl⟩ := accepts
    simp only [listenStep, onlyIf_eq_some] at run
    obtain ⟨⟨here, fresh, _⟩, rfl⟩ := run
    refine wire.keep accepted rfl (fun _ => id) (progress rfl ?_) ?_
    · intro fd own
      exact update_of_ne (table.dup_ne_fresh fresh.1 fd own) _ _
    · intro conn error fd client denotes
      by_cases same : fd = newSd
      · subst same
        simp only [update_self, Option.some.injEq] at denotes
        obtain ⟨piece, member, _⟩ := error
        rw [wire.unsent conn (by omega)] at member
        cases member
      · simp only [update_of_ne same] at denotes
        have old : s.Client fd := by
          refine Or.inl (client.resolve_right ?_)
          exact fun joining => same (Option.some.inj joining).symm
        have closing := wire.lastWord conn error fd old denotes
        rw [here] at closing
        cases closing
  by_cases closes : ∀ fd ready, action ≠ .closeSocket fd ready
  swap
  · push Not at closes
    obtain ⟨closed, ready, rfl⟩ := closes
    simp only [listenStep, onlyIf_eq_some] at run
    obtain ⟨here, rfl⟩ := run
    refine wire.keep accepted rfl (fun _ => id) (progress rfl ?_) ?_
    · intro fd own
      exact update_of_ne (table.dup_ne_handled (by rw [here]; rfl) fd own) _ _
    · rintro conn error fd (framed | joining) denotes
      · have differ : fd ≠ closed := by
          rintro rfl
          simp at framed
        simp only [update_of_ne differ] at framed denotes
        have closing := wire.lastWord conn error fd (Or.inl framed) denotes
        rw [here] at closing
        exact absurd (Option.some.inj closing).symm differ
      · cases joining
  have clients := listenStep_client table run accepts closes
  have fdTable := listenStep_fdTable run accepts closes
  have lastWord : ∀ conn, s.ErrorSent conn → ∀ fd, t.Client fd → t.fdTable fd = some conn →
      t.pc.closesFd = some fd := by
    intro conn error fd client denotes
    rw [fdTable] at denotes
    exact flow.closesFd (wire.lastWord conn error fd (clients fd client) denotes) closes
  have keep : t.sockets = s.sockets → t.scheduled = s.scheduled → t.respPc = s.respPc → t.Wire := by
    intro sockets scheduled respPc
    refine wire.keep accepted sockets ?_ (progress respPc ?_) lastWord
    · rw [scheduled]
      exact fun _ => id
    · rw [fdTable]
      exact fun _ _ => rfl
  by_cases inward : action.inward = true
  · have same := (listenStep_frame run).outside inward
    exact keep same.sockets same.scheduled same.respPc
  cases action <;> first | exact absurd rfl inward | simp only [listenStep, onlyIf_eq_some] at run
  case accept newSd ready => exact absurd rfl (accepts newSd ready)
  case closeSocket fd ready => exact absurd rfl (closes fd ready)
  case deregister fd ready =>
    obtain ⟨_, rfl⟩ := run
    cases known : s.getClientInfo fd <;> simp only [known] at keep <;> exact keep trivial trivial trivial
  case register | takeRequest =>
    obtain ⟨_, rfl⟩ := run
    exact keep rfl rfl rfl
  case sendProtocolError fd ready conn count =>
    obtain ⟨⟨here, possible⟩, rfl⟩ := run
    by_cases some : 0 < count
    · obtain ⟨denotes, isOpen, bound⟩ := possible some
      have notMidway := unmixed.1 conn (by simp [ServerAction.errorOn, some])
      simp only [some, if_true]
      exact protocolError_wire table connected wire here denotes isOpen bound notMidway
    · simp only [some, if_false] at keep ⊢
      exact keep trivial trivial trivial

theorem send_wire {s : Server} (connected : s.Connected) (wire : s.Wire) {resp : Response}
    {dup sent conn count : Nat} (handled : resp ∈ s.scheduled) (here : s.respPc = .sending resp dup sent)
    (denotes : s.fdTable dup = some conn) (isOpen : (s.sockets conn).shut = false) (some_ : 0 < count)
    (bound : sent + count ≤ resp.data.length) (uncut : ¬ s.ErrorCut conn) :
    Wire { s.transmit conn { source := some resp, offset := sent,
                             bytes := (resp.data.drop sent).take count } with
           respPc := .sending resp dup (sent + count) } := by
  refine ⟨?_, ?_, ?_⟩
  · intro other new
    have differ : other ≠ conn := by
      rintro rfl
      have old := connected.old dup other denotes
      exact absurd new (Nat.not_le.mpr old)
    exact (congrArg Socket.sent (transmit_other s differ _)).trans (wire.unsent other new)
  · rintro other ⟨piece, member, error⟩ fd client target
    refine wire.lastWord other ⟨piece, ?_, error⟩ fd client target
    by_cases same : other = conn
    · subst same
      dsimp only at member
      rw [transmit_sent] at member
      refine (List.mem_append.mp member).resolve_right ?_
      intro new
      rw [List.mem_singleton.mp new] at error
      cases error
    · dsimp only at member
      rwa [transmit_other s same] at member
  · intro other
    by_cases same : other = conn
    · subst same
      exact send_written wire handled here denotes isOpen some_ bound uncut
    · have socket := transmit_other s same
        { source := some resp, offset := sent, bytes := (resp.data.drop sent).take count }
      refine (wire.written other).keep ?_ (fun _ => id) (congrArg Socket.sent socket)
        (fun dead => (congrArg Socket.shut socket).trans dead)
      intro transfer _ _
      constructor
      · rintro ⟨progress, target⟩
        cases progress
        exact absurd (Option.some.inj (target.symm.trans denotes)) same
      · rintro ⟨progress, target⟩
        rw [here] at progress
        cases progress
        exact absurd (Option.some.inj (target.symm.trans denotes)) same

/-- A transfer keeps its dup until it is over. -/
theorem responseStep_progress {s t : Server} {action : ResponseAction} (run : s.responseStep ds action = some t)
    (quiet : action.transmits = false) (conn : Nat) : s.SameProgress t conn := by
  intro transfer begun unfinished
  rw [(responseStep_flow run).progress quiet begun unfinished]
  refine and_congr_right fun progress => ?_
  suffices same : t.fdTable = s.fdTable by rw [same]
  cases action <;> first | (cases quiet; done) | simp only [responseStep, onlyIf_eq_some] at run
  case dup resp newFd =>
    rw [run.1.1] at progress
    cases progress
  case closeDup resp dup =>
    rw [run.1] at progress
    cases progress
  all_goals
    obtain ⟨_, rfl⟩ := run
    rfl

theorem responseStep_wire {s t : Server} (table : s.Table ds) (connected : s.Connected) (routing : s.Routing)
    (wire : s.Wire) {action : ResponseAction} (unmixed : s.Unmixed (.respond action))
    (run : s.responseStep ds action = some t) : t.Wire := by
  have frame := responseStep_frame run
  have same := frame.listen
  by_cases transmits : action.transmits = true
  · cases action <;> first | (cases transmits; done) | simp only [responseStep, onlyIf_eq_some] at run
    case send resp dup sent conn count =>
      obtain ⟨⟨here, denotes, isOpen, some_, bound⟩, rfl⟩ := run
      have handled : resp ∈ s.scheduled := routing.handled resp (by rw [here]; rfl)
      exact send_wire connected wire handled here denotes isOpen some_ bound (unmixed.2 conn rfl)
    case shutdown resp dup sent wake conn =>
      obtain ⟨⟨here, denotes⟩, rfl⟩ := run
      have handled : resp ∈ s.scheduled := routing.handled resp (by rw [here]; rfl)
      exact shutdown_wire wire handled here denotes (by split_ifs <;> rfl)
  · have quiet := Bool.eq_false_of_not_eq_true transmits
    refine wire.keep ?_ (frame.sockets quiet) ?_ (responseStep_progress run quiet) ?_
    · exact Nat.le_of_eq frame.accepted.symm
    · rw [same.scheduled]
      exact fun _ => id
    · intro conn error fd client denotes
      rw [same.pc]
      have old : s.Client fd := by
        unfold Client at client ⊢
        rw [same.framers, same.pc] at client
        exact client
      refine wire.lastWord conn error fd old ?_
      rw [← responseStep_fdTable table run fd old]
      exact denotes

/-- A scheduled response is not sent yet. -/
theorem outsideStep_wire {s t : Server} (wire : s.Wire) {action : OutsideAction}
    (run : s.outsideStep action = some t) : t.Wire := by
  have quiet : ∀ conn, s.SameProgress s conn := fun _ _ _ _ => Iff.rfl
  cases action <;> simp only [outsideStep, onlyIf_eq_some, Option.some.injEq] at run
  case schedule request text put =>
    obtain ⟨_, rfl⟩ := run
    cases put with
    | false => exact wire
    | true =>
      exact wire.keep (Nat.le_refl _) rfl (fun _ known => List.mem_append_left _ known) quiet wire.lastWord
  case requestStop =>
    subst run
    exact wire.keep (Nat.le_refl _) rfl (fun _ => id) quiet wire.lastWord
  case stopWake written =>
    obtain ⟨_, rfl⟩ := run
    exact wire.keep (Nat.le_refl _) rfl (fun _ => id) quiet wire.lastWord

theorem step_wire {s t : Server} (table : s.Table ds) (connected : s.Connected) (routing : s.Routing) (wire : s.Wire)
    {action : ServerAction} (unmixed : s.Unmixed action) (run : s.step ds action = some t) : t.Wire := by
  cases action with
  | listen action => exact listenStep_wire table connected wire unmixed run
  | respond action => exact responseStep_wire table connected routing wire unmixed run
  | outside action => exact outsideStep_wire wire run

theorem Written.wholeTexts {s : Server} {conn : Nat} (routing : s.Routing) (written : s.Written conn) :
    s.WholeTexts conn := by
  obtain ⟨sources, part, stream, valid, once, errors, tail⟩ := written
  refine ⟨sources, part, stream, valid, once, ?_⟩
  have cut : ∀ source n, n < (textOf source).length → part = (textOf source).take n →
      part <+: textOf source ∧ part.length < (textOf source).length := by
    rintro source n bound rfl
    refine ⟨List.take_prefix _ _, ?_⟩
    rw [List.length_take]
    omega
  rcases tail with ⟨transfer, progress, _, _, unfinished, sent⟩ | ⟨_, rest⟩
  · have handled : transfer.resp ∈ s.scheduled := routing.handled _ (ResponsePc.response_of_progress progress)
    refine Or.inr ⟨some transfer.resp, ?_, by simp, cut (some transfer.resp)
      transfer.sent unfinished sent⟩
    intro resp same
    cases same
    exact handled
  · rcases rest with empty | ⟨_, resp, known, n, bound, sent⟩ | ⟨short, n, bound, sent⟩
    · exact Or.inl empty
    · refine Or.inr ⟨some resp, ?_, by simp, cut (some resp) n bound sent⟩
      intro other same
      cases same
      exact known
    · refine Or.inr ⟨none, by simp, ?_, cut none n bound sent⟩
      intro _ member
      exact (errors member).2 short

/-- As long as the two threads do not write into each other's texts, the stream
of every connection is made of whole texts, possibly followed by a part of one. -/
theorem wire_integrity {clientIdent : Nat} {s : Server}
    (reach : Reach (step ds) Unmixed (start ds clientIdent) s) (conn : Nat) : s.WholeTexts conn := by
  have wire : s.Wire := reach.invariant_with
    (fun _ before => And.intro (reach_table before) (And.intro (reach_connected before) (reach_routing before)))
    (wire_start clientIdent)
    fun _ _ _ known wire unmixed run => step_wire known.1 known.2.1 known.2.2 wire unmixed run
  exact (wire.written conn).wholeTexts (reach_routing reach)

theorem wire_integrity_answer : ∃ s : Server, s.stream 0 = [0x7b, 0x7d] ∧ s.WholeTexts 0 := by
  obtain ⟨s, reach, stream⟩ := exists_reach (step sampleDescriptors) Unmixed (start sampleDescriptors 0)
    (greeting ++ asking ++ answering ++ [.respond (.send sampleResponse 8 0 0 2)])
    (fun s => s.stream 0 = [0x7b, 0x7d]) (by decide)
  exact ⟨s, stream, wire_integrity reach 0⟩

/-- A protocol error after the first byte of a response is not a stream of whole
texts: its second byte belongs to neither text. -/
theorem not_wholeTexts_of_mixed {s : Server} (scheduled : s.scheduled = [sampleResponse])
    (stream : s.stream 0 = 0x7b :: protocolErrorText) : ¬ s.WholeTexts 0 := by
  rintro ⟨sources, part, same, valid, _, rest⟩
  rw [stream] at same
  cases sources with
  | nil =>
    rw [List.flatMap_nil, List.nil_append] at same
    rcases rest with empty | ⟨source, known, _, _, short⟩
    · rw [empty] at same
      cases same
    · rw [← same] at short
      cases source with
      | none => exact absurd short (by decide)
      | some resp =>
        have answer : resp ∈ s.scheduled := known resp rfl
        rw [scheduled, List.mem_singleton] at answer
        rw [answer] at short
        exact absurd short (by decide)
  | cons source later =>
    rw [List.flatMap_cons, List.append_assoc] at same
    have second := congrArg (fun bytes => bytes[1]?) same
    cases source with
    | none => exact absurd (Option.some.inj second) (by decide)
    | some resp =>
      have answer : resp ∈ s.scheduled := valid resp (List.mem_cons_self ..)
      rw [scheduled, List.mem_singleton] at answer
      rw [answer] at second
      exact absurd (Option.some.inj second) (by decide)

/-- The kernel takes the first byte of a response. Before the second one the
client's next bytes are a framing error, and the listen thread sends the
protocol error at once. -/
theorem protocol_error_lands_in_response :
    ∃ s, Reach (step sampleDescriptors) AllocationSucceeds (start sampleDescriptors 0) s ∧
      s.stream 0 = 0x7b :: protocolErrorText ∧ ¬ s.WholeTexts 0 := by
  obtain ⟨s, reach, scheduled, stream⟩ := exists_reach (step sampleDescriptors) AllocationSucceeds
    (start sampleDescriptors 0)
    (greeting ++ asking ++ answering ++
      [.respond (.send sampleResponse 8 0 0 1), .listen (.recv 7 [] 0 [0x78]),
       .listen (.checkConnection 7 (.receive (-1) [])), .listen (.queueReturn 7 false (.receive (-1) [])),
       .listen (.sendProtocolError 7 [] 0 88)])
    (fun s => s.scheduled = [sampleResponse] ∧ s.stream 0 = 0x7b :: protocolErrorText) (by decide)
  exact ⟨s, reach, stream, not_wholeTexts_of_mixed scheduled stream⟩

end Server
end JsonRpcTcp
