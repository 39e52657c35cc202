import JsonRpcTcp.ClientFraming
import JsonRpcTcp.ClientStep

namespace JsonRpcTcp

namespace Connection

theorem arrive_unread (c : Connection) (count : Nat) : (c.arrive count).unread = c.unread := by
  simp only [arrive, unread, List.append_assoc, List.take_append_drop]

theorem arrive_stream (c : Connection) (count : Nat) : (c.arrive count).stream = c.stream :=
  congrArg (c.past ++ ·) (c.arrive_unread count)

theorem recv_unread (c : Connection) (count : Nat) : c.buffer.take count ++ (c.recv count).unread = c.unread := by
  simp only [recv, unread, ← List.append_assoc, List.take_append_drop]

theorem recv_stream (c : Connection) (count : Nat) : (c.recv count).stream = c.stream := by
  simp only [stream, ← recv_unread c count]
  simp only [recv, List.append_assoc]

theorem write_unread (c : Connection) (data : List Byte) : (c.write data).unread = c.unread ++ data := by
  simp only [write, unread, List.append_assoc]

theorem write_stream (c : Connection) (data : List Byte) : (c.write data).stream = c.stream ++ data := by
  simp only [stream, write_unread, List.append_assoc]
  rfl

end Connection

/-- What is known of the framer of the client: it continues a run that stays clean over
everything the client has not read. -/
def CleanFraming (f : Framer) (served : List (List Byte)) (unread : List Byte) : Prop :=
  ∃ popped run, f.Represents framerDefaultMaxMsg popped run ∧
    CleanRun served ((MessageScan.transducer framerDefaultMaxMsg).resume run unread)

namespace CleanFraming
variable {f : Framer} {served : List (List Byte)} {unread : List Byte}

theorem new (clean : CleanRun served ((MessageScan.transducer framerDefaultMaxMsg).run MessageScan.idle unread)) :
    CleanFraming (Framer.new framerDefaultMaxMsg) served unread := by
  refine ⟨[], _, Framer.represents_new framerDefaultMaxMsg, ?_⟩
  rw [Transducer.resume_some, List.nil_append]
  exact clean

theorem fresh : CleanFraming (Framer.new framerDefaultMaxMsg) served Connection.fresh.unread := new CleanRun.idle

theorem serve (framing : CleanFraming f served unread) {separators message : List Byte}
    (separated : ∀ c ∈ separators, isSeparator c = true) (whole : IsMessage message) :
    CleanFraming f (served ++ [message]) (unread ++ (separators ++ message)) := by
  obtain ⟨popped, run, represents, clean⟩ := framing
  refine ⟨popped, run, represents, ?_⟩
  rw [Transducer.resume_append]
  exact clean.serve separated whole

theorem feed {chunk rest : List Byte} (framing : CleanFraming f served (chunk ++ rest)) :
    CleanFraming (f.feed chunk).2 served rest := by
  obtain ⟨popped, run, represents, clean⟩ := framing
  refine ⟨popped, _, Framer.feed_represents represents chunk, ?_⟩
  rw [← Transducer.resume_append]
  exact clean

/-- A popped message is one that the server sent. -/
theorem next (framing : CleanFraming f served unread) :
    CleanFraming f.next.2 served unread ∧ ∀ message, f.next.1 = some message → message ∈ served := by
  obtain ⟨popped, run, represents, clean⟩ := framing
  have pops := Framer.next_represents represents
  refine ⟨⟨_, run, pops, clean⟩, ?_⟩
  intro message found
  have emitted : message ∈ run.2 := by
    rw [← pops.observed.1, found]
    simp
  exact clean.of_earlier message emitted

end CleanFraming

namespace RpcClient
variable {lib : JsonC} {s t : RpcClient}

/-- The server sends complete JSON texts, with separators between them. -/
def Complete : ClientAction → Prop
  | .serve separators message => (∀ c ∈ separators, isSeparator c = true) ∧ IsMessage message ∧ (0 : Byte) ∉ message
  | _ => True

instance (action : ClientAction) : Decidable (Complete action) := by
  cases action with
  | serve separators message => exact inferInstanceAs (Decidable (_ ∧ _ ∧ _))
  | _ => exact instDecidableTrue

/-- Framing does not start again inside a message at an opening bracket: when the socket
has been drained, the bytes read from the connection end between two messages, or the
next byte that is no separator opens nothing. And json-c can parse what the server sends. -/
def Orderly (lib : JsonC) (s : RpcClient) : ClientAction → Prop
  | .drained => (BracketDepth.after s.sock.past).depth = 0 ∨
      (s.sock.unread.find? fun c => !isSeparator c).all (fun c => !isOpening c) = true
  | .serve _ message => (lib.tokenerParse message).isSome = true
  | _ => True

instance (s : RpcClient) (action : ClientAction) : Decidable (Orderly lib s action) := by
  cases action with
  | drained => exact inferInstanceAs (Decidable (_ ∨ _))
  | serve separators message => exact inferInstanceAs (Decidable (_ = true))
  | _ => exact instDecidableTrue

/-- The message has no id, a null one, or one that json-c reads as the id of the request.
An integer in the range of an int is read as itself. -/
def Answers (lib : JsonC) (message : List Byte) (txId : Int) : Prop :=
  ∃ resp, lib.tokenerParse message = some resp ∧ ∀ jid, resp.objectGet (ascii "id") = some jid →
    lib.getInt jid = txId ∧ ∀ n : Int, jid = .int n → -2 ^ 31 ≤ n → n < 2 ^ 31 → n = txId

/-- Every response returned for a request with an id is a whole message of the server
that answers this request. -/
def ResponsesIntact (lib : JsonC) (s : RpcClient) : Prop :=
  ∀ response ∈ s.returned, 0 ≤ response.1 → response.2 ∈ s.served ∧ Answers lib response.2 response.1

/-- The stream of the current connection is made of messages in `served`. -/
def Sourced (s : RpcClient) : Prop :=
  ∃ parts, Served parts ∧ s.sock.stream = (parts.flatMap fun part => part.1 ++ part.2) ∧
    ∀ part ∈ parts, part.2 ∈ s.served

/-- What holds in every state of an orderly run. -/
structure Sound (lib : JsonC) (s : RpcClient) : Prop where
  sourced : s.Sourced
  maxMsg : s.rxFramer.maxMsg = framerDefaultMaxMsg
  drainedFirst : s.pc = .draining → s.rxFramer = Framer.new framerDefaultMaxMsg
  framing : s.pc ≠ .draining → CleanFraming s.rxFramer s.served s.sock.unread
  cleared : s.pc ≠ .idle → s.pc ≠ .connecting → s.rxMsg = []
  parsed : ∀ message ∈ s.served, (0 : Byte) ∉ message ∧ (lib.tokenerParse message).isSome = true
  intact : s.ResponsesIntact lib

theorem sound_start : Sound lib start where
  sourced := ⟨[], ⟨fun _ member => absurd member List.not_mem_nil, fun _ member => absurd member List.not_mem_nil⟩,
    rfl, fun _ member => absurd member List.not_mem_nil⟩
  maxMsg := rfl
  drainedFirst impossible := by cases impossible
  framing _ := CleanFraming.fresh
  cleared impossible := absurd rfl impossible
  parsed _ member := absurd member List.not_mem_nil
  intact _ member := absurd member List.not_mem_nil

theorem sourced_fresh (fresh : s.sock = .fresh) : s.Sourced := by
  refine ⟨[], ⟨?_, ?_⟩, ?_, ?_⟩
  · intro _ member
    exact absurd member List.not_mem_nil
  · intro _ member
    exact absurd member List.not_mem_nil
  · rw [fresh]
    rfl
  · intro _ member
    exact absurd member List.not_mem_nil

/-- The bytes that a new connection brings, none, are framed from the start. -/
theorem Sound.renew (sound : Sound lib s) (fresh : t.sock = .fresh) (reset : t.rxFramer = s.rxFramer.reset)
    (served : t.served = s.served) (returned : t.returned = s.returned) (pc : t.pc = .idle ∨ t.pc = .connecting) :
    Sound lib t where
  sourced := sourced_fresh fresh
  maxMsg := by
    rw [reset]
    exact sound.maxMsg
  drainedFirst draining := by
    rcases pc with same | same <;> rw [same] at draining <;> cases draining
  framing _ := by
    rw [fresh, reset, Framer.reset_eq_new, sound.maxMsg]
    exact CleanFraming.fresh
  cleared busy elsewhere := by
    rcases pc with same | same
    · exact absurd same busy
    · exact absurd same elsewhere
  parsed := by
    rw [served]
    exact sound.parsed
  intact := by
    intro response member
    rw [returned] at member
    rw [served]
    exact sound.intact response member

/-- A step that touches neither the framer nor the connection. -/
theorem Sound.keep (sound : Sound lib s) (sourceQuiet : s.pc ≠ .draining) (quiet : t.pc ≠ .draining)
    (rxFramer : t.rxFramer = s.rxFramer) (sock : t.sock = s.sock) (served : t.served = s.served)
    (returned : t.returned = s.returned) (cleared : t.pc ≠ .idle → t.pc ≠ .connecting → t.rxMsg = []) :
    Sound lib t where
  sourced := by
    unfold Sourced
    rw [sock, served]
    exact sound.sourced
  maxMsg := by
    rw [rxFramer]
    exact sound.maxMsg
  drainedFirst draining := absurd draining quiet
  framing _ := by
    rw [rxFramer, sock, served]
    exact sound.framing sourceQuiet
  cleared := cleared
  parsed := by
    rw [served]
    exact sound.parsed
  intact := by
    unfold ResponsesIntact
    rw [returned, served]
    exact sound.intact

theorem sockConnect_sound (sound : Sound lib s) (pc : s.pc = .idle ∨ s.pc = .connecting) (established : Bool) :
    Sound lib (s.sockConnect established).2 ∧ (s.sockConnect established).2.pc = s.pc := by
  unfold sockConnect
  split_ifs
  · exact ⟨sound, rfl⟩
  · exact ⟨sound.renew rfl rfl rfl rfl pc, rfl⟩
  · exact ⟨sound, rfl⟩

theorem sockDisconnect_sound (sound : Sound lib s) (pc : s.pc = .idle ∨ s.pc = .connecting) :
    Sound lib s.sockDisconnect :=
  sound.renew rfl rfl rfl rfl pc

theorem rpcServerConnect_sound (sound : Sound lib s) (idle : s.pc = .idle) (ipAddr : List Byte) (portNum : Int)
    (established : Bool) : Sound lib (s.rpcServerConnect ipAddr portNum established) := by
  have connects : Sound lib (s.sockConnectTo ipAddr portNum established).2 ∧
      (s.sockConnectTo ipAddr portNum established).2.pc = .idle := by
    unfold sockConnectTo
    split_ifs
    · exact ⟨sound, idle⟩
    · have addressed : Sound lib { s with ip := ipAddr.take 15, port := portNum } := by
        refine sound.keep ?_ ?_ rfl rfl rfl rfl sound.cleared <;> rw [idle] <;> decide
      obtain ⟨connected, pc⟩ := sockConnect_sound addressed (.inl idle) established
      exact ⟨connected, pc.trans idle⟩
  obtain ⟨connected, pc⟩ := connects
  have quiet : (s.sockConnectTo ipAddr portNum established).2.pc ≠ .draining := by
    rw [pc]
    decide
  unfold rpcServerConnect
  split_ifs
  · exact sound
  · exact connected.keep quiet quiet rfl rfl rfl rfl connected.cleared
  · exact connected

theorem rpcServerDisconnect_sound (sound : Sound lib s) (idle : s.pc = .idle) : Sound lib s.rpcServerDisconnect := by
  have closed : Sound lib (if s.connected then s.sockDisconnect else s) ∧
      (if s.connected then s.sockDisconnect else s).pc = .idle := by
    split_ifs
    · exact ⟨sockDisconnect_sound sound (.inl idle), idle⟩
    · exact ⟨sound, idle⟩
  have quiet : (if s.connected then s.sockDisconnect else s).pc ≠ .draining := by
    rw [closed.2]
    decide
  exact closed.1.keep quiet quiet rfl rfl rfl rfl closed.1.cleared

theorem sendData_sound (sound : Sound lib s) (quiet : s.pc ≠ .draining) : Sound lib s.sendData := by
  unfold sendData
  split_ifs
  · exact sound.keep quiet (fun draining => ClientPc.noConfusion draining) rfl rfl rfl rfl fun _ _ => rfl
  · have reset : s.rxFramer.reset = Framer.new framerDefaultMaxMsg := by rw [Framer.reset_eq_new, sound.maxMsg]
    exact ⟨sound.sourced, sound.maxMsg, fun _ => reset, fun elsewhere => absurd rfl elsewhere, fun _ _ => rfl,
      sound.parsed, sound.intact⟩

theorem call_sound (sound : Sound lib s) (idle : s.pc = .idle) (txId : Int) (txMsg : List Byte) :
    Sound lib (s.call txId txMsg) := by
  have quiet : s.pc ≠ .draining := by
    rw [idle]
    decide
  have stored : Sound lib { s with txId := txId, txMsg := txMsg } :=
    sound.keep quiet quiet rfl rfl rfl rfl sound.cleared
  unfold call
  dsimp only
  split_ifs
  · exact stored.renew rfl rfl rfl rfl (.inr rfl)
  · exact sendData_sound stored quiet

theorem reconnect_sound (sound : Sound lib s) (connecting : s.pc = .connecting) (established : Bool) :
    Sound lib (s.reconnect established) := by
  obtain ⟨connected, pc⟩ := sockConnect_sound sound (.inr connecting) established
  have quiet : (s.sockConnect established).2.pc ≠ .draining := by
    rw [pc, connecting]
    decide
  unfold reconnect
  split_ifs
  · exact sendData_sound (connected.keep quiet quiet rfl rfl rfl rfl connected.cleared) quiet
  · exact sendData_sound connected quiet

theorem finish_sound (sound : Sound lib s) (quiet : s.pc ≠ .draining) (nothing : s.rxMsg = []) :
    Sound lib s.finish := by
  unfold finish
  rw [if_neg (fun found => found.1 nothing)]
  exact sound.keep quiet (fun draining => ClientPc.noConfusion draining) rfl rfl rfl rfl fun busy => absurd rfl busy

theorem peerClosed_sound (sound : Sound lib s) (receiving : s.pc = .receiving) : Sound lib s.peerClosed := by
  have quiet : s.pc ≠ .draining := by
    rw [receiving]
    decide
  have empty : s.rxMsg = [] := by
    refine sound.cleared ?_ ?_ <;> rw [receiving] <;> decide
  exact finish_sound (sound.keep quiet quiet rfl rfl rfl rfl sound.cleared) quiet empty

/-- What the comparison of `receive_response` lets through, for a text that json-c can parse. -/
theorem answers_of_match (documented : lib.Documented) {message : List Byte} {txId : Int}
  (noZero : (0 : Byte) ∉ message)
    (parses : (lib.tokenerParse message).isSome = true) (matched : isMatch lib message txId = true) :
    Answers lib message txId := by
  have whole := cString_of_no_zero noZero
  obtain ⟨resp, parsed⟩ := Option.isSome_iff_exists.mp parses
  refine ⟨resp, parsed, ?_⟩
  intro jid found
  have same : lib.getInt jid = txId := by
    simpa only [isMatch, whole, parsed, found, Option.all_some, beq_iff_eq] using matched
  refine ⟨same, ?_⟩
  intro n integer lower upper
  rw [← same, integer]
  exact (documented.getInt_int n lower upper).symm

theorem takeMessage_sound (documented : lib.Documented) (sound : Sound lib s) (receiving : s.pc = .receiving)
    {message : List Byte} (found : s.rxFramer.next.1 = some message) :
    Sound lib (takeMessage lib s message s.rxFramer.next.2) := by
  have quiet : s.pc ≠ .draining := by
    rw [receiving]
    decide
  obtain ⟨framing, fromServer⟩ := (sound.framing quiet).next
  have served := fromServer message found
  have maxMsg := (Framer.next_fields s.rxFramer).2.trans sound.maxMsg
  unfold takeMessage
  dsimp only
  by_cases accepted : s.txId < 0 ∨ isMatch lib message s.txId = true
  · rw [if_pos accepted]
    unfold finish
    split_ifs
    · refine ⟨sound.sourced, maxMsg, fun draining => ClientPc.noConfusion draining, fun _ => framing,
        fun busy => absurd rfl busy, sound.parsed, ?_⟩
      intro response member hasId
      rcases List.mem_append.mp member with earlier | new
      · exact sound.intact response earlier hasId
      · rw [List.mem_singleton.mp new] at hasId ⊢
        refine ⟨served, ?_⟩
        obtain ⟨noZero, parses⟩ := sound.parsed message served
        rcases accepted with negative | matched
        · exact absurd hasId (Int.not_le.mpr negative)
        · exact answers_of_match documented noZero parses matched
    all_goals
      exact ⟨sound.sourced, maxMsg, fun draining => ClientPc.noConfusion draining, fun _ => framing,
        fun busy => absurd rfl busy, sound.parsed, sound.intact⟩
  · rw [if_neg accepted]
    exact ⟨sound.sourced, maxMsg, fun draining => ClientPc.noConfusion draining, fun _ => framing,
      fun _ _ => rfl, sound.parsed, sound.intact⟩

/-- Framing starts at the byte where draining stopped. -/
theorem drained_sound (sound : Sound lib s) (draining : s.pc = .draining) (orderly : Orderly lib s .drained) :
    Sound lib { s with pc := .transmitting } := by
  obtain ⟨parts, served, stream, known⟩ := sound.sourced
  have clean : CleanRun s.served
      ((MessageScan.transducer framerDefaultMaxMsg).run MessageScan.idle s.sock.unread) := by
    rcases orderly with between | unopened
    · refine (served.clean_cut framerDefaultMaxMsg parts stream between).mono ?_
      intro message member
      obtain ⟨part, inside, rfl⟩ := List.mem_map.mp member
      exact known part inside
    · exact CleanRun.unopened s.sock.unread unopened
  have empty : s.rxMsg = [] := by
    refine sound.cleared ?_ ?_ <;> rw [draining] <;> decide
  refine ⟨sound.sourced, sound.maxMsg, fun impossible => ClientPc.noConfusion impossible, ?_, fun _ _ => empty,
    sound.parsed, sound.intact⟩
  intro _
  have fresh := sound.drainedFirst draining
  dsimp only
  rw [fresh]
  exact CleanFraming.new clean

theorem serve_sound (sound : Sound lib s) {separators message : List Byte}
    (complete : Complete (.serve separators message)) (orderly : Orderly lib s (.serve separators message)) :
    Sound lib { s with sock := s.sock.write (separators ++ message), served := s.served ++ [message] } := by
  obtain ⟨separated, whole, noZero⟩ := complete
  refine ⟨?_, sound.maxMsg, sound.drainedFirst, ?_, sound.cleared, ?_, ?_⟩
  · obtain ⟨parts, served, stream, known⟩ := sound.sourced
    refine ⟨parts ++ [(separators, message)], ⟨?_, ?_⟩, ?_, ?_⟩
    · intro part member
      rcases List.mem_append.mp member with old | new
      · exact served.messages part old
      · rw [List.mem_singleton.mp new]
        exact whole
    · intro part member
      rcases List.mem_append.mp member with old | new
      · exact served.separated part old
      · rw [List.mem_singleton.mp new]
        exact separated
    · simp only [Connection.write_stream, stream, List.flatMap_append, List.flatMap_singleton]
    · intro part member
      rcases List.mem_append.mp member with old | new
      · exact List.mem_append_left _ (known part old)
      · rw [List.mem_singleton.mp new]
        exact List.mem_append_right _ (List.mem_singleton_self _)
  · intro quiet
    simp only [Connection.write_unread]
    exact (sound.framing quiet).serve separated whole
  · intro text member
    rcases List.mem_append.mp member with old | new
    · exact sound.parsed text old
    · rw [List.mem_singleton.mp new]
      exact ⟨noZero, orderly⟩
  · intro response member hasId
    obtain ⟨served, answers⟩ := sound.intact response member hasId
    exact ⟨List.mem_append_left _ served, answers⟩

/-- A part of the stream is read, by the drain loop or into the framer. -/
theorem recv_sourced (sourced : s.Sourced) (count : Nat) (sock : t.sock = s.sock.recv count)
    (served : t.served = s.served) : t.Sourced := by
  unfold Sourced
  rw [sock, served, Connection.recv_stream]
  exact sourced

theorem step_sound (documented : lib.Documented) (sound : Sound lib s) {action : ClientAction}
    (complete : Complete action) (orderly : Orderly lib s action) (run : step lib s action = some t) :
    Sound lib t := by
  have elsewhere : ∀ pc, s.pc = pc → pc ≠ .draining → s.pc ≠ .draining := by
    intro pc here other
    rw [here]
    exact other
  cases action with
  | rpcServerConnect ipAddr portNum established =>
    obtain ⟨idle, rfl⟩ := onlyIf_eq_some.mp run
    exact rpcServerConnect_sound sound idle ipAddr portNum established
  | rpcServerDisconnect =>
    obtain ⟨idle, rfl⟩ := onlyIf_eq_some.mp run
    exact rpcServerDisconnect_sound sound idle
  | call txId txMsg =>
    obtain ⟨idle, rfl⟩ := onlyIf_eq_some.mp run
    exact call_sound sound idle txId txMsg
  | sockConnect established =>
    obtain ⟨connecting, rfl⟩ := onlyIf_eq_some.mp run
    exact reconnect_sound sound connecting established
  | drain count =>
    obtain ⟨⟨draining, _⟩, rfl⟩ := onlyIf_eq_some.mp run
    exact ⟨recv_sourced sound.sourced count rfl rfl, sound.maxMsg, sound.drainedFirst,
      fun other => absurd draining other, sound.cleared, sound.parsed, sound.intact⟩
  | drained =>
    obtain ⟨draining, rfl⟩ := onlyIf_eq_some.mp run
    exact drained_sound sound draining orderly
  | send delivered =>
    obtain ⟨transmitting, rfl⟩ := onlyIf_eq_some.mp run
    have empty : s.rxMsg = [] := by
      refine sound.cleared ?_ ?_ <;> rw [transmitting] <;> decide
    exact sound.keep (elsewhere _ transmitting (by decide)) (fun draining => ClientPc.noConfusion draining) rfl rfl rfl
      rfl fun _ _ => empty
  | receiveJson =>
    obtain ⟨waiting, rfl⟩ := onlyIf_eq_some.mp run
    have quiet := elsewhere _ waiting (by decide)
    split_ifs
    · exact sound.keep quiet (fun draining => ClientPc.noConfusion draining) rfl rfl rfl rfl fun _ _ => rfl
    · exact finish_sound (sound.keep quiet quiet rfl rfl rfl rfl fun _ _ => rfl) quiet rfl
  | deadline =>
    obtain ⟨waiting, rfl⟩ := onlyIf_eq_some.mp run
    refine finish_sound sound (elsewhere _ waiting (by decide)) (sound.cleared ?_ ?_) <;> rw [waiting] <;> decide
  | nextMessage =>
    unfold step at run
    cases pops : s.rxFramer.next with
    | mk found rest =>
      cases found with
      | none =>
        simp only [pops] at run
        obtain ⟨⟨receiving, _⟩, rfl⟩ := onlyIf_eq_some.mp run
        exact peerClosed_sound sound receiving
      | some message =>
        simp only [pops] at run
        obtain ⟨receiving, rfl⟩ := onlyIf_eq_some.mp run
        have taken := takeMessage_sound documented sound receiving (congrArg Prod.fst pops)
        rwa [congrArg Prod.snd pops] at taken
  | timeout =>
    obtain ⟨⟨receiving, _⟩, rfl⟩ := onlyIf_eq_some.mp run
    refine finish_sound sound (elsewhere _ receiving (by decide)) (sound.cleared ?_ ?_) <;> rw [receiving] <;> decide
  | recv count =>
    obtain ⟨⟨⟨receiving, _⟩, _⟩, rfl⟩ := onlyIf_eq_some.mp run
    have framing := sound.framing (elsewhere _ receiving (by decide))
    rw [← Connection.recv_unread s.sock count] at framing
    exact ⟨recv_sourced sound.sourced count rfl rfl, (Framer.feed_maxMsg _ _).trans sound.maxMsg,
      fun draining => absurd draining (elsewhere _ receiving (by decide)), fun _ => framing.feed, sound.cleared,
      sound.parsed, sound.intact⟩
  | recvFails =>
    obtain ⟨⟨receiving, _⟩, rfl⟩ := onlyIf_eq_some.mp run
    exact peerClosed_sound sound receiving
  | serve separators message =>
    obtain ⟨_, rfl⟩ := onlyIf_eq_some.mp run
    exact serve_sound sound complete orderly
  | arrive count =>
    obtain ⟨_, rfl⟩ := onlyIf_eq_some.mp run
    refine ⟨?_, sound.maxMsg, sound.drainedFirst, ?_, sound.cleared, sound.parsed, sound.intact⟩
    · unfold Sourced
      rw [Connection.arrive_stream]
      exact sound.sourced
    · intro quiet
      dsimp only
      rw [Connection.arrive_unread]
      exact sound.framing quiet

/-- The answers to the requests 1 and 2, and a part of the first one. -/
def firstResponse : List Byte := ascii "\x7b\"result\":\x7b\"a\":1\x7d,\"id\":1\x7d"
def secondResponse : List Byte := ascii "\x7b\"id\":2\x7d"
def innerResult : List Byte := ascii "\x7b\"a\":1\x7d"

/-- json-c on these texts. -/
def sampleJson : JsonC where
  tokenerParse text :=
    if text = firstResponse then
      some (.object [(ascii "result", .object [(ascii "a", .int 1)]), (ascii "id", .int 1)])
    else if text = secondResponse then some (.object [(ascii "id", .int 2)])
    else if text = innerResult then some (.object [(ascii "a", .int 1)])
    else none
  getString _ := some []
  getInt
    | .int n => max (-2 ^ 31) (min n (2 ^ 31 - 1))
    | _ => 0
  toJsonString _ := some []

theorem sampleJson_documented : sampleJson.Documented where
  getInt_int n low high := by
    simp only [sampleJson]
    omega
  getString_int _ := rfl
  prints _ := rfl

/-- Request 1 is sent and times out, and request 2 is about to be sent. -/
def lateFirst : List ClientAction :=
  [.rpcServerConnect (ascii "::") 4000 true, .call 1 [0x31], .drained, .send true, .receiveJson, .timeout, .call 2
    [0x32]]

end RpcClient
end JsonRpcTcp
