import JsonRpcTcp.SystemStep

namespace JsonRpcTcp
open Function

/-- A step schedules at most one response. -/
theorem Proxy.Move.emits {lib : JsonC} {rpcCallList : List RpcCommand} {s t : Proxy} {action : ProxyAction}
    (move : Proxy.Move lib rpcCallList s action t) (quiet : ∀ req, action ≠ .arrival (.take req)) :
    t.taken = s.taken ∧ (t.scheduled = s.scheduled ∨ ∃ reply, t.scheduled = s.scheduled ++ [reply]) := by
  cases move
  case take req here => exact absurd rfl (quiet req)
  case refuse => exact ⟨rfl, Or.inr ⟨_, rfl⟩⟩
  case sendResult => exact ⟨rfl, Or.inr ⟨_, rfl⟩⟩
  all_goals exact ⟨rfl, Or.inl rfl⟩

namespace System
variable {ds : Descriptors} {lib : JsonC} {rpcCallList : List RpcCommand}

/-- The proxy answers the requests that it took from the server. -/
structure Link (s : System) : Prop where
  taken : s.server.taken = s.proxy.taken
  scheduled : s.server.scheduled = s.proxy.scheduled.map Reply.response
  unanswered : ∀ (number : Nat) (req : Request), s.proxy.taken[number]? = some req → s.proxy.repliesTo number = [] →
    req ∈ s.server.unanswered

/-- The server and the proxy of a system run as they do on their own. In
particular the proxy answers no request twice. -/
structure Runs (ds : Descriptors) (lib : JsonC) (rpcCallList : List RpcCommand) (clientIdent : Nat) (s : System) :
    Prop where
  server : Reach (Server.step ds) (fun s action => s.AllocationSucceeds action ∧ s.AnsweredOnce action)
    (Server.start ds clientIdent) s.server
  proxy : Reach (Proxy.step lib rpcCallList) Proxy.AllocationSucceeds Proxy.start s.proxy
  link : s.Link
  framing : s.server.Framing s.framed

theorem runs_start (clientIdent : Nat) : (start ds clientIdent).Runs ds lib rpcCallList clientIdent where
  server := .start
  proxy := .start
  link := ⟨rfl, rfl, by simp [start, Proxy.start]⟩
  framing := Server.framing_start clientIdent

theorem Runs.numbered {clientIdent : Nat} {s : System} (runs : s.Runs ds lib rpcCallList clientIdent) :
    s.server.Numbered := Server.reach_numbered (fun _ _ permitted => permitted.1) runs.server

/-- The position of a request among those taken is its serial number. -/
theorem Runs.serial {clientIdent : Nat} {s : System} (runs : s.Runs ds lib rpcCallList clientIdent) {number : Nat}
    {req : Request} (taken : s.proxy.taken[number]? = some req) : req.serial = number := by
  refine runs.numbered.serial number req ?_
  rw [runs.numbered.passed, runs.link.taken]
  rw [List.getElem?_append_left (List.getElem?_eq_some_iff.mp taken).1]
  exact taken

theorem Runs.step_framing {clientIdent : Nat} {s : System} (runs : s.Runs ds lib rpcCallList clientIdent)
    {action : ServerAction} {server : Server} (run : s.server.step ds action = some server) :
    server.Framing (s.server.framedAfter s.framed action) :=
  Server.step_framing runs.framing (Server.reach_table runs.server) (Server.reach_identity runs.server)
    (Server.reach_connected runs.server) run

theorem Runs.take {clientIdent : Nat} {s : System} (runs : s.Runs ds lib rpcCallList clientIdent) {fd : Nat}
    {paused : Bool} {caller : QueueCaller} {req : Request} {server : Server} {proxy : Proxy}
    (run : s.server.step ds (.listen (.takeRequest fd paused caller req)) = some server)
    (taken : s.proxy.step lib rpcCallList (.arrival (.take req)) = some proxy) :
    ({ s with server := server, proxy := proxy } : System).Runs ds lib rpcCallList clientIdent where
  server := .next (a := .listen (.takeRequest fd paused caller req)) runs.server
    ⟨rfl, by simp [Server.AnsweredOnce, ServerAction.answers]⟩ run
  proxy := .next (a := .arrival (.take req)) runs.proxy rfl taken
  framing := runs.step_framing run
  link := by
    have link := runs.link
    simp only [Server.step, Server.listenStep, onlyIf_eq_some] at run
    simp only [Proxy.step, Proxy.arrivalStep, onlyIf_eq_some] at taken
    obtain ⟨_, rfl⟩ := run
    obtain ⟨_, rfl⟩ := taken
    refine ⟨?_, link.scheduled, ?_⟩
    · dsimp only
      rw [link.taken]
    · intro number other found unreplied
      rcases Nat.lt_or_ge number s.proxy.taken.length with old | new
      · rw [List.getElem?_append_left old] at found
        exact List.mem_append_left _ (link.unanswered number other found unreplied)
      · rw [List.getElem?_append_right new] at found
        exact List.mem_append_right _ (List.mem_of_getElem? found)

/-- A response that the proxy schedules is the first for its request. -/
theorem Runs.deliver (documented : lib.Documented) {clientIdent : Nat} {s : System}
    (runs : s.Runs ds lib rpcCallList clientIdent) {action : ProxyAction} {proxy : Proxy} {server : Server}
    (permitted : s.proxy.AllocationSucceeds action) (run : s.proxy.step lib rpcCallList action = some proxy)
    (quiet : ∀ req, action ≠ .arrival (.take req))
    (delivered : deliver s.server (proxy.scheduled.drop s.proxy.scheduled.length) = some server) :
    ({ s with server := server, proxy := proxy } : System).Runs ds lib rpcCallList clientIdent := by
  have after : Reach (Proxy.step lib rpcCallList) Proxy.AllocationSucceeds Proxy.start proxy :=
    .next runs.proxy permitted run
  have move := Proxy.step_moves documented (Proxy.reach_forward documented runs.proxy) permitted run
  have link := runs.link
  obtain ⟨taken, same | ⟨reply, added⟩⟩ := move.emits quiet
  · rw [same, List.drop_length] at delivered
    cases delivered
    refine ⟨runs.server, after, ⟨?_, ?_, ?_⟩, runs.framing⟩
    · rw [taken]
      exact link.taken
    · rw [same]
      exact link.scheduled
    · intro number req found
      unfold Proxy.repliesTo
      rw [same]
      rw [taken] at found
      exact link.unanswered number req found
  · rw [added, List.drop_left] at delivered
    obtain ⟨scheduled, stepped, rest⟩ := Option.bind_eq_some_iff.mp delivered
    cases rest
    have pipeline := Proxy.reach_pipeline documented after
    obtain ⟨request, address, _, _⟩ := pipeline.replies reply (by rw [added]; simp)
    have first : s.proxy.repliesTo reply.number = [] := by
      have once := pipeline.count (List.getElem?_eq_some_iff.mp request).1
      unfold Proxy.repliesTo at once ⊢
      rw [added, List.filter_append, List.length_append] at once
      simp only [List.filter_singleton, beq_self_eq_true, cond_true, List.length_singleton] at once
      exact List.eq_nil_of_length_eq_zero (by omega)
    rw [taken] at request
    have unanswered := link.unanswered reply.number reply.response.request request first
    have next : s.server.step ds (.outside (.schedule reply.response.request reply.response.data true)) = some server :=
      stepped
    refine ⟨.next (a := .outside (.schedule _ _ true)) runs.server ⟨rfl, ?_⟩ next, after, ⟨?_, ?_, ?_⟩,
      runs.step_framing next⟩
    · rintro _ ⟨⟩
      exact unanswered
    all_goals
      simp only [Server.step, Server.outsideStep, onlyIf_eq_some] at next
      obtain ⟨_, rfl⟩ := next
    · dsimp only
      rw [taken]
      exact link.taken
    · dsimp only
      rw [if_pos trivial, added, link.scheduled, List.map_append, List.map_singleton, ← address.1, ← address.2]
    · intro number req found unreplied
      rw [taken] at found
      unfold Proxy.repliesTo at unreplied
      rw [added, List.filter_append] at unreplied
      obtain ⟨before, notThis⟩ := List.append_eq_nil_iff.mp unreplied
      have differ : req ≠ reply.response.request := by
        intro equal
        have number_eq := runs.serial found
        rw [equal, runs.serial request] at number_eq
        simp [number_eq] at notThis
      dsimp only
      rw [if_pos trivial]
      exact (List.mem_erase_of_ne differ).mpr (link.unanswered number req found before)

theorem Runs.next (documented : lib.Documented) {clientIdent : Nat} {s t : System}
    (runs : s.Runs ds lib rpcCallList clientIdent) {action : SystemAction} (permitted : s.AllocationSucceeds action)
    (run : s.step ds lib rpcCallList action = some t) : t.Runs ds lib rpcCallList clientIdent := by
  cases step_moves run with
  | @server serverAction server stepped quiet stays =>
    obtain ⟨taken, unanswered, scheduled⟩ := stays
    have link := runs.link
    refine ⟨.next runs.server ⟨permitted, ?_⟩ stepped, runs.proxy, ⟨?_, ?_, ?_⟩, runs.step_framing stepped⟩
    · intro request answers
      rw [quiet] at answers
      cases answers
    · exact taken.trans link.taken
    · exact scheduled.trans link.scheduled
    · dsimp only
      rw [unanswered]
      exact link.unanswered
  | take stepped taken => exact runs.take stepped taken
  | proxy stepped quiet delivered => exact runs.deliver documented permitted stepped quiet delivered

theorem reach_runs (documented : lib.Documented) {clientIdent : Nat} {s : System}
    (reach : Reach (step ds lib rpcCallList) AllocationSucceeds (start ds clientIdent) s) :
    s.Runs ds lib rpcCallList clientIdent := by
  induction reach with
  | start => exact runs_start clientIdent
  | next _ permitted run ih => exact ih.next documented permitted run

/-- The responses to dispatched requests are scheduled in the order in which the
requests were popped from the framers. -/
theorem Runs.scheduled_in_order (documented : lib.Documented) {clientIdent : Nat} {s : System}
    (runs : s.Runs ds lib rpcCallList clientIdent) :
    s.server.scheduled.Pairwise fun earlier later => isDispatched lib rpcCallList earlier.request = true →
      isDispatched lib rpcCallList later.request = true → earlier.request.serial < later.request.serial := by
  have pipeline := Proxy.reach_pipeline documented runs.proxy
  have sent : (s.proxy.sent lib rpcCallList).Pairwise (· < ·) := by
    refine pipeline.ordered.sublist ?_
    unfold Proxy.line
    rw [List.append_assoc, List.append_assoc]
    exact List.sublist_append_left _ _
  unfold Proxy.sent at sent
  rw [List.pairwise_map, List.pairwise_filter] at sent
  rw [runs.link.scheduled, List.pairwise_map]
  refine sent.imp_of_mem fun {earlier later} here there ordered first second => ?_
  rw [runs.serial (pipeline.replies earlier here).request, runs.serial (pipeline.replies later there).request]
  exact ordered first second

theorem Runs.admitted_in_order {clientIdent : Nat} {s : System} (runs : s.Runs ds lib rpcCallList clientIdent)
    (conn : Nat) : (s.server.admittedOn conn).Pairwise fun earlier later => earlier.serial < later.serial := by
  refine List.Pairwise.sublist List.filter_sublist (List.pairwise_iff_getElem.mpr ?_)
  intro i j inside alsoInside less
  rw [runs.numbered.serial i _ (List.getElem?_eq_getElem inside),
    runs.numbered.serial j _ (List.getElem?_eq_getElem alsoInside)]
  exact less

/-- What is sent on a connection answers requests that came in on it. -/
theorem Runs.sent_admitted {clientIdent : Nat} {s : System} (runs : s.Runs ds lib rpcCallList clientIdent)
    {conn : Nat} {piece : Piece} (member : piece ∈ (s.server.sockets conn).sent) {resp : Response}
    (belongs : resp ∈ piece.source) : resp.request ∈ s.server.admittedOn conn := by
  have routing := Server.reach_routing runs.server
  obtain ⟨scheduled, nonempty, only⟩ := routing.sent conn piece member resp belongs
  refine List.mem_filter.mpr ⟨?_, ?_⟩
  · rw [runs.numbered.passed]
    exact List.mem_append_left _ (routing.scheduled resp scheduled).1
  · cases arrived : resp.request.arrivedOn with
    | nil => exact absurd arrived nonempty
    | cons first rest =>
      rw [only first (by rw [arrived]; exact List.mem_cons_self ..)]
      exact beq_self_eq_true _

/-- On every connection the responses to dispatched requests are sent in the order
of the requests, and no byte of one twice. The requests of an open connection
are the messages framed on it, in order. -/
theorem per_connection_fifo (documented : lib.Documented) {clientIdent : Nat} {s : System}
    (reach : Reach (step ds lib rpcCallList) AllocationSucceeds (start ds clientIdent) s) (conn : Nat) :
    ((s.server.sockets conn).sent.Pairwise fun first second =>
      ∀ earlier ∈ first.source, ∀ later ∈ second.source,
        isDispatched lib rpcCallList earlier.request = true → isDispatched lib rpcCallList later.request = true →
        earlier.request.serial < later.request.serial ∨
          (earlier = later ∧ first.offset + first.bytes.length ≤ second.offset)) ∧
    (∀ piece ∈ (s.server.sockets conn).sent, ∀ resp ∈ piece.source, resp.request ∈ s.server.admittedOn conn) ∧
    ((s.server.admittedOn conn).Pairwise fun earlier later => earlier.serial < later.serial) ∧
    ∀ info, s.server.Open info → info.conn = conn → s.server.connectionDead info.ident = false →
      ∃ entry, s.server.framers info.sockDescriptor = some entry ∧
        s.framed conn = (s.server.admittedOn conn).map Request.data ++ entry.framer.ready := by
  have runs := reach_runs documented reach
  refine ⟨?_, fun piece member resp belongs => runs.sent_admitted member belongs, runs.admitted_in_order conn, ?_⟩
  · have fifo := (Server.reach_fifo runs.server).sent_in_order (runs.scheduled_in_order documented) conn
    refine fifo.imp fun ordered earlier here later there first second => ?_
    rcases ordered earlier here later there with before | same
    · exact Or.inl (before first second)
    · exact Or.inr same
  · intro info isOpen same alive
    have table := Server.reach_table runs.server
    obtain ⟨entry, key⟩ := Option.isSome_iff_exists.mp (table.containers.recorded info isOpen.1)
    refine ⟨entry, key, ?_⟩
    rw [← same]
    rcases runs.framing.inOrder info isOpen.1 entry key with exactly | dead | leaves
    · exact exactly
    · have identity := Server.reach_identity runs.server
      have issued := (identity.range.2 info (identity.issued info isOpen.1)).1
      rw [dead.connectionDead (by omega)] at alive
      cases alive
    · exact absurd leaves isOpen.2

theorem per_connection_fifo_calls :
    ∃ s : System, (s.server.sockets 0).sent =
        [⟨some (answerTo Proxy.sampleCall), 0, answerText⟩, ⟨some (answerTo secondCall), 0, answerText⟩] ∧
      isDispatched Proxy.sampleLib [Proxy.sampleCommand] Proxy.sampleCall = true ∧
      Proxy.sampleCall.serial < secondCall.serial := by
  obtain ⟨s, reach, sent⟩ := exists_reach (step Server.sampleDescriptors Proxy.sampleLib [Proxy.sampleCommand])
    AllocationSucceeds (start Server.sampleDescriptors 0)
    (calling ++ (Proxy.working 0 1 ++ Proxy.working 1 2).map .proxy ++ sending Proxy.sampleCall ++ sending secondCall)
    (fun s => (s.server.sockets 0).sent =
      [⟨some (answerTo Proxy.sampleCall), 0, answerText⟩, ⟨some (answerTo secondCall), 0, answerText⟩])
    (by decide +kernel)
  have ordered := (per_connection_fifo Proxy.sampleLib_documented reach 0).1
  rw [sent, List.pairwise_pair] at ordered
  have dispatched : isDispatched Proxy.sampleLib [Proxy.sampleCommand] Proxy.sampleCall = true := by decide +kernel
  refine ⟨s, sent, dispatched, ?_⟩
  rcases ordered _ rfl _ rfl dispatched dispatched with before | ⟨same, _⟩
  · exact before
  · exact absurd same (by decide)

end System
end JsonRpcTcp
