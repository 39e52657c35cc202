import JsonRpcTcp.ServerAccounting

namespace JsonRpcTcp
open Function

/-- Where the next bytes of the response begin, while more of it may be sent. -/
def ResponsePc.offset : ResponsePc → Option Nat
  | .checking _ | .dupping _ => some 0
  | .sending _ _ sent => some sent
  | _ => none

/-- The response thread goes forward in its response. -/
theorem ResponseFlow.offset {pc next : ResponsePc} {action : ResponseAction} (flow : ResponseFlow pc action next)
    (stays : action.moves = false) {after : Nat} (here : after ∈ next.offset) :
    ∃ before ∈ pc.offset, before ≤ after := by
  cases flow
  case send resp dup sent conn count =>
    cases here
    exact ⟨sent, rfl, Nat.le_add_right sent count⟩
  all_goals first | (cases stays; done) | exact ⟨after, here, Nat.le_refl after⟩ | cases here

namespace Server
variable {ds : Descriptors}

/-- The responses that the response thread has taken from its chain, in order. -/
def handled (s : Server) : List Response := s.answered ++ s.respPc.response.toList

/-- The bytes of `first` come before those of `second`: they belong to a response
that is ahead of the other in `order`, or to an earlier part of the same one. -/
def Before (order : List Response) (first second : Piece) : Prop :=
  ∀ earlier ∈ first.source, ∀ later ∈ second.source,
    [earlier, later].Sublist order ∨ (earlier = later ∧ first.offset + first.bytes.length ≤ second.offset)

/-- Responses are sent in the order in which they were scheduled. -/
structure Fifo (s : Server) : Prop where
  queue : s.scheduled = s.handled ++ s.responseChain
  sources : ∀ conn, ∀ piece ∈ (s.sockets conn).sent, ∀ resp ∈ piece.source, resp ∈ s.answered ∨
    (s.respPc.response = some resp ∧ ∀ offset ∈ s.respPc.offset, piece.offset + piece.bytes.length ≤ offset)
  ordered : ∀ conn, (s.sockets conn).sent.Pairwise (Before s.handled)

theorem fifo_start (clientIdent : Nat) : (start ds clientIdent).Fifo where
  queue := rfl
  sources := by simp [start]
  ordered _ := List.Pairwise.nil

theorem Before.append {order : List Response} {first second : Piece} (before : Before order first second)
    (more : List Response) : Before (order ++ more) first second := by
  intro earlier belongs later alsoBelongs
  rcases before earlier belongs later alsoBelongs with ahead | same
  · exact Or.inl (ahead.trans (List.sublist_append_left order more))
  · exact Or.inr same

/-- The bytes that a step may add to a stream: none, or the next ones of the
response at hand, or bytes of no response. -/
def Extends (s t : Server) (conn : Nat) : Prop :=
  (t.sockets conn).sent = (s.sockets conn).sent ∨
    ∃ piece, (t.sockets conn).sent = (s.sockets conn).sent ++ [piece] ∧ ∀ resp ∈ piece.source,
      s.respPc.response = some resp ∧ piece.offset ∈ s.respPc.offset ∧
      ∀ offset ∈ t.respPc.offset, piece.offset + piece.bytes.length ≤ offset

/-- A step that goes on with the same response. -/
theorem Fifo.grow {s t : Server} (fifo : s.Fifo) (queue : t.scheduled = t.handled ++ t.responseChain)
    (answered : t.answered = s.answered) (response : t.respPc.response = s.respPc.response)
    (offset : ∀ after ∈ t.respPc.offset, ∃ before ∈ s.respPc.offset, before ≤ after)
    (sent : ∀ conn, s.Extends t conn) : t.Fifo where
  queue := queue
  sources conn piece member resp belongs := by
    rw [answered, response]
    have old : piece ∈ (s.sockets conn).sent → resp ∈ s.answered ∨ (s.respPc.response = some resp ∧
        ∀ offset ∈ t.respPc.offset, piece.offset + piece.bytes.length ≤ offset) := by
      intro known
      rcases fifo.sources conn piece known resp belongs with done | ⟨current, bound⟩
      · exact Or.inl done
      · refine Or.inr ⟨current, fun after here => ?_⟩
        obtain ⟨before, there, less⟩ := offset after here
        exact (bound before there).trans less
    rcases sent conn with same | ⟨new, added, next⟩
    · rw [same] at member
      exact old member
    · rw [added] at member
      rcases List.mem_append.mp member with known | last
      · exact old known
      · cases List.mem_singleton.mp last
        obtain ⟨current, _, bound⟩ := next resp belongs
        exact Or.inr ⟨current, bound⟩
  ordered conn := by
    have same : t.handled = s.handled := by rw [handled, handled, answered, response]
    rw [same]
    rcases sent conn with unchanged | ⟨new, added, next⟩
    · rw [unchanged]
      exact fifo.ordered conn
    · rw [added]
      refine List.pairwise_append.mpr ⟨fifo.ordered conn, List.pairwise_singleton .., ?_⟩
      intro piece known last member earlier belongs later alsoBelongs
      cases List.mem_singleton.mp member
      obtain ⟨current, begins, _⟩ := next later alsoBelongs
      rcases fifo.sources conn piece known earlier belongs with done | ⟨alsoCurrent, bound⟩
      · left
        rw [handled, current]
        exact (List.singleton_sublist.mpr done).append (List.Sublist.refl [later])
      · right
        exact ⟨Option.some.inj (alsoCurrent.symm.trans current), bound _ begins⟩

/-- The listen thread touches neither the responses nor, except for the protocol
error, the streams. -/
theorem listenStep_responses {s t : Server} {action : ListenAction} (run : s.listenStep ds action = some t) :
    t.respPc = s.respPc ∧ t.scheduled = s.scheduled ∧ t.answered = s.answered ∧
      t.responseChain = s.responseChain := by
  by_cases inward : action.inward = true
  · have same := (listenStep_frame run).outside inward
    exact ⟨same.respPc, same.scheduled, same.answered, same.responseChain⟩
  · cases action <;> first | exact absurd rfl inward | simp only [listenStep, onlyIf_eq_some] at run
    case deregister fd ready =>
      obtain ⟨_, rfl⟩ := run
      split <;> exact ⟨rfl, rfl, rfl, rfl⟩
    case sendProtocolError fd ready conn count =>
      obtain ⟨_, rfl⟩ := run
      split_ifs <;> exact ⟨rfl, rfl, rfl, rfl⟩
    all_goals
      obtain ⟨_, rfl⟩ := run
      exact ⟨rfl, rfl, rfl, rfl⟩

/-- Only the protocol error is sent by the listen thread. -/
theorem listenStep_extends {s t : Server} {action : ListenAction} (run : s.listenStep ds action = some t)
    (conn : Nat) : s.Extends t conn := by
  by_cases inward : action.inward = true
  · have same := (listenStep_frame run).outside inward
    exact Or.inl (by rw [same.sockets])
  · cases action <;> first | exact absurd rfl inward | simp only [listenStep, onlyIf_eq_some] at run
    case deregister fd ready =>
      obtain ⟨_, rfl⟩ := run
      split <;> exact Or.inl rfl
    case sendProtocolError fd ready other count =>
      obtain ⟨_, rfl⟩ := run
      split_ifs
      · by_cases same : conn = other
        · subst same
          refine Or.inr ⟨{ source := none, offset := 0, bytes := protocolErrorText.take count }, ?_, by simp⟩
          dsimp only [transmit]
          rw [update_self]
        · refine Or.inl ?_
          dsimp only [transmit]
          rw [update_of_ne same]
      · exact Or.inl rfl
    all_goals
      obtain ⟨_, rfl⟩ := run
      exact Or.inl rfl

theorem listenStep_fifo {s t : Server} (fifo : s.Fifo) {action : ListenAction}
    (run : s.listenStep ds action = some t) : t.Fifo := by
  obtain ⟨respPc, scheduled, answered, responseChain⟩ := listenStep_responses run
  have same : t.handled = s.handled := by rw [handled, handled, answered, respPc]
  refine fifo.grow ?_ answered (by rw [respPc]) ?_ (listenStep_extends run)
  · rw [scheduled, same, responseChain]
    exact fifo.queue
  · intro offset here
    rw [respPc] at here
    exact ⟨offset, here, Nat.le_refl offset⟩

/-- Between taking a response and finishing with it the response thread only
sends its next bytes. -/
theorem responseStep_extends {s t : Server} {action : ResponseAction} (run : s.responseStep ds action = some t)
    (conn : Nat) : s.Extends t conn := by
  by_cases transmits : action.transmits = true
  · cases action <;> first | (cases transmits; done) | simp only [responseStep, onlyIf_eq_some] at run
    case send resp dup sent other count =>
      obtain ⟨⟨here, _, _, _, bound⟩, rfl⟩ := run
      by_cases same : conn = other
      · subst same
        refine Or.inr ⟨_, by dsimp only [transmit]; rw [update_self], ?_⟩
        rintro _ ⟨⟩
        rw [here]
        refine ⟨rfl, rfl, ?_⟩
        rintro _ ⟨⟩
        dsimp only
        rw [List.length_take, List.length_drop]
        omega
      · refine Or.inl ?_
        dsimp only [transmit]
        rw [update_of_ne same]
    case shutdown resp dup sent wake other =>
      obtain ⟨_, rfl⟩ := run
      refine Or.inl ?_
      by_cases same : conn = other
      · subst same
        dsimp only
        rw [update_self]
      · dsimp only
        rw [update_of_ne same]
  · have same := (responseStep_frame run).sockets (by simpa using transmits)
    exact Or.inl (by rw [same])

theorem responseStep_fifo {s t : Server} (fifo : s.Fifo) {action : ResponseAction}
    (run : s.responseStep ds action = some t) : t.Fifo := by
  have flow := responseStep_flow run
  have frame := responseStep_frame run
  by_cases moves : action.moves = true
  · cases action <;> first | (cases moves; done) | simp only [responseStep, onlyIf_eq_some] at run
    case chainGet resp =>
      obtain ⟨⟨here, first⟩, rfl⟩ := run
      have none : s.respPc.response = none := by rw [here]; rfl
      have before : s.handled = s.answered := by rw [handled, none, Option.toList_none, List.append_nil]
      refine ⟨?_, ?_, ?_⟩
      · have queue := fifo.queue
        rw [before] at queue
        rw [handled, List.append_assoc]
        refine queue.trans (congrArg (s.answered ++ ·) ?_)
        cases chain : s.responseChain with
        | nil =>
          rw [chain] at first
          cases first
        | cons head rest =>
          rw [chain] at first
          cases first
          rfl
      · intro conn piece member other belongs
        rcases fifo.sources conn piece member other belongs with done | ⟨current, _⟩
        · exact Or.inl done
        · rw [none] at current
          cases current
      · intro conn
        refine (fifo.ordered conn).imp fun ordered => ?_
        rw [before] at ordered
        exact ordered.append [resp]
    case responseDone resp =>
      obtain ⟨here, rfl⟩ := run
      have current : s.respPc.response = some resp := by rw [here]; rfl
      have ended : (if (responseDoneSection s.pending resp.cltid).2 then ResponsePc.doneWake else .idle).response = none
        := by
        split_ifs <;> rfl
      have before : s.handled = s.answered ++ [resp] := by rw [handled, current, Option.toList_some]
      have queue := fifo.queue
      have ordered := fifo.ordered
      rw [before] at queue ordered
      refine ⟨?_, ?_, ?_⟩
      · simp only [handled, ended, Option.toList_none, List.append_nil]
        exact queue
      · intro conn piece member other belongs
        rcases fifo.sources conn piece member other belongs with done | ⟨same, _⟩
        · exact Or.inl (List.mem_append_left _ done)
        · cases Option.some.inj (same.symm.trans current)
          exact Or.inl (List.mem_append_right _ (List.mem_singleton_self _))
      · intro conn
        simp only [handled, ended, Option.toList_none, List.append_nil]
        exact ordered conn
  · have stays : action.moves = false := by simpa using moves
    obtain ⟨responseChain, _, answered⟩ := frame.responses stays
    have response := flow.response stays
    refine fifo.grow ?_ answered response ?_ (responseStep_extends run)
    · rw [frame.listen.scheduled, responseChain, handled, answered, response]
      exact fifo.queue
    · intro after here
      exact flow.offset stays here

theorem outsideStep_fifo {s t : Server} (fifo : s.Fifo) {action : OutsideAction} (run : s.outsideStep action = some t) :
    t.Fifo := by
  cases action <;> simp only [outsideStep, onlyIf_eq_some, Option.some.injEq] at run
  case schedule request text put =>
    obtain ⟨_, rfl⟩ := run
    cases put with
    | false => exact fifo
    | true =>
      refine fifo.grow ?_ rfl rfl (fun after here => ⟨after, here, Nat.le_refl after⟩) fun _ => Or.inl rfl
      dsimp only [handled]
      rw [if_pos rfl, fifo.queue, List.append_assoc]
      rfl
  case requestStop =>
    subst run
    exact fifo.grow fifo.queue rfl rfl (fun after here => ⟨after, here, Nat.le_refl after⟩) fun _ => Or.inl rfl
  case stopWake written =>
    obtain ⟨_, rfl⟩ := run
    exact fifo.grow fifo.queue rfl rfl (fun after here => ⟨after, here, Nat.le_refl after⟩) fun _ => Or.inl rfl

theorem step_fifo {s t : Server} (fifo : s.Fifo) {action : ServerAction} (run : s.step ds action = some t) :
    t.Fifo := by
  cases action with
  | listen action => exact listenStep_fifo fifo run
  | respond action => exact responseStep_fifo fifo run
  | outside action => exact outsideStep_fifo fifo run

theorem reach_fifo {allow : Server → ServerAction → Prop} {clientIdent : Nat} {s : Server}
    (reach : Reach (step ds) allow (start ds clientIdent) s) : s.Fifo :=
  reach.invariant (fifo_start clientIdent) fun _ _ _ fifo _ run => step_fifo fifo run

/-- Whatever relation holds along the scheduled responses holds along the bytes
of every stream, except within one response. -/
theorem Fifo.sent_in_order {s : Server} (fifo : s.Fifo) {related : Response → Response → Prop}
    (scheduled : s.scheduled.Pairwise related) (conn : Nat) :
    (s.sockets conn).sent.Pairwise fun first second => ∀ earlier ∈ first.source, ∀ later ∈ second.source,
      related earlier later ∨ (earlier = later ∧ first.offset + first.bytes.length ≤ second.offset) := by
  refine (fifo.ordered conn).imp fun before earlier belongs later alsoBelongs => ?_
  rcases before earlier belongs later alsoBelongs with ahead | same
  · have within : [earlier, later].Sublist s.scheduled := by
      rw [fifo.queue]
      exact ahead.trans (List.sublist_append_left _ _)
    exact Or.inl (List.pairwise_pair.mp (scheduled.sublist within))
  · exact Or.inr same

end Server
end JsonRpcTcp
