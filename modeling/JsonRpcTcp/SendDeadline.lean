import JsonRpcTcp.ServerStep

namespace JsonRpcTcp

/-! `ADNetServer::send_with_deadline`, which sends one response. The results of its system calls are
its inputs. -/

/-- `AD_NET_SERVER_SEND_TIMEOUT_MS`. -/
def sendTimeoutMs : Int := 1000

/-- `errno`. On some systems `EWOULDBLOCK` is another number than `EAGAIN`. -/
inductive Errno where
  | eintr | eagain | ewouldblock
  | other (code : Int)
  deriving DecidableEq, Repr

def wouldBlock : Errno → Bool
  | .eagain | .ewouldblock => true
  | _ => false

/-- `struct timespec`. -/
structure Timespec where
  tvSec : Int
  tvNsec : Int
  deriving DecidableEq, Repr

/-- The milliseconds of a reading. -/
def Timespec.ms (ts : Timespec) : Int := ts.tvSec * 1000 + ts.tvNsec.tdiv 1000000

/-- The system call that the function waits for: the three `clock_gettime`, `send`, or `poll` with
its time-out. -/
inductive SendPc where
  | starting
  | sending
  | checking
  | polling (left : Int)
  | finishing
  | returned (result : Int)
  deriving DecidableEq, Repr

/-- The result of a system call: a reading of the clock, the value of `send`, or that of `poll`. A
`send` may accept some bytes, return 0 or fail. -/
inductive SendCall where
  | clock (ts : Timespec)
  | sent (count : Nat)
  | sendFailed (errno : Errno)
  | polled
  | pollFailed (errno : Errno)
  deriving DecidableEq, Repr

/-- `send_with_deadline` with its arguments and locals. The last two fields are not in the source:
the bytes that the socket has accepted, and the results so far. -/
structure SendLoop where
  pc : SendPc
  buf : List Byte
  sent : Nat
  begun : Int
  deadline : Int
  waitedMs : Int
  accepted : List Byte
  calls : List SendCall
  deriving DecidableEq, Repr

namespace SendLoop

def start (buf : List Byte) : SendLoop where
  pc := .starting
  buf := buf
  sent := 0
  begun := 0
  deadline := 0
  waitedMs := 0
  accepted := []
  calls := []

/-- The head of the loop. -/
def loopHead (s : SendLoop) : SendLoop := { s with pc := if s.sent < s.buf.length then .sending else .finishing }

/-- The first reading of the clock. -/
def setDeadline (s : SendLoop) (ts : Timespec) : SendLoop :=
  loopHead { s with begun := ts.ms, deadline := ts.ms + sendTimeoutMs, waitedMs := 0 }

/-- The reading of the clock after a `send` that accepted nothing. `poll` takes its time-out as an int. -/
def check (s : SendLoop) (ts : Timespec) : SendLoop :=
  if s.deadline - ts.ms ≤ 0 then { s with pc := .returned (-2) }
  else { s with pc := .polling ((s.deadline - ts.ms).bmod (2 ^ 32)) }

/-- `send` accepts bytes from `buf + sent` on. -/
def accept (s : SendLoop) (count : Nat) : SendLoop :=
  loopHead { s with sent := s.sent + count, accepted := s.accepted ++ (s.buf.drop s.sent).take count }

def sendFailed (s : SendLoop) (errno : Errno) : SendLoop :=
  if errno = .eintr then s.loopHead
  else if !wouldBlock errno then { s with pc := .returned (-1) }
  else { s with pc := .checking }

def pollFailed (s : SendLoop) (errno : Errno) : SendLoop :=
  if errno ≠ .eintr then { s with pc := .returned (-1) } else s.loopHead

def isPolling : SendPc → Bool
  | .polling _ => true
  | _ => false

/-- The function goes on with the result of the system call it waits for. `send` accepts at most the
bytes that it was given. -/
def go (s : SendLoop) : SendCall → Option SendLoop
  | .clock ts =>
    match s.pc with
    | .starting => some (s.setDeadline ts)
    | .checking => some (s.check ts)
    | .finishing => some { s with waitedMs := ts.ms - s.begun, pc := .returned 0 }
    | _ => none
  | .sent count =>
    onlyIf (s.pc = .sending ∧ s.sent + count ≤ s.buf.length)
      (if 0 < count then s.accept count else { s with pc := .checking })
  | .sendFailed errno => onlyIf (s.pc = .sending) (s.sendFailed errno)
  | .polled => onlyIf (isPolling s.pc = true) s.loopHead
  | .pollFailed errno => onlyIf (isPolling s.pc = true) (s.pollFailed errno)

def step (s : SendLoop) (call : SendCall) : Option SendLoop :=
  (s.go call).map fun t => { t with calls := s.calls ++ [call] }

/-- The last result is an error of `send` or `poll` that is no reason to try again. -/
def HardError (s : SendLoop) : Prop :=
  ∃ errno, errno ≠ .eintr ∧
    (s.calls.getLast? = some (.sendFailed errno) ∧ wouldBlock errno = false ∨
      s.calls.getLast? = some (.pollFailed errno))

/-- The last result is a reading of the clock at the deadline or later. -/
def DeadlinePassed (s : SendLoop) : Prop :=
  ∃ first last, s.calls.head? = some (.clock first) ∧ s.calls.getLast? = some (.clock last) ∧
    first.ms + sendTimeoutMs ≤ last.ms

variable {s t : SendLoop} {buf : List Byte}

/-- What has been sent at each point, and why the function returned. -/
def Place (s : SendLoop) : Prop :=
  match s.pc with
  | .starting => s.sent = 0
  | .sending | .checking | .polling _ => s.sent < s.buf.length
  | .finishing => s.sent = s.buf.length
  | .returned result =>
    result = 0 ∧ s.sent = s.buf.length ∨ result = -1 ∧ s.sent < s.buf.length ∧ s.HardError ∨
      result = -2 ∧ s.sent < s.buf.length ∧ s.DeadlinePassed

/-- The socket has the bytes before `sent`, and the deadline counts from the first reading of the clock. -/
structure Exact (buf : List Byte) (s : SendLoop) : Prop where
  same : s.buf = buf
  accepted : s.accepted = s.buf.take s.sent
  bounded : s.sent ≤ s.buf.length
  fresh : s.pc = .starting → s.calls = []
  timed : s.pc ≠ .starting → ∃ first, s.calls.head? = some (.clock first) ∧ s.deadline = first.ms + sendTimeoutMs
  place : s.Place

theorem exact_start (buf : List Byte) : (start buf).Exact buf where
  same := rfl
  accepted := rfl
  bounded := Nat.zero_le _
  fresh _ := rfl
  timed started := absurd rfl started
  place := rfl

theorem place_loopHead (bounded : s.sent ≤ s.buf.length) : s.loopHead.Place := by
  unfold loopHead Place
  by_cases more : s.sent < s.buf.length
  · rw [if_pos more]
    exact more
  · rw [if_neg more]
    exact Nat.le_antisymm bounded (Nat.not_lt.mp more)

/-- The results do not matter before the function returns. -/
theorem Place.record (place : s.Place) (running : ∀ result, s.pc ≠ .returned result) (calls : List SendCall) :
    Place { s with calls := calls } := by
  unfold Place at place ⊢
  cases here : s.pc with
  | returned result => exact absurd here (running result)
  | _ =>
    simp only [here] at place ⊢
    exact place

theorem loopHead_running (result : Int) : s.loopHead.pc ≠ .returned result := by
  unfold loopHead
  split_ifs <;> exact fun same => by cases same

theorem loopHead_started (s : SendLoop) : s.loopHead.pc ≠ .starting := by
  unfold loopHead
  split_ifs <;> exact fun same => by cases same

theorem Exact.sending_lt (exact : s.Exact buf) (here : s.pc = .sending) : s.sent < s.buf.length := by
  have place := exact.place
  unfold Place at place
  rw [here] at place
  exact place

theorem Exact.polling_lt (exact : s.Exact buf) (here : isPolling s.pc = true) : s.sent < s.buf.length := by
  have place := exact.place
  unfold Place at place
  cases pc : s.pc <;> rw [pc] at here <;> first | (cases here; done) | skip
  rw [pc] at place
  exact place

/-- The deadline is kept once it is set. -/
theorem Exact.timed_later (exact : s.Exact buf) (begun : s.pc ≠ .starting) (call : SendCall) :
    ∃ first, (s.calls ++ [call]).head? = some (.clock first) ∧ s.deadline = first.ms + sendTimeoutMs := by
  obtain ⟨first, head, deadline⟩ := exact.timed begun
  exact ⟨first, by rw [List.head?_append, head, Option.some_or], deadline⟩

/-- Back at the head of the loop. -/
theorem exact_loopHead (same : s.buf = buf) (accepted : s.accepted = s.buf.take s.sent)
    (bounded : s.sent ≤ s.buf.length) {calls : List SendCall}
    (timed : ∃ first, calls.head? = some (.clock first) ∧ s.deadline = first.ms + sendTimeoutMs) :
    Exact buf { s.loopHead with calls := calls } where
  same := same
  accepted := accepted
  bounded := bounded
  fresh here := absurd here (loopHead_started s)
  timed _ := timed
  place := (place_loopHead bounded).record loopHead_running calls

/-- A call after which neither the bytes nor the deadline have changed. -/
theorem Exact.goto (exact : s.Exact buf) (begun : s.pc ≠ .starting) (call : SendCall) {pc : SendPc}
    (started : pc ≠ .starting) (place : Place { s with pc := pc, calls := s.calls ++ [call] }) :
    Exact buf { s with pc := pc, calls := s.calls ++ [call] } where
  same := exact.same
  accepted := exact.accepted
  bounded := exact.bounded
  fresh here := absurd here started
  timed _ := exact.timed_later begun call
  place := place

theorem Exact.retry (exact : s.Exact buf) (begun : s.pc ≠ .starting) (call : SendCall) :
    Exact buf { s.loopHead with calls := s.calls ++ [call] } :=
  exact_loopHead exact.same exact.accepted exact.bounded (exact.timed_later begun call)

theorem Exact.clock (exact : s.Exact buf) {ts : Timespec} {g : SendLoop} (run : s.go (.clock ts) = some g) :
    Exact buf { g with calls := s.calls ++ [.clock ts] } := by
  have place := exact.place
  unfold Place at place
  unfold go at run
  cases here : s.pc <;> simp only [here] at run place
  case starting =>
    cases run
    have head : (s.calls ++ [SendCall.clock ts]).head? = some (SendCall.clock ts) := by
      rw [exact.fresh here, List.nil_append, List.head?_cons]
    exact exact_loopHead (s := { s with begun := ts.ms, deadline := ts.ms + sendTimeoutMs, waitedMs := 0 }) exact.same
      exact.accepted exact.bounded ⟨ts, head, rfl⟩
  case checking =>
    cases run
    have begun : s.pc ≠ .starting := by simp [here]
    obtain ⟨first, head, deadline⟩ := exact.timed_later begun (.clock ts)
    unfold check
    split_ifs with late
    · refine exact.goto begun (.clock ts) (by simp)
        (.inr (.inr ⟨rfl, place, first, ts, head, List.getLast?_concat, ?_⟩))
      rw [← deadline]
      omega
    · exact exact.goto begun (.clock ts) (by simp) place
  case finishing =>
    cases run
    have begun : s.pc ≠ .starting := by simp [here]
    refine ⟨exact.same, exact.accepted, exact.bounded, ?_, fun _ => exact.timed_later begun _, .inl ⟨rfl, place⟩⟩
    exact fun impossible => by cases impossible
  all_goals cases run

theorem Exact.accept (exact : s.Exact buf) (here : s.pc = .sending) {count : Nat}
    (room : s.sent + count ≤ s.buf.length) :
    Exact buf { s.accept count with calls := s.calls ++ [.sent count] } := by
  have begun : s.pc ≠ .starting := by simp [here]
  have accepted : s.accepted ++ (s.buf.drop s.sent).take count = s.buf.take (s.sent + count) := by
    rw [exact.accepted, List.take_add]
  exact exact_loopHead
    (s := { s with sent := s.sent + count, accepted := s.accepted ++ (s.buf.drop s.sent).take count })
    exact.same accepted room (exact.timed_later begun _)

theorem Exact.step (exact : s.Exact buf) {call : SendCall} (run : s.step call = some t) : t.Exact buf := by
  obtain ⟨g, went, rfl⟩ := Option.map_eq_some_iff.mp run
  cases call with
  | clock ts => exact exact.clock went
  | sent count =>
    obtain ⟨⟨here, room⟩, rfl⟩ := onlyIf_eq_some.mp went
    by_cases some : 0 < count
    · rw [if_pos some]
      exact exact.accept here room
    · rw [if_neg some]
      exact exact.goto (by simp [here]) _ (by simp) (exact.sending_lt here)
  | sendFailed errno =>
    obtain ⟨here, rfl⟩ := onlyIf_eq_some.mp went
    have begun : s.pc ≠ .starting := by simp [here]
    unfold SendLoop.sendFailed
    by_cases interrupted : errno = .eintr
    · rw [if_pos interrupted]
      exact exact.retry begun _
    · rw [if_neg interrupted]
      cases blocks : wouldBlock errno with
      | false =>
        refine exact.goto begun _ (by simp)
          (.inr (.inl ⟨rfl, exact.sending_lt here, errno, interrupted, .inl ⟨?_, blocks⟩⟩))
        exact List.getLast?_concat
      | true => exact exact.goto begun _ (by simp) (exact.sending_lt here)
  | polled =>
    obtain ⟨here, rfl⟩ := onlyIf_eq_some.mp went
    exact exact.retry (by rintro start; rw [start] at here; cases here) _
  | pollFailed errno =>
    obtain ⟨here, rfl⟩ := onlyIf_eq_some.mp went
    have begun : s.pc ≠ .starting := by
      intro start
      rw [start] at here
      cases here
    unfold SendLoop.pollFailed
    by_cases interrupted : errno = .eintr
    · rw [if_neg (not_not.mpr interrupted)]
      exact exact.retry begun _
    · rw [if_pos interrupted]
      refine exact.goto begun _ (by simp) (.inr (.inl ⟨rfl, exact.polling_lt here, errno, interrupted, .inr ?_⟩))
      exact List.getLast?_concat

theorem reach_exact {allow : SendLoop → SendCall → Prop} (reach : Reach step allow (start buf) s) : s.Exact buf :=
  reach.invariant (exact_start buf) fun _ _ _ exact _ run => exact.step run

/-- Only the clock is left to be read, and then the function returns 0. -/
def Finishes (s : SendLoop) : Prop :=
  s.pc = .returned 0 ∨ ∀ now, ∃ t, s.step (.clock now) = some t ∧
    (t.pc = .returned 0 ∨ ∀ later, ∃ u, t.step (.clock later) = some u ∧ u.pc = .returned 0)

theorem Exact.length (exact : s.Exact buf) : s.accepted.length = s.sent := by
  rw [exact.accepted, List.length_take]
  exact Nat.min_eq_left exact.bounded

/-- The whole buffer has been accepted when `sent` is its length. -/
theorem Exact.whole_iff (exact : s.Exact buf) : s.accepted = buf ↔ s.sent = s.buf.length := by
  constructor
  · intro whole
    rw [← exact.length, whole, exact.same]
  · intro all
    rw [exact.accepted, all, List.take_length, exact.same]

theorem step_of_go {call : SendCall} {g : SendLoop} (goes : s.go call = some g) :
    s.step call = some { g with calls := s.calls ++ [call] } := by
  unfold SendLoop.step
  rw [goes]
  rfl

theorem Exact.finishes (exact : s.Exact buf) (whole : s.accepted = buf) : s.Finishes := by
  have all := exact.whole_iff.mp whole
  have place := exact.place
  have finishing : ∀ {t : SendLoop}, t.pc = .finishing →
      ∀ now, ∃ u, t.step (.clock now) = some u ∧ u.pc = .returned 0 := by
    intro t here now
    have goes : t.go (.clock now) = some { t with waitedMs := now.ms - t.begun, pc := .returned 0 } := by
      unfold go
      rw [here]
    exact ⟨_, step_of_go goes, rfl⟩
  unfold Place at place
  cases here : s.pc <;> simp only [here] at place
  case starting =>
    refine .inr fun now => ?_
    have goes : s.go (.clock now) = some (s.setDeadline now) := by
      unfold go
      rw [here]
    have none : ¬ s.sent < s.buf.length := by omega
    exact ⟨_, step_of_go goes, .inr (finishing (if_neg none))⟩
  case finishing =>
    refine .inr fun now => ?_
    obtain ⟨t, run, done⟩ := finishing here now
    exact ⟨t, run, .inl done⟩
  case returned result =>
    rcases place with ⟨zero, _⟩ | ⟨_, less, _⟩ | ⟨_, less, _⟩
    · exact .inl (by rw [here, zero])
    all_goals omega
  all_goals omega

/-- Whatever the system calls return, the socket accepts the buffer from its first byte on, each byte
once. The function returns 0 when that is the whole buffer, and only then. -/
theorem send_with_deadline_exact {allow : SendLoop → SendCall → Prop} {buf : List Byte} {s : SendLoop}
    (reach : Reach step allow (start buf) s) :
    s.accepted <+: buf ∧ s.accepted.length = s.sent ∧ (s.accepted = buf → s.Finishes) ∧
      ∀ result, s.pc = .returned result → (result = 0 ↔ s.accepted = buf) ∧
        (result = 0 ∨ result = -1 ∧ s.HardError ∨ result = -2 ∧ s.DeadlinePassed) := by
  have exact_ := reach_exact reach
  have start_ : s.accepted <+: buf := by
    rw [exact_.accepted, exact_.same]
    exact List.take_prefix _ _
  refine ⟨start_, exact_.length, exact_.finishes, ?_⟩
  intro result here
  have place := exact_.place
  unfold Place at place
  rw [here] at place
  rw [exact_.whole_iff]
  rcases place with ⟨zero, all⟩ | ⟨one, less, hard⟩ | ⟨two, less, late⟩
  · exact ⟨⟨fun _ => all, fun _ => zero⟩, .inl zero⟩
  · exact ⟨⟨fun zero => by omega, fun all => by omega⟩, .inr (.inl ⟨one, hard⟩)⟩
  · exact ⟨⟨fun zero => by omega, fun all => by omega⟩, .inr (.inr ⟨two, late⟩)⟩

/-- A response that goes out in two pieces, after an interrupt and a wait for the peer. -/
theorem send_with_deadline_exact_pieces : ∃ s : SendLoop, s.pc = .returned 0 ∧ s.waitedMs = 700 ∧
    s.accepted = [1, 2, 3, 4, 5] ∧ s.accepted <+: [1, 2, 3, 4, 5] := by
  obtain ⟨s, reach, returned, waited⟩ := exists_reach step (fun _ _ => True) (start [1, 2, 3, 4, 5])
    [.clock ⟨8, 500000000⟩, .sent 2, .sendFailed .eintr, .sendFailed .eagain, .clock ⟨9, 0⟩, .polled, .sent 3,
     .clock ⟨9, 200000000⟩]
    (fun s => s.pc = .returned 0 ∧ s.waitedMs = 700) (by decide +kernel)
  obtain ⟨begins, _, _, ends⟩ := send_with_deadline_exact reach
  exact ⟨s, returned, waited, ((ends 0 returned).1).mp rfl, begins⟩

/-- A call either hands the next bytes to the socket or leaves both counts alone. -/
theorem step_sent {call : SendCall} (run : s.step call = some t) :
    (∃ count, 0 < count ∧ s.sent + count ≤ s.buf.length ∧ t.sent = s.sent + count ∧
      t.accepted = s.accepted ++ (s.buf.drop s.sent).take count) ∨ t.sent = s.sent ∧ t.accepted = s.accepted := by
  obtain ⟨g, went, rfl⟩ := Option.map_eq_some_iff.mp run
  cases call with
  | clock ts =>
    right
    unfold go at went
    cases here : s.pc <;> simp only [here] at went <;> cases went
    · exact ⟨rfl, rfl⟩
    · unfold check
      split_ifs <;> exact ⟨rfl, rfl⟩
    · exact ⟨rfl, rfl⟩
  | sent count =>
    obtain ⟨⟨_, room⟩, rfl⟩ := onlyIf_eq_some.mp went
    by_cases some : 0 < count
    · rw [if_pos some]
      exact .inl ⟨count, some, room, rfl, rfl⟩
    · rw [if_neg some]
      exact .inr ⟨rfl, rfl⟩
  | sendFailed errno =>
    obtain ⟨_, rfl⟩ := onlyIf_eq_some.mp went
    right
    unfold SendLoop.sendFailed
    split_ifs <;> exact ⟨rfl, rfl⟩
  | polled =>
    obtain ⟨_, rfl⟩ := onlyIf_eq_some.mp went
    exact .inr ⟨rfl, rfl⟩
  | pollFailed errno =>
    obtain ⟨_, rfl⟩ := onlyIf_eq_some.mp went
    right
    unfold SendLoop.pollFailed
    split_ifs <;> exact ⟨rfl, rfl⟩

/-- The response thread of the server may send exactly so: each `send` that accepts bytes is a step of
it, and so is what it does with the value that is returned. -/
theorem server_sends (ds : Descriptors) {allow : Server → ServerAction → Prop}
    (sends : ∀ s action, allow s (.respond action))
    {srv : Server} {resp : Response} {dup conn : Nat} (here : srv.respPc = .sending resp dup 0)
    (denotes : srv.fdTable dup = some conn) (unshut : (srv.sockets conn).shut = false)
    {asked : SendLoop → SendCall → Prop} (reach : Reach step asked (start resp.data) s) :
    ∃ after, Reach (Server.step ds) allow srv after ∧ after.stream conn = srv.stream conn ++ s.accepted ∧
      after.respPc = .sending resp dup s.sent ∧ after.fdTable dup = some conn ∧ (after.sockets conn).shut = false ∧
      ∀ result, s.pc = .returned result → ∀ now,
        (if result = 0 then after.step ds (.respond (.sendWaited resp dup s.waitedMs now))
          else after.step ds (.respond (.sendFails resp dup s.sent))).isSome = true := by
  have sending : ∃ after, Reach (Server.step ds) allow srv after ∧ after.stream conn = srv.stream conn ++ s.accepted ∧
      after.respPc = .sending resp dup s.sent ∧ after.fdTable dup = some conn ∧ (after.sockets conn).shut = false := by
    induction reach with
    | start => exact ⟨srv, .start, (List.append_nil _).symm, here, denotes, unshut⟩
    | @next before next call previous _ run ih =>
      obtain ⟨after, further, stream, pc, open_, unshut⟩ := ih
      rcases step_sent run with ⟨count, some, room, sent, accepted⟩ | ⟨sent, accepted⟩
      · rw [(reach_exact previous).same] at room accepted
        refine ⟨_, .next (a := .respond (.send resp dup before.sent conn count)) further (sends after _)
          (onlyIf_eq_some.mpr ⟨⟨pc, open_, unshut, some, room⟩, rfl⟩), ?_, ?_, open_, ?_⟩
        · rw [accepted, ← List.append_assoc, ← stream]
          simp only [Server.stream, Server.transmit, Function.update_self, List.flatMap_append, List.flatMap_singleton]
        · rw [sent]
        · simp only [Server.transmit, Function.update_self]
          exact unshut
      · rw [sent, accepted]
        exact ⟨after, further, stream, pc, open_, unshut⟩
  obtain ⟨after, further, stream, pc, open_, unshut⟩ := sending
  refine ⟨after, further, stream, pc, open_, unshut, ?_⟩
  intro result ended now
  have exact_ := reach_exact reach
  have place := exact_.place
  unfold Place at place
  rw [ended, exact_.same] at place
  by_cases success : result = 0
  · have all : s.sent = resp.data.length := by
      rcases place with ⟨_, all⟩ | ⟨one, _⟩ | ⟨two, _⟩
      · exact all
      all_goals omega
    rw [if_pos success]
    rw [all] at pc
    exact Option.isSome_iff_exists.mpr ⟨_, onlyIf_eq_some.mpr ⟨pc, rfl⟩⟩
  · have less : s.sent < resp.data.length := by
      rcases place with ⟨zero, _⟩ | ⟨_, less, _⟩ | ⟨_, less, _⟩
      · exact absurd zero success
      all_goals exact less
    rw [if_neg success]
    exact Option.isSome_iff_exists.mpr ⟨_, onlyIf_eq_some.mpr ⟨⟨pc, less⟩, rfl⟩⟩

end SendLoop
end JsonRpcTcp
