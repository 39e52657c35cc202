import JsonRpcTcp.ServerStep

namespace JsonRpcTcp
open Function

namespace ListenAction

/-- The actions of the listen thread that no other thread and no client sees,
except for the counts in `pending` and the wake pipe. -/
def inward : ListenAction → Bool
  | .accept .. | .register .. | .takeRequest .. | .sendProtocolError .. | .deregister .. | .closeSocket .. => false
  | _ => true

/-- The actions that change `pending`. -/
def accounting : ListenAction → Bool
  | .admission .. | .release .. | .erasePending .. => true
  | _ => false

/-- The actions that move a counted request on. -/
def moves : ListenAction → Bool
  | .admission .. | .queueRequest .. | .release .. | .takeRequest .. => true
  | _ => false

/-- The actions that read from or write to the wake pipe. -/
def wakes : ListenAction → Bool
  | .readWake _ | .releaseWake .. => true
  | _ => false

/-- The actions that change `master_set` or `paused_fds`. -/
def sorts : ListenAction → Bool
  | .register .. | .queueReturn .. | .erasePending .. | .closeSocket .. | .resumeNext .. => true
  | _ => false

/-- The actions that change a framer. -/
def frames : ListenAction → Bool
  | .register .. | .recv .. | .checkConnection .. | .queueRequest .. | .closeSocket .. => true
  | _ => false

end ListenAction

namespace ResponseAction

/-- The actions of the response thread that change `pending`. -/
def accounting : ResponseAction → Bool
  | .sendWaited .. | .drop .. | .responseDone _ => true
  | _ => false

/-- The actions that take a response in hand or finish with it. -/
def moves : ResponseAction → Bool
  | .chainGet _ | .responseDone _ => true
  | _ => false

/-- The actions that the kernel's side of a connection sees. -/
def transmits : ResponseAction → Bool
  | .send .. | .shutdown .. => true
  | _ => false

/-- The actions that write to the wake pipe. -/
def wakes : ResponseAction → Bool
  | .dropWake .. | .doneWake _ => true
  | _ => false

end ResponseAction

namespace Server

/-- The framer of a descriptor holds no complete request. -/
def Drained (s : Server) (fd : Nat) : Prop :=
  ∀ entry, s.framers fd = some entry → entry.framer.ready = []

/-- The framer of a descriptor holds a complete request. -/
def Holds (s : Server) (fd : Nat) (entry : FramerEntry) : Prop :=
  s.framers fd = some entry ∧ entry.framer.ready ≠ []

theorem drained_or_holds (s : Server) (fd : Nat) :
    s.Drained fd ∨ ∃ entry, s.Holds fd entry := by
  cases key : s.framers fd with
  | none =>
    left
    intro entry found
    rw [key] at found
    cases found
  | some entry =>
    by_cases empty : entry.framer.ready = []
    · left
      intro other found
      rw [key] at found
      cases found
      exact empty
    · exact Or.inr ⟨entry, key, empty⟩

theorem Holds.available {s : Server} {fd : Nat} {entry : FramerEntry} (holds : s.Holds fd entry) :
    entry.framer.available ≠ 0 := by
  intro zero
  exact holds.2 (List.eq_nil_of_length_eq_zero zero)

/-- The branches of `queue_framed_requests` before its loop. -/
theorem checkConnection_cases (s : Server) (fd : Nat) (caller : QueueCaller) :
    (s.Drained fd ∧ s.checkConnection fd caller = { s with pc := .returning fd false caller }) ∨
    (∃ entry, s.Holds fd entry ∧
      (∀ info, s.getClientInfo fd = some info → s.connectionDead info.ident = true) ∧
      s.checkConnection fd caller =
        { s with framers := update s.framers fd (some { entry with framer := entry.framer.reset })
                 pc := .returning fd false caller }) ∨
    (∃ entry info, s.Holds fd entry ∧ s.getClientInfo fd = some info ∧
      s.connectionDead info.ident = false ∧
      s.checkConnection fd caller = { s with pc := .admitting fd info 0 caller }) := by
  rcases s.drained_or_holds fd with drained | ⟨entry, holds⟩
  · left
    refine ⟨drained, ?_⟩
    unfold checkConnection
    cases key : s.framers fd with
    | none => rfl
    | some entry =>
      have empty : entry.framer.available = 0 := by rw [Framer.available, drained entry key, List.length_nil]
      simp only [empty, if_true]
  · right
    unfold checkConnection
    rw [holds.1]
    simp only [holds.available, if_false]
    cases known : s.getClientInfo fd with
    | none => exact Or.inl ⟨entry, holds, by simp, rfl⟩
    | some info =>
      by_cases dead : s.connectionDead info.ident = true
      · left
        refine ⟨entry, holds, ?_, by simp only [dead, if_true]⟩
        intro other same
        cases same
        exact dead
      · right
        exact ⟨entry, info, holds, rfl, Bool.eq_false_of_not_eq_true dead, by simp only [dead]; rfl⟩

/-- The branches at the head of the loop of `queue_framed_requests`. -/
theorem admission_cases (s : Server) (fd : Nat) (info : ClientInfo) (queued : Nat) (caller : QueueCaller) :
    (s.Drained fd ∧
      s.admission fd info queued caller = { s with pc := afterQueueing fd queued false caller }) ∨
    (∃ entry, s.Holds fd entry ∧ info.ident < 0 ∧
      s.admission fd info queued caller = { s with pc := .queueing fd info queued caller }) ∨
    (∃ entry, s.Holds fd entry ∧ 0 ≤ info.ident ∧
      maxPendingPerConn ≤ ((s.pending info.ident).getD {}).count ∧
      s.admission fd info queued caller =
        { s with pending := update s.pending info.ident
                   (some { (s.pending info.ident).getD {} with paused := true })
                 pc := afterQueueing fd queued true caller }) ∨
    (∃ entry, s.Holds fd entry ∧ 0 ≤ info.ident ∧
      ((s.pending info.ident).getD {}).count < maxPendingPerConn ∧
      s.admission fd info queued caller =
        { s with pending := update s.pending info.ident
                   (some { (s.pending info.ident).getD {} with
                           count := ((s.pending info.ident).getD {}).count + 1 })
                 admissions := s.admissions ++ [info.ident]
                 pc := .queueing fd info queued caller }) := by
  rcases s.drained_or_holds fd with drained | ⟨entry, holds⟩
  · left
    refine ⟨drained, ?_⟩
    unfold admission
    cases key : s.framers fd with
    | none => rfl
    | some entry =>
      have empty : entry.framer.available = 0 := by rw [Framer.available, drained entry key, List.length_nil]
      simp only [empty, if_true]
  · right
    unfold admission
    rw [holds.1]
    simp only [holds.available, if_false]
    by_cases negative : info.ident < 0
    · exact Or.inl ⟨entry, holds, negative, by simp only [negative, if_true]⟩
    · right
      simp only [negative, if_false, admissionSection]
      by_cases full : ((s.pending info.ident).getD {}).count ≥ maxPendingPerConn
      · left
        exact ⟨entry, holds, by omega, full, by simp only [full, if_true]⟩
      · right
        exact ⟨entry, holds, by omega, by omega, by simp only [full, if_false, Bool.false_eq_true]⟩

/-- The two outcomes of `chain_put` at the end of the loop body. -/
theorem queueRequest_cases {s : Server} {fd : Nat} {entry : FramerEntry} (holds : s.Holds fd entry)
    (info : ClientInfo) (queued : Nat) (caller : QueueCaller) (put : Bool) :
    (put = true ∧ s.queueRequest fd info queued caller put =
      { s with framers := update s.framers fd (some { entry with framer := entry.framer.next.2 })
               requestIdent := (s.requestIdent + 1).bmod (2 ^ 32)
               admitted := s.admitted ++ [s.poppedRequest fd info entry]
               requestChain := s.requestChain ++ [s.poppedRequest fd info entry]
               pc := .admitting fd info (queued + 1) caller }) ∨
    (put = false ∧ s.queueRequest fd info queued caller put =
      { s with framers := update s.framers fd (some { entry with framer := entry.framer.next.2 })
               requestIdent := (s.requestIdent + 1).bmod (2 ^ 32)
               admitted := s.admitted ++ [s.poppedRequest fd info entry]
               pc := .releasing fd info queued caller }) := by
  unfold queueRequest
  rw [holds.1]
  cases put with
  | true => exact Or.inl ⟨rfl, rfl⟩
  | false => exact Or.inr ⟨rfl, rfl⟩

/-- Two states that differ only in the listen thread's own variables, in
`request_chain`, `pending` and the wake pipe. -/
structure SameOutside (s t : Server) : Prop where
  respPc : t.respPc = s.respPc
  chain : t.clientInfoChain = s.clientInfoChain
  clientIdent : t.clientIdent = s.clientIdent
  issued : t.issued = s.issued
  responseChain : t.responseChain = s.responseChain
  scheduled : t.scheduled = s.scheduled
  answered : t.answered = s.answered
  fdTable : t.fdTable = s.fdTable
  sockets : t.sockets = s.sockets
  taken : t.taken = s.taken
  unanswered : t.unanswered = s.unanswered

/-- What most actions of the listen thread leave alone. -/
structure ListenFrame (action : ListenAction) (s t : Server) : Prop where
  accepted : s.accepted ≤ t.accepted
  outside : action.inward = true → s.SameOutside t
  pending : action.accounting = false → t.pending = s.pending
  requests : action.moves = false →
    t.requestChain = s.requestChain ∧ t.admissions = s.admissions ∧ t.finished = s.finished
  wakePipe : action.wakes = false → t.wakePipe = s.wakePipe
  sets : action.sorts = false → t.pausedFds = s.pausedFds ∧ t.masterSet = s.masterSet
  framers : action.frames = false → t.framers = s.framers

/-- Each field is one that the action may set, or the branch leaves it alone. -/
theorem ListenFrame.of_changes {action : ListenAction} {s t : Server} (accepted : s.accepted ≤ t.accepted)
    (outside : action.inward = false ∨ s.SameOutside t)
    (pending : action.accounting = true ∨ t.pending = s.pending)
    (requests : action.moves = true ∨
      t.requestChain = s.requestChain ∧ t.admissions = s.admissions ∧ t.finished = s.finished)
    (wakePipe : action.wakes = true ∨ t.wakePipe = s.wakePipe)
    (sets : action.sorts = true ∨ t.pausedFds = s.pausedFds ∧ t.masterSet = s.masterSet)
    (framers : action.frames = true ∨ t.framers = s.framers) : ListenFrame action s t where
  accepted := accepted
  outside inward := outside.resolve_left (by simp [inward])
  pending quiet := pending.resolve_left (by simp [quiet])
  requests quiet := requests.resolve_left (by simp [quiet])
  wakePipe quiet := wakePipe.resolve_left (by simp [quiet])
  sets quiet := sets.resolve_left (by simp [quiet])
  framers quiet := framers.resolve_left (by simp [quiet])

theorem listenStep_frame {ds : Descriptors} {s t : Server} {action : ListenAction}
    (run : s.listenStep ds action = some t) : ListenFrame action s t := by
  cases action <;> simp only [listenStep, onlyIf_eq_some] at run
  case recv fd ready conn bytes =>
    obtain ⟨_, rfl⟩ := run
    unfold recv
    split <;> exact .of_changes (Nat.le_refl _) (.inr (by constructor <;> rfl)) (.inr rfl) (.inr ⟨rfl, rfl, rfl⟩)
      (.inr rfl) (.inr ⟨rfl, rfl⟩) (.inl rfl)
  case checkConnection fd caller =>
    obtain ⟨_, rfl⟩ := run
    rcases s.checkConnection_cases fd caller with
      ⟨_, result⟩ | ⟨_, _, _, result⟩ | ⟨_, _, _, _, _, result⟩ <;> rw [result] <;>
      exact .of_changes (Nat.le_refl _) (.inr (by constructor <;> rfl)) (.inr rfl) (.inr ⟨rfl, rfl, rfl⟩) (.inr rfl)
        (.inr ⟨rfl, rfl⟩) (.inl rfl)
  case admission fd info queued caller =>
    obtain ⟨_, rfl⟩ := run
    rcases s.admission_cases fd info queued caller with
      ⟨_, result⟩ | ⟨_, _, _, result⟩ | ⟨_, _, _, _, result⟩ | ⟨_, _, _, _, result⟩ <;> rw [result] <;>
      exact .of_changes (Nat.le_refl _) (.inr (by constructor <;> rfl)) (.inl rfl) (.inl rfl) (.inr rfl)
        (.inr ⟨rfl, rfl⟩) (.inr rfl)
  case queueRequest fd info queued caller put =>
    obtain ⟨_, rfl⟩ := run
    unfold queueRequest
    split
    · exact .of_changes (Nat.le_refl _) (.inr (by constructor <;> rfl)) (.inr rfl) (.inr ⟨rfl, rfl, rfl⟩) (.inr rfl)
        (.inr ⟨rfl, rfl⟩) (.inl rfl)
    · cases put <;>
        exact .of_changes (Nat.le_refl _) (.inr (by constructor <;> rfl)) (.inr rfl) (.inl rfl) (.inr rfl)
          (.inr ⟨rfl, rfl⟩) (.inl rfl)
  case release fd info queued caller =>
    obtain ⟨_, rfl⟩ := run
    exact .of_changes (Nat.le_refl _) (.inr (by constructor <;> rfl)) (.inl rfl) (.inl rfl) (.inr rfl) (.inr ⟨rfl, rfl⟩)
      (.inr rfl)
  case erasePending fd ready =>
    obtain ⟨_, rfl⟩ := run
    exact .of_changes (Nat.le_refl _) (.inr (by constructor <;> rfl)) (.inl rfl) (.inr ⟨rfl, rfl, rfl⟩) (.inr rfl)
      (.inl rfl) (.inr rfl)
  case queueReturn fd paused caller =>
    obtain ⟨_, rfl⟩ := run
    cases caller with
    | receive frc ready =>
      simp only [queueReturn]
      split_ifs <;> exact .of_changes (Nat.le_refl _) (.inr (by constructor <;> rfl)) (.inr rfl) (.inr ⟨rfl, rfl, rfl⟩)
        (.inr rfl) (.inl rfl) (.inr rfl)
    | resume cursor =>
      cases paused <;> exact .of_changes (Nat.le_refl _) (.inr (by constructor <;> rfl)) (.inr rfl)
        (.inr ⟨rfl, rfl, rfl⟩) (.inr rfl) (.inl rfl) (.inr rfl)
  case resumeNext cursor fd =>
    obtain ⟨_, rfl⟩ := run
    simp only [resumeNext]
    split_ifs <;> exact .of_changes (Nat.le_refl _) (.inr (by constructor <;> rfl)) (.inr rfl) (.inr ⟨rfl, rfl, rfl⟩)
      (.inr rfl) (.inl rfl) (.inr rfl)
  case takeRequest fd paused caller request =>
    obtain ⟨_, rfl⟩ := run
    exact .of_changes (Nat.le_refl _) (.inl rfl) (.inr rfl) (.inl rfl) (.inr rfl) (.inr ⟨rfl, rfl⟩) (.inr rfl)
  case deregister fd ready =>
    obtain ⟨_, rfl⟩ := run
    split <;>
      exact .of_changes (Nat.le_refl _) (.inl rfl) (.inr rfl) (.inr ⟨rfl, rfl, rfl⟩) (.inr rfl) (.inr ⟨rfl, rfl⟩)
        (.inr rfl)
  case sendProtocolError fd ready conn count =>
    obtain ⟨_, rfl⟩ := run
    split_ifs <;>
      exact .of_changes (Nat.le_refl _) (.inl rfl) (.inr rfl) (.inr ⟨rfl, rfl, rfl⟩) (.inr rfl) (.inr ⟨rfl, rfl⟩)
        (.inr rfl)
  case accept newSd ready =>
    obtain ⟨_, rfl⟩ := run
    exact .of_changes (Nat.le_succ _) (.inl rfl) (.inr rfl) (.inr ⟨rfl, rfl, rfl⟩) (.inr rfl) (.inr ⟨rfl, rfl⟩)
      (.inr rfl)
  case register | closeSocket =>
    obtain ⟨_, rfl⟩ := run
    exact .of_changes (Nat.le_refl _) (.inl rfl) (.inr rfl) (.inr ⟨rfl, rfl, rfl⟩) (.inr rfl) (.inl rfl) (.inl rfl)
  case acceptRefused newSd ready =>
    obtain ⟨_, rfl⟩ := run
    exact .of_changes (Nat.le_succ _) (.inr (by constructor <;> rfl)) (.inr rfl) (.inr ⟨rfl, rfl, rfl⟩) (.inr rfl)
      (.inr ⟨rfl, rfl⟩) (.inr rfl)
  case readWake | releaseWake =>
    obtain ⟨_, rfl⟩ := run
    exact .of_changes (Nat.le_refl _) (.inr (by constructor <;> rfl)) (.inr rfl) (.inr ⟨rfl, rfl, rfl⟩) (.inl rfl)
      (.inr ⟨rfl, rfl⟩) (.inr rfl)
  all_goals
    obtain ⟨_, rfl⟩ := run
    exact .of_changes (Nat.le_refl _) (.inr (by constructor <;> rfl)) (.inr rfl) (.inr ⟨rfl, rfl, rfl⟩) (.inr rfl)
      (.inr ⟨rfl, rfl⟩) (.inr rfl)

/-- Of the listen thread's actions only `takeRequest` is one of the consumer, and none is one of the response
thread. -/
theorem listenStep_consumer {ds : Descriptors} {s t : Server} {action : ListenAction}
    (run : s.listenStep ds action = some t)
    (takes : ∀ fd paused caller request, action ≠ .takeRequest fd paused caller request) :
    (t.taken = s.taken ∧ t.unanswered = s.unanswered ∧ t.scheduled = s.scheduled) ∧
      t.responseChain = s.responseChain ∧ t.respPc = s.respPc := by
  by_cases inward : action.inward = true
  · have same := (listenStep_frame run).outside inward
    exact ⟨⟨same.taken, same.unanswered, same.scheduled⟩, same.responseChain, same.respPc⟩
  · cases action <;> first | exact absurd rfl inward | simp only [listenStep, onlyIf_eq_some] at run
    case takeRequest fd paused caller request => exact absurd rfl (takes fd paused caller request)
    case deregister fd ready =>
      obtain ⟨_, rfl⟩ := run
      split <;> exact ⟨⟨rfl, rfl, rfl⟩, rfl, rfl⟩
    case sendProtocolError fd ready conn count =>
      obtain ⟨_, rfl⟩ := run
      split_ifs <;> exact ⟨⟨rfl, rfl, rfl⟩, rfl, rfl⟩
    all_goals
      obtain ⟨_, rfl⟩ := run
      exact ⟨⟨rfl, rfl, rfl⟩, rfl, rfl⟩

/-- Two states that differ only in what the response thread may touch. -/
structure SameListen (s t : Server) : Prop where
  pc : t.pc = s.pc
  masterSet : t.masterSet = s.masterSet
  maxSd : t.maxSd = s.maxSd
  framers : t.framers = s.framers
  pausedFds : t.pausedFds = s.pausedFds
  requestChain : t.requestChain = s.requestChain
  endServer : t.endServer = s.endServer
  chain : t.clientInfoChain = s.clientInfoChain
  clientIdent : t.clientIdent = s.clientIdent
  issued : t.issued = s.issued
  taken : t.taken = s.taken
  unanswered : t.unanswered = s.unanswered
  admissions : t.admissions = s.admissions
  admitted : t.admitted = s.admitted
  scheduled : t.scheduled = s.scheduled

/-- What the actions of the response thread leave alone. -/
structure ResponseFrame (action : ResponseAction) (s t : Server) : Prop where
  listen : s.SameListen t
  accepted : t.accepted = s.accepted
  pending : action.accounting = false → t.pending = s.pending
  responses : action.moves = false → t.responseChain = s.responseChain ∧ t.finished = s.finished ∧
    t.answered = s.answered
  sockets : action.transmits = false → t.sockets = s.sockets
  wakePipe : action.wakes = false → t.wakePipe = s.wakePipe

theorem ResponseFrame.of_changes {action : ResponseAction} {s t : Server} (listen : s.SameListen t)
    (accepted : t.accepted = s.accepted) (pending : action.accounting = true ∨ t.pending = s.pending)
    (responses : action.moves = true ∨ t.responseChain = s.responseChain ∧ t.finished = s.finished ∧
      t.answered = s.answered)
    (sockets : action.transmits = true ∨ t.sockets = s.sockets)
    (wakePipe : action.wakes = true ∨ t.wakePipe = s.wakePipe) : ResponseFrame action s t where
  listen := listen
  accepted := accepted
  pending quiet := pending.resolve_left (by simp [quiet])
  responses quiet := responses.resolve_left (by simp [quiet])
  sockets quiet := sockets.resolve_left (by simp [quiet])
  wakePipe quiet := wakePipe.resolve_left (by simp [quiet])

theorem responseStep_frame {ds : Descriptors} {s t : Server} {action : ResponseAction}
    (run : s.responseStep ds action = some t) : ResponseFrame action s t := by
  cases action <;> simp only [responseStep, onlyIf_eq_some] at run
  case dup resp newFd =>
    obtain ⟨_, rfl⟩ := run
    split_ifs
    · cases newFd <;> cases s.fdTable resp.sockDescriptor <;>
        exact .of_changes (by constructor <;> rfl) rfl (.inr rfl) (.inr ⟨rfl, rfl, rfl⟩) (.inr rfl) (.inr rfl)
    · exact .of_changes (by constructor <;> rfl) rfl (.inr rfl) (.inr ⟨rfl, rfl, rfl⟩) (.inr rfl) (.inr rfl)
  case chainGet resp =>
    obtain ⟨_, rfl⟩ := run
    exact .of_changes (by constructor <;> rfl) rfl (.inr rfl) (.inl rfl) (.inr rfl) (.inr rfl)
  case responseDone resp =>
    obtain ⟨_, rfl⟩ := run
    exact .of_changes (by constructor <;> rfl) rfl (.inl rfl) (.inl rfl) (.inr rfl) (.inr rfl)
  case sendWaited | drop =>
    obtain ⟨_, rfl⟩ := run
    exact .of_changes (by constructor <;> rfl) rfl (.inl rfl) (.inr ⟨rfl, rfl, rfl⟩) (.inr rfl) (.inr rfl)
  case send | shutdown =>
    obtain ⟨_, rfl⟩ := run
    exact .of_changes (by constructor <;> rfl) rfl (.inr rfl) (.inr ⟨rfl, rfl, rfl⟩) (.inl rfl) (.inr rfl)
  case dropWake | doneWake =>
    obtain ⟨_, rfl⟩ := run
    exact .of_changes (by constructor <;> rfl) rfl (.inr rfl) (.inr ⟨rfl, rfl, rfl⟩) (.inr rfl) (.inl rfl)
  all_goals
    obtain ⟨_, rfl⟩ := run
    exact .of_changes (by constructor <;> rfl) rfl (.inr rfl) (.inr ⟨rfl, rfl, rfl⟩) (.inr rfl) (.inr rfl)

theorem outsideStep_frame {s t : Server} {action : OutsideAction} (run : s.outsideStep action = some t) :
    t.pc = s.pc ∧ t.framers = s.framers ∧ t.clientInfoChain = s.clientInfoChain ∧ t.pending = s.pending ∧
      t.masterSet = s.masterSet ∧ t.pausedFds = s.pausedFds ∧ t.respPc = s.respPc := by
  cases action <;> simp only [outsideStep, onlyIf_eq_some, Option.some.injEq] at run
  case schedule request text put =>
    obtain ⟨_, rfl⟩ := run
    cases put <;> exact ⟨rfl, rfl, rfl, rfl, rfl, rfl, rfl⟩
  case requestStop =>
    subst run
    exact ⟨rfl, rfl, rfl, rfl, rfl, rfl, rfl⟩
  case stopWake written =>
    obtain ⟨_, rfl⟩ := run
    exact ⟨rfl, rfl, rfl, rfl, rfl, rfl, rfl⟩

end Server
end JsonRpcTcp
