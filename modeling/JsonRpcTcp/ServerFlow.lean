import JsonRpcTcp.ServerCases

namespace JsonRpcTcp

/-- The control flow of the listen thread. -/
inductive ListenFlow (ds : Descriptors) : ListenPc → ListenAction → ListenPc → Prop
  | stopped (ready) : ListenFlow ds .top (.select ready) .exited
  | reported (ready) : ListenFlow ds .top (.select ready) (.scanning ready)
  | timeout (ready) : ListenFlow ds .top (.select ready) (.resuming 0)
  | nothing (ready) : ListenFlow ds .top (.select ready) .loopEnd
  | broken (fatal) : ListenFlow ds .top (.selectFails fatal) .exited
  | interrupted (fatal) : ListenFlow ds .top (.selectFails fatal) .loopEnd
  | stopWake (ready) : ListenFlow ds (.scanning (ds.wakeIn :: ready)) (.readWake ready) .loopEnd
  | readWake (ready) : ListenFlow ds (.scanning (ds.wakeIn :: ready)) (.readWake ready) (.resuming 0)
  | startAccept (ready) : ListenFlow ds (.scanning (ds.listenSd :: ready)) (.startAccept ready) (.accepting ready)
  | startReceive (fd ready) : ListenFlow ds (.scanning (fd :: ready)) (.startReceive fd ready) (.receiving fd ready)
  | endScan (ready) : ListenFlow ds (.scanning ready) (.endScan ready) .loopEnd
  | accept (newSd ready) : ListenFlow ds (.accepting ready) (.accept newSd ready) (.registering newSd ready)
  | refuse (newSd ready) : ListenFlow ds (.accepting ready) (.acceptRefused newSd ready) (.accepting ready)
  | acceptFails (fatal ready) : ListenFlow ds (.accepting ready) (.acceptFails fatal ready) (.scanning ready)
  | register (newSd ready conn port ip put) :
    ListenFlow ds (.registering newSd ready) (.register newSd ready conn port ip put) (.accepting ready)
  | recv (fd ready conn bytes frc) :
    ListenFlow ds (.receiving fd ready) (.recv fd ready conn bytes) (.checking fd (.receive frc ready))
  | unframed (fd ready conn bytes) :
    ListenFlow ds (.receiving fd ready) (.recv fd ready conn bytes) (.protocolError fd ready)
  | recvBlocks (fd ready) : ListenFlow ds (.receiving fd ready) (.recvBlocks fd ready) (.scanning ready)
  | recvEnds (fd ready) : ListenFlow ds (.receiving fd ready) (.recvEnds fd ready) (.closing fd ready)
  | skip (fd caller) : ListenFlow ds (.checking fd caller) (.checkConnection fd caller) (.returning fd false caller)
  | check (fd caller info) :
    ListenFlow ds (.checking fd caller) (.checkConnection fd caller) (.admitting fd info 0 caller)
  | admitting (fd info queued caller) : ListenFlow ds (.admitting fd info queued caller)
    (.admission fd info queued caller) (.queueing fd info queued caller)
  | leave (fd info queued caller paused) : ListenFlow ds (.admitting fd info queued caller)
    (.admission fd info queued caller) (.returning fd paused caller)
  | notify (fd info queued caller paused) : ListenFlow ds (.admitting fd info queued caller)
    (.admission fd info queued caller) (.notifying fd paused caller)
  | queue (fd info queued caller) : ListenFlow ds (.queueing fd info queued caller)
    (.queueRequest fd info queued caller true) (.admitting fd info (queued + 1) caller)
  | giveUp (fd info queued caller) : ListenFlow ds (.queueing fd info queued caller)
    (.queueRequest fd info queued caller false) (.releasing fd info queued caller)
  | releaseWakes (fd info queued caller) : ListenFlow ds (.releasing fd info queued caller)
    (.release fd info queued caller) (.releaseWake fd queued caller)
  | releaseLeave (fd info queued caller) : ListenFlow ds (.releasing fd info queued caller)
    (.release fd info queued caller) (.returning fd false caller)
  | releaseNotify (fd info queued caller) : ListenFlow ds (.releasing fd info queued caller)
    (.release fd info queued caller) (.notifying fd false caller)
  | wokenLeave (fd queued caller written) : ListenFlow ds (.releaseWake fd queued caller)
    (.releaseWake fd queued caller written) (.returning fd false caller)
  | wokenNotify (fd queued caller written) : ListenFlow ds (.releaseWake fd queued caller)
    (.releaseWake fd queued caller written) (.notifying fd false caller)
  | takeRequest (fd paused caller request) : ListenFlow ds (.notifying fd paused caller)
    (.takeRequest fd paused caller request) (.notifying fd paused caller)
  | notifyDone (fd paused caller) : ListenFlow ds (.notifying fd paused caller)
    (.notifyDone fd paused caller) (.returning fd paused caller)
  | reject (fd paused frc ready) : ListenFlow ds (.returning fd paused (.receive frc ready))
    (.queueReturn fd paused (.receive frc ready)) (.protocolError fd ready)
  | pause (fd frc ready) : ListenFlow ds (.returning fd true (.receive frc ready))
    (.queueReturn fd true (.receive frc ready)) (.scanning ready)
  | receiveAgain (fd frc ready) : ListenFlow ds (.returning fd false (.receive frc ready))
    (.queueReturn fd false (.receive frc ready)) (.receiving fd ready)
  | resume (fd paused cursor) : ListenFlow ds (.returning fd paused (.resume cursor))
    (.queueReturn fd paused (.resume cursor)) (.resuming cursor)
  | sendProtocolError (fd ready conn count) : ListenFlow ds (.protocolError fd ready)
    (.sendProtocolError fd ready conn count) (.closing fd ready)
  | erasePending (fd ready) : ListenFlow ds (.closing fd ready) (.erasePending fd ready) (.deregistering fd ready)
  | deregister (fd ready) : ListenFlow ds (.deregistering fd ready) (.deregister fd ready) (.deregistering fd ready)
  | deregistered (fd ready) : ListenFlow ds (.deregistering fd ready) (.deregister fd ready) (.closeFd fd ready)
  | closeSocket (fd ready) : ListenFlow ds (.closeFd fd ready) (.closeSocket fd ready) (.scanning ready)
  | stay (cursor fd) : ListenFlow ds (.resuming cursor) (.resumeNext cursor fd) (.resuming (fd + 1))
  | takeOut (cursor fd) :
    ListenFlow ds (.resuming cursor) (.resumeNext cursor fd) (.checking fd (.resume (fd + 1)))
  | resumeDone (cursor) : ListenFlow ds (.resuming cursor) (.resumeDone cursor) .loopEnd
  | loop : ListenFlow ds .loopEnd .loopCheck .top
  | exit : ListenFlow ds .loopEnd .loopCheck .exited

/-- The control flow of the response thread. -/
inductive ResponseFlow : ResponsePc → ResponseAction → ResponsePc → Prop
  | chainGet (resp) : ResponseFlow .idle (.chainGet resp) (.checking resp)
  | alive (resp alive) : ResponseFlow (.checking resp) (.checkDead resp alive) (.dupping resp)
  | dead (resp alive) : ResponseFlow (.checking resp) (.checkDead resp alive) (.finishing resp)
  | dup (resp fd) : ResponseFlow (.dupping resp) (.dup resp (some fd)) (.sending resp fd 0)
  | gone (resp newFd) : ResponseFlow (.dupping resp) (.dup resp newFd) (.finishing resp)
  | send (resp dup sent conn count) :
    ResponseFlow (.sending resp dup sent) (.send resp dup sent conn count) (.sending resp dup (sent + count))
  | sendFails (resp dup sent) :
    ResponseFlow (.sending resp dup sent) (.sendFails resp dup sent) (.dropping resp dup sent)
  | slow (resp dup waitedMs now) : ResponseFlow (.sending resp dup resp.data.length)
    (.sendWaited resp dup waitedMs now) (.dropping resp dup resp.data.length)
  | whole (resp dup waitedMs now) : ResponseFlow (.sending resp dup resp.data.length)
    (.sendWaited resp dup waitedMs now) (.closingDup resp dup)
  | drop (resp dup sent wake) :
    ResponseFlow (.dropping resp dup sent) (.drop resp dup sent) (.shutting resp dup sent wake)
  | shutdownWakes (resp dup sent conn) :
    ResponseFlow (.shutting resp dup sent true) (.shutdown resp dup sent true conn) (.dropWake resp dup)
  | shutdown (resp dup sent conn) :
    ResponseFlow (.shutting resp dup sent false) (.shutdown resp dup sent false conn) (.closingDup resp dup)
  | dropWake (resp dup written) : ResponseFlow (.dropWake resp dup) (.dropWake resp dup written) (.closingDup resp dup)
  | closeDup (resp dup) : ResponseFlow (.closingDup resp dup) (.closeDup resp dup) (.finishing resp)
  | doneWakes (resp) : ResponseFlow (.finishing resp) (.responseDone resp) .doneWake
  | done (resp) : ResponseFlow (.finishing resp) (.responseDone resp) .idle
  | doneWake (written) : ResponseFlow .doneWake (.doneWake written) .idle

namespace Server
variable {ds : Descriptors}

/-- Where `queue_framed_requests` goes when its loop is over. -/
theorem afterQueueing_cases (fd queued : Nat) (paused : Bool) (caller : QueueCaller) :
    afterQueueing fd queued paused caller = .notifying fd paused caller ∨
      afterQueueing fd queued paused caller = .returning fd paused caller := by
  unfold afterQueueing
  split_ifs
  · exact Or.inl rfl
  · exact Or.inr rfl

theorem select_flow {s t : Server} {ready : List Nat}
    (run : s.listenStep ds (.select ready) = some t) : ListenFlow ds s.pc (.select ready) t.pc := by
  simp only [listenStep, onlyIf_eq_some] at run
  obtain ⟨⟨here, _⟩, rfl⟩ := run
  rw [here]
  dsimp only
  split_ifs
  · exact .stopped ready
  · exact .reported ready
  · exact .timeout ready
  · exact .nothing ready

theorem selectFails_flow {s t : Server} {fatal : Bool}
    (run : s.listenStep ds (.selectFails fatal) = some t) : ListenFlow ds s.pc (.selectFails fatal) t.pc := by
  simp only [listenStep, onlyIf_eq_some] at run
  obtain ⟨here, rfl⟩ := run
  rw [here]
  dsimp only
  split_ifs
  · exact .broken fatal
  · exact .interrupted fatal

theorem readWake_flow {s t : Server} {ready : List Nat}
    (run : s.listenStep ds (.readWake ready) = some t) : ListenFlow ds s.pc (.readWake ready) t.pc := by
  simp only [listenStep, onlyIf_eq_some] at run
  obtain ⟨⟨here, _⟩, rfl⟩ := run
  rw [here]
  dsimp only
  split_ifs
  · exact .stopWake ready
  · exact .readWake ready

theorem recv_flow {s t : Server} {fd : Nat} {ready : List Nat} {conn : Nat} {bytes : List Byte}
    (run : s.listenStep ds (.recv fd ready conn bytes) = some t) :
    ListenFlow ds s.pc (.recv fd ready conn bytes) t.pc := by
  simp only [listenStep, onlyIf_eq_some] at run
  obtain ⟨⟨here, _⟩, rfl⟩ := run
  rw [here]
  unfold recv
  split
  · exact .unframed fd ready conn bytes
  · exact .recv fd ready conn bytes _

theorem checkConnection_flow {s t : Server} {fd : Nat} {caller : QueueCaller}
    (run : s.listenStep ds (.checkConnection fd caller) = some t) :
    ListenFlow ds s.pc (.checkConnection fd caller) t.pc := by
  simp only [listenStep, onlyIf_eq_some] at run
  obtain ⟨here, rfl⟩ := run
  rw [here]
  rcases s.checkConnection_cases fd caller with
    ⟨_, result⟩ | ⟨_, _, _, result⟩ | ⟨_, info, _, _, _, result⟩ <;> rw [result]
  · exact .skip fd caller
  · exact .skip fd caller
  · exact .check fd caller info

theorem admission_flow {s t : Server} {fd : Nat} {info : ClientInfo} {queued : Nat} {caller : QueueCaller}
    (run : s.listenStep ds (.admission fd info queued caller) = some t) :
    ListenFlow ds s.pc (.admission fd info queued caller) t.pc := by
  simp only [listenStep, onlyIf_eq_some] at run
  obtain ⟨here, rfl⟩ := run
  rw [here]
  have ended : ∀ paused, ListenFlow ds (.admitting fd info queued caller)
      (.admission fd info queued caller) (afterQueueing fd queued paused caller) := by
    intro paused
    rcases afterQueueing_cases fd queued paused caller with next | next <;> rw [next]
    · exact .notify fd info queued caller paused
    · exact .leave fd info queued caller paused
  rcases s.admission_cases fd info queued caller with
    ⟨_, result⟩ | ⟨_, _, _, result⟩ | ⟨_, _, _, _, result⟩ | ⟨_, _, _, _, result⟩ <;> rw [result]
  · exact ended false
  · exact .admitting fd info queued caller
  · exact ended true
  · exact .admitting fd info queued caller

theorem queueRequest_flow {s t : Server} {fd : Nat} {info : ClientInfo} {queued : Nat} {caller : QueueCaller}
    {put : Bool}
    (holding : ∀ fd info queued caller, s.pc = .queueing fd info queued caller → ∃ entry, s.Holds fd entry)
    (run : s.listenStep ds (.queueRequest fd info queued caller put) = some t) :
    ListenFlow ds s.pc (.queueRequest fd info queued caller put) t.pc := by
  simp only [listenStep, onlyIf_eq_some] at run
  obtain ⟨here, rfl⟩ := run
  obtain ⟨entry, holds⟩ := holding fd info queued caller here
  rw [here]
  rcases queueRequest_cases holds info queued caller put with ⟨rfl, result⟩ | ⟨rfl, result⟩ <;> rw [result]
  · exact .queue fd info queued caller
  · exact .giveUp fd info queued caller

theorem release_flow {s t : Server} {fd : Nat} {info : ClientInfo} {queued : Nat} {caller : QueueCaller}
    (run : s.listenStep ds (.release fd info queued caller) = some t) :
    ListenFlow ds s.pc (.release fd info queued caller) t.pc := by
  simp only [listenStep, onlyIf_eq_some] at run
  obtain ⟨here, rfl⟩ := run
  rw [here]
  dsimp only
  split_ifs
  · exact .releaseWakes fd info queued caller
  · rcases afterQueueing_cases fd queued false caller with next | next <;> rw [next]
    · exact .releaseNotify fd info queued caller
    · exact .releaseLeave fd info queued caller

theorem releaseWake_flow {s t : Server} {fd queued : Nat} {caller : QueueCaller} {written : Bool}
    (run : s.listenStep ds (.releaseWake fd queued caller written) = some t) :
    ListenFlow ds s.pc (.releaseWake fd queued caller written) t.pc := by
  simp only [listenStep, onlyIf_eq_some] at run
  obtain ⟨⟨here, _⟩, rfl⟩ := run
  rw [here]
  dsimp only
  rcases afterQueueing_cases fd queued false caller with next | next <;> rw [next]
  · exact .wokenNotify fd queued caller written
  · exact .wokenLeave fd queued caller written

theorem queueReturn_flow {s t : Server} {fd : Nat} {paused : Bool} {caller : QueueCaller}
    (run : s.listenStep ds (.queueReturn fd paused caller) = some t) :
    ListenFlow ds s.pc (.queueReturn fd paused caller) t.pc := by
  simp only [listenStep, onlyIf_eq_some] at run
  obtain ⟨here, rfl⟩ := run
  rw [here]
  cases caller with
  | receive frc ready =>
    simp only [queueReturn]
    split_ifs with failed full
    · exact .reject fd paused frc ready
    · rw [full]
      exact .pause fd frc ready
    · rw [Bool.eq_false_of_not_eq_true full]
      exact .receiveAgain fd frc ready
  | resume cursor => cases paused <;> exact .resume fd _ cursor

theorem deregister_flow {s t : Server} {fd : Nat} {ready : List Nat}
    (run : s.listenStep ds (.deregister fd ready) = some t) : ListenFlow ds s.pc (.deregister fd ready) t.pc := by
  simp only [listenStep, onlyIf_eq_some] at run
  obtain ⟨here, rfl⟩ := run
  rw [here]
  split
  · exact .deregistered fd ready
  · exact .deregister fd ready

theorem resumeNext_flow {s t : Server} {cursor fd : Nat}
    (run : s.listenStep ds (.resumeNext cursor fd) = some t) : ListenFlow ds s.pc (.resumeNext cursor fd) t.pc := by
  simp only [listenStep, onlyIf_eq_some] at run
  obtain ⟨⟨here, _⟩, rfl⟩ := run
  rw [here]
  simp only [resumeNext]
  split_ifs
  · exact .stay cursor fd
  · exact .takeOut cursor fd

theorem loopCheck_flow {s t : Server}
    (run : s.listenStep ds .loopCheck = some t) : ListenFlow ds s.pc .loopCheck t.pc := by
  simp only [listenStep, onlyIf_eq_some] at run
  obtain ⟨here, rfl⟩ := run
  rw [here]
  dsimp only
  split_ifs
  · exact .exit
  · exact .loop

/-- Every step of the listen thread follows its control flow. A request is only
popped from a framer that holds one. -/
theorem listenStep_flow {s t : Server} {action : ListenAction}
    (holding : ∀ fd info queued caller, s.pc = .queueing fd info queued caller → ∃ entry, s.Holds fd entry)
    (run : s.listenStep ds action = some t) : ListenFlow ds s.pc action t.pc := by
  cases action
  case select => exact select_flow run
  case selectFails => exact selectFails_flow run
  case readWake => exact readWake_flow run
  case recv => exact recv_flow run
  case checkConnection => exact checkConnection_flow run
  case admission => exact admission_flow run
  case queueRequest => exact queueRequest_flow holding run
  case release => exact release_flow run
  case releaseWake => exact releaseWake_flow run
  case queueReturn => exact queueReturn_flow run
  case deregister => exact deregister_flow run
  case resumeNext => exact resumeNext_flow run
  case loopCheck => exact loopCheck_flow run
  all_goals simp only [listenStep, onlyIf_eq_some] at run
  case sendProtocolError fd ready conn count =>
    obtain ⟨⟨here, _⟩, rfl⟩ := run
    rw [here]
    split_ifs <;> exact .sendProtocolError fd ready conn count
  case acceptRefused newSd ready =>
    obtain ⟨⟨here, _⟩, rfl⟩ := run
    rw [here]
    exact .refuse newSd ready
  case takeRequest fd paused caller request =>
    obtain ⟨⟨here, _⟩, rfl⟩ := run
    rw [here]
    exact .takeRequest fd paused caller request
  case acceptFails | recvBlocks | recvEnds | erasePending | closeSocket =>
    obtain ⟨here, rfl⟩ := run
    rw [here]
    constructor
  all_goals
    obtain ⟨⟨here, _⟩, rfl⟩ := run
    rw [here]
    constructor

theorem responseStep_flow {s t : Server} {action : ResponseAction} (run : s.responseStep ds action = some t) :
    ResponseFlow s.respPc action t.respPc := by
  cases action <;> simp only [responseStep, onlyIf_eq_some] at run
  case checkDead resp alive =>
    obtain ⟨here, rfl⟩ := run
    rw [here]
    dsimp only
    split_ifs
    · exact .alive resp _
    · exact .dead resp _
    · exact .dead resp _
    · exact .alive resp _
  case dup resp newFd =>
    obtain ⟨⟨here, _⟩, rfl⟩ := run
    rw [here]
    split_ifs
    · cases newFd with
      | none => exact .gone resp none
      | some fd =>
        cases s.fdTable resp.sockDescriptor with
        | none => exact .gone resp (some fd)
        | some conn => exact .dup resp fd
    · exact .gone resp newFd
  case sendWaited resp dup waitedMs now =>
    obtain ⟨here, rfl⟩ := run
    rw [here]
    dsimp only
    split_ifs
    · exact .slow resp dup waitedMs now
    · exact .whole resp dup waitedMs now
  case shutdown resp dup sent wake conn =>
    obtain ⟨⟨here, _⟩, rfl⟩ := run
    rw [here]
    cases wake with
    | true => exact .shutdownWakes resp dup sent conn
    | false => exact .shutdown resp dup sent conn
  case responseDone resp =>
    obtain ⟨here, rfl⟩ := run
    rw [here]
    dsimp only
    split_ifs
    · exact .doneWakes resp
    · exact .done resp
  case drop | closeDup =>
    obtain ⟨here, rfl⟩ := run
    rw [here]
    constructor
  all_goals
    obtain ⟨⟨here, _⟩, rfl⟩ := run
    rw [here]
    constructor

end Server
end JsonRpcTcp
