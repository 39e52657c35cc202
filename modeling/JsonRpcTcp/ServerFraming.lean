import JsonRpcTcp.ServerConnections
import JsonRpcTcp.ServerResume

namespace JsonRpcTcp
open Function

namespace Framer

theorem scanByte_ready (f : Framer) (consumed : Nat) (c : Byte) : f.ready <+: (f.scanByte consumed c).1.ready := by
  unfold scanByte
  split_ifs <;> first | exact List.prefix_rfl | exact List.prefix_append _ _

theorem scanLoop_ready (rest : List Byte) (f : Framer) (consumed : Nat) :
    f.ready <+: (scanLoop rest f consumed).1.ready := by
  induction rest generalizing f consumed with
  | nil => exact List.prefix_rfl
  | cons c rest ih =>
    unfold scanLoop
    have first := f.scanByte_ready consumed c
    split_ifs
    · exact first
    · exact first.trans (ih { (f.scanByte consumed c).1 with scan := (f.scanByte consumed c).1.scan + 1 } _)

theorem compact_ready (f : Framer) (consumed : Nat) : (f.compact consumed).ready = f.ready := by
  unfold compact
  dsimp only
  split_ifs <;> rfl

/-- `feed` adds the messages it completes behind those that wait. -/
theorem feed_ready (f : Framer) (data : List Byte) : f.ready <+: (f.feed data).2.ready := by
  have looped := scanLoop_ready ((f.append data).buf.drop f.scan) (f.append data) 0
  unfold feed
  split_ifs
  · exact List.prefix_rfl
  · dsimp only
    split_ifs
    · exact looped
    · rw [compact_ready]
      exact looped

end Framer

namespace Server
variable {ds : Descriptors}

/-- Requests are numbered in the order in which they were popped, and taken in
this order. -/
structure Numbered (s : Server) : Prop where
  serial : ∀ (i : Nat) (request : Request), s.admitted[i]? = some request → request.serial = i
  passed : s.admitted = s.taken ++ s.requestChain

theorem numbered_start (clientIdent : Nat) : (start ds clientIdent).Numbered where
  serial := by simp [start]
  passed := rfl

/-- Only two actions of the listen thread move requests. -/
theorem listenStep_requests {s t : Server} {action : ListenAction} (run : s.listenStep ds action = some t)
    (queues : ∀ fd info queued caller put, action ≠ .queueRequest fd info queued caller put)
    (takes : ∀ fd paused caller request, action ≠ .takeRequest fd paused caller request) :
    t.admitted = s.admitted ∧ t.taken = s.taken ∧ t.requestChain = s.requestChain := by
  cases action <;> simp only [listenStep, onlyIf_eq_some] at run
  case queueRequest fd info queued caller put => exact absurd rfl (queues fd info queued caller put)
  case takeRequest fd paused caller request => exact absurd rfl (takes fd paused caller request)
  case recv fd ready conn bytes =>
    obtain ⟨_, rfl⟩ := run
    unfold recv
    split <;> exact ⟨rfl, rfl, rfl⟩
  case checkConnection fd caller =>
    obtain ⟨_, rfl⟩ := run
    rcases s.checkConnection_cases fd caller with
      ⟨_, result⟩ | ⟨_, _, _, result⟩ | ⟨_, _, _, _, _, result⟩ <;> rw [result] <;> exact ⟨rfl, rfl, rfl⟩
  case admission fd info queued caller =>
    obtain ⟨_, rfl⟩ := run
    rcases s.admission_cases fd info queued caller with
      ⟨_, result⟩ | ⟨_, _, _, result⟩ | ⟨_, _, _, _, result⟩ | ⟨_, _, _, _, result⟩ <;> rw [result] <;>
      exact ⟨rfl, rfl, rfl⟩
  case queueReturn fd paused caller =>
    obtain ⟨_, rfl⟩ := run
    cases caller with
    | receive frc ready =>
      simp only [queueReturn]
      split_ifs <;> exact ⟨rfl, rfl, rfl⟩
    | resume cursor => cases paused <;> exact ⟨rfl, rfl, rfl⟩
  case resumeNext cursor fd =>
    obtain ⟨_, rfl⟩ := run
    simp only [resumeNext]
    split_ifs <;> exact ⟨rfl, rfl, rfl⟩
  case deregister fd ready =>
    obtain ⟨_, rfl⟩ := run
    split <;> exact ⟨rfl, rfl, rfl⟩
  case sendProtocolError fd ready conn count =>
    obtain ⟨_, rfl⟩ := run
    split_ifs <;> exact ⟨rfl, rfl, rfl⟩
  all_goals
    obtain ⟨_, rfl⟩ := run
    exact ⟨rfl, rfl, rfl⟩

theorem Numbered.congr {s t : Server} (numbered : s.Numbered) (admitted : t.admitted = s.admitted)
    (taken : t.taken = s.taken) (requestChain : t.requestChain = s.requestChain) : t.Numbered where
  serial := by
    rw [admitted]
    exact numbered.serial
  passed := by
    rw [admitted, taken, requestChain]
    exact numbered.passed

theorem listenStep_numbered {s t : Server} (table : s.Table ds) (numbered : s.Numbered) {action : ListenAction}
    (put : (ServerAction.listen action).put = true) (run : s.listenStep ds action = some t) : t.Numbered := by
  by_cases queues : ∃ fd info queued caller put, action = .queueRequest fd info queued caller put
  · obtain ⟨fd, info, queued, caller, success, rfl⟩ := queues
    simp only [listenStep, onlyIf_eq_some] at run
    obtain ⟨here, rfl⟩ := run
    obtain ⟨entry, holds⟩ := table.located.holding fd info queued caller here
    rcases queueRequest_cases holds info queued caller success with ⟨_, result⟩ | ⟨failed, _⟩
    · rw [result]
      refine ⟨?_, ?_⟩
      · intro i request found
        rcases Nat.lt_or_ge i s.admitted.length with old | new
        · rw [List.getElem?_append_left old] at found
          exact numbered.serial i request found
        · rw [List.getElem?_append_right new] at found
          obtain ⟨zero, same⟩ := List.getElem?_eq_some_iff.mp found
          simp only [List.length_singleton] at zero
          have last : i = s.admitted.length := by omega
          subst last
          simp only [Nat.sub_self, List.getElem_cons_zero] at same
          rw [← same]
          rfl
      · dsimp only
        rw [numbered.passed, List.append_assoc]
    · rw [failed] at put
      cases put
  by_cases takes : ∃ fd paused caller request, action = .takeRequest fd paused caller request
  · obtain ⟨fd, paused, caller, request, rfl⟩ := takes
    simp only [listenStep, onlyIf_eq_some] at run
    obtain ⟨⟨_, first⟩, rfl⟩ := run
    refine ⟨numbered.serial, ?_⟩
    dsimp only
    rw [numbered.passed]
    cases chain : s.requestChain with
    | nil =>
      rw [chain] at first
      cases first
    | cons head rest =>
      rw [chain] at first
      cases first
      rw [List.append_assoc]
      rfl
  · push Not at queues takes
    obtain ⟨admitted, taken, requestChain⟩ := listenStep_requests run queues takes
    exact numbered.congr admitted taken requestChain

theorem outsideStep_requests {s t : Server} {action : OutsideAction} (run : s.outsideStep action = some t) :
    t.admitted = s.admitted ∧ t.taken = s.taken ∧ t.requestChain = s.requestChain ∧ t.fdTable = s.fdTable ∧
      t.accepted = s.accepted := by
  cases action <;> simp only [outsideStep, onlyIf_eq_some, Option.some.injEq] at run
  case schedule request text put =>
    obtain ⟨_, rfl⟩ := run
    cases put <;> exact ⟨rfl, rfl, rfl, rfl, rfl⟩
  case requestStop =>
    subst run
    exact ⟨rfl, rfl, rfl, rfl, rfl⟩
  case stopWake written =>
    obtain ⟨_, rfl⟩ := run
    exact ⟨rfl, rfl, rfl, rfl, rfl⟩

theorem step_numbered {s t : Server} (table : s.Table ds) (numbered : s.Numbered) {action : ServerAction}
    (permitted : s.AllocationSucceeds action) (run : s.step ds action = some t) : t.Numbered := by
  cases action with
  | listen action => exact listenStep_numbered table numbered permitted run
  | respond action =>
    have same := (responseStep_frame run).listen
    exact numbered.congr same.admitted same.taken same.requestChain
  | outside action =>
    obtain ⟨admitted, taken, requestChain, _⟩ := outsideStep_requests run
    exact numbered.congr admitted taken requestChain

theorem reach_numbered {allow : Server → ServerAction → Prop}
    (allocates : ∀ s action, allow s action → s.AllocationSucceeds action) {clientIdent : Nat} {s : Server}
    (reach : Reach (step ds) allow (start ds clientIdent) s) : s.Numbered :=
  reach.invariant_with (fun _ before => reach_table before) (numbered_start clientIdent)
    fun _ _ _ table numbered permitted run => step_numbered table numbered (allocates _ _ permitted) run

/-- The connection is marked as dead. -/
def Dead (s : Server) (id : Int) : Prop := ∃ p ∈ s.pending id, p.dead = true

/-- The requests that were popped from the framer of a connection. -/
def admittedOn (s : Server) (conn : Nat) : List Request :=
  s.admitted.filter fun request => request.arrivedOn.head? == some conn

/-- The messages framed on each connection so far, after one more action. -/
def framedAfter (s : Server) (framed : Nat → List (List Byte)) : ServerAction → Nat → List (List Byte)
  | .listen (.recv fd _ conn bytes) =>
    match s.framers fd with
    | none => framed
    | some entry =>
      update framed conn (framed conn ++ (entry.framer.feed bytes).2.ready.drop entry.framer.ready.length)
  | _ => framed

/-- The messages framed for a connection were popped in order or still wait in
its framer. They are only thrown away when the connection is dead or closed. -/
def InOrder (s : Server) (framed : Nat → List (List Byte)) (info : ClientInfo) : Prop :=
  ∀ entry, s.framers info.sockDescriptor = some entry →
    framed info.conn = (s.admittedOn info.conn).map Request.data ++ entry.framer.ready ∨ s.Dead info.ident ∨
      s.pc.leaving = some info.sockDescriptor

/-- Something was framed or popped for this connection. -/
def Used (s : Server) (framed : Nat → List (List Byte)) (conn : Nat) : Prop :=
  framed conn ≠ [] ∨ s.admittedOn conn ≠ []

/-- Nothing is used of a connection before it has a record, and then its messages
are popped in order. -/
structure Framing (s : Server) (framed : Nat → List (List Byte)) : Prop where
  old : ∀ conn, s.Used framed conn → conn < s.accepted
  joining : ∀ conn fd, s.Used framed conn → s.pc.joining = some fd → s.fdTable fd ≠ some conn
  inOrder : ∀ info ∈ s.clientInfoChain, s.InOrder framed info

theorem framing_start (clientIdent : Nat) : (start ds clientIdent).Framing fun _ => [] where
  old _ used := by
    rcases used with nonempty | nonempty <;> exact absurd rfl nonempty
  joining _ _ used := by
    rcases used with nonempty | nonempty <;> exact absurd rfl nonempty
  inOrder := by simp [start]

theorem InOrder.keep {s t : Server} {framed : Nat → List (List Byte)} {info : ClientInfo}
    (inOrder : s.InOrder framed info) (framers : t.framers info.sockDescriptor = s.framers info.sockDescriptor)
    (admitted : t.admittedOn info.conn = s.admittedOn info.conn) (dead : s.Dead info.ident → t.Dead info.ident)
    (leaving : s.pc.leaving = some info.sockDescriptor → t.pc.leaving = some info.sockDescriptor) :
    t.InOrder framed info := by
  intro entry key
  rw [framers] at key
  rw [admitted]
  rcases inOrder entry key with exactly | isDead | closing
  · exact Or.inl exactly
  · exact Or.inr (Or.inl (dead isDead))
  · exact Or.inr (Or.inr (leaving closing))

/-! A dead connection stays dead until its entry is erased. -/

theorem dead_update {pending : PendingMap} {cltid id : Int} {p : ConnPending}
    (kept : ∀ old ∈ pending cltid, old.dead = true → p.dead = true) (dead : ∃ old ∈ pending id, old.dead = true) :
    ∃ new ∈ update pending cltid (some p) id, new.dead = true := by
  obtain ⟨old, key, isDead⟩ := dead
  by_cases same : id = cltid
  · subst same
    exact ⟨p, by rw [update_self]; rfl, kept old key isDead⟩
  · exact ⟨old, by rw [update_of_ne same]; exact key, isDead⟩

theorem dead_kept {pending : PendingMap} {cltid : Int} {p q : ConnPending} (key : pending cltid = some p)
    (dead : q.dead = p.dead) : ∀ old ∈ pending cltid, old.dead = true → q.dead = true := by
  intro old same isDead
  cases Option.some.inj (key.symm.trans same)
  exact dead.trans isDead

theorem responseDoneSection_dead {pending : PendingMap} {cltid id : Int}
    (dead : ∃ old ∈ pending id, old.dead = true) :
    ∃ new ∈ (responseDoneSection pending cltid).1 id, new.dead = true := by
  unfold responseDoneSection
  split_ifs
  · exact dead
  · cases key : pending cltid with
    | none => exact dead
    | some old =>
      dsimp only
      split_ifs <;> exact dead_update (dead_kept key rfl) dead

theorem overSendWaitBudget_dead {pending : PendingMap} {cltid waitedMs now id : Int}
    (dead : ∃ old ∈ pending id, old.dead = true) :
    ∃ new ∈ (overSendWaitBudget pending cltid waitedMs now).1 id, new.dead = true := by
  unfold overSendWaitBudget
  split_ifs
  · exact dead
  · cases key : pending cltid with
    | none => exact dead
    | some old =>
      dsimp only
      refine dead_update ?_ dead
      split_ifs <;> exact dead_kept key rfl

theorem dropSection_dead {pending : PendingMap} {cltid id : Int} (dead : ∃ old ∈ pending id, old.dead = true) :
    ∃ new ∈ (dropSection pending cltid).1 id, new.dead = true := by
  unfold dropSection
  dsimp only
  split_ifs
  · exact dead
  · exact dead_update (fun _ _ _ => rfl) dead
  · exact dead_update (fun _ _ _ => rfl) dead

theorem Framing.keep {s t : Server} {framed : Nat → List (List Byte)} (framing : s.Framing framed)
    (accepted : s.accepted ≤ t.accepted) (admitted : t.admitted = s.admitted)
    (joining : ∀ fd, t.pc.joining = some fd → s.pc.joining = some fd ∧ t.fdTable fd = s.fdTable fd)
    (records : ∀ info ∈ t.clientInfoChain, info ∈ s.clientInfoChain ∧ (s.InOrder framed info → t.InOrder framed info)) :
    t.Framing framed where
  old conn used := by
    unfold Used admittedOn at used
    rw [admitted] at used
    exact (framing.old conn used).trans_le accepted
  joining conn fd used here := by
    unfold Used admittedOn at used
    rw [admitted] at used
    obtain ⟨before, same⟩ := joining fd here
    rw [same]
    exact framing.joining conn fd used before
  inOrder info member := by
    obtain ⟨known, kept⟩ := records info member
    exact kept (framing.inOrder info known)

theorem accept_framing {s : Server} {framed : Nat → List (List Byte)} (framing : s.Framing framed) {newSd : Nat}
    {ready : List Nat} (here : s.pc = .accepting ready) :
    Framing { s with fdTable := update s.fdTable newSd (some s.accepted), accepted := s.accepted + 1
                     pc := .registering newSd ready } framed where
  old conn used := by
    have known := framing.old conn used
    dsimp only
    omega
  joining conn fd used joins := by
    cases joins
    have known := framing.old conn used
    dsimp only
    rw [update_self]
    intro same
    cases same
    exact absurd known (Nat.lt_irrefl _)
  inOrder info member := by
    refine (framing.inOrder info member).keep rfl rfl id ?_
    rw [here]
    simp [ListenPc.leaving]

/-- A new record starts with an empty framer, and nothing was framed for it. -/
theorem register_framing {s : Server} {framed : Nat → List (List Byte)} (framing : s.Framing framed)
    (table : s.Table ds) {newSd : Nat} {ready : List Nat} {record : ClientInfo}
    (here : s.pc = .registering newSd ready) (socket : record.sockDescriptor = newSd)
      (denotes : s.fdTable newSd = some record.conn) (put : Bool) :
    (s.register newSd ready record put).Framing framed where
  old := framing.old
  joining _ _ _ joins := by cases joins
  inOrder info member := by
    have known : info ∈ s.clientInfoChain → (s.register newSd ready record put).InOrder framed info := by
      intro old
      have differ : info.sockDescriptor ≠ newSd := by
        intro same
        have framed := table.containers.recorded info old
        rw [same, (table.joining_unframed here).1] at framed
        cases framed
      refine (framing.inOrder info old).keep ?_ rfl id ?_
      · exact update_of_ne differ _ _
      · rw [here]
        simp [ListenPc.leaving]
    cases put with
    | false => exact known member
    | true =>
      rcases List.mem_append.mp member with old | new
      · exact known old
      · cases List.mem_singleton.mp new
        intro entry key
        have fresh : entry.framer.ready = [] := by
          dsimp only [register] at key
          rw [socket, update_self] at key
          cases key
          rfl
        have unused : ¬ s.Used framed record.conn := by
          intro used
          exact framing.joining record.conn newSd used (by rw [here]; rfl) denotes
        unfold Used at unused
        push Not at unused
        left
        rw [fresh, List.append_nil, unused.1]
        exact (congrArg (List.map Request.data) unused.2).symm

theorem framedAfter_recv {s : Server} {fd : Nat} {entry : FramerEntry} (key : s.framers fd = some entry)
    (framed : Nat → List (List Byte)) (ready : List Nat) (conn : Nat) (bytes : List Byte) :
    s.framedAfter framed (.listen (.recv fd ready conn bytes)) =
      update framed conn (framed conn ++ (entry.framer.feed bytes).2.ready.drop entry.framer.ready.length) := by
  simp only [framedAfter, key]

theorem framedAfter_unframed {s : Server} {fd : Nat} (key : s.framers fd = none)
    (framed : Nat → List (List Byte)) (ready : List Nat) (conn : Nat) (bytes : List Byte) :
    s.framedAfter framed (.listen (.recv fd ready conn bytes)) = framed := by
  simp only [framedAfter, key]

/-- The messages that `feed` completes are added to those of the connection. -/
theorem recv_framing {s : Server} {framed : Nat → List (List Byte)} (framing : s.Framing framed)
    (table : s.Table ds) (identity : s.Identity) (connected : s.Connected) {fd conn : Nat} {ready : List Nat}
    {bytes : List Byte} (here : s.pc = .receiving fd ready) (denotes : s.fdTable fd = some conn) :
    (s.recv fd ready conn bytes).Framing (s.framedAfter framed (.listen (.recv fd ready conn bytes))) := by
  have staying : ∀ info : ClientInfo, s.pc.leaving ≠ some info.sockDescriptor := by
    intro info
    rw [here]
    simp [ListenPc.leaving]
  cases key : s.framers fd with
  | none =>
    rw [framedAfter_unframed key]
    simp only [recv, key]
    refine framing.keep (Nat.le_refl _) rfl (fun _ joins => by cases joins) fun info member =>
      ⟨member, fun inOrder => ?_⟩
    exact inOrder.keep rfl rfl id fun leaves => absurd leaves (staying info)
  | some entry =>
    rw [framedAfter_recv key]
    simp only [recv, key]
    refine ⟨?_, (fun _ _ _ joins => by cases joins), ?_⟩
    · intro other used
      by_cases same : other = conn
      · subst same
        exact connected.old fd other denotes
      · unfold Used at used
        rw [update_of_ne same] at used
        exact framing.old other used
    · intro info member
      have current := identity.current info member
      by_cases same : info.sockDescriptor = fd
      · have sameConn : info.conn = conn := by
          rw [same, denotes] at current
          exact (Option.some.inj current).symm
        intro after found
        dsimp only at found
        rw [same, update_self] at found
        cases found
        obtain ⟨added, grown⟩ := entry.framer.feed_ready bytes
        rcases framing.inOrder info member entry (by rw [same]; exact key) with exactly | dead | leaves
        · left
          rw [sameConn] at exactly ⊢
          rw [update_self, exactly, ← grown, List.drop_left, List.append_assoc]
          rfl
        · exact Or.inr (Or.inl dead)
        · exact absurd leaves (staying info)
      · have differ : info.conn ≠ conn := by
          rintro rfl
          refine same (connected.unique _ _ _ ?_ ?_ current denotes)
          · exact Or.inl (table.containers.recorded info member)
          · exact Or.inl (by rw [key]; rfl)
        intro after found
        dsimp only at found ⊢
        rw [update_of_ne same] at found
        rw [update_of_ne differ]
        rcases framing.inOrder info member after found with exactly | dead | leaves
        · exact Or.inl exactly
        · exact Or.inr (Or.inl dead)
        · exact absurd leaves (staying info)

theorem connectionDead_dead {s : Server} {id : Int} (dead : s.connectionDead id = true) : s.Dead id := by
  unfold connectionDead at dead
  split_ifs at dead
  cases key : s.pending id with
  | none =>
    rw [key] at dead
    cases dead
  | some p =>
    rw [key] at dead
    exact ⟨p, key, dead⟩

/-- `connection_dead` sees the mark of every client that has an identifier. -/
theorem Dead.connectionDead {s : Server} {id : Int} (dead : s.Dead id) (issued : 0 ≤ id) : s.connectionDead id = true :=
  by
  obtain ⟨p, key, marked⟩ := dead
  unfold Server.connectionDead
  rw [if_neg (Int.not_lt.mpr issued), Option.mem_def.mp key]
  exact marked

/-- The waiting messages are only thrown away on a dead connection. -/
theorem checkConnection_framing {s : Server} {framed : Nat → List (List Byte)} (framing : s.Framing framed)
    (table : s.Table ds) {fd : Nat} {caller : QueueCaller} (here : s.pc = .checking fd caller) :
    (s.checkConnection fd caller).Framing framed := by
  have staying : ∀ info : ClientInfo, s.pc.leaving ≠ some info.sockDescriptor := by
    intro info
    rw [here]
    simp [ListenPc.leaving]
  rcases s.checkConnection_cases fd caller with
    ⟨_, result⟩ | ⟨entry, holds, discards, result⟩ | ⟨_, _, _, _, _, result⟩ <;> rw [result]
  · refine framing.keep (Nat.le_refl _) rfl (fun _ joins => by cases joins) fun info member =>
      ⟨member, fun inOrder => ?_⟩
    exact inOrder.keep rfl rfl id fun leaves => absurd leaves (staying info)
  · refine framing.keep (Nat.le_refl _) rfl (fun _ joins => by cases joins) fun info member =>
      ⟨member, fun inOrder => ?_⟩
    by_cases same : info.sockDescriptor = fd
    · intro _ _
      exact Or.inr (Or.inl (connectionDead_dead (discards info (table.getClientInfo_held member same))))
    · exact inOrder.keep (update_of_ne same _ _) rfl id fun leaves => absurd leaves (staying info)
  · refine framing.keep (Nat.le_refl _) rfl (fun _ joins => by cases joins) fun info member =>
      ⟨member, fun inOrder => ?_⟩
    exact inOrder.keep rfl rfl id fun leaves => absurd leaves (staying info)

theorem afterQueueing_joining (fd queued : Nat) (paused : Bool) (caller : QueueCaller) :
    (afterQueueing fd queued paused caller).joining = none := by
  unfold afterQueueing
  split_ifs <;> rfl

theorem admission_framing {s : Server} {framed : Nat → List (List Byte)} (framing : s.Framing framed)
    {fd queued : Nat} {info : ClientInfo} {caller : QueueCaller} (here : s.pc = .admitting fd info queued caller) :
    (s.admission fd info queued caller).Framing framed := by
  have staying : ∀ other : ClientInfo, s.pc.leaving ≠ some other.sockDescriptor := by
    intro other
    rw [here]
    simp [ListenPc.leaving]
  have outside : ∀ paused other, (afterQueueing fd queued paused caller).joining ≠ some other := by
    intro paused other joins
    rw [afterQueueing_joining] at joins
    cases joins
  have kept : ∀ old ∈ s.pending info.ident, old.dead = true → ((s.pending info.ident).getD {}).dead = true := by
    intro old key dead
    rw [key]
    exact dead
  rcases s.admission_cases fd info queued caller with
    ⟨_, result⟩ | ⟨_, _, _, result⟩ | ⟨_, _, _, _, result⟩ | ⟨_, _, _, _, result⟩ <;> rw [result]
  · refine framing.keep (Nat.le_refl _) rfl (fun other joins => absurd joins (outside _ other)) fun other member =>
      ⟨member, fun inOrder => ?_⟩
    exact inOrder.keep rfl rfl id fun leaves => absurd leaves (staying other)
  · refine framing.keep (Nat.le_refl _) rfl (fun _ joins => by cases joins) fun other member =>
      ⟨member, fun inOrder => ?_⟩
    exact inOrder.keep rfl rfl id fun leaves => absurd leaves (staying other)
  · refine framing.keep (Nat.le_refl _) rfl (fun other joins => absurd joins (outside _ other)) fun other member =>
      ⟨member, fun inOrder => ?_⟩
    exact inOrder.keep rfl rfl (fun dead => dead_update kept dead) fun leaves => absurd leaves (staying other)
  · refine framing.keep (Nat.le_refl _) rfl (fun _ joins => by cases joins) fun other member =>
      ⟨member, fun inOrder => ?_⟩
    exact inOrder.keep rfl rfl (fun dead => dead_update kept dead) fun leaves => absurd leaves (staying other)

/-- The message that is popped is the first of those that wait. -/
theorem queueRequest_framing {s : Server} {framed : Nat → List (List Byte)} (framing : s.Framing framed)
    (table : s.Table ds) (identity : s.Identity) (connected : s.Connected) {fd queued : Nat} {info : ClientInfo}
    {caller : QueueCaller} (here : s.pc = .queueing fd info queued caller) (put : Bool) :
    (s.queueRequest fd info queued caller put).Framing framed := by
  obtain ⟨entry, holds⟩ := table.located.holding fd info queued caller here
  obtain ⟨listed, socket⟩ := identity.held fd info (by rw [here]; rfl)
  have current := identity.current info listed
  rw [socket] at current
  have arrived : (s.poppedRequest fd info entry).arrivedOn.head? = some info.conn := by
    obtain ⟨fed, nonempty⟩ := identity.fed fd entry holds.1
    cases feeders : entry.fedBy with
    | nil => exact absurd feeders (nonempty holds.2)
    | cons conn rest =>
      have same := fed conn (by rw [feeders]; exact List.mem_cons_self ..)
      rw [current] at same
      cases same
      simp only [poppedRequest, feeders, List.head?_cons]
  have after : ∀ t : Server, t.accepted = s.accepted → t.clientInfoChain = s.clientInfoChain →
      t.framers = update s.framers fd (some { entry with framer := entry.framer.next.2 }) →
      t.admitted = s.admitted ++ [s.poppedRequest fd info entry] → t.pending = s.pending → t.pc.joining = none →
      t.Framing framed := by
    intro t accepted chain framers admitted pending joining
    have popped : ∀ conn, t.admittedOn conn =
        s.admittedOn conn ++ if info.conn = conn then [s.poppedRequest fd info entry] else [] := by
      intro conn
      by_cases same : info.conn = conn <;> simp [admittedOn, admitted, arrived, same]
    refine ⟨?_, ?_, ?_⟩
    · intro conn used
      rw [accepted]
      by_cases same : info.conn = conn
      · rw [← same]
        exact connected.old fd info.conn current
      · unfold Used at used
        rw [popped, if_neg same, List.append_nil] at used
        exact framing.old conn used
    · intro conn other _ joins
      rw [joining] at joins
      cases joins
    · intro record member
      rw [chain] at member
      have inOrder := framing.inOrder record member
      have staying : s.pc.leaving ≠ some record.sockDescriptor := by
        rw [here]
        simp [ListenPc.leaving]
      by_cases same : record.sockDescriptor = fd
      · cases table.record_unique member listed (same.trans socket.symm)
        intro later found
        rw [framers, same, update_self] at found
        cases found
        rcases inOrder entry (by rw [same]; exact holds.1) with exactly | dead | leaves
        · left
          cases waiting : entry.framer.ready with
          | nil => exact absurd waiting holds.2
          | cons message rest =>
            rw [exactly, popped, if_pos rfl, waiting, List.map_append, List.append_assoc]
            simp [poppedRequest, Framer.next, waiting]
        · right
          left
          unfold Dead
          rw [pending]
          exact dead
        · exact absurd leaves staying
      · have differ : info.conn ≠ record.conn := by
          intro equal
          have denotes := identity.current record member
          rw [← equal] at denotes
          refine same (connected.unique _ _ _ ?_ ?_ denotes current)
          · exact Or.inl (table.containers.recorded record member)
          · exact Or.inl (by rw [holds.1]; rfl)
        refine inOrder.keep ?_ ?_ ?_ fun leaves => absurd leaves staying
        · rw [framers]
          exact update_of_ne same _ _
        · rw [popped, if_neg differ, List.append_nil]
        · unfold Dead
          rw [pending]
          exact id
  rcases queueRequest_cases holds info queued caller put with ⟨_, result⟩ | ⟨_, result⟩ <;>
    rw [result] <;> exact after _ rfl rfl rfl rfl rfl rfl

theorem erasePending_framing {s : Server} {framed : Nat → List (List Byte)} (framing : s.Framing framed)
    (identity : s.Identity) {fd : Nat} {ready : List Nat} (here : s.pc = .closing fd ready) :
    Framing { s with pending := s.closeSection fd, pausedFds := s.pausedFds.erase fd
                     pc := .deregistering fd ready } framed := by
  refine framing.keep (Nat.le_refl _) rfl (fun _ joins => by cases joins) fun info member => ⟨member, fun inOrder => ?_⟩
  by_cases same : info.sockDescriptor = fd
  · intro _ _
    exact Or.inr (Or.inr (by rw [same]; rfl))
  · refine inOrder.keep rfl rfl ?_ ?_
    · rintro ⟨p, key, dead⟩
      rcases s.closeSection_cases fd info.ident with ⟨kept, _⟩ | ⟨_, record, known, equal⟩
      · exact ⟨p, kept.trans key, dead⟩
      · obtain ⟨listed, socket⟩ := getClientInfo_some known
        have sameRecord := identity.unique record (identity.issued record listed) info (identity.issued info member)
          equal
        exact absurd (by rw [← sameRecord]; exact socket) same
    · rw [here]
      simp [ListenPc.leaving]

theorem deregister_framing {s : Server} {framed : Nat → List (List Byte)} (framing : s.Framing framed)
    {fd : Nat} {ready : List Nat} (here : s.pc = .deregistering fd ready) :
    (match s.getClientInfo fd with
      | none => { s with pc := .closeFd fd ready }
      | some _ => { s with clientInfoChain :=
          s.clientInfoChain.eraseP fun info => info.sockDescriptor == fd } : Server).Framing framed := by
  cases s.getClientInfo fd with
  | none =>
    refine framing.keep (Nat.le_refl _) rfl (fun _ joins => by cases joins) fun info member =>
      ⟨member, fun inOrder => ?_⟩
    refine inOrder.keep rfl rfl id ?_
    rw [here]
    exact id
  | some record =>
    refine framing.keep (Nat.le_refl _) rfl (fun _ joins => ⟨joins, rfl⟩) fun info member =>
      ⟨List.mem_of_mem_eraseP member, fun inOrder => ?_⟩
    exact inOrder.keep rfl rfl id id

theorem closeSocket_framing {s : Server} {framed : Nat → List (List Byte)} (framing : s.Framing framed)
    (table : s.Table ds) {fd : Nat} {ready : List Nat} (here : s.pc = .closeFd fd ready) (maxSd : Nat) :
    Framing { s with framers := update s.framers fd none, fdTable := update s.fdTable fd none
                     masterSet := s.masterSet.erase fd, maxSd := maxSd, pc := .scanning ready } framed := by
  refine framing.keep (Nat.le_refl _) rfl (fun _ joins => by cases joins) fun info member => ⟨member, fun inOrder => ?_⟩
  have differ := table.located.unlisted fd ready here info member
  refine inOrder.keep (update_of_ne differ _ _) rfl id fun leaves => ?_
  rw [here] at leaves
  exact absurd (Option.some.inj leaves).symm differ

/-- Nothing that concerns the framing changes in the other actions of the listen thread. -/
theorem Framing.elsewhere {s t : Server} {framed : Nat → List (List Byte)} (framing : s.Framing framed)
    (table : s.Table ds) {action : ListenAction} (run : s.listenStep ds action = some t)
    (inward : action.inward = true) (frames : action.frames = false) (accounting : action.accounting = false) :
    t.Framing framed := by
  have frame := listenStep_frame run
  have same := frame.outside inward
  have flow := listenStep_flow (fun _ _ _ _ => table.located.holding _ _ _ _) run
  have closes : action.closes = false := by
    cases action <;> first | rfl | (cases inward; done) | (cases frames; done) | cases accounting
  have joining : t.pc.joining = none := by
    refine flow.joining fun newSd ready isAccept => ?_
    rw [isAccept] at inward
    cases inward
  have admitted : t.admitted = s.admitted := by
    refine (listenStep_requests run ?_ ?_).1
    · rintro _ _ _ _ _ rfl
      cases frames
    · rintro _ _ _ _ rfl
      cases inward
  refine framing.keep frame.accepted admitted ?_ ?_
  · intro fd joins
    rw [joining] at joins
    cases joins
  · intro info member
    rw [same.chain] at member
    refine ⟨member, fun inOrder => inOrder.keep ?_ ?_ ?_ ?_⟩
    · rw [frame.framers frames]
    · rw [admittedOn, admittedOn, admitted]
    · unfold Dead
      rw [frame.pending accounting]
      exact id
    · rw [flow.not_leaving closes]
      simp

theorem listenStep_framing {s t : Server} {framed : Nat → List (List Byte)} (framing : s.Framing framed)
    (table : s.Table ds) (identity : s.Identity) (connected : s.Connected) {action : ListenAction}
      (run : s.listenStep ds action = some t) :
    t.Framing (s.framedAfter framed (.listen action)) := by
  by_cases plain : action.inward = true ∧ action.frames = false ∧ action.accounting = false
  · have after := framing.elsewhere table run plain.1 plain.2.1 plain.2.2
    cases action <;> first | exact after | cases plain.2.1
  cases action <;> first | exact absurd ⟨rfl, rfl, rfl⟩ plain | simp only [listenStep, onlyIf_eq_some] at run
  case accept newSd ready =>
    obtain ⟨⟨here, _⟩, rfl⟩ := run
    exact accept_framing framing here
  case register newSd ready conn port ip put =>
    obtain ⟨⟨here, denotes, _⟩, rfl⟩ := run
    exact register_framing framing table here rfl denotes put
  case recv fd ready conn bytes =>
    obtain ⟨⟨here, denotes, _⟩, rfl⟩ := run
    exact recv_framing framing table identity connected here denotes
  case checkConnection fd caller =>
    obtain ⟨here, rfl⟩ := run
    exact checkConnection_framing framing table here
  case admission fd info queued caller =>
    obtain ⟨here, rfl⟩ := run
    exact admission_framing framing here
  case queueRequest fd info queued caller put =>
    obtain ⟨here, rfl⟩ := run
    exact queueRequest_framing framing table identity connected here put
  case release fd info queued caller =>
    obtain ⟨here, rfl⟩ := run
    refine framing.keep (Nat.le_refl _) rfl ?_ fun other member => ⟨member, fun inOrder => ?_⟩
    · intro other joins
      dsimp only at joins
      split_ifs at joins
      · cases joins
      · rw [afterQueueing_joining] at joins
        cases joins
    · refine inOrder.keep rfl rfl responseDoneSection_dead ?_
      rw [here]
      simp [ListenPc.leaving]
  case takeRequest fd paused caller request =>
    obtain ⟨_, rfl⟩ := run
    refine framing.keep (Nat.le_refl _) rfl (fun _ joins => ⟨joins, rfl⟩) fun info member => ⟨member, fun inOrder => ?_⟩
    exact inOrder.keep rfl rfl id id
  case sendProtocolError fd ready conn count =>
    obtain ⟨⟨here, _⟩, rfl⟩ := run
    have staying : ∀ info : ClientInfo, s.pc.leaving ≠ some info.sockDescriptor := by
      intro info
      rw [here]
      simp [ListenPc.leaving]
    split_ifs <;>
      exact framing.keep (Nat.le_refl _) rfl (fun _ joins => by cases joins) fun info member =>
        ⟨member, fun inOrder => inOrder.keep rfl rfl id fun leaves => absurd leaves (staying info)⟩
  case erasePending fd ready =>
    obtain ⟨here, rfl⟩ := run
    exact erasePending_framing framing identity here
  case deregister fd ready =>
    obtain ⟨here, rfl⟩ := run
    exact deregister_framing framing here
  case closeSocket fd ready =>
    obtain ⟨here, rfl⟩ := run
    exact closeSocket_framing framing table here _

/-- The response thread only ever marks connections as dead. -/
theorem responseStep_dead {s t : Server} {action : ResponseAction} (run : s.responseStep ds action = some t)
    {id : Int} (dead : s.Dead id) : t.Dead id := by
  by_cases accounting : action.accounting = true
  · cases action <;> first | (cases accounting; done) | simp only [responseStep, onlyIf_eq_some] at run
    all_goals obtain ⟨_, rfl⟩ := run
    · exact overSendWaitBudget_dead dead
    · exact dropSection_dead dead
    · exact responseDoneSection_dead dead
  · unfold Dead
    rw [(responseStep_frame run).pending (by simpa using accounting)]
    exact dead

theorem step_framing {s t : Server} {framed : Nat → List (List Byte)} (framing : s.Framing framed)
    (table : s.Table ds) (identity : s.Identity) (connected : s.Connected) {action : ServerAction}
    (run : s.step ds action = some t) : t.Framing (s.framedAfter framed action) := by
  cases action with
  | listen action => exact listenStep_framing framing table identity connected run
  | respond action =>
    have frame := responseStep_frame run
    refine framing.keep (Nat.le_of_eq frame.accepted.symm) frame.listen.admitted ?_ ?_
    · intro fd joins
      rw [frame.listen.pc] at joins
      exact ⟨joins, responseStep_fdTable table run fd (Or.inr joins)⟩
    · intro info member
      rw [frame.listen.chain] at member
      refine ⟨member, fun inOrder => inOrder.keep ?_ ?_ (responseStep_dead run) ?_⟩
      · rw [frame.listen.framers]
      · rw [admittedOn, admittedOn, frame.listen.admitted]
      · rw [frame.listen.pc]
        exact id
  | outside action =>
    obtain ⟨pc, framers, chain, pending, _⟩ := outsideStep_frame run
    obtain ⟨admitted, _, _, fdTable, accepted⟩ := outsideStep_requests run
    refine framing.keep (Nat.le_of_eq accepted.symm) admitted ?_ ?_
    · intro fd joins
      rw [pc] at joins
      exact ⟨joins, by rw [fdTable]⟩
    · intro info member
      rw [chain] at member
      refine ⟨member, fun inOrder => inOrder.keep ?_ ?_ ?_ ?_⟩
      · rw [framers]
      · rw [admittedOn, admittedOn, admitted]
      · unfold Dead
        rw [pending]
        exact id
      · rw [pc]
        exact id

end Server
end JsonRpcTcp
