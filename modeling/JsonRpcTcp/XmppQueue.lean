import JsonRpcTcp.MonoshotQueue
import JsonRpcTcp.XmppAccess

namespace JsonRpcTcp
open TextStream

/-- Program points of `XmppCmdProcessThread`: it waits, is about to call `pop_cmd`, has
taken a message, or has sub-commands of a message left. -/
inductive CommandPc where
  | waiting
  | popping
  | taken (cmd : XmppCmdEntry)
  | running (sender : List Byte) (result : List (List Byte))
  deriving DecidableEq, Repr

/-- A call of `send_reply`. `command` is not in the source: what it replies to. -/
structure XmppReply where
  replyTo : List Byte
  text : List Byte
  command : List Byte
  deriving DecidableEq, Repr

/-- `XmppMgr` with the gloox thread, which calls `onXmppMessage`, and the command thread. -/
structure XmppSystem where
  gloox : ProducerPc
  pc : CommandPc
  sema : Nat
  processCmd : List XmppCmdEntry
  inbox : List (List Byte)
  responseMsg : List Byte
  aiAgentUrl : List Byte
  mgr : XmppMgr
  -- history, not in the source: the messages that were ever queued and taken, and the
  -- replies of either thread
  queued : List XmppCmdEntry
  popped : List XmppCmdEntry
  replies : List XmppReply
  directReplies : List XmppReply

inductive XmppAction where
  -- `answer` is what the AI model would return
  | onXmppMessage (msg sender answer : List Byte)
  | wakeupThread
  | semWait
  | interrupted
  | popCmd
  | resolve
  | command (env : XmppEnv)

namespace XmppSystem

def start (aiAgentUrl : List Byte) (mgr : XmppMgr) : XmppSystem where
  gloox := .outside
  pc := .waiting
  sema := 0
  processCmd := []
  inbox := []
  responseMsg := []
  aiAgentUrl := aiAgentUrl
  mgr := mgr
  queued := []
  popped := []
  replies := []
  directReplies := []

/-- `onXmppMessage`, up to the wakeup. -/
def onXmppMessage (s : XmppSystem) (msg sender answer : List Byte) : XmppSystem :=
  if msg = ascii "Echo" ∨ msg = ascii "echo" then
    { s with directReplies := s.directReplies ++ [⟨sender, msg, msg⟩] }
  else if msg = ascii "Help" ∨ msg = ascii "help" then
    { s with directReplies := s.directReplies ++ [⟨sender, s.mgr.printHelp, msg⟩] }
  else if ascii "return=" <:+: msg then
    { s with responseMsg := msg, inbox := s.inbox ++ [msg] }
  else if s.aiAgentUrl ≠ [] then
    { s with directReplies := s.directReplies ++ [⟨sender, answer, msg⟩] }
  else
    { s with processCmd := s.processCmd ++ [⟨msg, sender⟩], queued := s.queued ++ [⟨msg, sender⟩], gloox := .waking }

/-- The reply to a command is sent. -/
def sendReply (s : XmppSystem) (sender command : List Byte) (reply : CmdReply) : XmppSystem :=
  { s with mgr := reply.mgr, replies := s.replies ++ [⟨sender, reply.response, command⟩] }

def step (s : XmppSystem) : XmppAction → Option XmppSystem
  | .onXmppMessage msg sender answer => onlyIf (s.gloox = .outside) (s.onXmppMessage msg sender answer)
  | .wakeupThread => onlyIf (s.gloox = .waking) { s with gloox := .outside, sema := s.sema + 1 }
  | .semWait => onlyIf (s.pc = .waiting ∧ 0 < s.sema) { s with pc := .popping, sema := s.sema - 1 }
  | .interrupted => onlyIf (s.pc = .waiting) s
  | .popCmd =>
    match s.processCmd with
    -- the callback returns
    | [] => onlyIf (s.pc = .popping) { s with pc := .waiting }
    | cmd :: rest => onlyIf (s.pc = .popping)
        { s with pc := .taken cmd, processCmd := rest, popped := s.popped ++ [cmd] }
  | .resolve =>
    match s.pc with
    | .taken cmd =>
      if XmppMgr.isAliasMessage cmd.cmdMsg then
        some { s.sendReply cmd.sender cmd.cmdMsg (s.mgr.procCmdAlias cmd.cmdMsg) with pc := .popping }
      else some { s with pc := .running cmd.sender (XmppMgr.subCommands s.mgr.aliasList cmd.cmdMsg) }
    | _ => none
  | .command env =>
    match s.pc with
    | .running _ [] => some { s with pc := .popping }
    | .running sender (msg :: rest) =>
      some { s.sendReply sender msg (s.mgr.runCommand env msg sender) with pc := .running sender rest }
    | _ => none

end XmppSystem

/-! What a message asks for, and what it does to the alias list. -/

namespace Alias

/-- The sub-commands of a message: the pieces of its text, or of the alias that it is as a
whole, where a piece that is itself an alias stands for the pieces of its value. -/
def expansion (aliasList : Alias) (text : List Byte) : List (List Byte) :=
  (((aliasList.find text).getD text).splitOn semicolon).flatMap fun piece =>
    ((aliasList.find piece).map fun value => value.splitOn semicolon).getD [piece]

/-- What the replies to a message answer, in order. -/
def commands (aliasList : Alias) (msg : List Byte) : List (List Byte) :=
  if XmppMgr.isAliasMessage msg then [msg] else aliasList.expansion (lower msg)

/-- An alias message defines, redefines or deletes a key, or asks for the list. -/
def after (aliasList : Alias) (msg : List Byte) : Alias :=
  if ¬ XmppMgr.isAliasMessage msg ∨ msg = ascii "Alias" ∨ msg = ascii "alias" then aliasList
  else XmppMgr.assignAlias aliasList (XmppMgr.aliasKey (XmppMgr.twoFields msg).1) (XmppMgr.twoFields msg).2

/-- The replies that messages ask for, each with its sender. -/
def requests (aliasList : Alias) : List XmppCmdEntry → List (List Byte × List Byte)
  | [] => []
  | cmd :: rest =>
    ((aliasList.commands cmd.cmdMsg).map fun command => (cmd.sender, command)) ++
      (aliasList.after cmd.cmdMsg).requests rest

/-- The alias list behind messages. -/
def afterAll (aliasList : Alias) (msgs : List XmppCmdEntry) : Alias :=
  msgs.foldl (fun aliasList cmd => aliasList.after cmd.cmdMsg) aliasList

theorem requests_concat (aliasList : Alias) (msgs : List XmppCmdEntry) (cmd : XmppCmdEntry) :
    aliasList.requests (msgs ++ [cmd]) = aliasList.requests msgs ++
      (((aliasList.afterAll msgs).commands cmd.cmdMsg).map fun command => (cmd.sender, command)) := by
  induction msgs generalizing aliasList with
  | nil => simp [requests, afterAll]
  | cons first rest ih =>
    have tail := ih (aliasList.after first.cmdMsg)
    rw [List.cons_append, requests, requests, tail, List.append_assoc]
    rfl

theorem afterAll_concat (aliasList : Alias) (msgs : List XmppCmdEntry) (cmd : XmppCmdEntry) :
    aliasList.afterAll (msgs ++ [cmd]) = (aliasList.afterAll msgs).after cmd.cmdMsg := by
  unfold afterAll
  rw [List.foldl_append]
  rfl

end Alias

namespace XmppMgr

/-- The loops over the streams find the sub-commands. -/
theorem subCommands_eq (aliasList : Alias) (msg : List Byte) :
    subCommands aliasList msg = aliasList.expansion (lower msg) := by
  unfold subCommands Alias.expansion
  dsimp only
  rw [pieces_eq_splitOn]
  congr 1
  funext substr
  cases aliasList.find substr with
  | none => rfl
  | some value => exact pieces_eq_splitOn semicolon value

/-- A redefined alias is erased first. -/
theorem procCmdAlias_aliasList {m : XmppMgr} {msg : List Byte} (aliased : isAliasMessage msg = true) :
    (m.procCmdAlias msg).mgr.aliasList = m.aliasList.after msg := by
  unfold procCmdAlias Alias.after assignAlias
  by_cases query : msg = ascii "Alias" ∨ msg = ascii "alias"
  · rw [if_pos query, if_pos (.inr query)]
  · have definition : ¬ (¬ isAliasMessage msg ∨ msg = ascii "Alias" ∨ msg = ascii "alias") := by
      rintro (other | same)
      · exact other aliased
      · exact query same
    rw [if_neg query, if_neg definition]
    dsimp only
    split_ifs
    · rfl
    · cases m.aliasList.find (aliasKey (twoFields msg).1) with
      | none => rfl
      | some old => exact SortedMap.insert_erase m.aliasList _ _

end XmppMgr

namespace XmppSystem

/-- The replies that the message at hand still asks for. -/
def owed (s : XmppSystem) : List (List Byte × List Byte) :=
  match s.pc with
  | .waiting | .popping => []
  | .taken cmd => (s.mgr.aliasList.commands cmd.cmdMsg).map fun command => (cmd.sender, command)
  | .running sender result => result.map fun command => (sender, command)

/-- The alias list as it will be when the message at hand is done with. -/
def settledAliases (s : XmppSystem) : Alias :=
  match s.pc with
  | .taken cmd => s.mgr.aliasList.after cmd.cmdMsg
  | _ => s.mgr.aliasList

/-- What holds in every state, with the alias list of the start. -/
structure Orderly (initial : Alias) (s : XmppSystem) : Prop where
  order : s.queued = s.popped ++ s.processCmd
  awake : s.processCmd ≠ [] → 0 < s.sema ∨ s.gloox = .waking ∨ s.pc ≠ .waiting
  aliases : s.settledAliases = initial.afterAll s.popped
  replied : s.replies.map (fun reply => (reply.replyTo, reply.command)) ++ s.owed = initial.requests s.popped

variable {initial : Alias} {s t : XmppSystem}

theorem Orderly.onXmppMessage (orderly : Orderly initial s) (msg sender answer : List Byte) :
    Orderly initial (s.onXmppMessage msg sender answer) := by
  unfold XmppSystem.onXmppMessage
  split_ifs
  · exact ⟨orderly.order, orderly.awake, orderly.aliases, orderly.replied⟩
  · exact ⟨orderly.order, orderly.awake, orderly.aliases, orderly.replied⟩
  · exact ⟨orderly.order, orderly.awake, orderly.aliases, orderly.replied⟩
  · exact ⟨orderly.order, orderly.awake, orderly.aliases, orderly.replied⟩
  · refine ⟨?_, fun _ => .inr (.inl rfl), orderly.aliases, orderly.replied⟩
    simp [orderly.order]

/-- A taken message: its replies are owed, and its effect on the aliases lies ahead. -/
theorem Orderly.popCmd (orderly : Orderly initial s) (here : s.pc = .popping) {cmd : XmppCmdEntry}
    {rest : List XmppCmdEntry} (queue : s.processCmd = cmd :: rest) :
    Orderly initial { s with pc := .taken cmd, processCmd := rest, popped := s.popped ++ [cmd] } := by
  have aliases := orderly.aliases
  have replied := orderly.replied
  simp only [settledAliases, owed, here, List.append_nil] at aliases replied
  refine ⟨?_, fun _ => .inr (.inr CommandPc.noConfusion), ?_, ?_⟩
  · rw [orderly.order, queue]
    simp
  · simp only [settledAliases]
    rw [aliases, Alias.afterAll_concat]
  · simp only [owed]
    rw [replied, aliases, Alias.requests_concat]

/-- An alias message has one reply. -/
theorem Orderly.aliasReply (orderly : Orderly initial s) {cmd : XmppCmdEntry} (here : s.pc = .taken cmd)
    (aliased : XmppMgr.isAliasMessage cmd.cmdMsg = true) :
    Orderly initial
      { s.sendReply cmd.sender cmd.cmdMsg (s.mgr.procCmdAlias cmd.cmdMsg) with pc := .popping } := by
  have aliases := orderly.aliases
  have replied := orderly.replied
  simp only [settledAliases, owed, here] at aliases replied
  refine ⟨orderly.order, fun _ => .inr (.inr CommandPc.noConfusion), ?_, ?_⟩
  · simp only [settledAliases, sendReply]
    rw [XmppMgr.procCmdAlias_aliasList aliased, aliases]
  · rw [Alias.commands, if_pos aliased] at replied
    simpa [owed, sendReply] using replied

/-- Any other message leaves the aliases alone, and its pieces are to be executed. -/
theorem Orderly.expand (orderly : Orderly initial s) {cmd : XmppCmdEntry} (here : s.pc = .taken cmd)
    (plain : ¬ XmppMgr.isAliasMessage cmd.cmdMsg = true) :
    Orderly initial { s with pc := .running cmd.sender (XmppMgr.subCommands s.mgr.aliasList cmd.cmdMsg) } := by
  have aliases := orderly.aliases
  have replied := orderly.replied
  simp only [settledAliases, owed, here] at aliases replied
  refine ⟨orderly.order, fun _ => .inr (.inr CommandPc.noConfusion), ?_, ?_⟩
  · rw [Alias.after, if_pos (.inl plain)] at aliases
    exact aliases
  · rw [Alias.commands, if_neg plain] at replied
    simp only [owed]
    rw [XmppMgr.subCommands_eq]
    exact replied

theorem Orderly.command (orderly : Orderly initial s) {sender msg : List Byte} {rest : List (List Byte)}
    (here : s.pc = .running sender (msg :: rest)) (env : XmppEnv) :
    Orderly initial { s.sendReply sender msg (s.mgr.runCommand env msg sender) with pc := .running sender rest } := by
  have aliases := orderly.aliases
  have replied := orderly.replied
  simp only [settledAliases, owed, here] at aliases replied
  refine ⟨orderly.order, fun _ => .inr (.inr CommandPc.noConfusion), ?_, ?_⟩
  · simp only [settledAliases, sendReply]
    rw [(XmppMgr.keeps_runCommand s.mgr env msg sender).aliasList]
    exact aliases
  · simpa [owed, sendReply] using replied

theorem orderly_step {action : XmppAction} (orderly : Orderly initial s) (run : s.step action = some t) :
    Orderly initial t := by
  cases action with
  | onXmppMessage msg sender answer =>
    obtain ⟨_, rfl⟩ := onlyIf_eq_some.mp run
    exact orderly.onXmppMessage msg sender answer
  | wakeupThread =>
    obtain ⟨_, rfl⟩ := onlyIf_eq_some.mp run
    exact ⟨orderly.order, fun _ => .inl (Nat.succ_pos s.sema), orderly.aliases, orderly.replied⟩
  | semWait =>
    obtain ⟨⟨here, _⟩, rfl⟩ := onlyIf_eq_some.mp run
    have aliases := orderly.aliases
    have replied := orderly.replied
    simp only [settledAliases, owed, here] at aliases replied
    exact ⟨orderly.order, fun _ => .inr (.inr CommandPc.noConfusion), aliases, replied⟩
  | interrupted =>
    obtain ⟨_, rfl⟩ := onlyIf_eq_some.mp run
    exact orderly
  | popCmd =>
    simp only [step] at run
    split at run
    case h_1 empty =>
      obtain ⟨here, rfl⟩ := onlyIf_eq_some.mp run
      have aliases := orderly.aliases
      have replied := orderly.replied
      simp only [settledAliases, owed, here] at aliases replied
      exact ⟨orderly.order, fun some => absurd empty some, aliases, replied⟩
    case h_2 cmd rest queue =>
      obtain ⟨here, rfl⟩ := onlyIf_eq_some.mp run
      exact orderly.popCmd here queue
  | resolve =>
    simp only [step] at run
    split at run
    case h_1 cmd here =>
      split_ifs at run with aliased
      · cases Option.some.inj run
        exact orderly.aliasReply here aliased
      · cases Option.some.inj run
        exact orderly.expand here aliased
    case h_2 => cases run
  | command env =>
    simp only [step] at run
    split at run
    case h_1 sender here =>
      cases Option.some.inj run
      have aliases := orderly.aliases
      have replied := orderly.replied
      simp only [settledAliases, owed, here] at aliases replied
      exact ⟨orderly.order, fun _ => .inr (.inr CommandPc.noConfusion), aliases, replied⟩
    case h_2 sender msg rest here =>
      cases Option.some.inj run
      exact orderly.command here env
    case h_3 => cases run

theorem reach_orderly {aiAgentUrl : List Byte} {mgr : XmppMgr} {allow : XmppSystem → XmppAction → Prop}
    (reach : Reach step allow (start aiAgentUrl mgr) s) : Orderly mgr.aliasList s := by
  have initially : Orderly mgr.aliasList (start aiAgentUrl mgr) :=
    ⟨rfl, fun some => absurd rfl some, rfl, rfl⟩
  exact reach.invariant initially fun _ _ _ orderly _ run => orderly_step orderly run

/-- Messages are taken in the order in which they came, none is left when the command
thread waits for good, and the senders are sent what the messages taken ask for, but for
what is still owed to the last one. -/
theorem command_queue {aiAgentUrl : List Byte} {mgr : XmppMgr}
    (reach : Reach step (fun _ _ => True) (start aiAgentUrl mgr) s) :
    s.queued = s.popped ++ s.processCmd ∧
      (s.pc = .waiting → s.sema = 0 → s.gloox = .outside → s.processCmd = []) ∧
      s.replies.map (fun reply => (reply.replyTo, reply.command)) ++ s.owed = mgr.aliasList.requests s.popped := by
  have orderly := reach_orderly reach
  refine ⟨orderly.order, ?_, orderly.replied⟩
  intro here none nobody
  by_contra left
  rcases orderly.awake left with posted | waking | awake
  · omega
  · rw [nobody] at waking
    exact ProducerPc.noConfusion waking
  · exact awake here

/-- An alias is defined, and its use between two separators gives four replies. -/
theorem command_queue_nested :
    ∃ s : XmppSystem, (s.replies.map fun reply => reply.command) =
        [ascii "alias ll=uptime;version", ascii "uptime", ascii "version", ascii "gpio 1", []] ∧
      s.pc = .waiting ∧ s.processCmd = [] ∧
      s.replies.map (fun reply => (reply.replyTo, reply.command)) ++ s.owed =
        Alias.requests SortedMap.empty s.popped := by
  obtain ⟨s, reach, replies, here, none, nobody⟩ := exists_reach step (fun _ _ => True)
    (start [] (.start (ascii "owner@home") []))
    [.onXmppMessage (ascii "alias ll=uptime;version") (ascii "guest@home") [], .wakeupThread, .semWait,
     .onXmppMessage (ascii "ll;gpio 1;") (ascii "owner@home") [], .popCmd, .resolve, .popCmd, .resolve,
     .command (.answering .success (ascii "3")), .wakeupThread, .command (.answering .success (ascii "3")),
     .command (.answering .success (ascii "3")), .command (.answering .success (ascii "3")),
     .command (.answering .success (ascii "3")), .popCmd, .semWait, .popCmd]
    (fun s => (s.replies.map fun reply => reply.command) =
        [ascii "alias ll=uptime;version", ascii "uptime", ascii "version", ascii "gpio 1", []] ∧
      s.pc = .waiting ∧ s.sema = 0 ∧ s.gloox = .outside) (by decide +kernel)
  have queue := command_queue reach
  exact ⟨s, replies, here, queue.2.1 here none nobody, queue.2.2⟩

end XmppSystem
end JsonRpcTcp
