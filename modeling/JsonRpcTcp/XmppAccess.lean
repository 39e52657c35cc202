import JsonRpcTcp.XmppCommands

namespace JsonRpcTcp

namespace XmppMgr

/-! What no command changes. -/

/-- A command leaves the alias list, the command table and the names of the admins alone. -/
structure Keeps (m m' : XmppMgr) : Prop where
  cmdsts : m'.cmdsts = m.cmdsts
  aliasList : m'.aliasList = m.aliasList
  aliasListFile : m'.aliasListFile = m.aliasListFile
  adminBuddy : m'.xmppProxy.adminBuddy = m.xmppProxy.adminBuddy
  bkupAdminBuddy : m'.xmppProxy.bkupAdminBuddy = m.xmppProxy.bkupAdminBuddy

namespace Keeps
variable {m m' m'' : XmppMgr}

theorem refl (m : XmppMgr) : Keeps m m := ⟨rfl, rfl, rfl, rfl, rfl⟩

theorem trans (first : Keeps m m') (second : Keeps m' m'') : Keeps m m'' where
  cmdsts := second.cmdsts.trans first.cmdsts
  aliasList := second.aliasList.trans first.aliasList
  aliasListFile := second.aliasListFile.trans first.aliasListFile
  adminBuddy := second.adminBuddy.trans first.adminBuddy
  bkupAdminBuddy := second.bkupAdminBuddy.trans first.bkupAdminBuddy

theorem resolveCmdStr (keeps : Keeps m m') (msg : List Byte) : m'.resolveCmdStr msg = m.resolveCmdStr msg := by
  unfold XmppMgr.resolveCmdStr
  rw [keeps.cmdsts]

theorem isAdminUser (keeps : Keeps m m') (user : List Byte) :
    m'.xmppProxy.isAdminUser user = m.xmppProxy.isAdminUser user := by
  unfold XmppProxy.isAdminUser
  rw [keeps.adminBuddy, keeps.bkupAdminBuddy]

end Keeps

variable {m : XmppMgr} {env : XmppEnv}

theorem keeps_note (m : XmppMgr) (effect : XmppEffect) : Keeps m (m.note effect) := ⟨rfl, rfl, rfl, rfl, rfl⟩

theorem keeps_call (m : XmppMgr) (env : XmppEnv) (request : RpcCall) : Keeps m (m.call env request).mgr :=
  keeps_note m (.rpc request)

theorem keeps_connected {port : Int} {calls : CmdReply} (keeps : Keeps m calls.mgr) :
    Keeps m (m.connected env port calls).mgr := by
  unfold connected
  split_ifs
  · exact keeps
  · exact .refl m

theorem keeps_readText (request : RpcCall) : Keeps m (m.readText env request).mgr :=
  keeps_connected (keeps_call m env request)

theorem keeps_trigger (request : RpcCall) : Keeps m (m.trigger env request).mgr :=
  keeps_connected (keeps_call m env request)

theorem keeps_taskReply (m : XmppMgr) (port : Int) (sender : List Byte) (result : RpcResult) (tID : List Byte) :
    Keeps m (m.taskReply port sender result tID).mgr := by
  unfold taskReply
  split_ifs
  · exact ⟨rfl, rfl, rfl, rfl, rfl⟩
  · exact .refl m

theorem keeps_startTask (request : RpcCall) (sender : List Byte) : Keeps m (m.startTask env request sender).mgr :=
  keeps_connected ((keeps_call m env request).trans (keeps_taskReply _ _ _ _ _))

theorem keeps_withArg {parsed : List Byte × List Byte} {run : List Byte → CmdReply}
    (keeps : ∀ arg, Keeps m (run arg).mgr) : Keeps m (m.withArg parsed run).mgr := by
  unfold withArg
  split_ifs
  · exact .refl m
  · exact .refl m
  · exact keeps parsed.2

theorem keeps_askInterfaces (m : XmppMgr) (env : XmppEnv) (interfaces : List (List Byte)) :
    Keeps m (m.askInterfaces env interfaces).mgr := by
  induction interfaces generalizing m with
  | nil => exact .refl m
  | cons iface rest ih =>
    unfold askInterfaces
    dsimp only
    split_ifs
    · exact keeps_call m env _
    · exact (keeps_call m env _).trans (ih _)

theorem keeps_accessEvent (sender : List Byte) (evntType : EvntType) (arg : Int32) (value : Option (List Byte)) :
    Keeps m (m.accessEvent sender evntType arg value).mgr := by
  unfold accessEvent
  dsimp only
  split
  · exact .refl m
  · exact .refl m
  · exact ⟨rfl, rfl, rfl, rfl, rfl⟩
  · split_ifs
    · exact ⟨rfl, rfl, rfl, rfl, rfl⟩
    · exact .refl m

theorem keeps_sonoffRequest (ip : List Byte) (request : SonoffCall) (text : SonoffState → List Byte) :
    Keeps m (m.sonoffRequest env ip request text).mgr := by
  unfold sonoffRequest
  split_ifs
  · exact keeps_note m _
  · exact .refl m

theorem keeps_adminBuddyCmd {msg sender : List Byte} {run : List Byte → CmdReply}
    (keeps : ∀ buddy, Keeps m (run buddy).mgr) : Keeps m (m.adminBuddyCmd msg sender run).mgr := by
  unfold adminBuddyCmd
  split_ifs
  · exact .refl m
  · exact keeps_withArg fun arg => keeps _

theorem keeps_acceptBuddy (m : XmppMgr) (buddy : List Byte) :
    Keeps m { m with xmppProxy := m.xmppProxy.acceptBuddy buddy } := by
  have names : (m.xmppProxy.acceptBuddy buddy).adminBuddy = m.xmppProxy.adminBuddy ∧
      (m.xmppProxy.acceptBuddy buddy).bkupAdminBuddy = m.xmppProxy.bkupAdminBuddy := by
    unfold XmppProxy.acceptBuddy
    split_ifs
    · exact ⟨rfl, rfl⟩
    · exact ⟨rfl, rfl⟩
  exact ⟨rfl, rfl, rfl, names.1, names.2⟩

theorem keeps_removeBuddy {buddy : List Byte} {proxy : XmppProxy}
    (removed : m.xmppProxy.removeBuddy buddy = some proxy) :
    Keeps m { m with xmppProxy := proxy } := by
  unfold XmppProxy.removeBuddy at removed
  split_ifs at removed
  cases removed
  exact ⟨rfl, rfl, rfl, rfl, rfl⟩

theorem keeps_updateTask (m : XmppMgr) (taskID : Int32) : Keeps m { m with lastFmwUpdateTaskID := taskID } :=
  ⟨rfl, rfl, rfl, rfl, rfl⟩

theorem keeps_fmwUpdate (msg sender : List Byte) : Keeps m (m.procCmdFmwUpdate env msg sender).mgr := by
  unfold procCmdFmwUpdate
  dsimp only
  split_ifs
  · exact .refl m
  · exact .refl m
  · refine keeps_connected ?_
    exact (((keeps_call m env _).trans (keeps_call _ env _)).trans (keeps_updateTask _ _)).trans
      (keeps_taskReply _ _ _ _ _)
  · exact keeps_connected (keeps_call m env _)

theorem keeps_fmwUpdateSts : Keeps m (m.procCmdFmwUpdateSts env).mgr := by
  refine keeps_connected ?_
  split_ifs
  · exact keeps_call m env _
  · exact keeps_call m env _
  · exact keeps_call m env _

theorem keeps_setHostname (msg : List Byte) : Keeps m (m.procCmdFmwSetHostname env msg).mgr :=
  keeps_withArg fun _ => keeps_trigger _

theorem keeps_hostname (msg : List Byte) : Keeps m (m.procCmdFmwHostname env msg).mgr := by
  unfold procCmdFmwHostname
  dsimp only
  split_ifs
  · exact .refl m
  · exact keeps_readText _
  · exact keeps_setHostname msg

theorem keeps_gpio (msg : List Byte) : Keeps m (m.procCmdGpio env msg).mgr := by
  unfold procCmdGpio
  dsimp only
  split_ifs
  · exact .refl m
  · exact .refl m
  · exact keeps_readText _
  · exact keeps_trigger _

theorem keeps_logsts (msg : List Byte) : Keeps m (m.procCmdLogsts env msg).mgr := by
  unfold procCmdLogsts
  dsimp only
  split_ifs
  · exact .refl m
  · exact .refl m
  · exact keeps_readText _
  · exact keeps_trigger _

theorem keeps_smsSend (msg sender : List Byte) : Keeps m (m.procCmdSmsSend env msg sender).mgr := by
  unfold procCmdSmsSend
  dsimp only
  split_ifs
  · exact .refl m
  · exact .refl m
  · exact .refl m
  · exact keeps_startTask _ sender

theorem keeps_eventGsm (msg sender : List Byte) : Keeps m (m.procCmdEventGsm msg sender).mgr := by
  unfold procCmdEventGsm
  dsimp only
  split_ifs
  · exact .refl m
  · exact keeps_accessEvent _ _ _ _
  · exact keeps_accessEvent _ _ _ _

theorem keeps_eventGpio (msg sender : List Byte) : Keeps m (m.procCmdEventGpio msg sender).mgr := by
  unfold procCmdEventGpio
  dsimp only
  split_ifs
  · exact .refl m
  · exact .refl m
  · exact keeps_accessEvent _ _ _ _
  · exact keeps_accessEvent _ _ _ _

theorem keeps_botName (msg : List Byte) : Keeps m (m.procCmdBotName msg).mgr := by
  unfold procCmdBotName
  dsimp only
  split_ifs
  all_goals exact ⟨rfl, rfl, rfl, rfl, rfl⟩

theorem keeps_shellcmdresp : Keeps m (m.procCmdShellcmdresp env).mgr := by
  unfold procCmdShellcmdresp
  split
  · exact .refl m
  · split_ifs
    · exact .refl m
    · exact .refl m

theorem keeps_sonoff (msg : List Byte) : Keeps m (m.procCmdSonoff env msg).mgr := by
  unfold procCmdSonoff
  dsimp only
  cases env.hostnameToIp (cString (m.xpandarg (threeWords msg).2.1)) with
  | none =>
    split_ifs
    all_goals exact .refl m
  | some ip =>
    dsimp only
    split_ifs
    · exact .refl m
    · exact .refl m
    · exact keeps_sonoffRequest _ _ _
    · exact keeps_sonoffRequest _ _ _
    · exact keeps_sonoffRequest _ _ _
    · exact keeps_sonoffRequest _ _ _
    · exact .refl m

theorem keeps_dispPrint (msg : List Byte) : Keeps m (m.procCmdDispPrint env msg).mgr := by
  unfold procCmdDispPrint
  dsimp only
  split_ifs
  · exact .refl m
  · exact .refl m
  · exact keeps_readText _
  · exact keeps_trigger _

theorem keeps_dispBacklight (msg : List Byte) : Keeps m (m.procCmdDispBacklight env msg).mgr := by
  unfold procCmdDispBacklight
  dsimp only
  split_ifs
  · exact .refl m
  · exact keeps_readText _
  · exact keeps_withArg fun _ => keeps_trigger _

theorem keeps_sendMessage (address message : List Byte) : Keeps m (m.procCmdSendMessage env address message).mgr := by
  unfold procCmdSendMessage
  split_ifs
  · exact .refl m
  · exact .refl m
  · exact keeps_note m _

theorem keeps_relayMessage (msg sender : List Byte) : Keeps m (m.procCmdRelayMessage env msg sender).mgr := by
  unfold procCmdRelayMessage
  dsimp only
  split_ifs
  · exact .refl m
  · exact .refl m
  · exact .refl m
  · exact .refl m
  · exact keeps_sendMessage _ _

theorem keeps_buddyRemove (msg sender : List Byte) : Keeps m (m.procCmdBuddyRemove msg sender).mgr := by
  refine keeps_adminBuddyCmd fun buddy => ?_
  split
  · rename_i proxy removed
    exact keeps_removeBuddy removed
  · exact .refl m

/-- Every command. -/
theorem keeps_runCommand (m : XmppMgr) (env : XmppEnv) (msg sender : List Byte) :
    Keeps m (m.runCommand env msg sender).mgr := by
  unfold runCommand
  cases m.resolveCmdStr msg with
  | smsDeleteAll | smsListUpdate | fmwReboot | fmwPoweroff | gsmModemIdent | logUpdate | devident | shutdown =>
    exact keeps_startTask _ sender
  | smsGet | logMsg => exact keeps_withArg fun _ => keeps_readText _
  | dialVoice | dialUssd | shellcmd | shellcmdTrig => exact keeps_withArg fun _ => keeps_startTask _ sender
  | smsGetTotal | fmwGetVersion | fmwUpdateRes | fmwGetMyip | getUssd | logCount => exact keeps_readText _
  | fmwResetHostname | dispclear => exact keeps_trigger _
  | fmwUptime => exact keeps_connected (keeps_call m env _)
  | fmwGetLocalip => exact keeps_connected (keeps_askInterfaces m env _)
  | smsSend => exact keeps_smsSend msg sender
  | fmwUpdate => exact keeps_fmwUpdate msg sender
  | fmwUpdateSts => exact keeps_fmwUpdateSts
  | fmwHostname => exact keeps_hostname msg
  | gpio => exact keeps_gpio msg
  | debugLogSts => exact keeps_logsts msg
  | gsmEventNotify => exact keeps_eventGsm msg sender
  | gpioEventNotify => exact keeps_eventGpio msg sender
  | sleep => exact keeps_withArg fun _ => .refl m
  | botname => exact keeps_botName msg
  | shellcmdResp => exact keeps_shellcmdresp
  | sonoff => exact keeps_sonoff msg
  | dispprint => exact keeps_dispPrint msg
  | dispbklt => exact keeps_dispBacklight msg
  | buddyAdd => exact keeps_adminBuddyCmd fun buddy => keeps_acceptBuddy m buddy
  | buddyRemove => exact keeps_buddyRemove msg sender
  | buddySubscribe | buddyUnsubscribe => exact keeps_adminBuddyCmd fun buddy => keeps_note m _
  | relayMessage => exact keeps_relayMessage msg sender
  | smsDelete | account | buddyList | acceptBuddyList | cmdAlias | unknown | none => exact .refl m

/-! One message of the queue, and the access to its commands. -/

/-- A sub-command with the state before it and what came of it. -/
structure Executed where
  cmd : XmppCmd
  before : XmppMgr
  reply : CmdReply

/-- The loop over `result`. The outside may answer each command differently. -/
def runCommands (m : XmppMgr) (env : Nat → XmppEnv) (sender : List Byte) : List (List Byte) → List Executed
  | [] => []
  | msg :: rest =>
    let reply := m.runCommand (env 0) msg sender
    ⟨m.resolveCmdStr msg, m, reply⟩ :: reply.mgr.runCommands (fun i => env (i + 1)) sender rest

/-- What `monoshot_callback_function` executes for a message. -/
def executed (m : XmppMgr) (env : Nat → XmppEnv) (cmd : XmppCmdEntry) : List Executed :=
  if isAliasMessage cmd.cmdMsg then [⟨.cmdAlias, m, m.procCmdAlias cmd.cmdMsg⟩]
  else m.runCommands env cmd.sender (subCommands m.aliasList cmd.cmdMsg)

/-- The command is for an admin by `xmproxy_cmd_table`. -/
def AdminOnly (cmd : XmppCmd) : Prop := ∃ row ∈ xmproxyCmdTable, row.cmd = cmd ∧ row.cmdaccess = .admin

instance (cmd : XmppCmd) : Decidable (AdminOnly cmd) := by
  unfold AdminOnly
  infer_instance

/-- The sub-command is answered with an error and changes nothing. -/
structure Executed.Refused (x : Executed) : Prop where
  error : x.reply.result ≠ .success ∧ x.reply.result ≠ .inProg
  unchanged : x.reply.mgr = x.before

/-- A message has a sub-command `xmpshutdown` that reaches the service. -/
def TriggersShutdown (m : XmppMgr) (env : Nat → XmppEnv) (cmd : XmppCmdEntry) : Prop :=
  isAliasMessage cmd.cmdMsg = false ∧
    ∃ i msg, (subCommands m.aliasList cmd.cmdMsg)[i]? = some msg ∧ m.resolveCmdStr msg = .shutdown ∧
      (env i).connects portXmproxy = true

theorem mem_runCommands {env : Nat → XmppEnv} {sender : List Byte} {msgs : List (List Byte)} {x : Executed}
    (member : x ∈ m.runCommands env sender msgs) :
    ∃ i msg, msgs[i]? = some msg ∧ Keeps m x.before ∧ x.cmd = x.before.resolveCmdStr msg ∧
      x.reply = x.before.runCommand (env i) msg sender := by
  induction msgs generalizing m env with
  | nil => exact absurd member List.not_mem_nil
  | cons msg rest ih =>
    rcases List.mem_cons.mp member with rfl | later
    · exact ⟨0, msg, rfl, .refl m, rfl, rfl⟩
    · obtain ⟨i, other, found, keeps, named, replied⟩ := ih later
      have before := (keeps_runCommand m (env 0) msg sender).trans keeps
      exact ⟨i + 1, other, found, before, named, replied⟩

theorem runCommands_get (m : XmppMgr) (env : Nat → XmppEnv) (sender : List Byte) {msgs : List (List Byte)} {i : Nat}
    {msg : List Byte}
    (found : msgs[i]? = some msg) :
    ∃ m', Keeps m m' ∧
      ⟨m'.resolveCmdStr msg, m', m'.runCommand (env i) msg sender⟩ ∈ m.runCommands env sender msgs := by
  induction msgs generalizing m env i with
  | nil => cases found
  | cons first rest ih =>
    cases i with
    | zero =>
      cases found
      exact ⟨m, .refl m, List.mem_cons_self⟩
    | succ i =>
      obtain ⟨m', keeps, member⟩ := 
        ih (m.runCommand (env 0) first sender).mgr (fun i => env (i + 1)) found
      exact ⟨m', (keeps_runCommand m (env 0) first sender).trans keeps, List.mem_cons_of_mem _ member⟩

theorem adminBuddyCmd_refused {msg sender : List Byte} (other : m.xmppProxy.isAdminUser sender = false)
    (run : List Byte → CmdReply) : m.adminBuddyCmd msg sender run = m.done .actionNotAllowed := by
  unfold adminBuddyCmd
  rw [other]
  rfl

theorem relayMessage_refused {msg sender : List Byte} (other : m.xmppProxy.isAdminUser sender = false) :
    m.procCmdRelayMessage env msg sender = m.done .actionNotAllowed := by
  unfold procCmdRelayMessage
  rw [other]
  rfl

/-- The commands of the admins check who sent them, but for one. -/
theorem adminOnly_refused {msg sender : List Byte} (only : AdminOnly (m.resolveCmdStr msg))
    (running : m.resolveCmdStr msg ≠ .shutdown) (other : m.xmppProxy.isAdminUser sender = false) :
    m.runCommand env msg sender = m.done .actionNotAllowed := by
  unfold runCommand
  cases resolved : m.resolveCmdStr msg with
  | buddyAdd | buddyRemove | buddySubscribe | buddyUnsubscribe => exact adminBuddyCmd_refused other _
  | relayMessage => exact relayMessage_refused other
  | shutdown => exact absurd resolved running
  | _ =>
    rw [resolved] at only
    exact absurd only (by decide)

theorem refused_done {cmd : XmppCmd} {result : RpcResult} (error : result ≠ .success ∧ result ≠ .inProg) :
    (⟨cmd, m, m.done result⟩ : Executed).Refused := ⟨error, rfl⟩

theorem shutdown_unreachable {msg sender : List Byte} (resolved : m.resolveCmdStr msg = .shutdown)
    (alone : env.connects portXmproxy = false) : m.runCommand env msg sender = m.done .hostNotReachableErr := by
  unfold runCommand
  rw [resolved]
  unfold procCmdXmpshutdown startTask connected
  rw [if_neg (by simp [alone])]

/-- The call of `trigger_shutdown` is made, whatever it returns. -/
theorem shutdown_reached {msg sender : List Byte} (resolved : m.resolveCmdStr msg = .shutdown)
    (reaches : env.connects portXmproxy = true) :
    (m.runCommand env msg sender).mgr.effects =
      m.effects ++ [.rpc ⟨portXmproxy, "trigger_shutdown", [], ["taskId"]⟩] := by
  have replies : ∀ (m : XmppMgr) (result : RpcResult) (tID : List Byte),
      (m.taskReply portXmproxy sender result tID).mgr.effects = m.effects := by
    intro m result tID
    unfold taskReply
    split_ifs
    · rfl
    · rfl
  unfold runCommand
  rw [resolved]
  unfold procCmdXmpshutdown startTask connected
  rw [if_pos reaches]
  exact replies _ _ _

/-- A command of the admins has an effect for an admin only, unless the message shuts
the service down. -/
theorem admin_commands (m : XmppMgr) (env : Nat → XmppEnv) (cmd : XmppCmdEntry) :
    (∀ x ∈ m.executed env cmd, AdminOnly x.cmd → x.before.xmppProxy.isAdminUser cmd.sender = true ∨ x.Refused) ↔
      m.xmppProxy.isAdminUser cmd.sender = true ∨ ¬ m.TriggersShutdown env cmd := by
  constructor
  · intro enforced
    by_cases admin : m.xmppProxy.isAdminUser cmd.sender = true
    · exact .inl admin
    · refine .inr fun triggers => ?_
      obtain ⟨plain, i, msg, found, resolved, reaches⟩ := triggers
      obtain ⟨m', keeps, member⟩ := runCommands_get m env cmd.sender found
      have resolved' : m'.resolveCmdStr msg = .shutdown := (keeps.resolveCmdStr msg).trans resolved
      have inside := member
      rw [resolved'] at inside
      have whole : m.executed env cmd = m.runCommands env cmd.sender (subCommands m.aliasList cmd.cmdMsg) := by
        unfold executed
        rw [plain]
        rfl
      rcases enforced _ (whole ▸ inside) (by decide : AdminOnly .shutdown) with allowed | refused
      · exact admin ((keeps.isAdminUser cmd.sender).symm.trans allowed)
      · have same := congrArg XmppMgr.effects refused.unchanged
        rw [shutdown_reached resolved' reaches] at same
        have longer := congrArg List.length same
        simp at longer
  · intro condition x member only
    by_cases aliased : isAliasMessage cmd.cmdMsg = true
    · unfold executed at member
      rw [if_pos aliased] at member
      rw [List.mem_singleton.mp member] at only
      have none : ¬ AdminOnly .cmdAlias := by decide
      exact absurd only none
    · have plain : isAliasMessage cmd.cmdMsg = false := Bool.eq_false_iff.mpr aliased
      unfold executed at member
      rw [if_neg aliased] at member
      obtain ⟨i, msg, found, keeps, named, replied⟩ := mem_runCommands member
      obtain ⟨name, before, reply⟩ := x
      dsimp only at keeps named replied only
      subst named
      subst replied
      by_cases admin : m.xmppProxy.isAdminUser cmd.sender = true
      · exact .inl ((keeps.isAdminUser cmd.sender).trans admin)
      · have other : before.xmppProxy.isAdminUser cmd.sender = false :=
          (keeps.isAdminUser cmd.sender).trans (Bool.eq_false_iff.mpr admin)
        right
        by_cases shuts : before.resolveCmdStr msg = .shutdown
        · have alone : (env i).connects portXmproxy = false := by
            rcases condition with allowed | quiet
            · exact absurd allowed admin
            · refine Bool.eq_false_iff.mpr fun reaches => quiet ⟨plain, i, msg, found, ?_, reaches⟩
              exact (keeps.resolveCmdStr msg).symm.trans shuts
          rw [shutdown_unreachable shuts alone]
          exact refused_done (by decide)
        · rw [adminOnly_refused only shuts other]
          exact refused_done (by decide)

/-- A sender who is no admin shuts the service down. -/
theorem shutdown_by_anyone :
    ¬ ∀ x ∈ (start (ascii "owner@home") []).executed (fun _ => .answering .inProg (ascii "1"))
        ⟨ascii "xmpshutdown", ascii "guest@home"⟩,
      AdminOnly x.cmd → x.before.xmppProxy.isAdminUser (ascii "guest@home") = true ∨ x.Refused := by
  intro enforced
  have resolved : (start (ascii "owner@home") []).resolveCmdStr (ascii "xmpshutdown") = .shutdown := by decide +kernel
  have plain : isAliasMessage (ascii "xmpshutdown") = false := by decide +kernel
  have single : subCommands .empty (ascii "xmpshutdown") = [ascii "xmpshutdown"] := by decide +kernel
  have guest : (start (ascii "owner@home") []).xmppProxy.isAdminUser (ascii "guest@home") = false := by decide +kernel
  have member : ⟨.shutdown, start (ascii "owner@home") [],
      (start (ascii "owner@home") []).runCommand (.answering .inProg (ascii "1")) (ascii "xmpshutdown")
        (ascii "guest@home")⟩ ∈ (start (ascii "owner@home") []).executed (fun _ => .answering .inProg (ascii "1"))
        ⟨ascii "xmpshutdown", ascii "guest@home"⟩ := by
    unfold executed
    rw [plain, ← resolved]
    exact single ▸ List.mem_cons_self
  rcases enforced _ member (by decide : AdminOnly .shutdown) with allowed | refused
  · rw [guest] at allowed
    exact Bool.noConfusion allowed
  · have same := congrArg XmppMgr.effects refused.unchanged
    rw [shutdown_reached resolved rfl] at same
    exact absurd same (List.cons_ne_nil _ _)

end XmppMgr
end JsonRpcTcp
