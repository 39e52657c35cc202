import JsonRpcTcp.XmppState

namespace JsonRpcTcp
open TextStream

namespace XmppMgr

/-! The `proc_cmd` functions, by what they have in common. -/

def note (m : XmppMgr) (effect : XmppEffect) : XmppMgr := { m with effects := m.effects ++ [effect] }

/-- A command that returns a result and no text. -/
def done (m : XmppMgr) (result : RpcResult) : CmdReply := ⟨result, [], m⟩

/-- A call over an open connection, whose first text is returned. -/
def call (m : XmppMgr) (env : XmppEnv) (request : RpcCall) : CmdReply :=
  ⟨(env.answer request).1, (env.answer request).2.headD [], m.note (.rpc request)⟩

/-- `rpc_server_connect`, the calls over this connection and `rpc_server_disconnect`. -/
def connected (m : XmppMgr) (env : XmppEnv) (port : Int) (calls : CmdReply) : CmdReply :=
  if env.connects port then calls else m.done .hostNotReachableErr

/-- The commands that read a text from a service. -/
def readText (m : XmppMgr) (env : XmppEnv) (request : RpcCall) : CmdReply :=
  m.connected env request.port (m.call env request)

/-- The commands that only trigger an action of a service. -/
def trigger (m : XmppMgr) (env : XmppEnv) (request : RpcCall) : CmdReply :=
  m.connected env request.port { m.call env request with returnval := [] }

/-- The end of a command that starts a task: `tID` came with the response. -/
def taskReply (m : XmppMgr) (port : Int) (sender : List Byte) (result : RpcResult) (tID : List Byte) : CmdReply :=
  if result = .inProg then
    let tasks := m.asyncTasks.insertEntry (atoi tID) port sender
    ⟨result, ascii "taskID=" ++ decimal tasks.counter, { m with asyncTasks := tasks }⟩
  else ⟨result, ascii "taskID=" ++ decimal (-1), m⟩

/-- The commands that start a task of a service. -/
def startTask (m : XmppMgr) (env : XmppEnv) (request : RpcCall) (sender : List Byte) : CmdReply :=
  let response := m.call env request
  m.connected env request.port (response.mgr.taskReply request.port sender response.result response.returnval)

/-- `msgstream >> cmd >> cmdArg >> cmdArg2`. -/
def threeWords (msg : List Byte) : List Byte × List Byte × List Byte :=
  let cmd := readWord (.ofText msg)
  let cmdArg := readWord cmd.2
  (cmd.1, cmdArg.1, (readWord cmdArg.2).1)

/-- `msgstream >> cmd >> cmdArg` and `getline(msgstream, cmdArg2)`. -/
def twoWordsAndLine (msg : List Byte) : List Byte × List Byte × List Byte :=
  let cmd := readWord (.ofText msg)
  let cmdArg := readWord cmd.2
  (cmd.1, cmdArg.1, (readLine cmdArg.2).1)

/-- `msgstream >> cmd` and `getline(msgstream, cmdArg)`. -/
def wordAndLine (msg : List Byte) : List Byte × List Byte :=
  let cmd := readWord (.ofText msg)
  (cmd.1, (readLine cmd.2).1)

/-- The commands with one argument that must be there. -/
def withArg (m : XmppMgr) (parsed : List Byte × List Byte) (run : List Byte → CmdReply) : CmdReply :=
  if parsed.1 = [] then m.done .unknownCommand
  else if parsed.2 = [] then m.done .argError
  else run parsed.2

def twoWords (msg : List Byte) : List Byte × List Byte := ((threeWords msg).1, (threeWords msg).2.1)

/-- `proc_cmd_sms_deleteall`. -/
def procCmdSmsDeleteall (m : XmppMgr) (env : XmppEnv) (sender : List Byte) : CmdReply :=
  m.startTask env ⟨portBboxsms, "delete_all_sms", [], ["taskId"]⟩ sender

/-- `proc_cmd_sms_delete`. -/
def procCmdSmsDelete (m : XmppMgr) : CmdReply := m.done .featureNotAvailable

/-- `proc_cmd_sms_get`. -/
def procCmdSmsGet (m : XmppMgr) (env : XmppEnv) (msg : List Byte) : CmdReply :=
  m.withArg (twoWords msg) fun cmdArg =>
    m.readText env ⟨portBboxsms, "get_sms", [.int "index" (atoi (m.xpandarg cmdArg))], ["message"]⟩

/-- `proc_cmd_sms_send`. -/
def procCmdSmsSend (m : XmppMgr) (env : XmppEnv) (msg sender : List Byte) : CmdReply :=
  let (cmd, destArg, msgArg) := twoWordsAndLine msg
  if cmd = [] then m.done .unknownCommand
  else if destArg = [] then m.done .argError
  else if msgArg = [] then m.done .argError
  else m.startTask env ⟨portBboxsms, "send_sms", [.text "destination" (cString (m.xpandarg destArg)),
    .text "message" (cString (m.xpandargs msgArg))], ["taskId"]⟩ sender

/-- `proc_cmd_sms_list_update`. -/
def procCmdSmsListUpdate (m : XmppMgr) (env : XmppEnv) (sender : List Byte) : CmdReply :=
  m.startTask env ⟨portBboxsms, "update_sms_list", [], ["taskId"]⟩ sender

/-- `proc_cmd_sms_get_total`. -/
def procCmdSmsGetTotal (m : XmppMgr) (env : XmppEnv) : CmdReply :=
  m.readText env ⟨portBboxsms, "get_total_sms", [], ["msgcount"]⟩

/-- `proc_cmd_fmw_get_version`. -/
def procCmdFmwGetVersion (m : XmppMgr) (env : XmppEnv) : CmdReply :=
  m.readText env ⟨portSysmgr, "get_fmw_version", [.text "module" (ascii "current")], ["version"]⟩

/-- `GITHUB_FMW_DOWNLOAD_FOLDER`. -/
def githubFmwDownloadFolder : List Byte := ascii "http://github.com/hackboxguy/downloads/raw/master/"

/-- The `URLPath` of `proc_cmd_fmw_update`. -/
def fmwUrlPath (env : XmppEnv) : List Byte :=
  let line := env.sysConfigLine ++ ascii ".uimg"
  match env.updateUrlLine with
  | none => githubFmwDownloadFolder ++ line
  | some customurl => if customurl = [] then githubFmwDownloadFolder ++ line else customurl

/-- `proc_cmd_fmw_update`: the image is downloaded by a first task, whose id is not kept. -/
def procCmdFmwUpdate (m : XmppMgr) (env : XmppEnv) (msg sender : List Byte) : CmdReply :=
  if (twoWords msg).1 = [] then m.done .unknownCommand
  else if env.sysConfigLine = [] then m.done .fail
  else
    let download := m.call env ⟨portSysmgr, "download_ftp_file", [.text "srcaddr" (cString (fmwUrlPath env)),
      .text "targetpath" (ascii "/tmp/uBrBoxRoot.uimg")], ["taskId"]⟩
    m.connected env portSysmgr
      (if download.result = .inProg then
        let update := download.mgr.call env ⟨portSysmgr, "firmware_update", [.text "module" (ascii "project"),
          .text "filepath" (ascii "/tmp/uBrBoxRoot.uimg")], ["taskId"]⟩
        let updated : XmppMgr := { update.mgr with lastFmwUpdateTaskID := atoi update.returnval }
        updated.taskReply portSysmgr sender update.result update.returnval
      else download.mgr.done download.result)

/-- `proc_cmd_fmw_update_sts`. -/
def procCmdFmwUpdateSts (m : XmppMgr) (env : XmppEnv) : CmdReply :=
  let response := m.call env ⟨portSysmgr, "get_async_task", [], ["task"]⟩
  m.connected env portSysmgr
    (if response.result ≠ .success then response
    else if response.returnval = ascii "none" then { response with returnval := ascii "Idle" }
    else { response with returnval := ascii "Busy" })

/-- `proc_cmd_fmw_update_res`. -/
def procCmdFmwUpdateRes (m : XmppMgr) (env : XmppEnv) : CmdReply :=
  m.readText env
    ⟨portSysmgr, "get_rpc_req_status", [.text "taskId" (decimal m.lastFmwUpdateTaskID.toInt)], ["taskStatus"]⟩

/-- `proc_cmd_fmw_reboot`. -/
def procCmdFmwReboot (m : XmppMgr) (env : XmppEnv) (sender : List Byte) : CmdReply :=
  m.startTask env ⟨portSysmgr, "set_device_operation", [.text "operation" (ascii "reboot")], ["taskId"]⟩ sender

/-- `proc_cmd_fmw_poweroff`. -/
def procCmdFmwPoweroff (m : XmppMgr) (env : XmppEnv) (sender : List Byte) : CmdReply :=
  m.startTask env ⟨portSysmgr, "set_device_operation", [.text "operation" (ascii "standby")], ["taskId"]⟩ sender

/-- `proc_cmd_fmw_uptime`. -/
def procCmdFmwUptime (m : XmppMgr) (env : XmppEnv) : CmdReply :=
  let request : RpcCall := ⟨portSysmgr, "get_load_info", [], ["current", "average", "uptime"]⟩
  let hrs := atoi ((env.answer request).2.getD 2 []) / 3600
  m.connected env portSysmgr { m.call env request with returnval := decimal hrs.toInt ++ ascii " Hours" }

/-- `proc_cmd_fmw_get_hostname`. -/
def procCmdFmwGetHostname (m : XmppMgr) (env : XmppEnv) : CmdReply :=
  m.readText env ⟨portSysmgr, "get_hostname", [], ["hostname"]⟩

/-- `proc_cmd_fmw_set_hostname`, which reads the argument again and does not expand it. -/
def procCmdFmwSetHostname (m : XmppMgr) (env : XmppEnv) (msg : List Byte) : CmdReply :=
  m.withArg (twoWords msg) fun cmdArg =>
    m.trigger env ⟨portSysmgr, "set_hostname", [.text "hostname" (cString cmdArg)], []⟩

/-- `proc_cmd_fmw_hostname`. -/
def procCmdFmwHostname (m : XmppMgr) (env : XmppEnv) (msg : List Byte) : CmdReply :=
  let (cmd, cmdArg) := twoWords msg
  if cmd = [] then m.done .unknownCommand
  else if m.xpandarg cmdArg = [] then m.procCmdFmwGetHostname env
  else m.procCmdFmwSetHostname env msg

/-- `proc_cmd_gpio`. -/
def procCmdGpio (m : XmppMgr) (env : XmppEnv) (msg : List Byte) : CmdReply :=
  let (cmd, cmdArg, cmdArg2) := threeWords msg
  let gpioAddr := atoi (m.xpandarg cmdArg)
  if cmd = [] then m.done .unknownCommand
  else if cmdArg = [] then m.done .argError
  else if cmdArg2 = [] then m.readText env ⟨portGpioctl, "gpio_get", [.int "addr" gpioAddr], ["data"]⟩
  else m.trigger env
    ⟨portGpioctl, "gpio_set", [.int "addr" gpioAddr, .int "data" (atoi (m.xpandarg cmdArg2))], []⟩

/-- `proc_cmd_fmw_get_myip`. -/
def procCmdFmwGetMyip (m : XmppMgr) (env : XmppEnv) : CmdReply :=
  m.readText env ⟨portSysmgr, "get_my_public_ip", [], ["ip"]⟩

/-- The calls of `proc_cmd_fmw_get_localip`, one interface after the other. -/
def askInterfaces (m : XmppMgr) (env : XmppEnv) : List (List Byte) → CmdReply
  | [] => m.done .fail
  | iface :: rest =>
    let response := m.call env ⟨portSysmgr, "get_ip_addr", [.text "iface" iface], ["addr"]⟩
    if response.result = .success ∨ rest = [] then response else response.mgr.askInterfaces env rest

/-- `proc_cmd_fmw_get_localip`. -/
def procCmdFmwGetLocalip (m : XmppMgr) (env : XmppEnv) : CmdReply :=
  m.connected env portSysmgr (m.askInterfaces env
    (if m.xmppNetInterface = [] then [ascii "eth0", ascii "eth1", ascii "ppp0"] else [cString m.xmppNetInterface]))

/-- `proc_cmd_fmw_set_default_hostname`. -/
def procCmdFmwSetDefaultHostname (m : XmppMgr) (env : XmppEnv) : CmdReply :=
  m.trigger env ⟨portSysmgr, "set_default_hostname", [], []⟩

/-- `proc_cmd_dial_voice`. -/
def procCmdDialVoice (m : XmppMgr) (env : XmppEnv) (msg : List Byte) (rpcCmd : String) (sender : List Byte) :
    CmdReply :=
  m.withArg (twoWords msg) fun destArg =>
    m.startTask env ⟨portBboxsms, rpcCmd, [.text "destination" (cString (m.xpandarg destArg))], ["taskId"]⟩ sender

/-- `proc_cmd_get_ussd`. -/
def procCmdGetUssd (m : XmppMgr) (env : XmppEnv) : CmdReply :=
  m.readText env ⟨portBboxsms, "get_ussd", [], ["message"]⟩

/-- `proc_cmd_logsts`, with `RPCMGR_RPC_DEBUG_LOG_GET` and its like. -/
def procCmdLogsts (m : XmppMgr) (env : XmppEnv) (msg : List Byte) : CmdReply :=
  let (cmd, portArg, logArg) := threeWords msg
  let port := (atoi portArg).toInt
  if cmd = [] then m.done .unknownCommand
  else if portArg = [] then m.done .argError
  else if logArg = [] then m.readText env ⟨port, "get_debug_logging", [], ["status"]⟩
  else m.trigger env ⟨port, "set_debug_logging", [.text "status" (cString logArg)], []⟩

/-- `proc_cmd_gsm_modem_identify`. -/
def procCmdGsmModemIdentify (m : XmppMgr) (env : XmppEnv) (sender : List Byte) : CmdReply :=
  m.startTask env ⟨portBboxsms, "identify_dev", [], ["taskId"]⟩ sender

/-- `proc_cmd_log_list_update`. -/
def procCmdLogListUpdate (m : XmppMgr) (env : XmppEnv) (sender : List Byte) : CmdReply :=
  m.startTask env ⟨portSysmgr, "update_loglist", [], ["taskId"]⟩ sender

/-- `proc_cmd_log_get_count`. -/
def procCmdLogGetCount (m : XmppMgr) (env : XmppEnv) : CmdReply :=
  m.readText env ⟨portSysmgr, "get_log_count", [], ["logcount"]⟩

/-- `proc_cmd_log_get_line`. -/
def procCmdLogGetLine (m : XmppMgr) (env : XmppEnv) (msg : List Byte) : CmdReply :=
  m.withArg (twoWords msg) fun cmdArg =>
    m.readText env ⟨portSysmgr, "get_log_line", [.int "index" (atoi cmdArg)], ["logmsg"]⟩

/-- What `operator<<` prints for an entry of the subscription list. -/
def eventLine (entry : EventSubscrEntry) : List Byte :=
  entry.subscriber ++ [space] ++ entry.evntType.text ++ [space] ++ decimal entry.evntArg.toInt

/-- `ExtendEventSubscrList`. -/
def extendEventSubscrList (file : Option (List Byte)) (entry : EventSubscrEntry) : Option (List Byte) :=
  file.map fun content => content ++ eventLine entry ++ [newline]

/-- `RewriteEventSubscrList`. -/
def rewriteEventSubscrList (file : Option (List Byte)) (list : List EventSubscrEntry) : Option (List Byte) :=
  file.map fun _ => (list.filter fun entry => entry.status).flatMap fun entry => eventLine entry ++ [newline]

/-- One line of `LoadEventSubscrList`. -/
def readEventLine (line : List Byte) : Option EventSubscrEntry :=
  let (addr, type, arg) := threeWords line
  if type = EvntType.gsm.text then some ⟨addr, .gsm, atoi arg, true⟩
  else if type = EvntType.gpio.text then some ⟨addr, .gpio, atoi arg, true⟩
  else none

/-- `LoadEventSubscrList`. -/
def loadEventSubscrList (content : List Byte) (list : List EventSubscrEntry) : List EventSubscrEntry :=
  list ++ (lines newline content).filterMap readEventLine

/-- The first entry that is found gets a new status. -/
def setStatus (found : EventSubscrEntry → Bool) (status : Bool) : List EventSubscrEntry → List EventSubscrEntry
  | [] => []
  | entry :: rest =>
    if found entry then { entry with status := status } :: rest else entry :: setStatus found status rest

/-- What `proc_cmd_event_gsm` and `proc_cmd_event_gpio` do after their arguments: without
a value the status is read. -/
def accessEvent (m : XmppMgr) (sender : List Byte) (evntType : EvntType) (arg : Int32) (value : Option (List Byte)) :
    CmdReply :=
  let found := EventSubscrEntry.found sender arg evntType
  match value, m.myEventList.find? found with
  | none, some entry => ⟨.success, if entry.status then ascii "1" else ascii "0", m⟩
  | none, none => ⟨.success, ascii "0", m⟩
  | some value, some _ =>
    let list := setStatus found (value = ascii "1") m.myEventList
    { m with myEventList := list, eventSubscrListFile := rewriteEventSubscrList m.eventSubscrListFile list }.done .success
  | some value, none =>
    if value = ascii "1" then
      let entry : EventSubscrEntry := ⟨sender, evntType, arg, true⟩
      { m with myEventList := m.myEventList ++ [entry]
               eventSubscrListFile := extendEventSubscrList m.eventSubscrListFile entry }.done .success
    else m.done .success

/-- `proc_cmd_event_gsm`. -/
def procCmdEventGsm (m : XmppMgr) (msg sender : List Byte) : CmdReply :=
  let (cmd, cmdArg) := twoWords msg
  if cmd = [] then m.done .unknownCommand
  else m.accessEvent sender .gsm 0 (if cmdArg = [] then none else some cmdArg)

/-- `proc_cmd_event_gpio`. -/
def procCmdEventGpio (m : XmppMgr) (msg sender : List Byte) : CmdReply :=
  let (cmd, cmdArg, cmdArgVal) := threeWords msg
  if cmd = [] then m.done .unknownCommand
  else if cmdArg = [] then m.done .argError
  else m.accessEvent sender .gpio (atoi (m.xpandarg cmdArg))
    (if cmdArgVal = [] then none else some (m.xpandarg cmdArgVal))

/-- What `operator<<` prints for an alias. -/
def aliasLine (entry : List Byte × List Byte) : List Byte := entry.1 ++ [equalsSign] ++ entry.2

/-- The texts between `=` signs that `proc_cmd_alias` and `LoadAliasList` read. -/
def twoFields (text : List Byte) : List Byte × List Byte :=
  let first := (TextStream.ofText text).getline equalsSign
  (first.1, (first.2.getline equalsSign).1)

/-- `ExtendAliasList`. -/
def extendAliasList (file : Option (List Byte)) (key val : List Byte) : Option (List Byte) :=
  file.map fun content => content ++ aliasLine (key, val) ++ [newline]

/-- `RewriteAliasList`. -/
def rewriteAliasList (file : Option (List Byte)) (aliasList : Alias) : Option (List Byte) :=
  file.map fun _ => aliasList.entries.flatMap fun entry => aliasLine entry ++ [newline]

/-- `LoadAliasList`. -/
def loadAliasList (content : List Byte) (aliasList : Alias) : Alias :=
  aliasList.insertAll ((lines newline content).map twoFields)

/-- The `key` of `proc_cmd_alias`, from the text before the first `=`. -/
def aliasKey (cmd : List Byte) : List Byte := (wordAndLine cmd).2.dropWhile isSpaceByte

/-- The alias list without a key, or with a new value for it. -/
def assignAlias (aliasList : Alias) (key value : List Byte) : Alias :=
  if value = [] then aliasList.erase key else aliasList.insert key value

/-- `proc_cmd_alias`. -/
def procCmdAlias (m : XmppMgr) (msg : List Byte) : CmdReply :=
  if msg = ascii "Alias" ∨ msg = ascii "alias" then
    ⟨.success, [newline] ++ m.aliasList.entries.flatMap (fun entry => aliasLine entry ++ [newline]), m⟩
  else
    let (cmd, value) := twoFields msg
    let key := aliasKey cmd
    if value = [] then
      let list := m.aliasList.erase key
      { m with aliasList := list, aliasListFile := rewriteAliasList m.aliasListFile list }.done .success
    else match m.aliasList.find key with
      | some _ =>
        let list := (m.aliasList.erase key).insert key value
        { m with aliasList := list, aliasListFile := rewriteAliasList m.aliasListFile list }.done .success
      | none =>
        { m with aliasList := m.aliasList.insert key value
                 aliasListFile := extendAliasList m.aliasListFile key value }.done .success

/-- `proc_cmd_sleep`. -/
def procCmdSleep (m : XmppMgr) (msg : List Byte) : CmdReply := m.withArg (twoWords msg) fun _ => m.done .success

/-- `proc_cmd_account_name`. -/
def procCmdAccountName (m : XmppMgr) : CmdReply :=
  ⟨.success, if m.xmppUserName = [] then ascii "none" else m.xmppUserName, m⟩

/-- `proc_cmd_bot_name`. -/
def procCmdBotName (m : XmppMgr) (msg : List Byte) : CmdReply :=
  let (cmd, cmdArg) := wordAndLine msg
  let name := m.xpandarg cmdArg
  if cmd = [] then m.done .unknownCommand
  else if cmdArg = [] then ⟨.success, if m.xmppBotName = [] then ascii "none" else m.xmppBotName, m⟩
  else { m with xmppBotName := name, botNameFile := m.botNameFile.map fun _ => name ++ [newline] }.done .success

/-- `proc_cmd_buddy_list`. -/
def procCmdBuddyList (m : XmppMgr) (env : XmppEnv) : CmdReply :=
  ⟨.success, [newline] ++ env.roster.flatMap (fun buddy => buddy ++ [newline]), m⟩

/-- `proc_cmd_shellcmd`. -/
def procCmdShellcmd (m : XmppMgr) (env : XmppEnv) (msg sender : List Byte) (cmdtype : XmppCmd) : CmdReply :=
  m.withArg (wordAndLine msg) fun destArg =>
    let rpccmd := if cmdtype = .shellcmdTrig then "run_shellcmdtrig" else "run_shellcmd"
    m.startTask env ⟨portSysmgr, rpccmd, [.text "command" (cString (m.xpandargs destArg))], ["taskId"]⟩ sender

/-- `SHELLCMD_RESP_MAX_FILE_SIZE`. -/
def shellcmdRespMaxFileSize : Nat := 1300

/-- `proc_cmd_shellcmdresp`. -/
def procCmdShellcmdresp (m : XmppMgr) (env : XmppEnv) : CmdReply :=
  match env.shellcmdRespFile with
  | none => m.done .fileOpenErr
  | some content =>
    if shellcmdRespMaxFileSize < content.length then m.done .valueOutOfRange else ⟨.success, content, m⟩

/-- `proc_cmd_devident`. -/
def procCmdDevident (m : XmppMgr) (env : XmppEnv) (sender : List Byte) : CmdReply :=
  m.startTask env ⟨portSysmgr, "device_identify", [], ["taskId"]⟩ sender

/-- `proc_cmd_xmpshutdown`. -/
def procCmdXmpshutdown (m : XmppMgr) (env : XmppEnv) (sender : List Byte) : CmdReply :=
  m.startTask env ⟨portXmproxy, "trigger_shutdown", [], ["taskId"]⟩ sender

/-- One request of `proc_cmd_sonoff` to a device. -/
def sonoffRequest (m : XmppMgr) (env : XmppEnv) (ip : List Byte) (request : SonoffCall)
    (text : SonoffState → List Byte) : CmdReply :=
  if env.sonoffConnects ip then
    ⟨(env.sonoffAnswer ip request).1, text (env.sonoffAnswer ip request).2, m.note (.sonoff ip request)⟩
  else m.done .hostNotReachableErr

def SonoffState.text : SonoffState → List Byte
  | .on => ascii "on"
  | .off => ascii "off"
  | .other => ascii "unknown"

/-- `proc_cmd_sonoff`. -/
def procCmdSonoff (m : XmppMgr) (env : XmppEnv) (msg : List Byte) : CmdReply :=
  let (cmd, cmdArg, cmdArg2) := threeWords msg
  if cmd = [] then m.done .unknownCommand
  else if cmdArg = [] then m.done .argError
  else match env.hostnameToIp (cString (m.xpandarg cmdArg)) with
    | none => m.done .fail
    | some ip =>
      let state := m.xpandarg cmdArg2
      if cmdArg2 = [] then m.sonoffRequest env ip .getState SonoffState.text
      else if state = ascii "on" then m.sonoffRequest env ip .setOn fun _ => []
      else if state = ascii "off" then m.sonoffRequest env ip .setOff fun _ => []
      else if state = ascii "toggle" then m.sonoffRequest env ip .setToggle fun _ => []
      else m.done .argError

/-- `proc_cmd_disp_clear`. -/
def procCmdDispClear (m : XmppMgr) (env : XmppEnv) : CmdReply := m.trigger env ⟨portSysmgr, "display_clear", [], []⟩

/-- `proc_cmd_disp_print`. -/
def procCmdDispPrint (m : XmppMgr) (env : XmppEnv) (msg : List Byte) : CmdReply :=
  let (cmd, cmdArg, cmdArg2) := twoWordsAndLine msg
  let line := m.xpandarg cmdArg
  if cmd = [] then m.done .unknownCommand
  else if cmdArg = [] then m.done .argError
  else if cmdArg2 = [] then m.readText env ⟨portSysmgr, "display_print", [.int "line" (atoi line)], ["msg"]⟩
  else m.trigger env
    ⟨portSysmgr, "display_print", [.text "line" (cString line), .text "msg" (cString (m.xpandarg cmdArg2))], []⟩

/-- `proc_cmd_get_display_backlight`. -/
def procCmdGetDisplayBacklight (m : XmppMgr) (env : XmppEnv) : CmdReply :=
  m.readText env ⟨portSysmgr, "display_backlight_get", [], ["status"]⟩

/-- `proc_cmd_set_display_backlight`. -/
def procCmdSetDisplayBacklight (m : XmppMgr) (env : XmppEnv) (msg : List Byte) : CmdReply :=
  m.withArg (twoWords msg) fun cmdArg =>
    m.trigger env ⟨portSysmgr, "display_backlight_set", [.text "status" (cString (m.xpandarg cmdArg))], []⟩

/-- `proc_cmd_disp_backlight`. -/
def procCmdDispBacklight (m : XmppMgr) (env : XmppEnv) (msg : List Byte) : CmdReply :=
  let (cmd, cmdArg) := twoWords msg
  if cmd = [] then m.done .unknownCommand
  else if cmdArg = [] then m.procCmdGetDisplayBacklight env
  else m.procCmdSetDisplayBacklight env msg

/-- The commands about one buddy that only an admin may run. -/
def adminBuddyCmd (m : XmppMgr) (msg sender : List Byte) (run : List Byte → CmdReply) : CmdReply :=
  if !m.xmppProxy.isAdminUser sender then m.done .actionNotAllowed
  else m.withArg (wordAndLine msg) fun cmdArg => run ((m.xpandarg cmdArg).filter fun c => c ≠ space)

/-- `proc_cmd_buddy_add`. -/
def procCmdBuddyAdd (m : XmppMgr) (msg sender : List Byte) : CmdReply :=
  m.adminBuddyCmd msg sender fun buddy => { m with xmppProxy := m.xmppProxy.acceptBuddy buddy }.done .success

/-- `proc_cmd_buddy_remove`. -/
def procCmdBuddyRemove (m : XmppMgr) (msg sender : List Byte) : CmdReply :=
  m.adminBuddyCmd msg sender fun buddy =>
    match m.xmppProxy.removeBuddy buddy with
    | some proxy => { m with xmppProxy := proxy }.done .success
    | none => m.done .itemNotFound

/-- `proc_cmd_buddy_subscribe`. -/
def procCmdBuddySubscribe (m : XmppMgr) (msg sender : List Byte) : CmdReply :=
  m.adminBuddyCmd msg sender fun buddy => (m.note (.subscribe buddy)).done .success

/-- `proc_cmd_buddy_unsubscribe`. -/
def procCmdBuddyUnsubscribe (m : XmppMgr) (msg sender : List Byte) : CmdReply :=
  m.adminBuddyCmd msg sender fun buddy => (m.note (.unsubscribe buddy)).done .success

/-- `proc_cmd_accept_buddy_list`. -/
def procCmdAcceptBuddyList (m : XmppMgr) : CmdReply :=
  ⟨.success, [newline] ++ m.xmppProxy.acceptBuddyList.flatMap (fun buddy => buddy ++ [newline]), m⟩

/-- `proc_cmd_send_message`, with `IsMyBuddy` and `SendMessageToBuddy`. -/
def procCmdSendMessage (m : XmppMgr) (env : XmppEnv) (address message : List Byte) : CmdReply :=
  if !(env.connected && env.roster.contains address) then m.done .actionNotAllowed
  else if !env.online address then m.done .offlineNode
  else (m.note (.message address message (ascii "message"))).done .success

/-- `proc_cmd_relay_message`. -/
def procCmdRelayMessage (m : XmppMgr) (env : XmppEnv) (msg sender : List Byte) : CmdReply :=
  let (cmd, cmdArg, cmdArg2) := twoWordsAndLine msg
  if !m.xmppProxy.isAdminUser sender then m.done .actionNotAllowed
  else if cmd = [] then m.done .unknownCommand
  else if cmdArg = [] then m.done .argError
  else if cmdArg2 = [] then m.done .argError
  else m.procCmdSendMessage env (m.xpandarg cmdArg) (m.xpandarg cmdArg2)

/-- The switch of `monoshot_callback_function`. There is no case for `EXMPP_CMD_ALIAS`. -/
def runCommand (m : XmppMgr) (env : XmppEnv) (msg sender : List Byte) : CmdReply :=
  match m.resolveCmdStr msg with
  | .smsDeleteAll => m.procCmdSmsDeleteall env sender
  | .smsDelete => m.procCmdSmsDelete
  | .smsGet => m.procCmdSmsGet env msg
  | .smsSend => m.procCmdSmsSend env msg sender
  | .smsListUpdate => m.procCmdSmsListUpdate env sender
  | .smsGetTotal => m.procCmdSmsGetTotal env
  | .fmwGetVersion => m.procCmdFmwGetVersion env
  | .fmwUpdate => m.procCmdFmwUpdate env msg sender
  | .fmwUpdateSts => m.procCmdFmwUpdateSts env
  | .fmwUpdateRes => m.procCmdFmwUpdateRes env
  | .fmwReboot => m.procCmdFmwReboot env sender
  | .fmwPoweroff => m.procCmdFmwPoweroff env sender
  | .fmwUptime => m.procCmdFmwUptime env
  | .fmwHostname => m.procCmdFmwHostname env msg
  | .fmwGetMyip => m.procCmdFmwGetMyip env
  | .fmwResetHostname => m.procCmdFmwSetDefaultHostname env
  | .dialVoice => m.procCmdDialVoice env msg "dial_voice" sender
  | .dialUssd => m.procCmdDialVoice env msg "dial_ussd" sender
  | .getUssd => m.procCmdGetUssd env
  | .debugLogSts => m.procCmdLogsts env msg
  | .gsmModemIdent => m.procCmdGsmModemIdentify env sender
  | .logUpdate => m.procCmdLogListUpdate env sender
  | .logCount => m.procCmdLogGetCount env
  | .logMsg => m.procCmdLogGetLine env msg
  | .fmwGetLocalip => m.procCmdFmwGetLocalip env
  | .gpio => m.procCmdGpio env msg
  | .gsmEventNotify => m.procCmdEventGsm msg sender
  | .gpioEventNotify => m.procCmdEventGpio msg sender
  | .sleep => m.procCmdSleep msg
  | .account => m.procCmdAccountName
  | .botname => m.procCmdBotName msg
  | .buddyList => m.procCmdBuddyList env
  | .shellcmd => m.procCmdShellcmd env msg sender .shellcmd
  | .shellcmdResp => m.procCmdShellcmdresp env
  | .shellcmdTrig => m.procCmdShellcmd env msg sender .shellcmdTrig
  | .devident => m.procCmdDevident env sender
  | .shutdown => m.procCmdXmpshutdown env sender
  | .sonoff => m.procCmdSonoff env msg
  | .dispclear => m.procCmdDispClear env
  | .dispprint => m.procCmdDispPrint env msg
  | .dispbklt => m.procCmdDispBacklight env msg
  | .buddyAdd => m.procCmdBuddyAdd msg sender
  | .buddyRemove => m.procCmdBuddyRemove msg sender
  | .buddySubscribe => m.procCmdBuddySubscribe msg sender
  | .buddyUnsubscribe => m.procCmdBuddyUnsubscribe msg sender
  | .acceptBuddyList => m.procCmdAcceptBuddyList
  | .relayMessage => m.procCmdRelayMessage env msg sender
  | .cmdAlias | .unknown | .none => m.done .unknownCommand

/-- Whether `monoshot_callback_function` treats a message as an alias definition or query. -/
def isAliasMessage (cmdMsg : List Byte) : Bool :=
  let mycmd := (readWord (.ofText cmdMsg)).1
  mycmd = ascii "Alias" ∨ mycmd = ascii "alias"

/-- The sub-commands of any other message. -/
def subCommands (aliasList : Alias) (cmdMsg : List Byte) : List (List Byte) :=
  let text := (aliasList.find (lower cmdMsg)).getD (lower cmdMsg)
  (pieces semicolon text).flatMap fun substr =>
    match aliasList.find substr with
    | some value => pieces semicolon value
    | none => [substr]

end XmppMgr

/-- The `response` of a command. -/
def CmdReply.response (reply : CmdReply) : List Byte :=
  ascii "return=" ++ reply.result.text ++ ascii " : " ++ ascii "result=" ++ reply.returnval

end JsonRpcTcp
