import JsonRpcTcp.JsonChecker
import JsonRpcTcp.Lib.Decimal
import JsonRpcTcp.Lib.SortedMap
import JsonRpcTcp.Lib.TextStream
import JsonRpcTcp.TaskState

namespace JsonRpcTcp

/-! `XmppMgr`, the chat interface of the xmproxy service: its data, and what the
command thread reads from the outside. -/

/-- `STR_RPC_SRV_RESULT_STRING_TABLE`. -/
def RpcResult.text : RpcResult → List Byte
  | .success => ascii "Success"
  | .fail => ascii "Fail"
  | .inProg => ascii "InProgress"
  | .busy => ascii "Busy"
  | .notStarted => ascii "NotStarted"
  | .timeout => ascii "Timeout"
  | .argError => ascii "ArgError"
  | .memError => ascii "MemError"
  | .busError => ascii "BusError"
  | .actionNotAllowed => ascii "ActionBlocked"
  | .devNotAccessible => ascii "DeviceError"
  | .fileNotFound => ascii "FileNotFound"
  | .featureNotAvailable => ascii "FeatureNotAvailable"
  | .featureUnsupported => ascii "UnsupportedFeature"
  | .taskIdNotFound => ascii "taskIDNotFound"
  | .valueOutOfRange => ascii "valueOutOfRange"
  | .fileOpenErr => ascii "FileOpenErr"
  | .fileReadErr => ascii "FileReadErr"
  | .fileWriteErr => ascii "FileWriteErr"
  | .fileSame => ascii "FileSame"
  | .fileDifferent => ascii "FileNotSame"
  | .hostNotReachableErr => ascii "HostUnreachable"
  | .resend => ascii "resend"
  | .csExposureErr => ascii "csExposureError"
  | .csI2cErr => ascii "csI2CErr"
  | .itemNotFound => ascii "ItemNotFound"
  | .fileError => ascii "FileError"
  | .devinfoError => ascii "DevInfoErr"
  | .fileEmpty => ascii "FileEmpty"
  | .itemDuplicateFound => ascii "DuplicateItem"
  | .unknownCommand => ascii "UnknownCmd"
  | .devnodeAccerr => ascii "DevNodeAccErr"
  | .devnodeOpenerr => ascii "DevNodeOpenErr"
  | .offlineNode => ascii "OfflineNode"
  | .unknown => ascii "Unknown"
  | .none => ascii "none"

/-- `EXMPP_CMD_TYPES`. -/
inductive XmppCmd where
  | smsDeleteAll | smsDelete | smsGet | smsSend | smsListUpdate | smsGetTotal | fmwGetVersion | fmwUpdate
  | fmwUpdateSts | fmwUpdateRes | fmwReboot | fmwUptime | fmwHostname | fmwGetMyip | fmwResetHostname | dialVoice
  | dialUssd | getUssd | debugLogSts | gsmModemIdent | logUpdate | logCount | logMsg | fmwGetLocalip | fmwPoweroff
  | gpio | gsmEventNotify | gpioEventNotify | cmdAlias | sleep | account | botname | buddyList | shellcmd | shellcmdResp
  | devident | shutdown | sonoff | dispclear | dispprint | dispbklt | shellcmdTrig | buddyAdd | buddyRemove
  | buddySubscribe | buddyUnsubscribe | acceptBuddyList | relayMessage | unknown | none
  deriving DecidableEq, Repr

structure XmppCmdEntry where
  cmdMsg : List Byte
  sender : List Byte
  deriving DecidableEq, Repr

/-- `EXMPP_USER_ACCESS_TYPES`. -/
inductive XmppAccess where
  | admin | readwrite | readonly | unknown | none
  deriving DecidableEq, Repr

/-- `XMPROXY_CMD_TABLE`, with the value of `cmdsts` at the start. -/
structure XmproxyCmdRow where
  cmdsts : Bool
  cmd : XmppCmd
  cmdName : String
  cmdArg : String
  cmdaccess : XmppAccess
  deriving DecidableEq, Repr

/-- `xmproxy_cmd_table`. -/
def xmproxyCmdTable : List XmproxyCmdRow :=
  [⟨true, .gsmModemIdent, "gsmcheck", "", .readwrite⟩,
   ⟨true, .smsListUpdate, "smsupdate", "", .readwrite⟩,
   ⟨true, .smsGetTotal, "smstotal", "", .readwrite⟩,
   ⟨true, .smsGet, "smsget", "<zero_index_msg>", .readwrite⟩,
   ⟨true, .smsDeleteAll, "smsdeleteall", "", .readwrite⟩,
   ⟨true, .smsSend, "smssend", "<phone-num> <msg>", .readwrite⟩,
   ⟨true, .dialVoice, "dialvoice", "<phone-num>", .readwrite⟩,
   ⟨true, .dialUssd, "dialussd", "<ussd-code>", .readwrite⟩,
   ⟨true, .getUssd, "readussd", "", .readwrite⟩,
   ⟨true, .fmwGetVersion, "version", "", .readwrite⟩,
   ⟨true, .fmwUpdate, "sysupdate", "", .readwrite⟩,
   ⟨true, .fmwReboot, "reboot", "", .readwrite⟩,
   ⟨true, .fmwPoweroff, "poweroff", "", .readwrite⟩,
   ⟨true, .fmwUptime, "uptime", "", .readwrite⟩,
   ⟨true, .fmwHostname, "hostname", "[name]", .readwrite⟩,
   ⟨true, .fmwResetHostname, "resethostname", "", .readwrite⟩,
   ⟨true, .fmwGetMyip, "publicip", "", .readwrite⟩,
   ⟨true, .fmwGetLocalip, "localip", "", .readwrite⟩,
   ⟨false, .debugLogSts, "logsts", "", .readwrite⟩,
   ⟨false, .logUpdate, "logupdate", "", .readwrite⟩,
   ⟨false, .logCount, "logcount", "", .readwrite⟩,
   ⟨false, .logMsg, "logmsg", "<zero_index_lineNum>", .readwrite⟩,
   ⟨true, .gpio, "gpio", "<gpio_num> [sts(0/1)]", .readwrite⟩,
   ⟨true, .gsmEventNotify, "eventgsm", "<sts[0/1]>", .readwrite⟩,
   ⟨true, .gpioEventNotify, "eventgpio", "<gpio_num> [sts(0/1)]", .readwrite⟩,
   ⟨true, .cmdAlias, "alias", "name=cmd", .readwrite⟩,
   ⟨true, .sleep, "sleep", "<seconds>", .readwrite⟩,
   ⟨true, .account, "account", "", .readwrite⟩,
   ⟨true, .botname, "botname", "[name]", .readwrite⟩,
   ⟨true, .buddyList, "buddylist", "", .readwrite⟩,
   ⟨true, .shellcmd, "shellcmd", "<command>", .readwrite⟩,
   ⟨true, .shellcmdResp, "shellcmdresp", "", .readwrite⟩,
   ⟨true, .shellcmdTrig, "shellcmdtrig", "<command>", .readwrite⟩,
   ⟨true, .devident, "identify", "", .readwrite⟩,
   ⟨true, .shutdown, "xmpshutdown", "", .admin⟩,
   ⟨true, .sonoff, "sonoff", "<ip/hostname> [sts(on/off/toggle)]", .readwrite⟩,
   ⟨true, .dispclear, "dispclear", "", .readwrite⟩,
   ⟨true, .dispprint, "display", "<line1/line2/line3..]> <message>", .readwrite⟩,
   ⟨true, .dispbklt, "dispbklt", "<sts[on/off]>", .readwrite⟩,
   ⟨true, .buddyAdd, "acceptbuddy", "[buddyID]", .admin⟩,
   ⟨true, .buddyRemove, "rejectbuddy", "[buddyID]", .admin⟩,
   ⟨true, .buddySubscribe, "subscribe", "[buddyID]", .admin⟩,
   ⟨true, .buddyUnsubscribe, "unsubscribe", "[buddyID]", .admin⟩,
   ⟨true, .acceptBuddyList, "acceptbuddylist", "", .readwrite⟩,
   ⟨true, .relayMessage, "relaymsg", "<buddyID> <message>", .admin⟩]

/-- `ADCMN_PORT_SYSMGR` and the ports of the other services that commands call. -/
def portSysmgr : Int := 40001
def portGpioctl : Int := 40003
def portBboxsms : Int := 40004
def portXmproxy : Int := 40005

/-- `EXMPP_EVNT_TYPES`. -/
inductive EvntType where
  | gsm | gpio | unknown | none
  deriving DecidableEq, Repr

/-- `EXMPP_EVNT_TYPES_TABL`. -/
def EvntType.text : EvntType → List Byte
  | .gsm => ascii "gsm"
  | .gpio => ascii "gpio"
  | .unknown => ascii "unknown"
  | .none => ascii "none"

structure EventSubscrEntry where
  subscriber : List Byte
  evntType : EvntType
  evntArg : Int32
  status : Bool
  deriving DecidableEq, Repr

/-- `FindEventSubscrEntry`. -/
def EventSubscrEntry.found (addr : List Byte) (arg : Int32) (evntType : EvntType) (entry : EventSubscrEntry) : Bool :=
  match entry.evntType with
  | .gsm => entry.subscriber = addr ∧ entry.evntType = evntType
  | .gpio => entry.subscriber = addr ∧ entry.evntArg = arg ∧ entry.evntType = evntType
  | _ => false

/-- `AyncEventEntry`. -/
structure AsyncEventEntry where
  taskID : Int32
  srvPort : Int
  xmppTID : Int
  replyTo : List Byte
  deriving DecidableEq, Repr

/-- `FindAsyncEventEntry`. -/
def AsyncEventEntry.found (tid : Int32) (port : Int) (entry : AsyncEventEntry) : Bool :=
  entry.taskID = tid ∧ entry.srvPort = port

/-- `XmppTaskIDCounter` and `AsyncTaskList`. -/
structure AsyncTasks where
  counter : Int
  list : List AsyncEventEntry
  deriving DecidableEq, Repr

/-- `AccessAsyncTaskList` with `insertEntryFlag`. -/
def AsyncTasks.insertEntry (tasks : AsyncTasks) (tid : Int32) (port : Int) (sender : List Byte) : AsyncTasks where
  counter := tasks.counter + 1
  list := tasks.list ++ [{ taskID := tid, srvPort := port, xmppTID := tasks.counter + 1, replyTo := sender }]

/-- `AccessAsyncTaskList` without it: the oldest entry is returned, all are erased. -/
def AsyncTasks.takeEntry (tasks : AsyncTasks) (tid : Int32) (port : Int) : Option (AsyncEventEntry × AsyncTasks) :=
  (tasks.list.find? (AsyncEventEntry.found tid port)).map fun entry =>
    (entry, { tasks with list := tasks.list.filter fun other => !other.found tid port })

/-- An argument of an rpc call. -/
inductive RpcParam where
  | text (name : String) (value : List Byte)
  | int (name : String) (value : Int32)
  deriving DecidableEq, Repr

/-- A call through `ADJsonRpcClient`, with the names of the texts it reads from the response. -/
structure RpcCall where
  port : Int
  method : String
  params : List RpcParam
  results : List String
  deriving DecidableEq, Repr

/-- `SONOFF_STATE` and the calls of `ADSonOffHttpClient`. -/
inductive SonoffState where
  | on | off | other
  deriving DecidableEq, Repr

inductive SonoffCall where
  | getState | setOn | setOff | setToggle
  deriving DecidableEq, Repr

/-- What the command thread does to the outside. -/
inductive XmppEffect where
  | rpc (call : RpcCall)
  | sonoff (ip : List Byte) (call : SonoffCall)
  | subscribe (buddy : List Byte)
  | unsubscribe (buddy : List Byte)
  | message (address body subject : List Byte)
  deriving DecidableEq, Repr

/-- What the outside answers while one command runs. -/
structure XmppEnv where
  -- rpc_server_connect to a port, the result of a call and its texts
  connects : Int → Bool
  answer : RpcCall → RpcResult × List (List Byte)
  -- hostname_to_ip, and the sonoff device
  hostnameToIp : List Byte → Option (List Byte)
  sonoffConnects : List Byte → Bool
  sonoffAnswer : List Byte → SonoffCall → RpcResult × SonoffState
  -- the first lines of two files, the second of which need not be configured
  sysConfigLine : List Byte
  updateUrlLine : Option (List Byte)
  shellcmdRespFile : Option (List Byte)
  -- iConnect, and the roster with the buddies that are online
  connected : Bool
  roster : List (List Byte)
  online : List Byte → Bool

/-- Every service is reachable and gives the same answer, and there is nothing else. -/
def XmppEnv.answering (result : RpcResult) (text : List Byte) : XmppEnv where
  connects := fun _ => true
  answer := fun _ => (result, [text])
  hostnameToIp := fun _ => none
  sonoffConnects := fun _ => false
  sonoffAnswer := fun _ _ => (.fail, .other)
  sysConfigLine := []
  updateUrlLine := none
  shellcmdRespFile := none
  connected := false
  roster := []
  online := fun _ => false

instance : Std.IsLinearOrder (List Byte) := inferInstance

instance : Std.LawfulOrderLT (List Byte) := inferInstance

abbrev Alias := SortedMap (List Byte) (List Byte)

/-- The part of `ADXmppProxy` that commands use. -/
structure XmppProxy where
  adminBuddy : List Byte
  bkupAdminBuddy : List Byte
  acceptBuddyList : List (List Byte)
  deriving DecidableEq, Repr

/-- `XmppMgr`. A list file is its content, or `none` when its path is empty. -/
structure XmppMgr where
  -- the `cmdsts` of the rows of `xmproxy_cmd_table`
  cmdsts : XmppCmd → Bool
  xmppUserName : List Byte
  xmppNetInterface : List Byte
  xmppBotName : List Byte
  botNameFile : Option (List Byte)
  lastFmwUpdateTaskID : Int32
  asyncTasks : AsyncTasks
  aliasList : Alias
  aliasListFile : Option (List Byte)
  myEventList : List EventSubscrEntry
  eventSubscrListFile : Option (List Byte)
  xmppProxy : XmppProxy
  -- history, not in the source
  effects : List XmppEffect

/-- What a `proc_cmd` function returns and leaves behind. -/
structure CmdReply where
  result : RpcResult
  returnval : List Byte
  mgr : XmppMgr

/-- `is_admin_user`. -/
def XmppProxy.isAdminUser (proxy : XmppProxy) (user : List Byte) : Bool :=
  user = proxy.adminBuddy || user = proxy.bkupAdminBuddy

/-- `accept_buddy`. -/
def XmppProxy.acceptBuddy (proxy : XmppProxy) (buddy : List Byte) : XmppProxy :=
  if buddy ∈ proxy.acceptBuddyList then proxy else { proxy with acceptBuddyList := proxy.acceptBuddyList ++ [buddy] }

/-- `remove_buddy`, which fails when the buddy is not in the list. -/
def XmppProxy.removeBuddy (proxy : XmppProxy) (buddy : List Byte) : Option XmppProxy :=
  if buddy ∈ proxy.acceptBuddyList then some { proxy with acceptBuddyList := proxy.acceptBuddyList.erase buddy }
  else none

/-- `::tolower` of the C locale. -/
def toLower (c : Byte) : Byte := if 0x41 ≤ c ∧ c ≤ 0x5a then c + 0x20 else c

def lower (text : List Byte) : List Byte := text.map toLower

abbrev semicolon : Byte := 0x3b
abbrev equalsSign : Byte := 0x3d
abbrev dollar : Byte := 0x24

/-- `msgstream >> word`. -/
def readWord (s : TextStream Byte) : List Byte × TextStream Byte := s.word isSpaceByte

/-- `getline(msgstream, text)`. -/
def readLine (s : TextStream Byte) : List Byte × TextStream Byte := s.getline newline

namespace XmppMgr

/-- A manager with the command table as it is at the start, two admins, empty lists and
empty list files. -/
def start (adminBuddy bkupAdminBuddy : List Byte) : XmppMgr where
  cmdsts := fun cmd => xmproxyCmdTable.any fun row => row.cmd = cmd ∧ row.cmdsts
  xmppUserName := []
  xmppNetInterface := []
  xmppBotName := []
  botNameFile := none
  lastFmwUpdateTaskID := 0
  asyncTasks := ⟨0, []⟩
  aliasList := .empty
  aliasListFile := some []
  myEventList := []
  eventSubscrListFile := some []
  xmppProxy := ⟨adminBuddy, bkupAdminBuddy, []⟩
  effects := []

/-- `ResolveCmdStr`. -/
def resolveCmdStr (m : XmppMgr) (msg : List Byte) : XmppCmd :=
  let cmd := lower (readWord (.ofText msg)).1
  match xmproxyCmdTable.find? fun row => m.cmdsts row.cmd ∧ cmd = ascii row.cmdName with
  | some row => row.cmd
  | none => .unknown

/-- `xpandarg`: a text behind a dollar sign is replaced by the alias of this name. -/
def xpandarg (m : XmppMgr) (cmdArg : List Byte) : List Byte :=
  match cmdArg with
  | [] => []
  | c :: rest => if c = dollar then (m.aliasList.find (lower rest)).getD (lower rest) else c :: rest

/-- `xpandargs`, which treats each word so. -/
def xpandargs (m : XmppMgr) (cmdArg : List Byte) : List Byte :=
  (TextStream.words isSpaceByte cmdArg).flatMap fun token => m.xpandarg token ++ [space]

/-- `print_help`. -/
def printHelp (m : XmppMgr) : List Byte :=
  (xmproxyCmdTable.filter fun row => m.cmdsts row.cmd).flatMap fun row =>
    ascii row.cmdName ++ [space] ++ ascii row.cmdArg ++ [newline]

end XmppMgr
end JsonRpcTcp
