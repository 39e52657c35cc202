import JsonRpcTcp.RpcParams
import JsonRpcTcp.TaskState

namespace JsonRpcTcp

/-! The asynchronous RPCs with parameters: those of the sysmgr service, and the common
`set_devop_state`. -/

/-- `EJSON_SYSMGR_RPC_TYPES`. -/
inductive SysmgrRpc where
  | getMacAddr | setMacAddr | getEthCount | getEthName | getLoadinfo | getMeminfo | getCpuinfo | getDevOp | setDevOp
  | getFmwver | getBootSystem | setFmwupdate | setDownloadftp | setDownloadtftp | getAsynctask | getDevtype | getHostname
  | setHostname | getMyPublicIp | setDefaultHostname | setUpdateLog | getLogCount | getLogLine | getIpAddr | setIpAddr
  | getNetmask | setNetmask | runShellcmd | devident | evntSubscribe | dispClear | dispPrint | dispGetBklt | dispSetBklt
  | runShellcmdtrig
  deriving DecidableEq, Repr

/-- `ADCMN_BOARD_TYPE`. -/
inductive BoardType where
  | raspiA | raspiAplus | raspiB | raspiBplus | raspiB2 | baytrail | baytrailI210 | bbb | raspi0 | raspi0w | raspi3
  | x8664 | x8632 | a5v11 | nexx3020 | glMt300nv2 | raspi2 | raspi4 | unknown | none
  deriving DecidableEq, Repr

/-- `ADCMN_SYSCFG_TYPE`. -/
inductive SyscfgType where
  | raspiRemoteKit | raspi2RemoteKit | hlkRm04 | glmt300nv2RemoteKit | glmt300nv2AwsiotDemo | docker | unknown | none
  deriving DecidableEq, Repr

/-- `EJSON_SYSMGR_DEV_OP`, below its maximum. -/
inductive DevOp where
  | idle | on | lastState | standby | reboot | booting | rebooting | swtchingOff | boot
  deriving DecidableEq, Repr

/-- `SYSMGR_RPC_DEV_OP_ARG_TABL`. -/
def devOpTable : List (DevOp × List Byte) :=
  [(.idle, ascii "idle"), (.on, ascii "on"), (.lastState, ascii "laststate"), (.standby, ascii "standby"),
   (.reboot, ascii "reboot"), (.booting, ascii "booting"), (.rebooting, ascii "rebooting"),
   (.swtchingOff, ascii "switchingoff"), (.boot, ascii "boot")]

/-- `SYSMGR_FMW_MODULE_TYPE`, below its maximum. -/
inductive FmwModule where
  | brboxCurrent | brboxBackup | brboxKernel | brboxProject | brbox1 | brbox2
  deriving DecidableEq, Repr

/-- `SYSMGR_RPC_FMWUPDATE_ARG_TABL`. -/
def fmwModuleTable : List (FmwModule × List Byte) :=
  [(.brboxCurrent, ascii "current"), (.brboxBackup, ascii "backup"), (.brboxKernel, ascii "kernel"),
   (.brboxProject, ascii "project"), (.brbox1, ascii "brbox1"), (.brbox2, ascii "brbox2")]

/-- `EJSON_RPCGMGR_DEVOP_STATE`, below its maximum. -/
inductive DevopState where
  | idle | on | lastState | off | reboot | booting | rebooting | switchingOff | boot | idleNoexthw
  deriving DecidableEq, Repr

/-- `RPCMGR_RPC_DEVOP_STATE_ARGSTS_TBL`. -/
def devopStateTable : List (DevopState × List Byte) :=
  [(.idle, ascii "idle"), (.on, ascii "on"), (.lastState, ascii "laststate"), (.off, ascii "off"),
   (.reboot, ascii "reboot"), (.booting, ascii "booting"), (.rebooting, ascii "rebooting"),
   (.switchingOff, ascii "switchingoff"), (.boot, ascii "boot"), (.idleNoexthw, ascii "idlenoexthw")]

structure FmwupdatePacket where
  moduleType : FmwModule
  cmnFnameVerStr : List Byte
  deriving DecidableEq, Repr

structure DownloadFilePacket where
  srcurl : List Byte
  sourcefilepath : List Byte
  targetfilepath : List Byte
  deriving DecidableEq, Repr

/-- The object behind a `dataRef` or a `pWorkData`, which the source casts from `unsigned char *`:
`SYSMGR_DEV_OP_PACKET`, `SYSMGR_FMWUPDATE_PACKET`, `SYSMGR_DOWNLOAD_FILE_PACKET`,
`SYSMGR_SHELLCMD_PACKET`, `RPCMGR_DEVOP_STS_PACKET` and `RPCMGR_TASK_STS_PACKET`. -/
inductive RpcPacket where
  | devOp (operation : DevOp)
  | fmwupdate (packet : FmwupdatePacket)
  | downloadFile (packet : DownloadFilePacket)
  | shellcmd (cmd : List Byte)
  | devopSts (status : DevopState)
  | taskSts
  deriving DecidableEq, Repr

/-- `RPC_SRV_ACT`, as far as these requests use it. -/
inductive RpcAct where
  | read | write
  deriving DecidableEq, Repr

/-- `RPC_SRV_REQ`. -/
structure RpcSrvReq where
  action : RpcAct
  dataRef : RpcPacket
  deriving DecidableEq, Repr

/-- The asynchronous RPCs with parameters. -/
inductive AsyncRpc where
  | setDevOp | setFmwupdate | setDownloadftp | setDownloadtftp | runShellcmd | runShellcmdtrig | setDevopState
  deriving DecidableEq, Repr

/-- Whether there is memory for the packet of the request, for the work packet and for the task. -/
structure RpcMemory where
  packet : Bool
  work : Bool
  queued : Bool
  deriving DecidableEq, Repr

/-- What the worker finds: the device, the emulation flag, the value of `system()` for a command
line, and the results of the two asynchronous RPCs without parameters. -/
structure SysEnv where
  boardType : BoardType
  syscfgType : SyscfgType
  emulation : Bool
  system : List Byte → Int
  loglistUpdate : RpcResult
  devident : RpcResult

/-- `EJSON_RPCGMGR_CMD_END`. -/
def rpcgmgrCmdEnd : Nat := 24

/-- `SHELLCMD_RESP_FILE_PATH`. -/
def shellcmdRespFilePath : List Byte := ascii "/tmp/shellcmd.resp"

namespace SysRpc

section Decoders
variable (lib : JsonC) (memory : RpcMemory) (data : List Byte)

/-- `PREPARE_JSON_REQUEST`, and the parameters of the request. -/
def prepareJsonRequest (action : RpcAct) (packet : Option RpcPacket) : Except TaskResult RpcSrvReq :=
  if memory.packet then
    match packet with
    | some packet => .ok { action := action, dataRef := packet }
    | none => .error .invalidParam
  else .error .memFail

def jsonToBinSetDevop : Except TaskResult RpcSrvReq :=
  prepareJsonRequest memory .write ((jsonStringToEnum lib data (ascii "operation") devOpTable).map .devOp)

def jsonToBinSetFmwupdate : Except TaskResult RpcSrvReq :=
  prepareJsonRequest memory .write do
    let moduleType ← jsonStringToEnum lib data (ascii "module") fmwModuleTable
    let cmnFnameVerStr ← jsonStringToString lib data (ascii "filepath") 512
    return .fmwupdate { moduleType := moduleType, cmnFnameVerStr := cmnFnameVerStr }

def jsonToBinDownloadFile (tftp : Bool) : Except TaskResult RpcSrvReq :=
  prepareJsonRequest memory .write do
    let srcurl ← jsonStringToString lib data (ascii "srcaddr") 1024
    let sourcefilepath ← if tftp then jsonStringToString lib data (ascii "srcfile") 1024 else some []
    let targetfilepath ← jsonStringToString lib data (ascii "targetpath") 1024
    return .downloadFile { srcurl := srcurl, sourcefilepath := sourcefilepath, targetfilepath := targetfilepath }

def jsonToBinRunShellcmd : Except TaskResult RpcSrvReq :=
  prepareJsonRequest memory .write ((jsonStringToString lib data (ascii "command") 1024).map .shellcmd)

/-- `ADJsonRpcMgr::json_to_bin_set_devop_state`. -/
def jsonToBinSetDevopState : Except TaskResult RpcSrvReq :=
  prepareJsonRequest memory .write ((jsonStringToEnum lib data (ascii "status") devopStateTable).map .devopSts)

/-- `MapJsonToBinary` and `MyMapJsonToBinary`. -/
def mapJsonToBinary : AsyncRpc → Except TaskResult RpcSrvReq
  | .setDevOp => jsonToBinSetDevop lib memory data
  | .setFmwupdate => jsonToBinSetFmwupdate lib memory data
  | .setDownloadftp => jsonToBinDownloadFile lib memory data false
  | .setDownloadtftp => jsonToBinDownloadFile lib memory data true
  | .runShellcmd | .runShellcmdtrig => jsonToBinRunShellcmd lib memory data
  | .setDevopState => jsonToBinSetDevopState lib memory data

end Decoders

/-- A call of `push_task`: the command, and the object behind the work data. -/
structure PushedTask where
  workCmd : Nat
  workData : Option RpcPacket
  deriving DecidableEq, Repr

/-- The result of a request, and the task that was pushed. -/
abbrev Processed := RpcResult × Option PushedTask

section Processes
variable (memory : RpcMemory)

/-- `PushAsyncTask`. -/
def pushAsyncTask (cmd : SysmgrRpc) (work : RpcPacket) : Processed :=
  if memory.queued then (.inProg, some { workCmd := cmd.ctorIdx + rpcgmgrCmdEnd, workData := some work }) else (.fail, none)

/-- The copy of a packet for the worker. -/
def pushCopy (cmd : SysmgrRpc) (work : RpcPacket) : Processed :=
  if memory.work then pushAsyncTask memory cmd work else (.memError, none)

def processSetDevop (req : RpcSrvReq) : Option Processed :=
  match req.dataRef with
  | .devOp operation =>
    some (if req.action ≠ .write then (.actionNotAllowed, none) else pushCopy memory .setDevOp (.devOp operation))
  | _ => none

def processSetFmwupdate (req : RpcSrvReq) : Option Processed :=
  match req.dataRef with
  | .fmwupdate packet =>
    some (if req.action ≠ .write then (.actionNotAllowed, none)
      else if packet.moduleType ≠ .brboxProject then (.argError, none)
      else pushCopy memory .setFmwupdate (.fmwupdate packet))
  | _ => none

def processDownloadFile (command : SysmgrRpc) (req : RpcSrvReq) : Option Processed :=
  match req.dataRef with
  | .downloadFile packet => some (pushCopy memory command (.downloadFile packet))
  | _ => none

/-- `process_run_shellcmd`. A command that is too long is left alone, with the result that the
request was made with. -/
def processRunShellcmd (cmdtype : SysmgrRpc) (req : RpcSrvReq) : Option Processed :=
  match req.dataRef with
  | .shellcmd cmd =>
    let tmpcmd := if cmdtype ≠ .runShellcmdtrig then cmd ++ ascii " > " ++ shellcmdRespFilePath else cmd
    some (if ¬ memory.work then (.memError, none)
      else if tmpcmd.length < 1024 then pushAsyncTask memory .runShellcmd (.shellcmd tmpcmd)
      else (.notStarted, none))
  | _ => none

/-- `ADJsonRpcMgr::process_set_devop_state`. It takes the packet of the request for another one, into
which the task id is written, and its work packet is left as it was allocated. -/
def processSetDevopState (req : RpcSrvReq) : Option Processed :=
  match req.dataRef with
  | .devopSts _ =>
    some (if memory.queued then (.inProg, some { workCmd := 17, workData := if memory.work then some .taskSts else none })
      else (.fail, none))
  | _ => none

/-- `ProcessWork` and `MyProcessWork`. -/
def processWork : AsyncRpc → RpcSrvReq → Option Processed
  | .setDevOp => processSetDevop memory
  | .setFmwupdate => processSetFmwupdate memory
  | .setDownloadftp => processDownloadFile memory .setDownloadftp
  | .setDownloadtftp => processDownloadFile memory .setDownloadtftp
  | .runShellcmd => processRunShellcmd memory .runShellcmd
  | .runShellcmdtrig => processRunShellcmd memory .runShellcmdtrig
  | .setDevopState => processSetDevopState memory

end Processes

/-- The result of a task, and the command lines it handed to `system()` or `run_shell_script`. -/
abbrev Worked := RpcResult × List (List Byte)

section Work
variable (env : SysEnv)

/-- `openwrt_system`. -/
def openwrtSystem : Bool :=
  match env.boardType with
  | .a5v11 | .nexx3020 | .glMt300nv2 => true
  | .raspiA | .raspiAplus | .raspiB | .raspiBplus | .raspiB2 | .raspi0 | .raspi0w => env.syscfgType == .raspiRemoteKit
  | .raspi2 | .raspi3 | .raspi4 => env.syscfgType == .raspi2RemoteKit
  | _ => false

/-- `ADSysInfo::run_shell_script`. -/
def runShellScript (script : List Byte) : RpcResult :=
  if env.emulation then .success
  else match (env.system script).tdiv 256 with
    | 0 => .success
    | 1 => .fileOpenErr
    | 2 => .fileReadErr
    | 3 => .fileWriteErr
    | 4 | 5 => .argError
    | 6 => .hostNotReachableErr
    | 7 => .fileSame
    | 8 => .fileDifferent
    | 9 => .fileNotFound
    | _ => .fail

/-- A command line that does not fit in `cmdline` is rejected. -/
def runCmdline (cmd : List Byte) : Worked := if cmd.length < 512 then (runShellScript env cmd, [cmd]) else (.argError, [])

def processAsyncSetDevop (operation : DevOp) : Worked :=
  match operation with
  | .idle | .on => (.success, [])
  | .standby => (runShellScript env (ascii "sleep 3;poweroff"), [ascii "sleep 3;poweroff"])
  | .reboot => (runShellScript env (ascii "sleep 3;reboot"), [ascii "sleep 3;reboot"])
  | _ => (.argError, [])

/-- The command line of a firmware update. -/
def fmwupdateCmd (fname : List Byte) : List Byte :=
  if openwrtSystem env then ascii "sleep 2;mips-update.sh -u " ++ fname ++ ascii " > /tmp/update.result"
  else ascii "update -u " ++ fname

def processAsyncSetFmwupdate (packet : FmwupdatePacket) : Worked :=
  match packet.moduleType with
  | .brboxProject => runCmdline env (fmwupdateCmd env packet.cmnFnameVerStr)
  | _ => (.argError, [])

/-- The command line of a download. -/
def downloadCmd (tftp : Bool) (packet : DownloadFilePacket) : List Byte :=
  if tftp then
    ascii "tftp " ++ packet.srcurl ++ ascii " -c get " ++ packet.sourcefilepath ++ ascii " " ++ packet.targetfilepath
  else if env.boardType = .glMt300nv2 then ascii "wget " ++ packet.srcurl ++ ascii " -O " ++ packet.targetfilepath
  else ascii "wget --tries=2 " ++ packet.srcurl ++ ascii " -O " ++ packet.targetfilepath

def processAsyncDownloadFile (tftp : Bool) (packet : DownloadFilePacket) : Worked :=
  runCmdline env (downloadCmd env tftp packet)

def processAsyncRunShellcmd (cmd : List Byte) : Worked :=
  if env.emulation then (.success, [])
  else (if env.system cmd ≠ 0 then .fail else .success, [cmd])

/-- `SysRpc::ProcessWorkAsync`, which is undefined when the work data are not what it takes them for. -/
def processWorkAsync (cmd : Nat) (workData : Option RpcPacket) : Option Worked :=
  if cmd = SysmgrRpc.setDevOp.ctorIdx then
    match workData with
    | some (.devOp operation) => some (processAsyncSetDevop env operation)
    | _ => none
  else if cmd = SysmgrRpc.setFmwupdate.ctorIdx then
    match workData with
    | some (.fmwupdate packet) => some (processAsyncSetFmwupdate env packet)
    | _ => none
  else if cmd = SysmgrRpc.setDownloadftp.ctorIdx ∨ cmd = SysmgrRpc.setDownloadtftp.ctorIdx then
    match workData with
    | some (.downloadFile packet) => some (processAsyncDownloadFile env (cmd = SysmgrRpc.setDownloadtftp.ctorIdx) packet)
    | _ => none
  else if cmd = SysmgrRpc.setUpdateLog.ctorIdx then some (env.loglistUpdate, [])
  else if cmd = SysmgrRpc.runShellcmd.ctorIdx then
    match workData with
    | some (.shellcmd cmd) => some (processAsyncRunShellcmd env cmd)
    | _ => none
  else if cmd = SysmgrRpc.devident.ctorIdx then some (env.devident, [])
  else some (.fail, [])

/-- The classes of the handlers. -/
inductive RpcClass where
  | netRpc | sysRpc | dispCtrlRpc | cmnRpc
  deriving DecidableEq, Repr

/-- `rpclist`, in the order in which `main` attaches the handlers. -/
def rpclist : List RpcClass :=
  List.replicate 8 .netRpc ++ List.replicate 23 .sysRpc ++ List.replicate 4 .dispCtrlRpc ++ [.cmnRpc]

/-- `AsyncTaskWork`. The handler is found by the number of the command, which is not its own place. -/
def asyncTaskWork (cmd : Nat) (workData : Option RpcPacket) : Option Worked :=
  match rpclist[cmd - rpcgmgrCmdEnd]? with
  | none => some (.fail, [])
  | some .netRpc | some .dispCtrlRpc => some (.fail, [])
  | some .sysRpc => processWorkAsync env (cmd - rpcgmgrCmdEnd) workData
  | some .cmnRpc => some (.success, [])

/-- `ADJsonRpcMgr::run_work`. The common RPCs have a packet that `CmnRpc::ProcessWorkAsync` does not look at. -/
def runWork (task : PushedTask) : Option Worked :=
  if task.workCmd ≥ rpcgmgrCmdEnd then asyncTaskWork env task.workCmd task.workData
  else if task.workCmd ∈ [2, 4, 9, 10, 15, 17] then
    match task.workData with
    | none | some .taskSts => some (.success, [])
    | _ => none
  else some (.fail, [])

end Work
end SysRpc
end JsonRpcTcp
