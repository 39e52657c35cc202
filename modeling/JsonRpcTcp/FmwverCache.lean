import JsonRpcTcp.AsyncHandOff
import JsonRpcTcp.ProxyState
import JsonRpcTcp.Lib.Pairs
import JsonRpcTcp.Lib.Transducer

namespace JsonRpcTcp
open Function

/-! The firmware versions that the sysmgr service keeps. Their texts are in the data cache that all its
handlers share, but whether a text is up to date is a flag of one handler. -/

namespace SysRpc

/-- A handler as `main` makes it: its RPC name, its class and its own index. -/
structure AttachedRpc where
  rpcName : List Byte
  handler : RpcClass
  index : SysmgrRpc
  deriving DecidableEq, Repr

/-- The handlers in the order in which `main` attaches them. Name and index of the last one are ignored. -/
def attachedRpcs : List AttachedRpc :=
  [⟨ascii "get_mac_addr", .netRpc, .getMacAddr⟩, ⟨ascii "set_mac_addr", .netRpc, .setMacAddr⟩,
   ⟨ascii "get_eth_count", .netRpc, .getEthCount⟩, ⟨ascii "get_eth_name", .netRpc, .getEthName⟩,
   ⟨ascii "get_ip_addr", .netRpc, .getIpAddr⟩, ⟨ascii "set_ip_addr", .netRpc, .setIpAddr⟩,
   ⟨ascii "get_netmask", .netRpc, .getNetmask⟩, ⟨ascii "set_netmask", .netRpc, .setNetmask⟩,
   ⟨ascii "get_load_info", .sysRpc, .getLoadinfo⟩, ⟨ascii "get_mem_info", .sysRpc, .getMeminfo⟩,
   ⟨ascii "get_cpu_info", .sysRpc, .getCpuinfo⟩, ⟨ascii "get_device_operation", .sysRpc, .getDevOp⟩,
   ⟨ascii "set_device_operation", .sysRpc, .setDevOp⟩, ⟨ascii "get_fmw_version", .sysRpc, .getFmwver⟩,
   ⟨ascii "get_boot_system", .sysRpc, .getBootSystem⟩, ⟨ascii "firmware_update", .sysRpc, .setFmwupdate⟩,
   ⟨ascii "download_tftp_file", .sysRpc, .setDownloadtftp⟩, ⟨ascii "download_ftp_file", .sysRpc, .setDownloadftp⟩,
   ⟨ascii "get_async_task", .sysRpc, .getAsynctask⟩, ⟨ascii "get_devtype", .sysRpc, .getDevtype⟩,
   ⟨ascii "get_hostname", .sysRpc, .getHostname⟩, ⟨ascii "set_hostname", .sysRpc, .setHostname⟩,
   ⟨ascii "get_my_public_ip", .sysRpc, .getMyPublicIp⟩, ⟨ascii "set_default_hostname", .sysRpc, .setDefaultHostname⟩,
   ⟨ascii "update_loglist", .sysRpc, .setUpdateLog⟩, ⟨ascii "get_log_count", .sysRpc, .getLogCount⟩,
   ⟨ascii "get_log_line", .sysRpc, .getLogLine⟩, ⟨ascii "run_shellcmd", .sysRpc, .runShellcmd⟩,
   ⟨ascii "device_identify", .sysRpc, .devident⟩, ⟨ascii "re_subscribe_events", .sysRpc, .evntSubscribe⟩,
   ⟨ascii "run_shellcmdtrig", .sysRpc, .runShellcmdtrig⟩, ⟨ascii "display_clear", .dispCtrlRpc, .dispClear⟩,
   ⟨ascii "display_print", .dispCtrlRpc, .dispPrint⟩, ⟨ascii "display_backlight_get", .dispCtrlRpc, .dispGetBklt⟩,
   ⟨ascii "display_backlight_set", .dispCtrlRpc, .dispSetBklt⟩, ⟨ascii "cmnrpc", .cmnRpc, .getMacAddr⟩]

theorem attachedRpcs_handlers : attachedRpcs.map AttachedRpc.handler = rpclist := rfl

/-- The methods that `Start` registers for the attached handlers. -/
def attachedMethods : List RpcCommand :=
  attachedRpcs.zipIdx.foldl
    (fun methods rpc => (attachRpcMethod methods rpc.1.rpcName (Int.ofNat (rpc.2 + rpcgmgrCmdEnd))).2) []

/-- The place in `rpclist` of the handler that serves a request: the request has the index of its method. -/
def requestHandler (rpcMethod : List Byte) : Option Nat :=
  (isThisMethodRegistered attachedMethods rpcMethod).map fun method => method.methodIndex.toNat - rpcgmgrCmdEnd

/-- The place in `rpclist` of the handler that runs a task of a command. -/
def taskHandler (command : SysmgrRpc) : Nat := (command.ctorIdx + rpcgmgrCmdEnd) - rpcgmgrCmdEnd

/-- A request goes to the handler that was made for it, whatever its index. -/
theorem requestHandler_attached :
    attachedRpcs.zipIdx.map (fun rpc => requestHandler rpc.1.rpcName) = (List.range 36).map some := by
  decide +kernel

theorem requestHandler_getFmwver : requestHandler (ascii "get_fmw_version") = some 13 := by decide +kernel

theorem taskHandler_setFmwupdate : taskHandler .setFmwupdate = 11 := rfl

/-- The versions in `SYSMGR_CMN_DATA_CACHE`. -/
structure FmwverCache where
  crntFmwver : List Byte
  bkupFmwver : List Byte
  deriving DecidableEq, Repr

/-- The flags of a `SysRpc` object that say whether a version in the cache can be used. -/
structure FmwverFlags where
  crntFmwverUpdated : Bool
  bkupFmwverUpdated : Bool
  deriving DecidableEq, Repr

/-- What a request for a version meets when it asks the system: the value of `system()` for its command, and
the bytes of the file that the command writes, if that can be opened. -/
structure FmwverFile where
  status : Int
  file : Option (List Byte)
  deriving DecidableEq, Repr

/-- The command succeeds and leaves something in the file. -/
def FmwverFile.Readable (found : FmwverFile) : Prop := found.status = 0 ∧ ∃ bytes, found.file = some bytes ∧ bytes ≠ []

/-- What a request for a version comes to: its result and its packet, the command that it ran, the flags of
the handler and the cache. -/
structure FmwverServed where
  result : RpcResult
  packet : FmwupdatePacket
  command : Option (List Byte)
  flags : FmwverFlags
  cache : FmwverCache
  deriving DecidableEq, Repr

/-- The version in the bytes that were read: a C string without the newline at its end. An empty string is
undefined, as the byte before it is looked at. -/
def versionText (bytes : List Byte) : Option (List Byte) :=
  match (cString bytes).getLast? with
  | none => none
  | some last => some (if last = 0x0a then (cString bytes).dropLast else cString bytes)

section Versions
variable (env : SysEnv) (flags : FmwverFlags) (cache : FmwverCache) (found : FmwverFile)

/-- The command that writes a version to `SYSMGR_TEMP_FMW_READ_FILE`. -/
def fmwverCmd (option : List Byte) : List Byte :=
  if openwrtSystem env then ascii "cat /etc/version.txt > /tmp/temp-fmw-ver.txt"
  else ascii "brdskmgr " ++ option ++ ascii " > /tmp/temp-fmw-ver.txt"

/-- The part of `process_get_fmwver` that asks the system. A version of 100 bytes does not fit in the cache. -/
def readFmwver (packet : FmwupdatePacket) (command : List Byte) : Option FmwverServed :=
  if found.status ≠ 0 then some ⟨.fileOpenErr, packet, some command, flags, cache⟩
  else match found.file with
    | none => some ⟨.fileOpenErr, packet, some command, flags, cache⟩
    | some bytes =>
      if bytes.take 100 = [] then some ⟨.fileReadErr, packet, some command, flags, cache⟩
      else match versionText (bytes.take 100) with
        | none => none
        | some version =>
          if version.length < 100 then
            match packet.moduleType with
            | .brboxCurrent => some ⟨.success, { packet with cmnFnameVerStr := version }, some command,
                { flags with crntFmwverUpdated := true }, { cache with crntFmwver := version }⟩
            | .brboxBackup => some ⟨.success, { packet with cmnFnameVerStr := version }, some command,
                { flags with bkupFmwverUpdated := true }, { cache with bkupFmwver := version }⟩
            | _ => some ⟨.featureNotAvailable, { packet with cmnFnameVerStr := version }, some command, flags, cache⟩
          else none

/-- `process_get_fmwver`, whose packet is of the type that updates have too. -/
def processGetFmwver (action : RpcAct) (packet : FmwupdatePacket) : Option FmwverServed :=
  if action ≠ .read then some ⟨.actionNotAllowed, packet, none, flags, cache⟩
  else if env.emulation then
    some ⟨.success, { packet with cmnFnameVerStr := ascii "00.01.12345" }, none, flags, cache⟩
  else match packet.moduleType with
    | .brboxCurrent =>
      if flags.crntFmwverUpdated then
        some ⟨.success, { packet with cmnFnameVerStr := cache.crntFmwver }, none, flags, cache⟩
      else readFmwver flags cache found { packet with cmnFnameVerStr := ascii "unknown" } (fmwverCmd env (ascii "-v"))
    | .brboxBackup =>
      if flags.bkupFmwverUpdated then
        some ⟨.success, { packet with cmnFnameVerStr := cache.bkupFmwver }, none, flags, cache⟩
      else readFmwver flags cache found { packet with cmnFnameVerStr := ascii "unknown" } (fmwverCmd env (ascii "-b"))
    | _ => some ⟨.featureNotAvailable, { packet with cmnFnameVerStr := ascii "unknown" }, none, flags, cache⟩

/-- `process_async_set_fmwupdate`, with the flags of the object that it is called on. -/
def asyncSetFmwupdate (packet : FmwupdatePacket) : Worked × FmwverFlags :=
  match packet.moduleType with
  | .brboxProject =>
    let cmd := fmwupdateCmd env packet.cmnFnameVerStr
    if cmd.length < 512 then ((runShellScript env cmd, [cmd]), { flags with bkupFmwverUpdated := false })
    else ((.argError, []), flags)
  | _ => ((.argError, []), flags)

end Versions

/-- The task is the one that the worker runs, whatever the flags are. -/
theorem asyncSetFmwupdate_worked (env : SysEnv) (flags : FmwverFlags) (packet : FmwupdatePacket) :
    asyncTaskWork env (SysmgrRpc.setFmwupdate.ctorIdx + rpcgmgrCmdEnd) (some (.fmwupdate packet)) =
      some (asyncSetFmwupdate env flags packet).1 := by
  rw [asyncTaskWork_sysRpc env _ rfl]
  have same : processAsyncSetFmwupdate env packet = (asyncSetFmwupdate env flags packet).1 := by
    unfold processAsyncSetFmwupdate asyncSetFmwupdate runCmdline
    cases packet.moduleType with
    | brboxProject =>
      by_cases fits : (fmwupdateCmd env packet.cmnFnameVerStr).length < 512
      · simp only [if_pos fits]
      · simp only [if_neg fits]
    | _ => rfl
  exact congrArg some same

end SysRpc

open SysRpc

/-- What the handlers keep: the flags of the object at each place of `rpclist`, and the shared cache. -/
structure Fmwver where
  rpcs : Nat → FmwverFlags
  cache : FmwverCache

/-- A request for a version with what it would find in the system, or a firmware update task that completes
with the value of `system()` for its command. -/
inductive FmwverAction where
  | getFmwver (action : RpcAct) (packet : FmwupdatePacket) (found : FmwverFile)
  | setFmwupdate (packet : FmwupdatePacket) (status : Int)
  deriving DecidableEq, Repr

/-- What is seen of them: the answer to a request with the command that it ran, and the result of a task
with the commands that it ran. -/
inductive FmwverEvent where
  | answered (action : RpcAct) (moduleType : FmwModule) (command : Option (List Byte)) (result : RpcResult)
      (version : List Byte)
  | updated (result : RpcResult) (commands : List (List Byte))
  deriving DecidableEq, Repr

namespace FmwverAction

/-- A request for the backup version. -/
def AsksBackup : FmwverAction → Prop
  | getFmwver action packet _ => action = .read ∧ packet.moduleType = .brboxBackup
  | setFmwupdate _ _ => False

/-- A request for the backup version that would find it in the system. -/
def ReadsBackup : FmwverAction → Prop
  | getFmwver action packet found => (action = .read ∧ packet.moduleType = .brboxBackup) ∧ found.Readable
  | setFmwupdate _ _ => False

/-- An update whose command is run. -/
def RunsUpdate (env : SysEnv) : FmwverAction → Prop
  | getFmwver _ _ _ => False
  | setFmwupdate packet _ =>
    packet.moduleType = .brboxProject ∧ (fmwupdateCmd env packet.cmnFnameVerStr).length < 512

end FmwverAction

/-- A task that ran its command. -/
def FmwverEvent.RanUpdate : FmwverEvent → Prop
  | answered _ _ _ _ _ => False
  | updated _ commands => commands ≠ []

/-- An answer about the backup version that no command was run for. -/
def FmwverEvent.FromCache (event : FmwverEvent) (version : List Byte) : Prop :=
  ∃ result, event = .answered .read .brboxBackup none result version

/-- An answer with the backup version as the system has it. -/
def FmwverEvent.FromSystem (event : FmwverEvent) (version : List Byte) : Prop :=
  ∃ command, event = .answered .read .brboxBackup (some command) .success version

namespace FmwverEvent
variable {action : RpcAct} {moduleType : FmwModule} {command : Option (List Byte)} {result : RpcResult}
  {commands : List (List Byte)} {version other : List Byte}

theorem answered_fromCache : (answered action moduleType command result version).FromCache other ↔
    (action = .read ∧ moduleType = .brboxBackup) ∧ command = none ∧ other = version := by
  constructor
  · rintro ⟨_, same⟩
    cases same
    exact ⟨⟨rfl, rfl⟩, rfl, rfl⟩
  · rintro ⟨⟨rfl, rfl⟩, rfl, rfl⟩
    exact ⟨result, rfl⟩

theorem answered_fromSystem : (answered action moduleType command result version).FromSystem other ↔
    (action = .read ∧ moduleType = .brboxBackup) ∧ command.isSome = true ∧ result = .success ∧ other = version := by
  constructor
  · rintro ⟨_, same⟩
    cases same
    exact ⟨⟨rfl, rfl⟩, rfl, rfl, rfl⟩
  · rintro ⟨⟨rfl, rfl⟩, ran, rfl, rfl⟩
    obtain ⟨command, rfl⟩ := Option.isSome_iff_exists.mp ran
    exact ⟨command, rfl⟩

theorem updated_not_fromCache : ¬ (updated result commands).FromCache other := by
  rintro ⟨_, same⟩
  cases same

theorem updated_not_fromSystem : ¬ (updated result commands).FromSystem other := by
  rintro ⟨_, same⟩
  cases same

theorem FromSystem.not_ranUpdate {event : FmwverEvent} (read : event.FromSystem version) : ¬ event.RanUpdate := by
  obtain ⟨command, rfl⟩ := read
  exact id

theorem FromSystem.not_fromCache {event : FmwverEvent} (read : event.FromSystem version) : ¬ event.FromCache other := by
  obtain ⟨command, rfl⟩ := read
  rw [answered_fromCache]
  rintro ⟨_, none, _⟩
  cases none

end FmwverEvent

/-- After an update the backup version is read again: an answer that no command was run for has a version
that was read since. -/
def Coherent (log : List FmwverEvent) : Prop :=
  ∀ before update between answer after version, log = before ++ update :: (between ++ answer :: after) →
    update.RanUpdate → answer.FromCache version → ∃ event ∈ between, event.FromSystem version

/-- An update overtakes a version: between a request that would find the backup version in the system and
another one for it, an update runs its command. -/
def Overtaken (env : SysEnv) (actions : List FmwverAction) : Prop :=
  ∃ read update ask, [read, update, ask].Sublist actions ∧ read.ReadsBackup ∧ update.RunsUpdate env ∧ ask.AsksBackup

namespace Fmwver
variable (env : SysEnv)

/-- The service, which has no version yet: the texts in the cache are arbitrary. -/
def start (cache : FmwverCache) : Fmwver :=
  { rpcs := fun _ => { crntFmwverUpdated := false, bkupFmwverUpdated := false }, cache := cache }

def step (s : Fmwver) : FmwverAction → Option (Fmwver × List FmwverEvent)
  | .getFmwver action packet found => do
    let place ← requestHandler (ascii "get_fmw_version")
    let served ← processGetFmwver env (s.rpcs place) s.cache found action packet
    return ({ rpcs := update s.rpcs place served.flags, cache := served.cache },
      [.answered action packet.moduleType served.command served.result served.packet.cmnFnameVerStr])
  | .setFmwupdate packet status =>
    let place := taskHandler .setFmwupdate
    let done := asyncSetFmwupdate { env with system := fun _ => status } (s.rpcs place) packet
    some ({ s with rpcs := update s.rpcs place done.2 }, [.updated done.1.1 done.1.2])

def service : Transducer Fmwver FmwverAction FmwverEvent := { step := step env }

/-- Whether the handler of the requests takes the backup version in the cache to be up to date. -/
def kept (s : Fmwver) : Bool := (s.rpcs 13).bkupFmwverUpdated

end Fmwver

namespace SysRpc
section Versions
variable {env : SysEnv} {flags : FmwverFlags} {cache : FmwverCache} {found : FmwverFile} {packet : FmwupdatePacket}
  {served : FmwverServed}

/-- What is read goes into the cache, under the module of the request. -/
theorem readFmwver_cases {command : List Byte} (run : readFmwver flags cache found packet command = some served) :
    served.command = some command ∧
      (¬ found.Readable ∧ served.flags = flags ∧ served.cache = cache ∨
        found.Readable ∧
          (packet.moduleType = .brboxBackup → served.result = .success ∧ served.flags.bkupFmwverUpdated = true ∧
            served.cache.bkupFmwver = served.packet.cmnFnameVerStr) ∧
          (packet.moduleType ≠ .brboxBackup → served.flags.bkupFmwverUpdated = flags.bkupFmwverUpdated ∧
            served.cache.bkupFmwver = cache.bkupFmwver)) := by
  unfold readFmwver at run
  by_cases fails : found.status ≠ 0
  · rw [if_pos fails] at run
    cases run
    exact ⟨rfl, .inl ⟨fun readable => fails readable.1, rfl, rfl⟩⟩
  · rw [if_neg fails] at run
    cases file : found.file with
    | none =>
      simp only [file] at run
      cases run
      refine ⟨rfl, .inl ⟨?_, rfl, rfl⟩⟩
      rintro ⟨_, bytes, some, _⟩
      rw [file] at some
      cases some
    | some bytes =>
      simp only [file] at run
      by_cases empty : bytes.take 100 = []
      · rw [if_pos empty] at run
        cases run
        refine ⟨rfl, .inl ⟨?_, rfl, rfl⟩⟩
        rintro ⟨_, text, same, nonempty⟩
        cases file.symm.trans same
        exact nonempty (by simpa using empty)
      · rw [if_neg empty] at run
        have readable : found.Readable := by
          refine ⟨not_not.mp fails, bytes, file, ?_⟩
          rintro rfl
          exact empty rfl
        cases text : versionText (bytes.take 100) with
        | none =>
          simp only [text] at run
          cases run
        | some version =>
          simp only [text] at run
          split_ifs at run
          cases module_ : packet.moduleType with
          | brboxBackup =>
            simp only [module_] at run
            cases run
            exact ⟨rfl, .inr ⟨readable, fun _ => ⟨rfl, rfl, rfl⟩, fun other => absurd rfl other⟩⟩
          | _ =>
            simp only [module_] at run
            cases run
            exact ⟨rfl, .inr ⟨readable, fun backup => (by cases backup), fun _ => ⟨rfl, rfl⟩⟩⟩

/-- Only a request for the backup version touches what is kept of it. -/
theorem processGetFmwver_other {action : RpcAct} (real : env.emulation = false)
    (other : ¬ (action = .read ∧ packet.moduleType = .brboxBackup))
    (run : processGetFmwver env flags cache found action packet = some served) :
    served.flags.bkupFmwverUpdated = flags.bkupFmwverUpdated ∧ served.cache.bkupFmwver = cache.bkupFmwver := by
  unfold processGetFmwver at run
  by_cases reads : action ≠ .read
  · rw [if_pos reads] at run
    cases run
    exact ⟨rfl, rfl⟩
  · rw [if_neg reads, if_neg (by simp [real])] at run
    cases module_ : packet.moduleType with
    | brboxBackup => exact absurd ⟨not_not.mp reads, module_⟩ other
    | brboxCurrent =>
      simp only [module_] at run
      split_ifs at run
      · cases run
        exact ⟨rfl, rfl⟩
      · obtain ⟨_, ⟨_, flags, cache⟩ | ⟨_, _, kept⟩⟩ := readFmwver_cases run
        · rw [flags, cache]
          exact ⟨rfl, rfl⟩
        · exact kept (by simp)
    | _ =>
      simp only [module_] at run
      cases run
      exact ⟨rfl, rfl⟩

/-- A backup version that is taken to be up to date is given as it is in the cache. -/
theorem processGetFmwver_kept (real : env.emulation = false) (backup : packet.moduleType = .brboxBackup)
    (kept : flags.bkupFmwverUpdated = true) :
    processGetFmwver env flags cache found .read packet =
      some ⟨.success, { packet with cmnFnameVerStr := cache.bkupFmwver }, none, flags, cache⟩ := by
  unfold processGetFmwver
  rw [if_neg (by simp), if_neg (by simp [real])]
  simp only [backup, if_pos kept]

/-- Otherwise a command is run, and the version that it finds is kept. -/
theorem processGetFmwver_fresh (real : env.emulation = false) (backup : packet.moduleType = .brboxBackup)
    (fresh : flags.bkupFmwverUpdated = false)
    (run : processGetFmwver env flags cache found .read packet = some served) :
    (∃ command, served.command = some command) ∧
      (¬ found.Readable → served.flags.bkupFmwverUpdated = false) ∧
      (found.Readable → served.result = .success ∧ served.flags.bkupFmwverUpdated = true ∧
        served.cache.bkupFmwver = served.packet.cmnFnameVerStr) := by
  unfold processGetFmwver at run
  rw [if_neg (by simp), if_neg (by simp [real])] at run
  simp only [backup] at run
  rw [if_neg (by simp [fresh])] at run
  obtain ⟨command, ⟨unreadable, flags, _⟩ | ⟨readable, read, _⟩⟩ := readFmwver_cases run
  · exact ⟨⟨_, command⟩, fun _ => by rw [flags, fresh], fun readable => absurd readable unreadable⟩
  · exact ⟨⟨_, command⟩, fun unreadable => absurd readable unreadable, fun _ => read rfl⟩

/-- A task clears a flag only when it runs its command. -/
theorem asyncSetFmwupdate_commands :
    (asyncSetFmwupdate env flags packet).1.2 ≠ [] ↔
      packet.moduleType = .brboxProject ∧ (fmwupdateCmd env packet.cmnFnameVerStr).length < 512 := by
  unfold asyncSetFmwupdate
  cases module_ : packet.moduleType with
  | brboxProject =>
    by_cases fits : (fmwupdateCmd env packet.cmnFnameVerStr).length < 512
    · simp only [if_pos fits]
      simp [fits]
    · simp only [if_neg fits]
      simp [fits]
  | _ => simp

end Versions
end SysRpc

namespace Fmwver
variable {env : SysEnv} {s t : Fmwver} {action : FmwverAction} {out : List FmwverEvent}

/-- A request is answered by its own object. -/
theorem step_getFmwver {asked : RpcAct} {packet : FmwupdatePacket} {found : FmwverFile}
    (run : step env s (.getFmwver asked packet found) = some (t, out)) :
    ∃ served, processGetFmwver env (s.rpcs 13) s.cache found asked packet = some served ∧
      t.kept = served.flags.bkupFmwverUpdated ∧ t.cache = served.cache ∧
      out = [.answered asked packet.moduleType served.command served.result served.packet.cmnFnameVerStr] := by
  simp only [step, requestHandler_getFmwver, Option.bind_eq_bind, Option.bind_some] at run
  obtain ⟨served, processed, same⟩ := Option.bind_eq_some_iff.mp run
  cases same
  exact ⟨served, processed, by simp only [kept, update_self], rfl, rfl⟩

/-- A task is run by another object. -/
theorem step_setFmwupdate {packet : FmwupdatePacket} {status : Int}
    (run : step env s (.setFmwupdate packet status) = some (t, out)) :
    t.kept = s.kept ∧ t.cache = s.cache ∧
      ∃ result commands, out = [.updated result commands] ∧
        (commands ≠ [] ↔ (FmwverAction.setFmwupdate packet status).RunsUpdate env) := by
  cases run
  refine ⟨?_, rfl, _, _, rfl, asyncSetFmwupdate_commands⟩
  have elsewhere : 13 ≠ taskHandler .setFmwupdate := by
    rw [taskHandler_setFmwupdate]
    decide
  simp only [kept, update_of_ne elsewhere]

/-- While no backup version is kept, nothing is answered from the cache, and only an answer with the version
that the system has ends this. -/
theorem step_fresh (real : env.emulation = false) (fresh : s.kept = false) (run : step env s action = some (t, out)) :
    ∃ event, out = [event] ∧ (∀ version, ¬ event.FromCache version) ∧
      (¬ action.ReadsBackup → t.kept = false) ∧
      (action.ReadsBackup → t.kept = true ∧ event.FromSystem t.cache.bkupFmwver) := by
  cases action with
  | setFmwupdate packet status =>
    obtain ⟨same, _, result, commands, rfl, _⟩ := step_setFmwupdate run
    exact ⟨_, rfl, fun _ => FmwverEvent.updated_not_fromCache, fun _ => same.trans fresh, fun reads => reads.elim⟩
  | getFmwver asked packet found =>
    obtain ⟨served, processed, kept, cache, rfl⟩ := step_getFmwver run
    refine ⟨_, rfl, ?_⟩
    simp only [FmwverEvent.answered_fromCache, FmwverEvent.answered_fromSystem]
    by_cases asks : asked = .read ∧ packet.moduleType = .brboxBackup
    · obtain ⟨rfl, backup⟩ := asks
      obtain ⟨⟨command, ran⟩, unreadable, readable⟩ := processGetFmwver_fresh real backup fresh processed
      refine ⟨?_, ?_, ?_⟩
      · rintro version ⟨_, none, _⟩
        rw [ran] at none
        cases none
      · intro nothing
        exact kept.trans (unreadable fun file => nothing ⟨⟨rfl, backup⟩, file⟩)
      · rintro ⟨_, file⟩
        obtain ⟨success, now, version⟩ := readable file
        exact ⟨kept.trans now, ⟨rfl, backup⟩, by rw [ran, Option.isSome_some], success, by rw [cache, version]⟩
    · obtain ⟨same, _⟩ := processGetFmwver_other real asks processed
      exact ⟨fun version answer => asks answer.1, fun _ => kept.trans (same.trans fresh),
        fun reads => absurd reads.1 asks⟩

/-- What a step shows once a backup version is kept: the updates that ran their commands, and that version
in every answer about it. -/
structure Shows (env : SysEnv) (version : List Byte) (action : FmwverAction) (event : FmwverEvent) : Prop where
  update : event.RanUpdate ↔ action.RunsUpdate env
  cached : ∀ other, event.FromCache other ↔ action.AsksBackup ∧ other = version
  unread : ∀ other, ¬ event.FromSystem other

/-- A backup version that is kept stays, and is what every request for it is answered with. -/
theorem step_kept (real : env.emulation = false) (kept : s.kept = true) (run : step env s action = some (t, out)) :
    t.kept = true ∧ t.cache.bkupFmwver = s.cache.bkupFmwver ∧
      ∃ event, out = [event] ∧ Shows env s.cache.bkupFmwver action event := by
  cases action with
  | setFmwupdate packet status =>
    obtain ⟨same, cache, result, commands, rfl, update⟩ := step_setFmwupdate run
    refine ⟨same.trans kept, by rw [cache], _, rfl, update, ?_, fun _ => FmwverEvent.updated_not_fromSystem⟩
    intro other
    exact iff_of_false FmwverEvent.updated_not_fromCache fun asks => asks.1
  | getFmwver asked packet found =>
    obtain ⟨served, processed, flag, cache, rfl⟩ := step_getFmwver run
    by_cases asks : asked = .read ∧ packet.moduleType = .brboxBackup
    · obtain ⟨rfl, backup⟩ := asks
      cases (processGetFmwver_kept real backup kept).symm.trans processed
      refine ⟨flag.trans kept, by rw [cache], _, rfl, Iff.rfl, ?_, ?_⟩
      · intro other
        rw [FmwverEvent.answered_fromCache]
        exact ⟨fun answer => ⟨⟨rfl, backup⟩, answer.2.2⟩, fun answer => ⟨⟨rfl, backup⟩, rfl, answer.2⟩⟩
      · intro other
        rw [FmwverEvent.answered_fromSystem]
        rintro ⟨_, ran, _⟩
        cases ran
    · obtain ⟨same, version⟩ := processGetFmwver_other real asks processed
      refine ⟨flag.trans (same.trans kept), by rw [cache, version], _, rfl, Iff.rfl, ?_, ?_⟩
      · intro other
        rw [FmwverEvent.answered_fromCache]
        exact iff_of_false (fun answer => asks answer.1) fun now => asks now.1
      · intro other
        rw [FmwverEvent.answered_fromSystem]
        exact fun answer => asks answer.1

/-- A run up to the first answer with the version of the system. -/
structure Unread (actions : List FmwverAction) (s : Fmwver) (log : List FmwverEvent) : Prop where
  fresh : s.kept = false
  unread : ∀ action ∈ actions, ¬ action.ReadsBackup
  uncached : ∀ event ∈ log, ∀ version, ¬ event.FromCache version

/-- A run after it: the action that read the version, and what was done and shown before and since. -/
structure ReadOnce (env : SysEnv) (actions : List FmwverAction) (s : Fmwver) (log : List FmwverEvent)
    (earlier : List FmwverAction) (read : FmwverAction) (later : List FmwverAction)
    (before : List FmwverEvent) (answer : FmwverEvent) (after : List FmwverEvent) : Prop where
  kept : s.kept = true
  actions_eq : actions = earlier ++ read :: later
  log_eq : log = before ++ answer :: after
  unread : ∀ action ∈ earlier, ¬ action.ReadsBackup
  reads : read.ReadsBackup
  uncached : ∀ event ∈ before, ∀ version, ¬ event.FromCache version
  answered : answer.FromSystem s.cache.bkupFmwver
  shows : List.Forall₂ (Shows env s.cache.bkupFmwver) later after

theorem Unread.step {actions : List FmwverAction} {log : List FmwverEvent} (unread : Unread actions s log)
    (real : env.emulation = false) (run : step env s action = some (t, out)) :
    Unread (actions ++ [action]) t (log ++ out) ∨
      ∃ answer, ReadOnce env (actions ++ [action]) t (log ++ out) actions action [] log answer [] := by
  obtain ⟨event, rfl, uncached, nothing, read⟩ := step_fresh real unread.fresh run
  by_cases reads : action.ReadsBackup
  · obtain ⟨kept, answered⟩ := read reads
    exact .inr ⟨event, kept, rfl, rfl, unread.unread, reads, unread.uncached, answered, .nil⟩
  · refine .inl ⟨nothing reads, ?_, ?_⟩
    · intro one member
      rcases List.mem_append.mp member with old | new
      · exact unread.unread one old
      · rw [List.mem_singleton.mp new]
        exact reads
    · intro one member
      rcases List.mem_append.mp member with old | new
      · exact unread.uncached one old
      · rw [List.mem_singleton.mp new]
        exact uncached

theorem ReadOnce.step {actions earlier later : List FmwverAction} {read : FmwverAction}
    {log before after : List FmwverEvent} {answer : FmwverEvent}
    (once : ReadOnce env actions s log earlier read later before answer after)
    (real : env.emulation = false) (run : step env s action = some (t, out)) :
    ReadOnce env (actions ++ [action]) t (log ++ out) earlier read (later ++ [action]) before answer
      (after ++ out) := by
  obtain ⟨kept, version, event, rfl, shows⟩ := step_kept real once.kept run
  refine ⟨kept, ?_, ?_, once.unread, once.reads, once.uncached, ?_, ?_⟩
  · rw [once.actions_eq, List.append_assoc, List.cons_append]
  · rw [once.log_eq, List.append_assoc, List.cons_append]
  · rw [version]
    exact once.answered
  · rw [version]
    exact List.rel_append once.shows (.cons shows .nil)

/-- In a run the backup version is read at most once. -/
def ReadAtMostOnce (env : SysEnv) (actions : List FmwverAction) (s : Fmwver) (log : List FmwverEvent) : Prop :=
  Unread actions s log ∨
    ∃ earlier read later before answer after, ReadOnce env actions s log earlier read later before answer after

theorem ReadAtMostOnce.step {actions : List FmwverAction} {log : List FmwverEvent} (real : env.emulation = false)
    (known : ReadAtMostOnce env actions s log) (run : step env s action = some (t, out)) :
    ReadAtMostOnce env (actions ++ [action]) t (log ++ out) := by
  rcases known with unread | ⟨earlier, read, later, before, answer, after, once⟩
  · rcases unread.step real run with still | ⟨answer, once⟩
    · exact .inl still
    · exact .inr ⟨_, _, _, _, _, _, once⟩
  · exact .inr ⟨_, _, _, _, _, _, once.step real run⟩

theorem run_readAtMostOnce (real : env.emulation = false) {cache : FmwverCache} {actions : List FmwverAction}
    {last : Fmwver} (run : ((service env).run (start cache) actions).1 = some last) :
    ReadAtMostOnce env actions last ((service env).run (start cache) actions).2 := by
  have before : ReadAtMostOnce env [] (start cache) [] := .inl ⟨rfl, by simp, by simp⟩
  exact (service env).run_invariant (fun _ _ _ _ _ _ known run => known.step real run) before actions run

/-- After the only read the log is coherent as long as no answer from the cache follows an update. -/
theorem coherent_iff {before after : List FmwverEvent} {answer : FmwverEvent} {version : List Byte}
    (uncached : ∀ event ∈ before, ∀ version, ¬ event.FromCache version) (answered : answer.FromSystem version)
    (cached : ∀ event ∈ after, ∀ other, event.FromCache other → other = version)
    (unread : ∀ event ∈ after, ∀ other, ¬ event.FromSystem other) :
    Coherent (before ++ answer :: after) ↔
      after.Pairwise fun update event => update.RanUpdate → ∀ version, ¬ event.FromCache version := by
  rw [List.pairwise_iff_forall_sublist]
  constructor
  · intro coherent update event pair ran other stale
    obtain ⟨earlier, between, rest, rfl⟩ := List.pair_sublist_iff.mp pair
    obtain ⟨read, member, system⟩ := coherent (before ++ answer :: earlier) update between event rest other
      (by rw [List.append_assoc, List.cons_append]) ran stale
    exact unread read (by simp [member]) other system
  · intro ordered first update between event rest other whole ran stale
    have notUpdate : answer ≠ update := by
      rintro rfl
      exact answered.not_ranUpdate ran
    have notEvent : answer ≠ event := by
      rintro rfl
      exact answered.not_fromCache stale
    rcases List.append_eq_append_iff.mp whole with ⟨left, _, right⟩ | ⟨left, rfl, right⟩
    · -- the update comes after the read
      rcases List.cons_eq_append_iff.mp right with ⟨_, same⟩ | ⟨later, _, rfl⟩
      · exact absurd (List.cons.inj same).1.symm notUpdate
      · exact absurd stale (ordered (List.pair_sublist_iff.mpr ⟨_, _, _, rfl⟩) ran other)
    · -- the read comes after the update, and the answer from the cache after the read
      rcases List.cons_eq_append_iff.mp right with ⟨_, same⟩ | ⟨later, rfl, tail⟩
      · exact absurd (List.cons.inj same).1 notUpdate
      · rcases List.append_eq_append_iff.mp tail with ⟨far, rfl, last⟩ | ⟨far, rfl, last⟩
        · rcases List.cons_eq_append_iff.mp last with ⟨_, same⟩ | ⟨_, rfl, rfl⟩
          · exact absurd (List.cons.inj same).1 notEvent
          · exact absurd stale (uncached event (by simp) other)
        · rcases List.cons_eq_append_iff.mp last with ⟨_, same⟩ | ⟨_, rfl, rfl⟩
          · exact absurd (List.cons.inj same).1.symm notEvent
          · have same := cached event (by simp) other stale
            exact ⟨answer, by simp, by rwa [same]⟩

/-- What overtakes the only read comes after it. -/
theorem overtaken_iff {earlier later : List FmwverAction} {read : FmwverAction}
    (unread : ∀ action ∈ earlier, ¬ action.ReadsBackup) (reads : read.ReadsBackup) :
    ¬ Overtaken env (earlier ++ read :: later) ↔
      later.Pairwise fun update ask => update.RunsUpdate env → ¬ ask.AsksBackup := by
  rw [List.pairwise_iff_forall_sublist]
  constructor
  · intro intime update ask pair runs asks
    exact intime ⟨read, update, ask, List.sublist_append_of_sublist_right (.cons_cons read pair), reads, runs, asks⟩
  · rintro ordered ⟨first, update, ask, triple, firstReads, runs, asks⟩
    refine ordered ?_ runs asks
    obtain ⟨left, right, whole, member, pair⟩ := List.cons_sublist_iff.mp triple
    -- the first of the three is not in `earlier`, so the two others are in `later`
    rcases List.append_eq_append_iff.mp whole with ⟨between, rfl, rest⟩ | ⟨between, rfl, _⟩
    · rcases List.cons_eq_append_iff.mp rest with ⟨rfl, _⟩ | ⟨_, rfl, rfl⟩
      · rw [List.append_nil] at member
        exact absurd firstReads (unread first member)
      · exact List.sublist_append_of_sublist_right pair
    · exact absurd firstReads (unread first (List.mem_append_left _ member))

theorem ReadOnce.coherent_iff {actions earlier later : List FmwverAction} {read : FmwverAction}
    {log before after : List FmwverEvent} {answer : FmwverEvent}
    (once : ReadOnce env actions s log earlier read later before answer after) :
    Coherent log ↔ ¬ Overtaken env actions := by
  have shows := List.exists_of_forall₂ once.shows
  rw [once.actions_eq, once.log_eq, overtaken_iff once.unread once.reads]
  rw [Fmwver.coherent_iff once.uncached once.answered]
  · refine (List.pairwise_iff_of_forall₂ ?_ once.shows).symm
    intro update ask event answered first second
    simp only [first.update, second.cached, not_and, imp_not_comm, forall_eq]
  · intro event member other cached
    obtain ⟨action, shown⟩ := shows event member
    exact ((shown.cached other).mp cached).2
  · intro event member
    obtain ⟨action, shown⟩ := shows event member
    exact shown.unread

theorem Unread.coherent {actions : List FmwverAction} {log : List FmwverEvent} (unread : Unread actions s log) :
    Coherent log := by
  intro before update between event after version whole _ stale
  exact absurd stale (unread.uncached event (by simp [whole]) version)

theorem Unread.not_overtaken {actions : List FmwverAction} {log : List FmwverEvent} (unread : Unread actions s log) :
    ¬ Overtaken env actions := by
  rintro ⟨read, update, ask, triple, reads, _⟩
  exact unread.unread read (triple.subset (by simp)) reads

/-- A version that was read before an update is given out after it: the update clears the flag of the wrong
object. It goes well in the runs where no update comes between a request that would find the backup version in
the system and another request for it. -/
theorem backup_version_coherent (env : SysEnv) (real : env.emulation = false) (cache : FmwverCache)
    (actions : List FmwverAction) (defined : ((service env).run (start cache) actions).1.isSome) :
    Coherent ((service env).run (start cache) actions).2 ↔ ¬ Overtaken env actions := by
  obtain ⟨last, run⟩ := Option.isSome_iff_exists.mp defined
  rcases run_readAtMostOnce real run with unread | ⟨_, _, _, _, _, _, once⟩
  · exact iff_of_true unread.coherent unread.not_overtaken
  · exact once.coherent_iff

/-- A device, a request for the backup version that would find a text in the system, and an update. -/
def device : SysEnv :=
  { boardType := .raspi3, syscfgType := .unknown, emulation := false, system := fun _ => 0, loglistUpdate := .success
    devident := .success }

def askBackup (version : String) : FmwverAction :=
  .getFmwver .read { moduleType := .brboxBackup, cmnFnameVerStr := [] } { status := 0, file := some (ascii version) }

def runUpdate : FmwverAction := .setFmwupdate { moduleType := .brboxProject, cmnFnameVerStr := ascii "/tmp/fmw.img" } 0

/-- An update before the first request does no harm. -/
theorem backup_version_coherent_device :
    Coherent ((service device).run (start ⟨[], []⟩) [runUpdate, askBackup "2.0\n", askBackup "2.0\n"]).2 := by
  refine (backup_version_coherent device rfl ⟨[], []⟩ _ (by decide +kernel)).mpr ?_
  rintro ⟨read, update, ask, triple, reads, _⟩
  cases triple.eq_of_length rfl
  exact reads

/-- Between two requests it is not noticed. -/
theorem backup_version_stale :
    ((service device).run (start ⟨[], []⟩) [askBackup "1.0\n", runUpdate, askBackup "2.0\n"]).2 =
        [.answered .read .brboxBackup (some (ascii "brdskmgr -b > /tmp/temp-fmw-ver.txt")) .success (ascii "1.0"),
         .updated .success [ascii "update -u /tmp/fmw.img"],
         .answered .read .brboxBackup none .success (ascii "1.0")] ∧
      ((service device).run (start ⟨[], []⟩) [askBackup "1.0\n", runUpdate, askBackup "2.0\n"]).1.isSome ∧
      ¬ Coherent ((service device).run (start ⟨[], []⟩) [askBackup "1.0\n", runUpdate, askBackup "2.0\n"]).2 := by
  have log : ((service device).run (start ⟨[], []⟩) [askBackup "1.0\n", runUpdate, askBackup "2.0\n"]).2 =
      [.answered .read .brboxBackup (some (ascii "brdskmgr -b > /tmp/temp-fmw-ver.txt")) .success (ascii "1.0"),
       .updated .success [ascii "update -u /tmp/fmw.img"],
       .answered .read .brboxBackup none .success (ascii "1.0")] := by decide +kernel
  refine ⟨log, by decide +kernel, ?_⟩
  rw [log]
  intro coherent
  obtain ⟨event, member, _⟩ := coherent [_] _ [] _ [] (ascii "1.0") rfl (List.cons_ne_nil _ _) ⟨.success, rfl⟩
  cases member

end Fmwver
end JsonRpcTcp
