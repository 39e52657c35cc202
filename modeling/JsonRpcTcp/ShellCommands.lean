import JsonRpcTcp.AsyncHandOff

namespace JsonRpcTcp
namespace SysRpc

/-! The command lines of the requests, from the parameters in the JSON text to the shell. -/

/-- How a request ends: the decoder refuses it, it is answered without a task, or its task has run. -/
inductive Ended where
  | refused (result : TaskResult)
  | answered (result : RpcResult)
  | worked (result : RpcResult) (commands : List (List Byte))
  deriving DecidableEq, Repr

section
variable (lib : JsonC) (env : SysEnv) (memory : RpcMemory) (data : List Byte)

/-- A whole request: the decoder, the process function and the worker. -/
def request (rpc : AsyncRpc) : Option Ended :=
  match mapJsonToBinary lib memory data rpc with
  | .error result => some (.refused result)
  | .ok req =>
    match processWork memory rpc req with
    | none => none
    | some (result, none) => some (.answered result)
    | some (_, some task) => (runWork env task).map fun worked => .worked worked.1 worked.2

/-- The RPCs that hand a command line with a parameter to the shell. -/
def commandRpcs : List AsyncRpc := [.runShellcmd, .runShellcmdtrig, .setFmwupdate, .setDownloadftp, .setDownloadtftp]

/-- The command line that the complete parameters of a request ask for. -/
def completeCommand : AsyncRpc → Option (List Byte)
  | .runShellcmd => (paramText lib data (ascii "command")).map fun cmd => cmd ++ ascii " > " ++ shellcmdRespFilePath
  | .runShellcmdtrig => paramText lib data (ascii "command")
  | .setFmwupdate => do
    let moduleName ← paramText lib data (ascii "module")
    let fname ← paramText lib data (ascii "filepath")
    if moduleName = ascii "project" then some (fmwupdateCmd env fname) else none
  | .setDownloadftp => do
    let srcurl ← paramText lib data (ascii "srcaddr")
    let target ← paramText lib data (ascii "targetpath")
    return downloadCmd env false { srcurl := srcurl, sourcefilepath := [], targetfilepath := target }
  | .setDownloadtftp => do
    let srcurl ← paramText lib data (ascii "srcaddr")
    let source ← paramText lib data (ascii "srcfile")
    let target ← paramText lib data (ascii "targetpath")
    return downloadCmd env true { srcurl := srcurl, sourcefilepath := source, targetfilepath := target }
  | _ => none

/-- The complete command line was handed to the shell, or none was and there is an error. -/
def WholeOrError (complete : Option (List Byte)) : Option Ended → Prop
  | some (.refused result) => result = .invalidParam ∨ result = .memFail
  | some (.answered result) => result ≠ .success ∧ result ≠ .inProg
  | some (.worked result commands) =>
    commands = [] ∧ result ≠ .success ∨ ∃ cmd, complete = some cmd ∧ commands = [cmd]
  | none => False

/-- The parameters of a request are kept, or what is left of them makes no command line. -/
def KeepsParams : AsyncRpc → Prop
  | .runShellcmd | .runShellcmdtrig =>
    ∀ cmd, paramText lib data (ascii "command") = some cmd → WholeText cmd ∧ env.emulation = false
  | .setFmwupdate =>
    ∀ moduleName fname, paramText lib data (ascii "module") = some moduleName →
      paramText lib data (ascii "filepath") = some fname → keptText moduleName = ascii "project" →
      WholeText moduleName ∧ WholeText fname
  | .setDownloadftp =>
    ∀ srcurl target, paramText lib data (ascii "srcaddr") = some srcurl →
      paramText lib data (ascii "targetpath") = some target →
      (WholeText srcurl ∧ WholeText target) ∨ 512 ≤ (downloadCmd env false
        { srcurl := keptText srcurl, sourcefilepath := [], targetfilepath := keptText target }).length
  | .setDownloadtftp =>
    ∀ srcurl source target, paramText lib data (ascii "srcaddr") = some srcurl →
      paramText lib data (ascii "srcfile") = some source → paramText lib data (ascii "targetpath") = some target →
      (WholeText srcurl ∧ WholeText source ∧ WholeText target) ∨ 512 ≤ (downloadCmd env true
        { srcurl := keptText srcurl, sourcefilepath := keptText source, targetfilepath := keptText target }).length
  | _ => True

/-- The packet that the decoder makes of the parameters. -/
def keptPacket : AsyncRpc → Option RpcPacket
  | .setDevOp => do
    let operation ← paramText lib data (ascii "operation")
    (stringToEnum devOpTable (keptText operation)).map .devOp
  | .setFmwupdate => do
    let moduleName ← paramText lib data (ascii "module")
    let moduleType ← stringToEnum fmwModuleTable (keptText moduleName)
    let fname ← paramText lib data (ascii "filepath")
    return .fmwupdate { moduleType := moduleType, cmnFnameVerStr := keptText fname }
  | .setDownloadftp => do
    let srcurl ← paramText lib data (ascii "srcaddr")
    let target ← paramText lib data (ascii "targetpath")
    return .downloadFile { srcurl := keptText srcurl, sourcefilepath := [], targetfilepath := keptText target }
  | .setDownloadtftp => do
    let srcurl ← paramText lib data (ascii "srcaddr")
    let source ← paramText lib data (ascii "srcfile")
    let target ← paramText lib data (ascii "targetpath")
    return .downloadFile
      { srcurl := keptText srcurl, sourcefilepath := keptText source, targetfilepath := keptText target }
  | .runShellcmd | .runShellcmdtrig => (paramText lib data (ascii "command")).map fun cmd => .shellcmd (keptText cmd)
  | .setDevopState => do
    let status ← paramText lib data (ascii "status")
    (stringToEnum devopStateTable (keptText status)).map .devopSts

end

section Decoding
variable (lib : JsonC) (memory : RpcMemory) (data : List Byte)

theorem jsonStringToEnum_eq {α : Type} (name : List Byte) (table : List (α × List Byte)) :
    jsonStringToEnum lib data name table = (paramText lib data name).bind fun text => stringToEnum table (keptText text) := by
  rw [jsonStringToEnum, findSingleParam_eq, Option.bind_map]
  rfl

/-- Every decoder keeps of its parameters what the macros keep. -/
theorem mapJsonToBinary_eq (rpc : AsyncRpc) :
    mapJsonToBinary lib memory data rpc = prepareJsonRequest memory .write (keptPacket lib data rpc) := by
  have enough : paramValueSize ≤ 1024 := by decide
  cases rpc with
  | setDevOp =>
    simp only [mapJsonToBinary, jsonToBinSetDevop, jsonStringToEnum_eq, keptPacket, Option.map_bind,
      Option.bind_eq_bind, Function.comp_def]
  | setFmwupdate =>
    have enough : paramValueSize ≤ 512 := by decide
    simp only [mapJsonToBinary, jsonToBinSetFmwupdate, jsonStringToEnum_eq, jsonStringToString_eq lib data _ enough,
      keptPacket, Option.bind_eq_bind, Option.bind_map, Option.bind_assoc, Function.comp_def]
  | setDownloadftp =>
    simp only [mapJsonToBinary, jsonToBinDownloadFile, jsonStringToString_eq lib data _ enough, keptPacket,
      Option.bind_eq_bind, Option.bind_map, Function.comp_def, Bool.false_eq_true, if_false, Option.bind_some]
  | setDownloadtftp =>
    simp only [mapJsonToBinary, jsonToBinDownloadFile, jsonStringToString_eq lib data _ enough, keptPacket,
      Option.bind_eq_bind, Option.bind_map, Function.comp_def, if_true]
  | runShellcmd =>
    simp only [mapJsonToBinary, jsonToBinRunShellcmd, jsonStringToString_eq lib data _ enough, keptPacket,
      Option.map_map, Function.comp_def]
  | runShellcmdtrig =>
    simp only [mapJsonToBinary, jsonToBinRunShellcmd, jsonStringToString_eq lib data _ enough, keptPacket,
      Option.map_map, Function.comp_def]
  | setDevopState =>
    simp only [mapJsonToBinary, jsonToBinSetDevopState, jsonStringToEnum_eq, keptPacket, Option.map_bind,
      Option.bind_eq_bind, Function.comp_def]

end Decoding

section Ending
variable {lib : JsonC} {env : SysEnv} {memory : RpcMemory} {data : List Byte} {rpc : AsyncRpc}

/-- A request whose parameters make no packet is refused. -/
theorem request_no_packet (complete : Option (List Byte)) (missing : keptPacket lib data rpc = none) :
    WholeOrError complete (request lib env memory data rpc) := by
  have decoded := mapJsonToBinary_eq lib memory data rpc
  rw [missing, prepareJsonRequest] at decoded
  by_cases room : memory.packet = true
  · rw [if_pos room] at decoded
    rw [request, decoded]
    exact Or.inl rfl
  · rw [if_neg room] at decoded
    rw [request, decoded]
    exact Or.inr rfl

theorem request_no_memory (complete : Option (List Byte)) (full : ¬ memory.packet = true) :
    WholeOrError complete (request lib env memory data rpc) := by
  have decoded := mapJsonToBinary_eq lib memory data rpc
  unfold prepareJsonRequest at decoded
  rw [if_neg full] at decoded
  rw [request, decoded]
  exact Or.inr rfl

variable {packet : RpcPacket}

theorem mapJsonToBinary_packet (made : keptPacket lib data rpc = some packet) (room : memory.packet = true) :
    mapJsonToBinary lib memory data rpc = .ok { action := .write, dataRef := packet } := by
  rw [mapJsonToBinary_eq, made, prepareJsonRequest, if_pos room]

/-- A packet that is not taken, or not pushed, is answered with an error. -/
theorem request_not_pushed (complete : Option (List Byte)) (made : keptPacket lib data rpc = some packet)
    (own : rpc ≠ .setDevopState) (stays : ¬ (takesPacket packet = true ∧ memory.work = true ∧ memory.queued = true)) :
    WholeOrError complete (request lib env memory data rpc) := by
  by_cases room : memory.packet = true
  · have decoded := mapJsonToBinary_packet made room
    obtain ⟨kind, write⟩ := mapJsonToBinary_ok decoded
    have processed := processWork_eq memory kind write own
    rw [request, decoded]
    dsimp only
    rw [processed]
    by_cases taken : takesPacket packet = true
    · have full : ¬ (memory.work = true ∧ memory.queued = true) := fun rest => stays ⟨taken, rest⟩
      obtain ⟨result, refused, notSuccess, notInProg⟩ := pushCopy_refused full (taskCmd rpc) (workPacket rpc packet)
      rw [if_pos taken, refused]
      exact ⟨notSuccess, notInProg⟩
    · rw [if_neg taken]
      exact ⟨by decide, by decide⟩
  · exact request_no_memory complete room

/-- A packet that is pushed gets to the handler of its RPC. -/
theorem request_pushed (made : keptPacket lib data rpc = some packet) (own : rpc ≠ .setDevopState)
    (room : memory.packet = true) (taken : takesPacket packet = true) (work : memory.work = true)
    (queued : memory.queued = true) :
    request lib env memory data rpc =
      (handler env rpc (workPacket rpc packet)).map fun worked => .worked worked.1 worked.2 := by
  have decoded := mapJsonToBinary_packet made room
  obtain ⟨kind, write⟩ := mapJsonToBinary_ok decoded
  have processed := processWork_eq memory kind write own
  rw [request, decoded]
  dsimp only
  rw [processed, if_pos taken, pushCopy_ok work queued]
  dsimp only
  rw [(runWork_eq env kind own).2]

end Ending

/-- There is memory for the packets and the task. -/
def RpcMemory.Suffices (memory : RpcMemory) : Prop := memory.packet = true ∧ memory.work = true ∧ memory.queued = true

/-- Only what its handler does decides how a request ends. -/
theorem wholeOrError_request (lib : JsonC) (env : SysEnv) (memory : RpcMemory) (data : List Byte) {rpc : AsyncRpc}
    {packet : RpcPacket} (complete : Option (List Byte)) (made : keptPacket lib data rpc = some packet)
    (own : rpc ≠ .setDevopState) :
    WholeOrError complete (request lib env memory data rpc) ↔ (RpcMemory.Suffices memory → takesPacket packet = true →
      WholeOrError complete ((handler env rpc (workPacket rpc packet)).map fun worked => .worked worked.1 worked.2)) := by
  constructor
  · rintro ended ⟨room, work, queued⟩ taken
    rw [request_pushed made own room taken work queued] at ended
    exact ended
  · intro handled
    by_cases suffices' : RpcMemory.Suffices memory
    · obtain ⟨room, work, queued⟩ := suffices'
      by_cases taken : takesPacket packet = true
      · rw [request_pushed made own room taken work queued]
        exact handled ⟨room, work, queued⟩ taken
      · exact request_not_pushed complete made own fun all => taken all.1
    · by_cases room : memory.packet = true
      · refine request_not_pushed complete made own ?_
        rintro ⟨_, work, queued⟩
        exact suffices' ⟨room, work, queued⟩
      · exact request_no_memory complete room

/-- A command line of the handlers is whole, or does not fit. -/
theorem wholeOrError_runCmdline (env : SysEnv) (complete : Option (List Byte)) (cmd : List Byte) :
    WholeOrError complete (some (.worked (runCmdline env cmd).1 (runCmdline env cmd).2)) ↔
      complete = some cmd ∨ 512 ≤ cmd.length := by
  unfold runCmdline
  by_cases fits : cmd.length < 512
  · rw [if_pos fits]
    constructor
    · rintro (⟨none, _⟩ | ⟨whole, found, same⟩)
      · cases none
      · cases same
        exact Or.inl found
    · rintro (found | long)
      · exact Or.inr ⟨cmd, found, rfl⟩
      · omega
  · rw [if_neg fits]
    constructor
    · intro _
      exact Or.inr (by omega)
    · intro _
      exact Or.inl ⟨rfl, by decide⟩

/-- A shell command is whole. Under emulation it is left out without an error. -/
theorem wholeOrError_runShellcmd (env : SysEnv) (complete : Option (List Byte)) (cmd : List Byte) :
    WholeOrError complete (some (.worked (processAsyncRunShellcmd env cmd).1 (processAsyncRunShellcmd env cmd).2)) ↔
      complete = some cmd ∧ env.emulation = false := by
  unfold processAsyncRunShellcmd
  cases emulated : env.emulation with
  | true =>
    rw [if_pos rfl]
    constructor
    · rintro (⟨_, failed⟩ | ⟨whole, _, same⟩)
      · exact absurd rfl failed
      · cases same
    · rintro ⟨_, impossible⟩
      cases impossible
  | false =>
    rw [if_neg (by decide)]
    constructor
    · rintro (⟨none, _⟩ | ⟨whole, found, same⟩)
      · cases none
      · cases same
        exact ⟨found, rfl⟩
    · rintro ⟨found, _⟩
      exact Or.inr ⟨cmd, found, rfl⟩

/-! Which command lines are complete. -/

theorem wholeText_of_length {text : List Byte} (same : (keptText text).length = text.length) : WholeText text :=
  keptText_eq_iff.mp ((keptText_start text).eq_of_length same)

/-- The command lines of a shell command. -/
theorem shellcmd_whole (text after : List Byte) : keptText text ++ after = text ++ after ↔ WholeText text := by
  rw [List.append_left_inj, keptText_eq_iff]

/-- The command lines of a firmware update. -/
theorem fmwupdateCmd_whole (env : SysEnv) (fname : List Byte) :
    fmwupdateCmd env (keptText fname) = fmwupdateCmd env fname ↔ WholeText fname := by
  unfold fmwupdateCmd
  by_cases openwrt : openwrtSystem env = true
  · rw [if_pos openwrt, if_pos openwrt, List.append_left_inj, List.append_right_inj, keptText_eq_iff]
  · rw [if_neg openwrt, if_neg openwrt, List.append_right_inj, keptText_eq_iff]

/-- What is left of a file name always makes a command line that fits. -/
theorem fmwupdateCmd_short (env : SysEnv) (fname : List Byte) : (fmwupdateCmd env (keptText fname)).length < 512 := by
  have short := keptText_lt fname
  have bound : paramValueSize = 255 := rfl
  have tool : (ascii "sleep 2;mips-update.sh -u ").length = 26 := by decide
  have result : (ascii " > /tmp/update.result").length = 21 := by decide
  have update : (ascii "update -u ").length = 10 := by decide
  unfold fmwupdateCmd
  by_cases openwrt : openwrtSystem env = true
  · rw [if_pos openwrt, List.length_append, List.length_append]
    omega
  · rw [if_neg openwrt, List.length_append]
    omega

/-- The length of a download's command line, beside its parameters. -/
def downloadWords (env : SysEnv) (tftp : Bool) : Nat :=
  (downloadCmd env tftp { srcurl := [], sourcefilepath := [], targetfilepath := [] }).length

theorem downloadCmd_length (env : SysEnv) (tftp : Bool) (packet : DownloadFilePacket) :
    (downloadCmd env tftp packet).length = downloadWords env tftp + packet.srcurl.length +
      (if tftp = true then packet.sourcefilepath.length else 0) + packet.targetfilepath.length := by
  unfold downloadWords downloadCmd
  by_cases server : tftp = true
  · simp only [if_pos server, List.length_append, List.length_nil]
    omega
  · by_cases board : env.boardType = .glMt300nv2
    · simp only [if_neg server, if_pos board, List.length_append, List.length_nil]
      omega
    · simp only [if_neg server, if_neg board, List.length_append, List.length_nil]
      omega

/-- The command lines of a download by FTP. The lengths of the parameters tell whether they are whole. -/
theorem downloadftpCmd_whole (env : SysEnv) (srcurl target : List Byte) :
    downloadCmd env false { srcurl := keptText srcurl, sourcefilepath := [], targetfilepath := keptText target } =
        downloadCmd env false { srcurl := srcurl, sourcefilepath := [], targetfilepath := target } ↔
      WholeText srcurl ∧ WholeText target := by
  constructor
  · intro same
    have lengths := congrArg List.length same
    rw [downloadCmd_length, downloadCmd_length] at lengths
    have first := keptText_length srcurl
    have last := keptText_length target
    dsimp only at lengths
    rw [if_neg (by decide)] at lengths
    exact ⟨wholeText_of_length (by omega), wholeText_of_length (by omega)⟩
  · rintro ⟨first, last⟩
    rw [keptText_eq_iff.mpr first, keptText_eq_iff.mpr last]

theorem downloadtftpCmd_whole (env : SysEnv) (srcurl source target : List Byte) :
    downloadCmd env true
          { srcurl := keptText srcurl, sourcefilepath := keptText source, targetfilepath := keptText target } =
        downloadCmd env true { srcurl := srcurl, sourcefilepath := source, targetfilepath := target } ↔
      WholeText srcurl ∧ WholeText source ∧ WholeText target := by
  constructor
  · intro same
    have lengths := congrArg List.length same
    rw [downloadCmd_length, downloadCmd_length] at lengths
    have first := keptText_length srcurl
    have middle := keptText_length source
    have last := keptText_length target
    dsimp only at lengths
    rw [if_pos (by decide), if_pos (by decide)] at lengths
    exact ⟨wholeText_of_length (by omega), wholeText_of_length (by omega), wholeText_of_length (by omega)⟩
  · rintro ⟨first, middle, last⟩
    rw [keptText_eq_iff.mpr first, keptText_eq_iff.mpr middle, keptText_eq_iff.mpr last]

/-- The module that updates are for has one name. -/
theorem fmwModule_project (text : List Byte) :
    stringToEnum fmwModuleTable text = some .brboxProject ↔ text = ascii "project" := by
  constructor
  · intro named
    obtain ⟨entry, found, project⟩ := Option.map_eq_some_iff.mp named
    have member := List.mem_of_find?_eq_some found
    have same : entry.2 = text := by simpa using List.find?_some found
    rw [← same]
    have names : ∀ entry ∈ fmwModuleTable, entry.1 = .brboxProject → entry.2 = ascii "project" := by decide +kernel
    exact names entry member project
  · intro same
    rw [same]
    decide +kernel

/-! The requests, one by one. -/

section Requests
variable (lib : JsonC) (env : SysEnv) (memory : RpcMemory) (data : List Byte)

/-- Whether the command of a request is whole, or there is an error. -/
def EndsWhole (rpc : AsyncRpc) : Prop :=
  WholeOrError (completeCommand lib env data rpc) (request lib env memory data rpc)

variable {lib env memory data} in
/-- A shell command that is decoded: its line is the complete one if its text is whole. -/
theorem shellcmd_ends {rpc : AsyncRpc} {text line complete : List Byte}
    (made : keptPacket lib data rpc = some (.shellcmd (keptText text)))
    (asked : completeCommand lib env data rpc = some complete) (own : rpc ≠ .setDevopState)
    (handled : handler env rpc (workPacket rpc (.shellcmd (keptText text))) = some (processAsyncRunShellcmd env line))
    (whole : line = complete ↔ WholeText text) :
    EndsWhole lib env memory data rpc ↔ (RpcMemory.Suffices memory → WholeText text ∧ env.emulation = false) := by
  have ran := wholeOrError_runShellcmd env (some complete) line
  have same : some complete = some line ↔ WholeText text := Option.some_inj.trans (eq_comm.trans whole)
  rw [same] at ran
  unfold EndsWhole
  rw [asked, wholeOrError_request lib env memory data _ made own, handled]
  exact imp_congr_right fun _ => ⟨fun ended => ran.mp (ended rfl), fun all _ => ran.mpr all⟩

theorem runShellcmd_whole :
    EndsWhole lib env memory data .runShellcmd ↔ (RpcMemory.Suffices memory → KeepsParams lib env data .runShellcmd) := by
  unfold KeepsParams
  cases found : paramText lib data (ascii "command") with
  | none =>
    have missing : keptPacket lib data .runShellcmd = none := by rw [keptPacket, found, Option.map_none]
    exact iff_of_true (request_no_packet _ missing) fun _ cmd impossible => by cases impossible
  | some text =>
    have made : keptPacket lib data .runShellcmd = some (.shellcmd (keptText text)) := by
      rw [keptPacket, found, Option.map_some]
    have asked : completeCommand lib env data .runShellcmd = some (text ++ (ascii " > " ++ shellcmdRespFilePath)) := by
      rw [completeCommand, found, Option.map_some, List.append_assoc]
    have handled : handler env .runShellcmd (workPacket .runShellcmd (.shellcmd (keptText text))) =
        some (processAsyncRunShellcmd env (keptText text ++ (ascii " > " ++ shellcmdRespFilePath))) := by
      rw [← List.append_assoc]
      rfl
    rw [shellcmd_ends made asked (by decide) handled (shellcmd_whole text _)]
    refine imp_congr_right fun _ => ⟨fun all cmd same => ?_, fun kept => kept text rfl⟩
    cases same
    exact all

theorem runShellcmdtrig_whole :
    EndsWhole lib env memory data .runShellcmdtrig ↔
      (RpcMemory.Suffices memory → KeepsParams lib env data .runShellcmdtrig) := by
  unfold KeepsParams
  cases found : paramText lib data (ascii "command") with
  | none =>
    have missing : keptPacket lib data .runShellcmdtrig = none := by rw [keptPacket, found, Option.map_none]
    exact iff_of_true (request_no_packet _ missing) fun _ cmd impossible => by cases impossible
  | some text =>
    have made : keptPacket lib data .runShellcmdtrig = some (.shellcmd (keptText text)) := by
      rw [keptPacket, found, Option.map_some]
    have asked : completeCommand lib env data .runShellcmdtrig = some text := by rw [completeCommand, found]
    rw [shellcmd_ends made asked (by decide) rfl keptText_eq_iff]
    refine imp_congr_right fun _ => ⟨fun all cmd same => ?_, fun kept => kept text rfl⟩
    cases same
    exact all

theorem setFmwupdate_whole :
    EndsWhole lib env memory data .setFmwupdate ↔
      (RpcMemory.Suffices memory → KeepsParams lib env data .setFmwupdate) := by
  unfold EndsWhole KeepsParams
  cases foundModule : paramText lib data (ascii "module") with
  | none =>
    have missing : keptPacket lib data .setFmwupdate = none := by
      rw [keptPacket, foundModule]
      rfl
    exact iff_of_true (request_no_packet _ missing) fun _ text fname impossible => by cases impossible
  | some moduleName =>
    cases foundName : paramText lib data (ascii "filepath") with
    | none =>
      have missing : keptPacket lib data .setFmwupdate = none := by
        rw [keptPacket, foundModule, foundName]
        show (stringToEnum fmwModuleTable (keptText moduleName)).bind _ = none
        cases stringToEnum fmwModuleTable (keptText moduleName) <;> rfl
      exact iff_of_true (request_no_packet _ missing) fun _ text fname _ impossible => by cases impossible
    | some fname =>
      cases known : stringToEnum fmwModuleTable (keptText moduleName) with
      | none =>
        have missing : keptPacket lib data .setFmwupdate = none := by
          rw [keptPacket, foundModule, foundName]
          show (stringToEnum fmwModuleTable (keptText moduleName)).bind _ = none
          rw [known]
          rfl
        refine iff_of_true (request_no_packet _ missing) ?_
        intro _ text name sameModule _ project
        cases sameModule
        rw [(fmwModule_project _).mpr project] at known
        cases known
      | some moduleType =>
        have made : keptPacket lib data .setFmwupdate =
            some (.fmwupdate { moduleType := moduleType, cmnFnameVerStr := keptText fname }) := by
          rw [keptPacket, foundModule, foundName]
          show (stringToEnum fmwModuleTable (keptText moduleName)).bind _ = some _
          rw [known]
          rfl
        have complete : completeCommand lib env data .setFmwupdate =
            if moduleName = ascii "project" then some (fmwupdateCmd env fname) else none := by
          rw [completeCommand, foundModule, foundName]
          rfl
        rw [complete, wholeOrError_request lib env memory data _ made (by decide)]
        refine imp_congr_right fun _ => ?_
        have handled := wholeOrError_runCmdline env
          (if moduleName = ascii "project" then some (fmwupdateCmd env fname) else none) (fmwupdateCmd env (keptText fname))
        have fits := fmwupdateCmd_short env fname
        constructor
        · intro ended text name sameModule sameName project
          cases sameModule
          cases sameName
          have type : moduleType = .brboxProject := by
            rw [(fmwModule_project _).mpr project] at known
            exact (Option.some.inj known).symm
          subst type
          rcases handled.mp (ended rfl) with equal | long
          · by_cases named : moduleName = ascii "project"
            · rw [if_pos named] at equal
              rw [← named] at project
              exact ⟨keptText_eq_iff.mp project, (fmwupdateCmd_whole env fname).mp (Option.some.inj equal).symm⟩
            · rw [if_neg named] at equal
              cases equal
          · omega
        · intro kept taken
          have type : moduleType = .brboxProject := of_decide_eq_true taken
          subst type
          have project := (fmwModule_project _).mp known
          obtain ⟨wholeModule, wholeName⟩ := kept moduleName fname rfl rfl project
          have named : moduleName = ascii "project" := by
            rw [← keptText_eq_iff.mpr wholeModule]
            exact project
          refine handled.mpr (Or.inl ?_)
          rw [if_pos named, keptText_eq_iff.mpr wholeName]

variable {lib env memory data} in
/-- A download that is decoded: its command line is the complete one, or it does not fit. -/
theorem download_ends {rpc : AsyncRpc} {tftp : Bool} {kept complete : DownloadFilePacket} {all : Prop}
    (made : keptPacket lib data rpc = some (.downloadFile kept))
    (asked : completeCommand lib env data rpc = some (downloadCmd env tftp complete)) (own : rpc ≠ .setDevopState)
    (handled : handler env rpc (workPacket rpc (.downloadFile kept)) = some (processAsyncDownloadFile env tftp kept))
    (whole : downloadCmd env tftp kept = downloadCmd env tftp complete ↔ all) :
    EndsWhole lib env memory data rpc ↔
      (RpcMemory.Suffices memory → all ∨ 512 ≤ (downloadCmd env tftp kept).length) := by
  have ran := wholeOrError_runCmdline env (some (downloadCmd env tftp complete)) (downloadCmd env tftp kept)
  have same : some (downloadCmd env tftp complete) = some (downloadCmd env tftp kept) ↔ all :=
    Option.some_inj.trans (eq_comm.trans whole)
  rw [same] at ran
  unfold EndsWhole
  rw [asked, wholeOrError_request lib env memory data _ made own, handled]
  exact imp_congr_right fun _ => ⟨fun ended => ran.mp (ended rfl), fun fits _ => ran.mpr fits⟩

theorem setDownloadftp_whole :
    EndsWhole lib env memory data .setDownloadftp ↔
      (RpcMemory.Suffices memory → KeepsParams lib env data .setDownloadftp) := by
  unfold KeepsParams
  cases foundUrl : paramText lib data (ascii "srcaddr") with
  | none =>
    have missing : keptPacket lib data .setDownloadftp = none := by
      rw [keptPacket, foundUrl]
      rfl
    exact iff_of_true (request_no_packet _ missing) fun _ url target impossible => by cases impossible
  | some srcurl =>
    cases foundTarget : paramText lib data (ascii "targetpath") with
    | none =>
      have missing : keptPacket lib data .setDownloadftp = none := by
        rw [keptPacket, foundUrl, foundTarget]
        rfl
      exact iff_of_true (request_no_packet _ missing) fun _ url target _ impossible => by cases impossible
    | some target =>
      have made : keptPacket lib data .setDownloadftp = some (.downloadFile
          { srcurl := keptText srcurl, sourcefilepath := [], targetfilepath := keptText target }) := by
        rw [keptPacket, foundUrl, foundTarget]
        rfl
      have asked : completeCommand lib env data .setDownloadftp = some (downloadCmd env false
          { srcurl := srcurl, sourcefilepath := [], targetfilepath := target }) := by
        rw [completeCommand, foundUrl, foundTarget]
        rfl
      rw [download_ends made asked (by decide) rfl (downloadftpCmd_whole env srcurl target)]
      refine imp_congr_right fun _ => ⟨fun all url path sameUrl samePath => ?_, fun kept => kept srcurl target rfl rfl⟩
      cases sameUrl
      cases samePath
      exact all

theorem setDownloadtftp_whole :
    EndsWhole lib env memory data .setDownloadtftp ↔
      (RpcMemory.Suffices memory → KeepsParams lib env data .setDownloadtftp) := by
  unfold KeepsParams
  cases foundUrl : paramText lib data (ascii "srcaddr") with
  | none =>
    have missing : keptPacket lib data .setDownloadtftp = none := by
      rw [keptPacket, foundUrl]
      rfl
    exact iff_of_true (request_no_packet _ missing) fun _ url source target impossible => by cases impossible
  | some srcurl =>
    cases foundSource : paramText lib data (ascii "srcfile") with
    | none =>
      have missing : keptPacket lib data .setDownloadtftp = none := by
        rw [keptPacket, foundUrl, foundSource]
        rfl
      exact iff_of_true (request_no_packet _ missing) fun _ url source target _ impossible => by cases impossible
    | some source =>
      cases foundTarget : paramText lib data (ascii "targetpath") with
      | none =>
        have missing : keptPacket lib data .setDownloadtftp = none := by
          rw [keptPacket, foundUrl, foundSource, foundTarget]
          rfl
        exact iff_of_true (request_no_packet _ missing) fun _ url source target _ _ impossible => by cases impossible
      | some target =>
        have made : keptPacket lib data .setDownloadtftp = some (.downloadFile
            { srcurl := keptText srcurl, sourcefilepath := keptText source, targetfilepath := keptText target }) := by
          rw [keptPacket, foundUrl, foundSource, foundTarget]
          rfl
        have asked : completeCommand lib env data .setDownloadtftp = some (downloadCmd env true
            { srcurl := srcurl, sourcefilepath := source, targetfilepath := target }) := by
          rw [completeCommand, foundUrl, foundSource, foundTarget]
          rfl
        rw [download_ends made asked (by decide) rfl (downloadtftpCmd_whole env srcurl source target)]
        refine imp_congr_right fun _ => ⟨?_, fun kept => kept srcurl source target rfl rfl rfl⟩
        intro all url file path sameUrl sameFile samePath
        cases sameUrl
        cases sameFile
        cases samePath
        exact all

variable {lib data} in
/-- A download whose parameters are whole keeps them. -/
theorem setDownloadftp_keeps {srcurl target : List Byte} (url : paramText lib data (ascii "srcaddr") = some srcurl)
    (path : paramText lib data (ascii "targetpath") = some target) (wholeUrl : WholeText srcurl)
    (wholePath : WholeText target) :
    KeepsParams lib env data .setDownloadftp := by
  intro otherUrl otherPath foundUrl foundPath
  rw [url] at foundUrl
  rw [path] at foundPath
  cases foundUrl
  cases foundPath
  exact Or.inl ⟨wholeUrl, wholePath⟩

/-- A request that asks for a command line hands over the complete one, or ends with an error, exactly
when the requests that get to their handler keep their parameters. -/
theorem command_whole_or_error (rpc : AsyncRpc) (command : rpc ∈ commandRpcs) :
    WholeOrError (completeCommand lib env data rpc) (request lib env memory data rpc) ↔
      (RpcMemory.Suffices memory → KeepsParams lib env data rpc) := by
  have one : rpc = .runShellcmd ∨ rpc = .runShellcmdtrig ∨ rpc = .setFmwupdate ∨ rpc = .setDownloadftp ∨
      rpc = .setDownloadtftp := by
    simpa [commandRpcs] using command
  rcases one with shell | trigger | update | ftp | tftp
  · rw [shell]
    exact runShellcmd_whole lib env memory data
  · rw [trigger]
    exact runShellcmdtrig_whole lib env memory data
  · rw [update]
    exact setFmwupdate_whole lib env memory data
  · rw [ftp]
    exact setDownloadftp_whole lib env memory data
  · rw [tftp]
    exact setDownloadtftp_whole lib env memory data

end Requests

/-- The FTP download of a short address. -/
def downloadParams : List (List Byte × Json) :=
  [(ascii "srcaddr", .string (ascii "ftp://host/fmw.bin")), (ascii "targetpath", .string (ascii "/tmp/fmw.bin"))]

def downloadLib : JsonC := requestLib (ascii "set_download_ftp") downloadParams

def downloadText : List Byte := requestText (ascii "set_download_ftp") downloadParams

theorem command_whole_or_error_download :
    WholeOrError (completeCommand downloadLib sampleEnv downloadText .setDownloadftp)
      (request downloadLib sampleEnv roomy downloadText .setDownloadftp) := by
  have url : paramText downloadLib downloadText (ascii "srcaddr") = some (ascii "ftp://host/fmw.bin") := by decide +kernel
  have path : paramText downloadLib downloadText (ascii "targetpath") = some (ascii "/tmp/fmw.bin") := by decide +kernel
  have wholeUrl : WholeText (ascii "ftp://host/fmw.bin") := by decide +kernel
  have wholePath : WholeText (ascii "/tmp/fmw.bin") := by decide +kernel
  have kept := setDownloadftp_keeps sampleEnv url path wholeUrl wholePath
  have command : AsyncRpc.setDownloadftp ∈ commandRpcs := by decide
  have whole := command_whole_or_error downloadLib sampleEnv roomy downloadText .setDownloadftp command
  rw [whole]
  exact fun _ => kept

/-- A shell command of 300 bytes. -/
def longCommand : List Byte := ascii "echo " ++ List.replicate 295 0x61

def shellParams : List (List Byte × Json) := [(ascii "command", .string longCommand)]

def shellLib : JsonC := requestLib (ascii "run_shellcmdtrig") shellParams

def shellText : List Byte := requestText (ascii "run_shellcmdtrig") shellParams

/-- Of the long command, a shorter one is run, and the request succeeds. -/
theorem long_command_is_shortened :
    completeCommand shellLib sampleEnv shellText .runShellcmdtrig = some longCommand ∧
      request shellLib sampleEnv roomy shellText .runShellcmdtrig =
        some (.worked .success [ascii "echo " ++ List.replicate 249 0x61]) ∧
      ¬ WholeOrError (completeCommand shellLib sampleEnv shellText .runShellcmdtrig)
        (request shellLib sampleEnv roomy shellText .runShellcmdtrig) := by
  have complete : completeCommand shellLib sampleEnv shellText .runShellcmdtrig = some longCommand := by decide +kernel
  have ended : request shellLib sampleEnv roomy shellText .runShellcmdtrig =
      some (.worked .success [ascii "echo " ++ List.replicate 249 0x61]) := by decide +kernel
  refine ⟨complete, ended, ?_⟩
  rw [complete, ended]
  rintro (⟨none, _⟩ | ⟨cmd, whole, same⟩)
  · cases none
  · have lengths : longCommand.length ≠ (ascii "echo " ++ List.replicate 249 0x61).length := by decide +kernel
    rw [Option.some.inj whole, List.singleton_inj.mp same] at lengths
    exact lengths rfl

end SysRpc
end JsonRpcTcp
