import JsonRpcTcp.SysRpc

namespace JsonRpcTcp
namespace SysRpc

/-! The hand-off of an asynchronous request: from the packet that was decoded to the handler of the
worker thread. -/

/-- The packet that a decoder makes. -/
def Decodes : AsyncRpc → RpcPacket → Prop
  | .setDevOp, .devOp _ => True
  | .setFmwupdate, .fmwupdate _ => True
  | .setDownloadftp, .downloadFile _ => True
  | .setDownloadtftp, .downloadFile _ => True
  | .runShellcmd, .shellcmd cmd => cmd.length < paramValueSize
  | .runShellcmdtrig, .shellcmd cmd => cmd.length < paramValueSize
  | .setDevopState, .devopSts _ => True
  | _, _ => False

/-! Which packet it is, by the RPC. -/

theorem decodes_devOp {packet : RpcPacket} (decoded : Decodes .setDevOp packet) :
    ∃ operation, packet = .devOp operation := by
  cases packet with
  | devOp operation => exact ⟨operation, rfl⟩
  | _ => cases decoded

theorem decodes_fmwupdate {packet : RpcPacket} (decoded : Decodes .setFmwupdate packet) :
    ∃ update, packet = .fmwupdate update := by
  cases packet with
  | fmwupdate update => exact ⟨update, rfl⟩
  | _ => cases decoded

theorem decodes_downloadFile {packet : RpcPacket}
    (decoded : Decodes .setDownloadftp packet ∨ Decodes .setDownloadtftp packet) :
    ∃ download, packet = .downloadFile download := by
  cases packet with
  | downloadFile download => exact ⟨download, rfl⟩
  | _ => cases decoded <;> contradiction

theorem decodes_shellcmd {packet : RpcPacket}
    (decoded : Decodes .runShellcmd packet ∨ Decodes .runShellcmdtrig packet) :
    ∃ cmd, packet = .shellcmd cmd ∧ cmd.length < paramValueSize := by
  cases packet with
  | shellcmd cmd => exact ⟨cmd, rfl, decoded.elim id id⟩
  | _ => cases decoded <;> contradiction

theorem decodes_devopSts {packet : RpcPacket} (decoded : Decodes .setDevopState packet) :
    ∃ status, packet = .devopSts status := by
  cases packet with
  | devopSts status => exact ⟨status, rfl⟩
  | _ => cases decoded

/-- The work packet with the values of a decoded one. A shell command also says where its output goes,
unless it is a trigger. -/
def workPacket : AsyncRpc → RpcPacket → RpcPacket
  | .runShellcmd, .shellcmd cmd => .shellcmd (cmd ++ ascii " > " ++ shellcmdRespFilePath)
  | _, packet => packet

/-- The handler of an RPC, on a packet of the type that it expects. -/
def handler (env : SysEnv) : AsyncRpc → RpcPacket → Option Worked
  | .setDevOp, .devOp operation => some (processAsyncSetDevop env operation)
  | .setFmwupdate, .fmwupdate packet => some (processAsyncSetFmwupdate env packet)
  | .setDownloadftp, .downloadFile packet => some (processAsyncDownloadFile env false packet)
  | .setDownloadtftp, .downloadFile packet => some (processAsyncDownloadFile env true packet)
  | .runShellcmd, .shellcmd cmd => some (processAsyncRunShellcmd env cmd)
  | .runShellcmdtrig, .shellcmd cmd => some (processAsyncRunShellcmd env cmd)
  | .setDevopState, .devopSts _ => some (.success, [])
  | _, _ => none

/-- The work packet keeps the request: it has the decoded values, and the worker runs the handler of
the RPC with it. -/
def KeepsRequest (env : SysEnv) (rpc : AsyncRpc) (packet : RpcPacket) (task : PushedTask) : Prop :=
  task.workData = some (workPacket rpc packet) ∧
    (runWork env task).isSome ∧ runWork env task = handler env rpc (workPacket rpc packet)

instance (env : SysEnv) (rpc : AsyncRpc) (packet : RpcPacket) (task : PushedTask) :
    Decidable (KeepsRequest env rpc packet task) := inferInstanceAs (Decidable (_ ∧ _ ∧ _))

section Decoding
variable {lib : JsonC} {memory : RpcMemory} {data : List Byte}

/-- A request that was prepared has its packet, and is a write. -/
theorem prepareJsonRequest_ok {action : RpcAct} {packet : Option RpcPacket} {req : RpcSrvReq}
    (decoded : prepareJsonRequest memory action packet = .ok req) :
    memory.packet = true ∧ packet = some req.dataRef ∧ req.action = action := by
  unfold prepareJsonRequest at decoded
  by_cases room : memory.packet = true
  · rw [if_pos room] at decoded
    cases found : packet with
    | none =>
      rw [found] at decoded
      cases decoded
    | some inner =>
      rw [found] at decoded
      cases decoded
      exact ⟨room, rfl, rfl⟩
  · rw [if_neg room] at decoded
    cases decoded

theorem shellcmd_short {req : RpcSrvReq} (decoded : jsonToBinRunShellcmd lib memory data = .ok req) :
    ∃ cmd, req.dataRef = .shellcmd cmd ∧ cmd.length < paramValueSize := by
  obtain ⟨room, packet, action⟩ := prepareJsonRequest_ok decoded
  rw [jsonStringToString_eq lib data _ (by decide)] at packet
  obtain ⟨cmd, found, made⟩ := Option.map_eq_some_iff.mp packet
  obtain ⟨text, _, kept⟩ := Option.map_eq_some_iff.mp found
  have short := keptText_lt text
  rw [kept] at short
  exact ⟨cmd, made.symm, short⟩

/-- A decoder makes the packet of its RPC, for a write. -/
theorem mapJsonToBinary_ok {rpc : AsyncRpc} {req : RpcSrvReq}
    (decoded : mapJsonToBinary lib memory data rpc = .ok req) :
    Decodes rpc req.dataRef ∧ req.action = .write := by
  cases rpc with
  | setDevOp =>
    obtain ⟨room, packet, action⟩ := prepareJsonRequest_ok decoded
    obtain ⟨operation, found, made⟩ := Option.map_eq_some_iff.mp packet
    rw [← made]
    exact ⟨trivial, action⟩
  | setFmwupdate =>
    obtain ⟨room, packet, action⟩ := prepareJsonRequest_ok decoded
    obtain ⟨moduleType, found, rest⟩ := Option.bind_eq_some_iff.mp packet
    obtain ⟨fname, found, made⟩ := Option.bind_eq_some_iff.mp rest
    rw [← Option.some.inj made]
    exact ⟨trivial, action⟩
  | setDownloadftp =>
    obtain ⟨room, packet, action⟩ := prepareJsonRequest_ok decoded
    obtain ⟨srcurl, found, rest⟩ := Option.bind_eq_some_iff.mp packet
    obtain ⟨target, found, made⟩ := Option.bind_eq_some_iff.mp rest
    rw [← Option.some.inj made]
    exact ⟨trivial, action⟩
  | setDownloadtftp =>
    obtain ⟨room, packet, action⟩ := prepareJsonRequest_ok decoded
    obtain ⟨srcurl, found, rest⟩ := Option.bind_eq_some_iff.mp packet
    obtain ⟨source, found, rest⟩ := Option.bind_eq_some_iff.mp rest
    obtain ⟨target, found, made⟩ := Option.bind_eq_some_iff.mp rest
    rw [← Option.some.inj made]
    exact ⟨trivial, action⟩
  | runShellcmd =>
    have action := (prepareJsonRequest_ok decoded).2.2
    obtain ⟨cmd, made, short⟩ := shellcmd_short decoded
    rw [made]
    exact ⟨short, action⟩
  | runShellcmdtrig =>
    have action := (prepareJsonRequest_ok decoded).2.2
    obtain ⟨cmd, made, short⟩ := shellcmd_short decoded
    rw [made]
    exact ⟨short, action⟩
  | setDevopState =>
    obtain ⟨room, packet, action⟩ := prepareJsonRequest_ok decoded
    obtain ⟨status, found, made⟩ := Option.map_eq_some_iff.mp packet
    rw [← made]
    exact ⟨trivial, action⟩

end Decoding

section Pushing
variable {memory : RpcMemory}

/-- The task of an RPC of the service. -/
def asyncTask (cmd : SysmgrRpc) (work : RpcPacket) : PushedTask :=
  { workCmd := cmd.ctorIdx + rpcgmgrCmdEnd, workData := some work }

/-- The command of the task of an RPC: both shell commands use one. -/
def taskCmd : AsyncRpc → SysmgrRpc
  | .setDevOp => .setDevOp
  | .setFmwupdate => .setFmwupdate
  | .setDownloadftp => .setDownloadftp
  | .setDownloadtftp => .setDownloadtftp
  | .runShellcmd | .runShellcmdtrig | .setDevopState => .runShellcmd

/-- Whether the process function takes the packet. -/
def takesPacket : RpcPacket → Bool
  | .fmwupdate packet => packet.moduleType = .brboxProject
  | _ => true

theorem pushCopy_ok (roomy : memory.work = true) (queued : memory.queued = true) (cmd : SysmgrRpc) (work : RpcPacket) :
    pushCopy memory cmd work = (.inProg, some (asyncTask cmd work)) := by
  rw [pushCopy, if_pos roomy, pushAsyncTask, if_pos queued, asyncTask]

/-- A copy that cannot be pushed is an error. -/
theorem pushCopy_refused (full : ¬ (memory.work = true ∧ memory.queued = true)) (cmd : SysmgrRpc) (work : RpcPacket) :
    ∃ result, pushCopy memory cmd work = (result, none) ∧ result ≠ .success ∧ result ≠ .inProg := by
  unfold pushCopy pushAsyncTask
  by_cases roomy : memory.work = true
  · have blocked : ¬ memory.queued = true := fun queued => full ⟨roomy, queued⟩
    rw [if_pos roomy, if_neg blocked]
    exact ⟨_, rfl, by decide, by decide⟩
  · rw [if_neg roomy]
    exact ⟨_, rfl, by decide, by decide⟩

/-- The redirection fits behind a command that was decoded. -/
theorem redirected_short {cmd : List Byte} (short : cmd.length < paramValueSize) :
    (cmd ++ ascii " > " ++ shellcmdRespFilePath).length < 1024 := by
  have arrow : (ascii " > ").length = 3 := by decide
  have path : shellcmdRespFilePath.length = 18 := by decide
  have bound : paramValueSize = 255 := rfl
  rw [List.length_append, List.length_append]
  omega

/-- The shell commands are pushed as the copies of the others are. -/
theorem processRunShellcmd_eq (rpc : SysmgrRpc) {cmd : List Byte} {req : RpcSrvReq}
    (packet : req.dataRef = .shellcmd cmd) (short : cmd.length < paramValueSize) :
    processRunShellcmd memory rpc req = some (pushCopy memory .runShellcmd
      (.shellcmd (if rpc ≠ .runShellcmdtrig then cmd ++ ascii " > " ++ shellcmdRespFilePath else cmd))) := by
  have bound : paramValueSize = 255 := rfl
  have fits : (if rpc ≠ .runShellcmdtrig then cmd ++ ascii " > " ++ shellcmdRespFilePath else cmd).length < 1024 := by
    by_cases trigger : rpc ≠ .runShellcmdtrig
    · rw [if_pos trigger]
      exact redirected_short short
    · rw [if_neg trigger]
      omega
  unfold processRunShellcmd
  rw [packet]
  dsimp only
  rw [if_pos fits, pushCopy]
  by_cases roomy : memory.work = true
  · rw [if_pos roomy, if_neg (fun other => other roomy)]
  · rw [if_neg roomy, if_pos roomy]

/-- An RPC of the service pushes a copy of what was decoded, or refuses the packet. -/
theorem processWork_eq (memory : RpcMemory) {rpc : AsyncRpc} {req : RpcSrvReq} (decoded : Decodes rpc req.dataRef)
    (write : req.action = .write) (own : rpc ≠ .setDevopState) :
    processWork memory rpc req = some (if takesPacket req.dataRef
      then pushCopy memory (taskCmd rpc) (workPacket rpc req.dataRef) else (.argError, none)) := by
  have allowed : ¬ req.action ≠ .write := fun other => other write
  cases rpc with
  | setDevOp =>
    obtain ⟨operation, kind⟩ := decodes_devOp decoded
    simp only [processWork, processSetDevop, kind, if_neg allowed, takesPacket, ite_true, taskCmd, workPacket]
  | setFmwupdate =>
    obtain ⟨update, kind⟩ := decodes_fmwupdate decoded
    simp only [processWork, processSetFmwupdate, kind, if_neg allowed, takesPacket, decide_eq_true_eq, taskCmd,
      workPacket, ne_eq, ite_not]
  | setDownloadftp =>
    obtain ⟨download, kind⟩ := decodes_downloadFile (.inl decoded)
    simp only [processWork, processDownloadFile, kind, takesPacket, ite_true, taskCmd, workPacket]
  | setDownloadtftp =>
    obtain ⟨download, kind⟩ := decodes_downloadFile (.inr decoded)
    simp only [processWork, processDownloadFile, kind, takesPacket, ite_true, taskCmd, workPacket]
  | runShellcmd =>
    obtain ⟨cmd, kind, short⟩ := decodes_shellcmd (.inl decoded)
    have pushed : processRunShellcmd memory .runShellcmd req = some (pushCopy memory .runShellcmd (.shellcmd _)) :=
      processRunShellcmd_eq .runShellcmd kind short
    rw [if_pos (by decide)] at pushed
    rw [kind, if_pos (show takesPacket (.shellcmd cmd) = true from rfl)]
    exact pushed
  | runShellcmdtrig =>
    obtain ⟨cmd, kind, short⟩ := decodes_shellcmd (.inr decoded)
    have pushed : processRunShellcmd memory .runShellcmdtrig req = some (pushCopy memory .runShellcmd (.shellcmd _)) :=
      processRunShellcmd_eq .runShellcmdtrig kind short
    rw [if_neg (by decide)] at pushed
    rw [kind, if_pos (show takesPacket (.shellcmd cmd) = true from rfl)]
    exact pushed
  | setDevopState => exact absurd rfl own

/-- Whatever an RPC of the service pushes is a copy of what was decoded. -/
theorem pushed_eq {rpc : AsyncRpc} {req : RpcSrvReq} {result : RpcResult} {task : PushedTask}
    (decoded : Decodes rpc req.dataRef) (write : req.action = .write) (own : rpc ≠ .setDevopState)
    (pushed : processWork memory rpc req = some (result, some task)) :
    takesPacket req.dataRef = true ∧ task = asyncTask (taskCmd rpc) (workPacket rpc req.dataRef) := by
  rw [processWork_eq memory decoded write own] at pushed
  have outcome := Option.some.inj pushed
  by_cases taken : takesPacket req.dataRef = true
  · rw [if_pos taken] at outcome
    by_cases room : memory.work = true ∧ memory.queued = true
    · rw [pushCopy_ok room.1 room.2] at outcome
      have same := congrArg Prod.snd outcome
      exact ⟨taken, (Option.some.inj same).symm⟩
    · obtain ⟨other, refused, _⟩ := pushCopy_refused room (taskCmd rpc) (workPacket rpc req.dataRef)
      rw [refused] at outcome
      have none := congrArg Prod.snd outcome
      cases none
  · rw [if_neg taken] at outcome
    have none := congrArg Prod.snd outcome
    cases none

end Pushing

section Working
variable (env : SysEnv)

/-- The worker finds a handler of the service by the number of the command. -/
theorem asyncTaskWork_sysRpc {number : Nat} (work : Option RpcPacket) (place : rpclist[number]? = some .sysRpc) :
    asyncTaskWork env (number + rpcgmgrCmdEnd) work = processWorkAsync env number work := by
  have back : number + rpcgmgrCmdEnd - rpcgmgrCmdEnd = number := by omega
  unfold asyncTaskWork
  rw [back, place]

theorem runWork_asyncTask {cmd : SysmgrRpc} (work : RpcPacket) (place : rpclist[cmd.ctorIdx]? = some .sysRpc) :
    runWork env (asyncTask cmd work) = processWorkAsync env cmd.ctorIdx (some work) := by
  have service : cmd.ctorIdx + rpcgmgrCmdEnd ≥ rpcgmgrCmdEnd := by omega
  rw [← asyncTaskWork_sysRpc env (some work) place]
  unfold runWork
  exact if_pos service

/-- The worker runs the handler of the RPC. -/
theorem runWork_eq {rpc : AsyncRpc} {packet : RpcPacket} (decoded : Decodes rpc packet) (own : rpc ≠ .setDevopState) :
    (runWork env (asyncTask (taskCmd rpc) (workPacket rpc packet))).isSome ∧
      runWork env (asyncTask (taskCmd rpc) (workPacket rpc packet)) = handler env rpc (workPacket rpc packet) := by
  have service : rpclist[(taskCmd rpc).ctorIdx]? = some .sysRpc := by cases rpc <;> rfl
  rw [runWork_asyncTask env _ service]
  cases rpc with
  | setDevOp =>
    obtain ⟨operation, rfl⟩ := decodes_devOp decoded
    exact ⟨rfl, rfl⟩
  | setFmwupdate =>
    obtain ⟨update, rfl⟩ := decodes_fmwupdate decoded
    exact ⟨rfl, rfl⟩
  | setDownloadftp =>
    obtain ⟨download, rfl⟩ := decodes_downloadFile (.inl decoded)
    exact ⟨rfl, rfl⟩
  | setDownloadtftp =>
    obtain ⟨download, rfl⟩ := decodes_downloadFile (.inr decoded)
    exact ⟨rfl, rfl⟩
  | runShellcmd =>
    obtain ⟨cmd, rfl, _⟩ := decodes_shellcmd (.inl decoded)
    exact ⟨rfl, rfl⟩
  | runShellcmdtrig =>
    obtain ⟨cmd, rfl, _⟩ := decodes_shellcmd (.inr decoded)
    exact ⟨rfl, rfl⟩
  | setDevopState => exact absurd rfl own

end Working

/-- The task of a `set_devop_state` never has the status that was asked for. -/
theorem processSetDevopState_loses {memory : RpcMemory} {req : RpcSrvReq} {result : RpcResult} {task : PushedTask}
    {status : DevopState} (packet : req.dataRef = .devopSts status)
    (pushed : processSetDevopState memory req = some (result, some task)) :
    task.workData ≠ some (.devopSts status) := by
  unfold processSetDevopState at pushed
  rw [packet] at pushed
  have outcome := Option.some.inj pushed
  by_cases queued : memory.queued = true
  · rw [if_pos queued] at outcome
    have same := Option.some.inj (congrArg Prod.snd outcome)
    rw [← same]
    by_cases roomy : memory.work = true
    · rw [if_pos roomy]
      exact fun equal => by cases equal
    · rw [if_neg roomy]
      exact fun equal => by cases equal
  · rw [if_neg queued] at outcome
    have none := congrArg Prod.snd outcome
    cases none

/-- The work packet of a request that was decoded and pushed keeps it, for each RPC but
`set_devop_state`. -/
theorem hand_off_keeps_request (lib : JsonC) (env : SysEnv) (memory : RpcMemory) (data : List Byte) (rpc : AsyncRpc)
    (req : RpcSrvReq) (result : RpcResult) (task : PushedTask) (decoded : mapJsonToBinary lib memory data rpc = .ok req)
    (pushed : processWork memory rpc req = some (result, some task)) :
    KeepsRequest env rpc req.dataRef task ↔ rpc ≠ .setDevopState := by
  obtain ⟨made, write⟩ := mapJsonToBinary_ok decoded
  constructor
  · rintro ⟨kept, _⟩ state
    subst state
    obtain ⟨status, kind⟩ := decodes_devopSts made
    rw [kind] at kept
    exact processSetDevopState_loses kind pushed kept
  · intro own
    obtain ⟨_, same⟩ := pushed_eq made write own pushed
    rw [same]
    exact ⟨rfl, runWork_eq env made own⟩

/-- There is memory for everything. -/
def roomy : RpcMemory := { packet := true, work := true, queued := true }

/-- A device on which every command line succeeds. -/
def sampleEnv : SysEnv where
  boardType := .raspi3
  syscfgType := .none
  emulation := false
  system := fun _ => 0
  loglistUpdate := .success
  devident := .success

/-- A reboot that is asked for reaches its handler. -/
def rebootParams : List (List Byte × Json) := [(ascii "operation", .string (ascii "reboot"))]

theorem hand_off_keeps_request_reboot :
    KeepsRequest sampleEnv .setDevOp (.devOp .reboot) (asyncTask .setDevOp (.devOp .reboot)) :=
  (hand_off_keeps_request (requestLib (ascii "set_device_operation") rebootParams) sampleEnv roomy
    (requestText (ascii "set_device_operation") rebootParams) .setDevOp { action := .write, dataRef := .devOp .reboot } .inProg
    (asyncTask .setDevOp (.devOp .reboot)) (by decide +kernel) (by decide +kernel)).mpr (by decide)

/-- The state `on` that is asked for does not. -/
def devopStateParams : List (List Byte × Json) := [(ascii "status", .string (ascii "on"))]

theorem set_devop_state_forgets_status :
    mapJsonToBinary (requestLib (ascii "set_devop_state") devopStateParams) roomy
        (requestText (ascii "set_devop_state") devopStateParams) .setDevopState =
      .ok { action := .write, dataRef := .devopSts .on } ∧
    processWork roomy .setDevopState { action := .write, dataRef := .devopSts .on } =
      some (.inProg, some { workCmd := 17, workData := some .taskSts }) ∧
    ¬ KeepsRequest sampleEnv .setDevopState (.devopSts .on) { workCmd := 17, workData := some .taskSts } := by
  refine ⟨?_, ?_, ?_⟩
  · decide +kernel
  · decide
  · rintro ⟨kept, _⟩
    cases kept

end SysRpc
end JsonRpcTcp
