import JsonRpcTcp.AliasUse
import JsonRpcTcp.XmppSubscriptions

namespace JsonRpcTcp
open TextStream

/-! Commands whose arguments are dollar signs and names. -/

namespace XmppMgr

/-- The commands that act on one buddy, whose name has no blanks. -/
def buddyCmds : List XmppCmd := [.buddyAdd, .buddyRemove, .buddySubscribe, .buddyUnsubscribe]

/-- The commands whose handlers call `xpandarg`. -/
def xpandargCmds : List XmppCmd :=
  [.smsGet, .smsSend, .fmwHostname, .gpio, .dialVoice, .dialUssd, .gpioEventNotify, .sleep, .botname, .sonoff,
   .dispprint, .dispbklt, .relayMessage] ++ buddyCmds

/-- The commands with a word, and with the rest of the line, as their second argument. -/
def wordCmds : List XmppCmd := [.gpio, .gpioEventNotify, .sonoff]
def lineCmds : List XmppCmd := [.dispprint, .relayMessage]

/-- What a command does with two texts as its arguments. Whether there is a second one is
seen in `tail`, the rest of the message. -/
def actOn (m : XmppMgr) (env : XmppEnv) (sender : List Byte) (cmd : XmppCmd) (tail text second : List Byte) :
    CmdReply :=
  let word := (readWord (.ofText tail)).1
  let line := (readLine (.ofText tail)).1
  let forAdmin := fun reply : CmdReply => if !m.xmppProxy.isAdminUser sender then m.done .actionNotAllowed else reply
  match cmd with
  | .smsGet => m.readText env ⟨portBboxsms, "get_sms", [.int "index" (atoi text)], ["message"]⟩
  | .smsSend =>
    if line = [] then m.done .argError
    else m.startTask env ⟨portBboxsms, "send_sms",
      [.text "destination" (cString text), .text "message" (cString second)], ["taskId"]⟩ sender
  | .fmwHostname =>
    if text = [] then m.procCmdFmwGetHostname env
    else m.trigger env ⟨portSysmgr, "set_hostname", [.text "hostname" (cString text)], []⟩
  | .gpio =>
    if word = [] then m.readText env ⟨portGpioctl, "gpio_get", [.int "addr" (atoi text)], ["data"]⟩
    else m.trigger env
      ⟨portGpioctl, "gpio_set", [.int "addr" (atoi text), .int "data" (atoi second)], []⟩
  | .dialVoice =>
    m.startTask env ⟨portBboxsms, "dial_voice", [.text "destination" (cString text)], ["taskId"]⟩ sender
  | .dialUssd =>
    m.startTask env ⟨portBboxsms, "dial_ussd", [.text "destination" (cString text)], ["taskId"]⟩ sender
  | .gpioEventNotify =>
    m.accessEvent sender .gpio (atoi text) (if word = [] then none else some second)
  | .sleep => m.done .success
  | .botname =>
    { m with xmppBotName := text, botNameFile := m.botNameFile.map fun _ => text ++ [newline] }.done .success
  | .sonoff =>
    match env.hostnameToIp (cString text) with
    | none => m.done .fail
    | some ip =>
      if word = [] then m.sonoffRequest env ip .getState SonoffState.text
      else if second = ascii "on" then m.sonoffRequest env ip .setOn fun _ => []
      else if second = ascii "off" then m.sonoffRequest env ip .setOff fun _ => []
      else if second = ascii "toggle" then m.sonoffRequest env ip .setToggle fun _ => []
      else m.done .argError
  | .dispprint =>
    if line = [] then m.readText env ⟨portSysmgr, "display_print", [.int "line" (atoi text)], ["msg"]⟩
    else m.trigger env
      ⟨portSysmgr, "display_print", [.text "line" (cString text), .text "msg" (cString second)], []⟩
  | .dispbklt => m.trigger env ⟨portSysmgr, "display_backlight_set", [.text "status" (cString text)], []⟩
  | .buddyAdd => forAdmin ({ m with xmppProxy := m.xmppProxy.acceptBuddy text }.done .success)
  | .buddyRemove => forAdmin
    (match m.xmppProxy.removeBuddy text with
    | some proxy => { m with xmppProxy := proxy }.done .success
    | none => m.done .itemNotFound)
  | .buddySubscribe => forAdmin ((m.note (.subscribe text)).done .success)
  | .buddyUnsubscribe => forAdmin ((m.note (.unsubscribe text)).done .success)
  | .relayMessage => forAdmin
    (if line = [] then m.done .argError else m.procCmdSendMessage env text second)
  | _ => m.done .unknownCommand

/-- The `sec` of `proc_cmd_sleep`. -/
def sleepSeconds (m : XmppMgr) (msg : List Byte) : Int32 := atoi (m.xpandarg (twoWords msg).2)

/-- The text that the handler of a command goes on with. -/
def actedArg (m : XmppMgr) (cmd : XmppCmd) (msg : List Byte) : List Byte :=
  if cmd ∈ buddyCmds then (m.xpandarg (wordAndLine msg).2).filter fun c => c ≠ space
  else if cmd = .botname then m.xpandarg (wordAndLine msg).2
  -- the argument is only expanded for the test whether there is one
  else if cmd = .fmwHostname then if m.xpandarg (twoWords msg).2 = [] then [] else (twoWords msg).2
  else m.xpandarg (twoWords msg).2

/-- The text that it goes on with as its second argument. -/
def actedSecond (m : XmppMgr) (cmd : XmppCmd) (msg : List Byte) : List Byte :=
  if cmd ∈ wordCmds then m.xpandarg (threeWords msg).2.2
  else if cmd ∈ lineCmds then m.xpandarg (twoWordsAndLine msg).2.2
  else if cmd = .smsSend then m.xpandargs (twoWordsAndLine msg).2.2
  else []

/-- A text up to its first line break. -/
def firstLine (text : List Byte) : List Byte := text.takeWhile fun c => c ≠ newline

/-- The value of an alias, or its name when there is none. -/
def aliasValue (m : XmppMgr) (name : List Byte) : List Byte := (m.aliasList.find name).getD name

/-- What an argument means: behind a dollar sign stands the name of an alias. -/
def meant (m : XmppMgr) : List Byte → List Byte
  | [] => []
  | c :: name => if c = dollar then m.aliasValue name else c :: name

/-- What the rest of a line means, whose first byte that is not blank may be a dollar sign. -/
def meantLine (m : XmppMgr) (line : List Byte) : List Byte :=
  let text := line.dropWhile isSpaceByte
  if text.head? = some dollar then m.meant text else line

/-- The text that a command is to act on. -/
def wantedArg (m : XmppMgr) (cmd : XmppCmd) (first : List Byte) : List Byte :=
  if cmd ∈ buddyCmds then (m.meant first).filter fun c => c ≠ space else m.meant first

/-- The text that it is to act on as its second argument. The text of an SMS is made of its
words, each of which can be an alias. -/
def wantedSecond (m : XmppMgr) (cmd : XmppCmd) (tail : List Byte) : List Byte :=
  if cmd ∈ wordCmds then m.meant (readWord (.ofText tail)).1
  else if cmd ∈ lineCmds then m.meantLine (firstLine tail)
  else if cmd = .smsSend then (words isSpaceByte (firstLine tail)).flatMap fun word => m.meant word ++ [space]
  else []

/-- A command with a word as its argument, and what follows it. -/
def argMessage (row : XmproxyCmdRow) (first tail : List Byte) : List Byte :=
  ascii row.cmdName ++ ([space] ++ (first ++ tail))

/-- A command is executed alone, and acts on two texts. -/
structure ActsOn (m : XmppMgr) (cmd : XmppCmd) (msg tail text second : List Byte) : Prop where
  alone : subCommands m.aliasList msg = [msg]
  argument : m.actedArg cmd msg = text
  behind : m.actedSecond cmd msg = second
  reply : ∀ env sender, m.runCommand env msg sender = m.actOn env sender cmd tail text second
  pause : cmd = .sleep → m.sleepSeconds msg = atoi text

/-! The arguments, as the handlers read them. -/

/-- A word in lower case without blanks, and what follows it in a message. -/
structure Argument (first tail : List Byte) : Prop where
  plain : PlainName first
  lowered : lower first = first
  apart : ∀ c ∈ tail.head?, isSpaceByte c = true
  loweredTail : lower tail = tail

variable {m : XmppMgr} {row : XmproxyCmdRow} {first tail : List Byte}

def isLetter (c : Byte) : Bool := 0x61 ≤ c && c ≤ 0x7a

theorem cmdNames_letters : ∀ row ∈ xmproxyCmdTable,
    ascii row.cmdName ≠ [] ∧ (ascii row.cmdName).all isLetter = true := by
  decide +kernel

theorem letter_bounds {c : Byte} (letter : isLetter c = true) : 97 ≤ c.toNat ∧ c.toNat ≤ 122 := by
  unfold isLetter at letter
  rw [Bool.and_eq_true, decide_eq_true_iff, decide_eq_true_iff, UInt8.le_iff_toNat_le, UInt8.le_iff_toNat_le] at letter
  exact letter

theorem letter_plain {c : Byte} (letter : isLetter c = true) : isSpaceByte c = false ∧ toLower c = c := by
  have bounds := letter_bounds letter
  have apart : ∀ {other : Byte}, other.toNat < 97 → c ≠ other := by
    rintro other small rfl
    omega
  have above : ∀ {other : Byte}, other.toNat < 97 → ¬ c ≤ other := by
    intro other small below
    rw [UInt8.le_iff_toNat_le] at below
    omega
  have notSpace : isSpaceByte c = false := by
    unfold isSpaceByte
    rw [Bool.or_eq_false_iff, Bool.and_eq_false_iff]
    exact ⟨beq_eq_false_iff_ne.mpr (apart (by decide)), .inr (decide_eq_false (above (by decide)))⟩
  have lowered : toLower c = c := if_neg fun upper => above (by decide) upper.2
  exact ⟨notSpace, lowered⟩

theorem cmdName_plain (listed : row ∈ xmproxyCmdTable) : PlainName (ascii row.cmdName) where
  nonempty := (cmdNames_letters row listed).1
  plain := fun c member => (letter_plain (List.all_eq_true.mp (cmdNames_letters row listed).2 c member)).1

theorem lower_cmdName (listed : row ∈ xmproxyCmdTable) : lower (ascii row.cmdName) = ascii row.cmdName := by
  refine (List.map_congr_left fun c member => ?_).trans (List.map_id _)
  exact (letter_plain (List.all_eq_true.mp (cmdNames_letters row listed).2 c member)).2

theorem cmdNames_unique : ∀ row ∈ xmproxyCmdTable, ∀ other ∈ xmproxyCmdTable,
    ascii other.cmdName = ascii row.cmdName → other = row := by decide +kernel

/-- The first word of a message, and the stream behind it. -/
theorem word_first (listed : row ∈ xmproxyCmdTable) {rest : List Byte}
    (apart : ∀ c ∈ rest.head?, isSpaceByte c = true) :
    readWord (.ofText (ascii row.cmdName ++ rest)) = (ascii row.cmdName, ⟨rest, rest.isEmpty, false⟩) := by
  have plain := cmdName_plain listed
  exact word_split (fun c member => absurd member List.not_mem_nil) plain.nonempty plain.plain apart

/-- A command is found by its name. -/
theorem resolveCmdStr_row (listed : row ∈ xmproxyCmdTable) (enabled : m.cmdsts row.cmd = true) {msg : List Byte}
    (first : lower (readWord (.ofText msg)).1 = ascii row.cmdName) : m.resolveCmdStr msg = row.cmd := by
  unfold resolveCmdStr
  dsimp only
  rw [first]
  cases found : xmproxyCmdTable.find? fun other => m.cmdsts other.cmd ∧ ascii row.cmdName = ascii other.cmdName with
  | none =>
    have missing := List.find?_eq_none.mp found row listed
    simp [enabled] at missing
  | some other =>
    have same : m.cmdsts other.cmd ∧ ascii row.cmdName = ascii other.cmdName := by simpa using List.find?_some found
    rw [cmdNames_unique row listed other (List.mem_of_find?_eq_some found) same.2.symm]

/-- A disabled command is not found. -/
theorem resolveCmdStr_disabled (listed : row ∈ xmproxyCmdTable) (disabled : m.cmdsts row.cmd = false) {msg : List Byte}
    (named : lower (readWord (.ofText msg)).1 = ascii row.cmdName) : m.resolveCmdStr msg = .unknown := by
  unfold resolveCmdStr
  dsimp only
  rw [named]
  cases found : xmproxyCmdTable.find? fun other => m.cmdsts other.cmd ∧ ascii row.cmdName = ascii other.cmdName with
  | none => rfl
  | some other =>
    have same : m.cmdsts other.cmd ∧ ascii row.cmdName = ascii other.cmdName := by simpa using List.find?_some found
    have isRow := cmdNames_unique row listed other (List.mem_of_find?_eq_some found) same.2.symm
    rw [isRow, disabled] at same
    exact Bool.noConfusion same.1

theorem word_message (listed : row ∈ xmproxyCmdTable) (first tail : List Byte) :
    readWord (.ofText (argMessage row first tail)) = (ascii row.cmdName, ⟨[space] ++ (first ++ tail), false, false⟩) := by
  have apart : ∀ c ∈ ([space] ++ (first ++ tail)).head?, isSpaceByte c = true := by
    intro c front
    cases front
    rfl
  exact word_first listed apart

theorem word_argument (argument : Argument first tail) : readWord ⟨[space] ++ (first ++ tail), false, false⟩ =
    (first, ⟨tail, tail.isEmpty, false⟩) := by
  have blank : ∀ c ∈ [space], isSpaceByte c = true := by decide +kernel
  exact word_split blank argument.plain.nonempty argument.plain.plain argument.apart

theorem firstLine_getline (text : List Byte) : (readLine (.ofText text)).1 = firstLine text := by
  have isGood : (ofText text).good = true := rfl
  unfold readLine getline
  rw [if_pos isGood]
  dsimp only
  split
  · rfl
  · rfl

/-- At its end a stream gives nothing, whether it was read before or not. -/
theorem read_tail (tail : List Byte) :
    (readWord ⟨tail, tail.isEmpty, false⟩).1 = (readWord (.ofText tail)).1 ∧
      (readLine ⟨tail, tail.isEmpty, false⟩).1 = (readLine (.ofText tail)).1 := by
  cases tail with
  | nil => exact ⟨rfl, rfl⟩
  | cons c rest => exact ⟨rfl, rfl⟩

section Message
variable (listed : row ∈ xmproxyCmdTable) (argument : Argument first tail)
include listed argument

theorem threeWords_message : threeWords (argMessage row first tail) =
    (ascii row.cmdName, first, (readWord (.ofText tail)).1) := by
  unfold threeWords
  dsimp only
  rw [word_message listed, word_argument argument, (read_tail tail).1]

theorem twoWords_message : twoWords (argMessage row first tail) = (ascii row.cmdName, first) := by
  unfold twoWords
  rw [threeWords_message listed argument]

theorem twoWordsAndLine_message : twoWordsAndLine (argMessage row first tail) =
    (ascii row.cmdName, first, (readLine (.ofText tail)).1) := by
  unfold twoWordsAndLine
  dsimp only
  rw [word_message listed, word_argument argument, (read_tail tail).2]

end Message

/-- The rest of a line starts with the blank behind the command. -/
theorem wordAndLine_message (listed : row ∈ xmproxyCmdTable) (argument : Argument first []) :
    wordAndLine (argMessage row first []) = (ascii row.cmdName, [space] ++ first) := by
  have single : newline ∉ [space] ++ (first ++ []) := by
    have inFirst : newline ∉ first := fun member =>
      Bool.noConfusion ((argument.plain.plain newline member).symm.trans (by decide : isSpaceByte newline = true))
    have blank : newline ≠ space := by decide
    simp [blank, inFirst]
  have read : readLine ⟨[space] ++ (first ++ []), false, false⟩ =
      ([space] ++ (first ++ []), ⟨[], true, false⟩) := getline_last single
  unfold wordAndLine
  dsimp only
  rw [word_message listed, read, List.append_nil]

/-! What `xpandarg` makes of the arguments. -/

theorem xpandarg_meant {text : List Byte} (lowered : lower text = text) : m.xpandarg text = m.meant text := by
  cases text with
  | nil => rfl
  | cons c name =>
    have name_lowered : lower name = name := (List.cons.inj lowered).2
    show (if c = dollar then (m.aliasList.find (lower name)).getD (lower name) else c :: name) =
      if c = dollar then m.aliasValue name else c :: name
    rw [name_lowered]
    rfl

/-- The dollar sign is only looked for at the front. -/
theorem xpandarg_plain {text : List Byte} (noDollar : text.head? ≠ some dollar) : m.xpandarg text = text := by
  cases text with
  | nil => rfl
  | cons c rest =>
    have other : ¬ c = dollar := fun same => noDollar (congrArg some same)
    show (if c = dollar then (m.aliasList.find (lower rest)).getD (lower rest) else c :: rest) = c :: rest
    rw [if_neg other]

theorem xpandarg_space (text : List Byte) : m.xpandarg ([space] ++ text) = [space] ++ text := by
  have other : ([space] ++ text).head? ≠ some dollar := by
    rw [List.singleton_append, List.head?_cons]
    decide
  exact xpandarg_plain other

/-- The bytes of a text in lower case are all in lower case. -/
theorem lower_part {part text : List Byte} (lowered : lower text = text) (inside : ∀ c ∈ part, c ∈ text) :
    lower part = part := by
  refine (List.map_congr_left fun c member => ?_).trans (List.map_id part)
  exact List.map_inj_left.mp (lowered.trans (List.map_id text).symm) c (inside c member)

theorem filter_space (argument : Argument first tail) : (([space] ++ first).filter fun c => c ≠ space) = first := by
  have kept : (first.filter fun c => c ≠ space) = first := by
    refine List.filter_eq_self.mpr fun c member => decide_eq_true ?_
    rintro rfl
    exact Bool.noConfusion ((argument.plain.plain space member).symm.trans (by decide : isSpaceByte space = true))
  rw [List.singleton_append, List.filter_cons_of_neg (by decide), kept]

theorem actedArg_word (listed : row ∈ xmproxyCmdTable) (argument : Argument first tail) {cmd : XmppCmd}
    (noBuddy : cmd ∉ buddyCmds) (noBotname : cmd ≠ .botname) (noHostname : cmd ≠ .fmwHostname) :
    m.actedArg cmd (argMessage row first tail) = m.xpandarg first := by
  unfold actedArg
  rw [if_neg noBuddy, if_neg noBotname, if_neg noHostname, twoWords_message listed argument]

theorem actedArg_hostname (listed : row ∈ xmproxyCmdTable) (argument : Argument first tail) :
    m.actedArg .fmwHostname (argMessage row first tail) = if m.xpandarg first = [] then [] else first := by
  unfold actedArg
  rw [if_neg (by decide), if_neg (by decide), if_pos (Eq.refl _), twoWords_message listed argument]

theorem actedArg_botname (listed : row ∈ xmproxyCmdTable) (argument : Argument first []) :
    m.actedArg .botname (argMessage row first []) = [space] ++ first := by
  unfold actedArg
  rw [if_neg (by decide), if_pos (Eq.refl _), wordAndLine_message listed argument, xpandarg_space]

theorem actedArg_buddy (listed : row ∈ xmproxyCmdTable) (argument : Argument first []) {cmd : XmppCmd}
    (buddy : cmd ∈ buddyCmds) : m.actedArg cmd (argMessage row first []) = first := by
  unfold actedArg
  rw [if_pos buddy, wordAndLine_message listed argument, xpandarg_space, filter_space argument]

theorem withArg_words (listed : row ∈ xmproxyCmdTable) (argument : Argument first tail) (run : List Byte → CmdReply) :
    m.withArg (twoWords (argMessage row first tail)) run = run first := by
  unfold withArg
  rw [twoWords_message listed argument, if_neg (cmdName_plain listed).nonempty, if_neg argument.plain.nonempty]

theorem adminBuddyCmd_message (listed : row ∈ xmproxyCmdTable) (argument : Argument first []) (sender : List Byte)
    (run : List Byte → CmdReply) : m.adminBuddyCmd (argMessage row first []) sender run =
      if !m.xmppProxy.isAdminUser sender then m.done .actionNotAllowed else run first := by
  have filled : [space] ++ first ≠ [] := List.cons_ne_nil space first
  unfold adminBuddyCmd withArg
  rw [wordAndLine_message listed argument, if_neg (cmdName_plain listed).nonempty, if_neg filled]
  dsimp only
  rw [xpandarg_space, filter_space argument]

theorem actedSecond_word (listed : row ∈ xmproxyCmdTable) (argument : Argument first tail) {cmd : XmppCmd}
    (word : cmd ∈ wordCmds) :
    m.actedSecond cmd (argMessage row first tail) = m.xpandarg (readWord (.ofText tail)).1 := by
  unfold actedSecond
  rw [if_pos word, threeWords_message listed argument]

theorem actedSecond_line (listed : row ∈ xmproxyCmdTable) (argument : Argument first tail) {cmd : XmppCmd}
    (line : cmd ∈ lineCmds) :
    m.actedSecond cmd (argMessage row first tail) = m.xpandarg (readLine (.ofText tail)).1 := by
  have noWord : cmd ∉ wordCmds := by
    intro word
    simp only [wordCmds, lineCmds, List.mem_cons, List.not_mem_nil, or_false] at word line
    rcases line with rfl | rfl
    all_goals exact absurd word (by decide)
  unfold actedSecond
  rw [if_neg noWord, if_pos line, twoWordsAndLine_message listed argument]

theorem actedSecond_smsSend (listed : row ∈ xmproxyCmdTable) (argument : Argument first tail) :
    m.actedSecond .smsSend (argMessage row first tail) = m.xpandargs (readLine (.ofText tail)).1 := by
  unfold actedSecond
  rw [if_neg (by decide), if_neg (by decide), if_pos (Eq.refl _), twoWordsAndLine_message listed argument]

section Handlers
variable (listed : row ∈ xmproxyCmdTable) (argument : Argument first tail) (env : XmppEnv) (sender : List Byte)

include listed argument

theorem procCmdSmsSend_message : m.procCmdSmsSend env (argMessage row first tail) sender =
    m.actOn env sender .smsSend tail (m.xpandarg first) (m.actedSecond .smsSend (argMessage row first tail)) := by
  rw [actedSecond_smsSend listed argument]
  unfold procCmdSmsSend actOn
  rw [twoWordsAndLine_message listed argument]
  dsimp only
  rw [if_neg (cmdName_plain listed).nonempty, if_neg argument.plain.nonempty]

/-- `hostname` goes on with the argument itself, unless its expansion is empty. -/
theorem procCmdFmwHostname_message (second : List Byte) : m.procCmdFmwHostname env (argMessage row first tail) =
    m.actOn env sender .fmwHostname tail (m.actedArg .fmwHostname (argMessage row first tail)) second := by
  have named : ascii row.cmdName ≠ [] := (cmdName_plain listed).nonempty
  rw [actedArg_hostname listed argument]
  unfold procCmdFmwHostname procCmdFmwSetHostname actOn
  rw [withArg_words listed argument, twoWords_message listed argument]
  dsimp only
  rw [if_neg named]
  by_cases empty : m.xpandarg first = []
  · rw [if_pos empty, if_pos empty, if_pos (Eq.refl _)]
  · rw [if_neg empty, if_neg empty, if_neg argument.plain.nonempty]

theorem procCmdGpio_message : m.procCmdGpio env (argMessage row first tail) =
    m.actOn env sender .gpio tail (m.xpandarg first) (m.actedSecond .gpio (argMessage row first tail)) := by
  rw [actedSecond_word listed argument (by decide)]
  unfold procCmdGpio actOn
  rw [threeWords_message listed argument]
  dsimp only
  rw [if_neg (cmdName_plain listed).nonempty, if_neg argument.plain.nonempty]

theorem procCmdEventGpio_message : m.procCmdEventGpio (argMessage row first tail) sender =
    m.actOn env sender .gpioEventNotify tail (m.xpandarg first)
      (m.actedSecond .gpioEventNotify (argMessage row first tail)) := by
  rw [actedSecond_word listed argument (by decide)]
  unfold procCmdEventGpio actOn
  rw [threeWords_message listed argument]
  dsimp only
  rw [if_neg (cmdName_plain listed).nonempty, if_neg argument.plain.nonempty]

theorem procCmdSonoff_message : m.procCmdSonoff env (argMessage row first tail) =
    m.actOn env sender .sonoff tail (m.xpandarg first) (m.actedSecond .sonoff (argMessage row first tail)) := by
  rw [actedSecond_word listed argument (by decide)]
  unfold procCmdSonoff actOn
  rw [threeWords_message listed argument]
  dsimp only
  refine (if_neg (cmdName_plain listed).nonempty).trans ((if_neg argument.plain.nonempty).trans ?_)
  cases env.hostnameToIp (cString (m.xpandarg first)) with
  | none => rfl
  | some ip => rfl

theorem procCmdDispPrint_message : m.procCmdDispPrint env (argMessage row first tail) =
    m.actOn env sender .dispprint tail (m.xpandarg first) (m.actedSecond .dispprint (argMessage row first tail)) := by
  rw [actedSecond_line listed argument (by decide)]
  unfold procCmdDispPrint actOn
  rw [twoWordsAndLine_message listed argument]
  dsimp only
  rw [if_neg (cmdName_plain listed).nonempty, if_neg argument.plain.nonempty]

theorem procCmdDispBacklight_message (second : List Byte) : m.procCmdDispBacklight env (argMessage row first tail) =
    m.actOn env sender .dispbklt tail (m.xpandarg first) second := by
  unfold procCmdDispBacklight procCmdSetDisplayBacklight actOn
  rw [withArg_words listed argument, twoWords_message listed argument]
  dsimp only
  rw [if_neg (cmdName_plain listed).nonempty, if_neg argument.plain.nonempty]

theorem procCmdRelayMessage_message : m.procCmdRelayMessage env (argMessage row first tail) sender =
    m.actOn env sender .relayMessage tail (m.xpandarg first)
      (m.actedSecond .relayMessage (argMessage row first tail)) := by
  rw [actedSecond_line listed argument (by decide)]
  unfold procCmdRelayMessage actOn
  rw [twoWordsAndLine_message listed argument]
  dsimp only
  rw [if_neg (cmdName_plain listed).nonempty, if_neg argument.plain.nonempty]

end Handlers

theorem procCmdBotName_message (listed : row ∈ xmproxyCmdTable) (argument : Argument first []) (env : XmppEnv)
    (sender second : List Byte) : m.procCmdBotName (argMessage row first []) =
      m.actOn env sender .botname [] (m.actedArg .botname (argMessage row first [])) second := by
  have filledLine : [space] ++ first ≠ [] := List.cons_ne_nil space first
  rw [actedArg_botname listed argument]
  unfold procCmdBotName actOn
  rw [wordAndLine_message listed argument]
  dsimp only
  rw [if_neg (cmdName_plain listed).nonempty, if_neg filledLine, xpandarg_space]

/-- Every handler does with the texts it goes on with what its command does with two texts. -/
theorem runCommand_message (listed : row ∈ xmproxyCmdTable) (enabled : m.cmdsts row.cmd = true)
    (expands : row.cmd ∈ xpandargCmds) (argument : Argument first tail)
    (whole : row.cmd = .botname ∨ row.cmd ∈ buddyCmds → tail = []) (env : XmppEnv) (sender : List Byte) :
    m.runCommand env (argMessage row first tail) sender =
      m.actOn env sender row.cmd tail (m.actedArg row.cmd (argMessage row first tail))
        (m.actedSecond row.cmd (argMessage row first tail)) := by
  have resolved : lower (readWord (.ofText (argMessage row first tail))).1 = ascii row.cmdName := by
    rw [word_message listed]
    exact lower_cmdName listed
  have acted : ∀ {cmd : XmppCmd}, cmd ∉ buddyCmds → cmd ≠ .botname → cmd ≠ .fmwHostname →
      m.actedArg cmd (argMessage row first tail) = m.xpandarg first := fun noBuddy noBotname noHostname =>
    actedArg_word listed argument noBuddy noBotname noHostname
  unfold runCommand
  rw [resolveCmdStr_row listed enabled resolved]
  simp only [xpandargCmds, buddyCmds, List.cons_append, List.nil_append, List.mem_cons, List.not_mem_nil, or_false]
    at expands
  rcases expands with here | here | here | here | here | here | here | here | here | here | here | here | here | here |
    here | here | here
  · rw [here, acted (by decide) (by decide) (by decide)]
    exact withArg_words listed argument _
  · rw [here, acted (by decide) (by decide) (by decide)]
    exact procCmdSmsSend_message listed argument env sender
  · rw [here]
    exact procCmdFmwHostname_message listed argument env sender _
  · rw [here, acted (by decide) (by decide) (by decide)]
    exact procCmdGpio_message listed argument env sender
  · rw [here, acted (by decide) (by decide) (by decide)]
    exact withArg_words listed argument _
  · rw [here, acted (by decide) (by decide) (by decide)]
    exact withArg_words listed argument _
  · rw [here, acted (by decide) (by decide) (by decide)]
    exact procCmdEventGpio_message listed argument env sender
  · rw [here]
    exact withArg_words listed argument _
  · obtain rfl := whole (.inl here)
    rw [here]
    exact procCmdBotName_message listed argument env sender _
  · rw [here, acted (by decide) (by decide) (by decide)]
    exact procCmdSonoff_message listed argument env sender
  · rw [here, acted (by decide) (by decide) (by decide)]
    exact procCmdDispPrint_message listed argument env sender
  · rw [here, acted (by decide) (by decide) (by decide)]
    exact procCmdDispBacklight_message listed argument env sender _
  · rw [here, acted (by decide) (by decide) (by decide)]
    exact procCmdRelayMessage_message listed argument env sender
  all_goals
    have buddy : row.cmd ∈ buddyCmds := here ▸ by decide
    obtain rfl := whole (.inr buddy)
    rw [actedArg_buddy listed argument buddy, here]
    exact adminBuddyCmd_message listed argument sender _

/-! When these texts are what the arguments mean. -/

theorem lower_message (listed : row ∈ xmproxyCmdTable) (argument : Argument first tail) :
    lower (argMessage row first tail) = argMessage row first tail := by
  have blank : lower [space] = [space] := rfl
  have parts : ∀ one two : List Byte, lower (one ++ two) = lower one ++ lower two := fun _ _ => List.map_append
  unfold argMessage
  rw [parts, parts, parts, lower_cmdName listed, blank, argument.lowered, argument.loweredTail]

end XmppMgr

namespace Alias

/-- Each piece stands for one sub-command at least. -/
theorem length_meaning (aliasList : Alias) (text : List Byte) :
    (text.splitOn semicolon).length ≤ (aliasList.meaning text).length := by
  unfold meaning
  induction text.splitOn semicolon with
  | nil => exact le_rfl
  | cons piece rest ih =>
    have some : 0 < (((aliasList.find piece).map fun value => value.splitOn semicolon).getD [piece]).length := by
      cases aliasList.find piece with
      | none => exact Nat.one_pos
      | some value => exact List.length_pos_of_ne_nil (List.splitOn_ne_nil semicolon value)
    rw [List.flatMap_cons, List.length_append, List.length_cons]
    omega

theorem meaning_single {aliasList : Alias} {text : List Byte} (alone : (aliasList.meaning text).length = 1) :
    semicolon ∉ text := by
  intro inside
  have bound := length_meaning aliasList text
  rcases split_delim semicolon text with absent | ⟨line, rest, absent, rfl⟩
  · exact absent inside
  · have more := List.length_pos_of_ne_nil (List.splitOn_ne_nil semicolon rest)
    rw [alone, List.splitOn_append_cons_self_of_not_mem absent, List.length_cons] at bound
    omega

theorem meaning_piece {aliasList : Alias} {text : List Byte} (absent : semicolon ∉ text) :
    aliasList.meaning text = ((aliasList.find text).map fun value => value.splitOn semicolon).getD [text] := by
  unfold meaning
  rw [List.splitOn_eq_singleton absent, List.flatMap_singleton]

/-- A text that is no alias stands for itself, unless it is several commands. -/
theorem meaning_self {aliasList : Alias} {text : List Byte} (missing : aliasList.find text = none) :
    aliasList.meaning text = [text] ↔ semicolon ∉ text := by
  constructor
  · intro alone
    exact meaning_single ((congrArg List.length alone).trans List.length_singleton)
  · intro absent
    rw [meaning_piece absent, missing]
    rfl

/-- A text that is executed as it is: one command, and no alias but one whose value stands
for the text again. -/
def StandsAlone (aliasList : Alias) (text : List Byte) : Prop :=
  semicolon ∉ text ∧ ∀ value, aliasList.find text = some value →
    semicolon ∉ value ∧ aliasList.find value = some text

theorem splitOn_singleton {text value : List Byte} :
    value.splitOn semicolon = [text] ↔ semicolon ∉ text ∧ value = text := by
  constructor
  · intro alone
    have same : value = text := by
      have whole : [semicolon].intercalate (value.splitOn semicolon) = value := List.intercalate_splitOn semicolon
      rw [alone, List.intercalate_singleton] at whole
      exact whole.symm
    refine ⟨?_, same⟩
    rw [same] at alone
    rcases split_delim semicolon text with absent | ⟨line, rest, absent, rfl⟩
    · exact absent
    · have more := List.length_pos_of_ne_nil (List.splitOn_ne_nil semicolon rest)
      have lengths := congrArg List.length alone
      rw [List.splitOn_append_cons_self_of_not_mem absent, List.length_cons, List.length_singleton] at lengths
      omega
  · rintro ⟨absent, rfl⟩
    exact List.splitOn_eq_singleton absent

theorem standsAlone_iff (aliasList : Alias) (text : List Byte) :
    aliasList.expansion text = [text] ↔ aliasList.StandsAlone text := by
  unfold StandsAlone
  rw [expansion_eq]
  cases found : aliasList.find text with
  | none => simp [meaning_self found]
  | some value =>
    rw [Option.getD_some]
    by_cases inside : semicolon ∈ value
    · constructor
      · intro alone
        exact absurd inside (meaning_single ((congrArg List.length alone).trans List.length_singleton))
      · rintro ⟨absent, again⟩
        exact absurd inside (again value (Eq.refl _)).1
    · rw [meaning_piece inside]
      cases again : aliasList.find value with
      | none =>
        have other : value ≠ text := by
          rintro rfl
          exact absurd (found.symm.trans again) (Option.some_ne_none _)
        simp [other, again]
      | some other =>
        show other.splitOn semicolon = [text] ↔ _
        rw [splitOn_singleton]
        simp [inside, again]

end Alias

namespace XmppMgr
variable {m : XmppMgr} {row : XmproxyCmdRow} {first tail : List Byte}

/-- The text that a command acts on where it does not expand its argument. -/
def literalArg (cmd : XmppCmd) (first : List Byte) : List Byte := if cmd = .botname then [space] ++ first else first

/-- The commands that read their argument with the blank in front of it, or once more. -/
def literalCmds : List XmppCmd := [.fmwHostname, .botname] ++ buddyCmds

/-- When a command acts on what its arguments mean: it is enabled, its message is executed
as it is, and its handler does expand them. A host name is also not set when its value is
empty, and the rest of a line is only taken as it is. -/
structure ExpandsArgs (m : XmppMgr) (row : XmproxyCmdRow) (first tail : List Byte) : Prop where
  enabled : m.cmdsts row.cmd = true
  alone : m.aliasList.StandsAlone (argMessage row first tail)
  argument : row.cmd ∉ literalCmds ∨ m.wantedArg row.cmd first = literalArg row.cmd first ∨
    row.cmd = .fmwHostname ∧ m.meant first = []
  behind : row.cmd ∈ lineCmds → m.meantLine (firstLine tail) = firstLine tail

theorem subCommands_message (listed : row ∈ xmproxyCmdTable) (argument : Argument first tail) :
    subCommands m.aliasList (argMessage row first tail) = [argMessage row first tail] ↔
      m.aliasList.StandsAlone (argMessage row first tail) := by
  rw [subCommands_eq, lower_message listed argument, Alias.standsAlone_iff]

theorem actedArg_eq_wantedArg (listed : row ∈ xmproxyCmdTable) (argument : Argument first tail)
    (whole : row.cmd = .botname ∨ row.cmd ∈ buddyCmds → tail = []) :
    m.actedArg row.cmd (argMessage row first tail) = m.wantedArg row.cmd first ↔
      row.cmd ∉ literalCmds ∨ m.wantedArg row.cmd first = literalArg row.cmd first ∨
        row.cmd = .fmwHostname ∧ m.meant first = [] := by
  have value : m.xpandarg first = m.meant first := xpandarg_meant argument.lowered
  by_cases buddy : row.cmd ∈ buddyCmds
  · obtain rfl := whole (.inr buddy)
    have literal : row.cmd ∈ literalCmds := List.mem_append_right _ buddy
    have noBotname : row.cmd ≠ .botname := fun same => absurd (same ▸ buddy) (by decide)
    have noHostname : row.cmd ≠ .fmwHostname := fun same => absurd (same ▸ buddy) (by decide)
    rw [actedArg_buddy listed argument buddy, literalArg, if_neg noBotname, eq_comm]
    simp [literal, noHostname]
  · have wanted : m.wantedArg row.cmd first = m.meant first := if_neg buddy
    rw [wanted]
    by_cases botname : row.cmd = .botname
    · obtain rfl := whole (.inl botname)
      have literal : row.cmd ∈ literalCmds := botname ▸ by decide
      rw [literalArg, if_pos botname, botname, actedArg_botname listed argument, eq_comm]
      rw [botname] at literal
      simp [literal]
    · by_cases hostname : row.cmd = .fmwHostname
      · have literal : row.cmd ∈ literalCmds := hostname ▸ by decide
        rw [literalArg, if_neg botname, hostname, actedArg_hostname listed argument, value]
        rw [hostname] at literal
        by_cases empty : m.meant first = []
        · simp [empty]
        · rw [if_neg empty, eq_comm]
          simp [literal, empty]
      · have expanded : row.cmd ∉ literalCmds := by
          unfold literalCmds
          simp [buddy, botname, hostname]
        rw [actedArg_word listed argument buddy botname hostname, value]
        simp [expanded]

theorem mem_word {c : Byte} {text : List Byte} (member : c ∈ (readWord (.ofText text)).1) : c ∈ text := by
  have isGood : (ofText text).good = true := rfl
  unfold readWord word at member
  rw [if_pos isGood] at member
  exact (List.dropWhile_sublist _).subset ((List.takeWhile_sublist _).subset member)

theorem lower_word (lowered : lower tail = tail) :
    lower (readWord (.ofText tail)).1 = (readWord (.ofText tail)).1 :=
  lower_part lowered fun _ member => mem_word member

/-- The rest of a line starts with the blank that ends the first argument. -/
theorem firstLine_front (apart : ∀ c ∈ tail.head?, isSpaceByte c = true) : (firstLine tail).head? ≠ some dollar := by
  intro front
  have first : tail.head? = some dollar := by
    cases tail with
    | nil => exact front
    | cons c rest =>
      by_cases line : c ≠ newline
      · have kept : firstLine (c :: rest) = c :: firstLine rest := List.takeWhile_cons_of_pos (decide_eq_true line)
        rw [kept] at front
        exact front
      · have none : firstLine (c :: rest) = [] := List.takeWhile_cons_of_neg (by simpa using line)
        rw [none] at front
        exact absurd front.symm (Option.some_ne_none _)
  exact Bool.noConfusion ((apart dollar first).symm.trans (by decide : isSpaceByte dollar = false))

theorem actedSecond_eq_wantedSecond (listed : row ∈ xmproxyCmdTable) (argument : Argument first tail) :
    m.actedSecond row.cmd (argMessage row first tail) = m.wantedSecond row.cmd tail ↔
      (row.cmd ∈ lineCmds → m.meantLine (firstLine tail) = firstLine tail) := by
  by_cases word : row.cmd ∈ wordCmds
  · have noLine : row.cmd ∉ lineCmds := by
      intro line
      simp only [wordCmds, lineCmds, List.mem_cons, List.not_mem_nil, or_false] at word line
      rcases line with here | here
      all_goals simp [here] at word
    have wanted : m.wantedSecond row.cmd tail = m.meant (readWord (.ofText tail)).1 := if_pos word
    rw [actedSecond_word listed argument word, wanted, xpandarg_meant (lower_word argument.loweredTail)]
    simp [noLine]
  · by_cases line : row.cmd ∈ lineCmds
    · have wanted : m.wantedSecond row.cmd tail = m.meantLine (firstLine tail) := by
        exact (if_neg word).trans (if_pos line)
      rw [actedSecond_line listed argument line, wanted, firstLine_getline,
        xpandarg_plain (firstLine_front argument.apart), eq_comm]
      simp [line]
    · by_cases smsSend : row.cmd = .smsSend
      · have wanted : m.wantedSecond row.cmd tail =
            (words isSpaceByte (firstLine tail)).flatMap fun word => m.meant word ++ [space] :=
          (if_neg word).trans ((if_neg line).trans (if_pos smsSend))
        have lowered : ∀ word ∈ words isSpaceByte (firstLine tail), lower word = word := fun word member =>
          lower_part argument.loweredTail fun c inWord =>
            (List.takeWhile_sublist _).subset (mem_words member c inWord).1
        have expanded : m.xpandargs (firstLine tail) =
            (words isSpaceByte (firstLine tail)).flatMap fun word => m.meant word ++ [space] := by
          unfold xpandargs
          refine List.flatMap_congr fun word member => ?_
          rw [xpandarg_meant (lowered word member)]
        rw [wanted, ← expanded]
        rw [smsSend] at line ⊢
        rw [actedSecond_smsSend listed argument, firstLine_getline]
        simp [line]
      · have acted : m.actedSecond row.cmd (argMessage row first tail) = [] :=
          (if_neg word).trans ((if_neg line).trans (if_neg smsSend))
        have wanted : m.wantedSecond row.cmd tail = [] := (if_neg word).trans ((if_neg line).trans (if_neg smsSend))
        simp [acted, wanted, line]

theorem accessEvent_known (sender : List Byte) (evntType : EvntType) (arg : Int32) (value : Option (List Byte)) :
    (m.accessEvent sender evntType arg value).result ≠ .unknownCommand := by
  unfold accessEvent
  dsimp only
  split
  · exact RpcResult.noConfusion
  · exact RpcResult.noConfusion
  · exact RpcResult.noConfusion
  · split_ifs
    · exact RpcResult.noConfusion
    · exact RpcResult.noConfusion

/-- No command that is executed is answered as an unknown one. -/
theorem actOn_known {cmd : XmppCmd} (expands : cmd ∈ xpandargCmds) (sender text second : List Byte) :
    (m.actOn (.answering .success []) sender cmd tail text second).result ≠ .unknownCommand := by
  have removed : ∀ result : Option XmppProxy, (match result with
      | some proxy => { m with xmppProxy := proxy }.done .success
      | none => m.done .itemNotFound).result ≠ .unknownCommand := by
    rintro (_ | proxy)
    · exact RpcResult.noConfusion
    · exact RpcResult.noConfusion
  simp only [xpandargCmds, buddyCmds, List.cons_append, List.nil_append, List.mem_cons, List.not_mem_nil, or_false]
    at expands
  rcases expands with rfl | rfl | rfl | rfl | rfl | rfl | rfl | rfl | rfl | rfl | rfl | rfl | rfl | rfl | rfl | rfl | rfl
  all_goals
    unfold actOn
    dsimp only
  -- the services answer with a success, where the command gets so far
  all_goals first
    | exact RpcResult.noConfusion
    | exact accessEvent_known sender _ _ _
    | split_ifs
  all_goals first
    | exact RpcResult.noConfusion
    | exact removed _

theorem ActsOn.enabled (listed : row ∈ xmproxyCmdTable) (expands : row.cmd ∈ xpandargCmds) {text second : List Byte}
    (acts : m.ActsOn row.cmd (argMessage row first tail) tail text second) : m.cmdsts row.cmd = true := by
  by_contra disabled
  have named : lower (readWord (.ofText (argMessage row first tail))).1 = ascii row.cmdName := by
    rw [word_message listed]
    exact lower_cmdName listed
  have unknown : m.runCommand (.answering .success []) (argMessage row first tail) [] = m.done .unknownCommand := by
    unfold runCommand
    rw [resolveCmdStr_disabled listed (Bool.eq_false_iff.mpr disabled) named]
  have answered := congrArg CmdReply.result ((acts.reply (.answering .success []) []).symm.trans unknown)
  exact actOn_known expands [] text second answered

/-- A manager with two aliases. -/
def twoAliases : XmppMgr :=
  { XmppMgr.start (ascii "owner@home") [] with
    aliasList := (SortedMap.empty.insert (ascii "num") (ascii "3")).insert (ascii "myhost") (ascii "router") }

end XmppMgr
end JsonRpcTcp
