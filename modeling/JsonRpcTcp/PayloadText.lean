import JsonRpcTcp.DollarArguments

namespace JsonRpcTcp
open TextStream

/-! The free text of a message on its way to a service. -/

theorem isSpaceByte_toLower : ∀ c : Byte, isSpaceByte (toLower c) = isSpaceByte c := by decide +kernel

theorem toLower_toLower : ∀ c : Byte, toLower (toLower c) = toLower c := by decide +kernel

theorem lower_append (first second : List Byte) : lower (first ++ second) = lower first ++ lower second :=
  List.map_append

theorem lower_blank {blanks : List Byte} (blank : ∀ c ∈ blanks, isSpaceByte c = true) :
    ∀ c ∈ lower blanks, isSpaceByte c = true := by
  intro c member
  obtain ⟨other, inside, rfl⟩ := List.mem_map.mp member
  exact (isSpaceByte_toLower other).trans (blank other inside)

theorem PlainName.lower {name : List Byte} (plain : PlainName name) : PlainName (lower name) where
  nonempty := fun empty => plain.nonempty (List.map_eq_nil_iff.mp empty)
  plain := by
    intro c member
    obtain ⟨other, inside, rfl⟩ := List.mem_map.mp member
    exact (isSpaceByte_toLower other).trans (plain.plain other inside)

theorem mem_cString {c : Byte} {text : List Byte} (member : c ∈ cString text) : c ∈ text ∧ c ≠ 0 :=
  ⟨(List.takeWhile_sublist _).subset member, by simpa using List.mem_takeWhile_imp member⟩

namespace XmppMgr

/-- The words of a text, each with a blank behind it. -/
def joinWords (text : List Byte) : List Byte := (words isSpaceByte text).flatMap fun word => word ++ [space]

/-- The request of a command that hands on a text. -/
def payloadRequest (cmd : XmppCmd) (number text : List Byte) : RpcCall :=
  match cmd with
  | .smsSend => ⟨portBboxsms, "send_sms", [.text "destination" (cString number), .text "message" text], ["taskId"]⟩
  | .shellcmdTrig => ⟨portSysmgr, "run_shellcmdtrig", [.text "command" text], ["taskId"]⟩
  | _ => ⟨portSysmgr, "run_shellcmd", [.text "command" text], ["taskId"]⟩

/-- What stands in a message before the blank and the text: the command word in any case,
and the number for an SMS. -/
inductive PayloadFront : XmppCmd → List Byte → List Byte → Prop where
  | shellcmd {row : XmproxyCmdRow} {blanks word : List Byte} (listed : row ∈ xmproxyCmdTable)
      (kind : row.cmd = .shellcmd ∨ row.cmd = .shellcmdTrig) (blank : ∀ c ∈ blanks, isSpaceByte c = true)
      (named : lower word = ascii row.cmdName) : PayloadFront row.cmd (blanks ++ word) []
  | smsSend {row : XmproxyCmdRow} {blanks word gap number : List Byte} (listed : row ∈ xmproxyCmdTable)
      (kind : row.cmd = .smsSend) (blank : ∀ c ∈ blanks, isSpaceByte c = true) (named : lower word = ascii row.cmdName)
      (filled : gap ≠ []) (between : ∀ c ∈ gap, isSpaceByte c = true) (plain : PlainName number)
      (noDollar : number.head? ≠ some dollar) : PayloadFront row.cmd (blanks ++ (word ++ (gap ++ number))) number

/-- A message is executed alone, and hands this request to its service. -/
structure SendsPayload (m : XmppMgr) (msg : List Byte) (request : RpcCall) : Prop where
  alone : subCommands m.aliasList msg = [lower msg]
  sent : ∀ env sender, env.connects request.port = true →
    (m.runCommand env (lower msg) sender).mgr.effects = m.effects ++ [.rpc request]

variable {m : XmppMgr} {cmd : XmppCmd} {front number text : List Byte}

/-! What is read of the message. -/

theorem firstLine_space (text : List Byte) : firstLine ([space] ++ text) = [space] ++ firstLine text := by
  have kept : decide (space ≠ newline) = true := by decide
  exact List.takeWhile_cons_of_pos kept

/-- The line behind a blank that ends a word. -/
theorem line_behind (text : List Byte) :
    (readLine ⟨[space] ++ text, ([space] ++ text).isEmpty, false⟩).1 = [space] ++ firstLine text := by
  show (readLine (.ofText ([space] ++ text))).1 = [space] ++ firstLine text
  rw [firstLine_getline, firstLine_space]

theorem head_lower {word : List Byte} (noDollar : word.head? ≠ some dollar) : (lower word).head? ≠ some dollar := by
  have only : ∀ c : Byte, toLower c = dollar → c = dollar := by decide +kernel
  cases word with
  | nil => exact noDollar
  | cons c rest =>
    intro same
    exact noDollar (congrArg some (only c (Option.some.inj same)))

/-- The words of a line have no dollar sign in front, if those of the message have none. -/
theorem noDollar_line (noDollar : ∀ word ∈ words isSpaceByte text, word.head? ≠ some dollar) :
    ∀ word ∈ words isSpaceByte (firstLine (lower text)), word.head? ≠ some dollar := by
  intro word member
  have inText : word ∈ words isSpaceByte (lower text) := by
    have whole := List.takeWhile_append_dropWhile (p := fun c => decide (c ≠ newline)) (l := lower text)
    cases rest : (lower text).dropWhile fun c => decide (c ≠ newline) with
    | nil =>
      rw [rest, List.append_nil] at whole
      rw [← whole]
      exact member
    | cons c behind =>
      have stopped := List.head?_dropWhile_not (fun c => decide (c ≠ newline)) (lower text)
      rw [rest] at stopped
      have line : c = newline := by simpa using stopped
      rw [rest, line] at whole
      rw [← whole]
      exact words_line member (by decide) behind
  unfold lower at inText
  rw [words_map isSpaceByte_toLower] at inText
  obtain ⟨origin, inside, rfl⟩ := List.mem_map.mp inText
  exact head_lower (noDollar origin inside)

/-- Words without a dollar sign are joined again. -/
theorem xpandargs_plain (noDollar : ∀ word ∈ words isSpaceByte text, word.head? ≠ some dollar) :
    m.xpandargs ([space] ++ firstLine (lower text)) = joinWords (firstLine (lower text)) := by
  have blank : ∀ c ∈ [space], isSpaceByte c = true := by decide +kernel
  have line := noDollar_line noDollar
  unfold xpandargs joinWords
  rw [words_append_blank blank]
  refine List.flatMap_congr fun word member => ?_
  rw [xpandarg_plain (line word member)]

/-- The command word of a message, and the stream behind it. -/
theorem word_front {row : XmproxyCmdRow} {blanks word : List Byte} (listed : row ∈ xmproxyCmdTable)
    (blank : ∀ c ∈ blanks, isSpaceByte c = true) (named : lower word = ascii row.cmdName) {rest : List Byte}
    (ends : ∀ c ∈ rest.head?, isSpaceByte c = true) :
    readWord (.ofText (lower blanks ++ (lower word ++ rest))) = (ascii row.cmdName, ⟨rest, rest.isEmpty, false⟩) := by
  have plain := cmdName_plain listed
  rw [named]
  exact word_split (lower_blank blank) plain.nonempty plain.plain ends

theorem head_space (text : List Byte) : ∀ c ∈ ([space] ++ text).head?, isSpaceByte c = true := by
  intro c first
  cases first
  rfl

section Parsed
variable {row : XmproxyCmdRow} {blanks word gap : List Byte} (listed : row ∈ xmproxyCmdTable)
  (blank : ∀ c ∈ blanks, isSpaceByte c = true) (named : lower word = ascii row.cmdName)
include listed blank named

theorem wordAndLine_front (text : List Byte) : wordAndLine (lower (blanks ++ word ++ ([space] ++ text))) =
    (ascii row.cmdName, [space] ++ firstLine (lower text)) := by
  have blankSpace : lower [space] = [space] := rfl
  have parts : lower (blanks ++ word ++ ([space] ++ text)) =
      lower blanks ++ (lower word ++ ([space] ++ lower text)) := by
    simp only [lower_append, blankSpace, List.append_assoc]
  unfold wordAndLine
  dsimp only
  rw [parts, word_front listed blank named (head_space (lower text)), line_behind]

theorem twoWordsAndLine_front (filled : gap ≠ []) (between : ∀ c ∈ gap, isSpaceByte c = true) (plain : PlainName number)
    (text : List Byte) : twoWordsAndLine (lower (blanks ++ (word ++ (gap ++ number)) ++ ([space] ++ text))) =
      (ascii row.cmdName, lower number, [space] ++ firstLine (lower text)) := by
  have blankSpace : lower [space] = [space] := rfl
  have parts : lower (blanks ++ (word ++ (gap ++ number)) ++ ([space] ++ text)) =
      lower blanks ++ (lower word ++ (lower gap ++ (lower number ++ ([space] ++ lower text)))) := by
    simp only [lower_append, blankSpace, List.append_assoc]
  have gapFirst : ∀ c ∈ (lower gap ++ (lower number ++ ([space] ++ lower text))).head?, isSpaceByte c = true := by
    obtain ⟨c, rest, rfl⟩ := List.exists_cons_of_ne_nil filled
    intro d first
    exact lower_blank between d (List.mem_cons.mpr (.inl (Option.some.inj first).symm))
  have more : (lower gap ++ (lower number ++ ([space] ++ lower text))).isEmpty = false := by
    obtain ⟨c, rest, rfl⟩ := List.exists_cons_of_ne_nil filled
    rfl
  have second : readWord ⟨lower gap ++ (lower number ++ ([space] ++ lower text)), false, false⟩ =
      (lower number, ⟨[space] ++ lower text, ([space] ++ lower text).isEmpty, false⟩) :=
    word_split (lower_blank between) plain.lower.nonempty plain.lower.plain (head_space (lower text))
  unfold twoWordsAndLine
  dsimp only
  rw [parts, word_front listed blank named gapFirst, more, second, line_behind]

end Parsed

/-- The command is found by its word, whatever its case. -/
theorem resolveCmdStr_front (shape : PayloadFront cmd front number) (enabled : m.cmdsts cmd = true)
    (text : List Byte) : m.resolveCmdStr (lower (front ++ ([space] ++ text))) = cmd := by
  cases shape with
  | shellcmd listed kind blank named =>
    have parsed := congrArg Prod.fst (wordAndLine_front listed blank named text)
    refine resolveCmdStr_row listed enabled ((congrArg lower parsed).trans ?_)
    exact lower_cmdName listed
  | smsSend listed kind blank named filled between plain noDollar =>
    have parsed := congrArg Prod.fst (twoWordsAndLine_front listed blank named filled between plain text)
    refine resolveCmdStr_row listed enabled ((congrArg lower parsed).trans ?_)
    exact lower_cmdName listed

/-- The handlers of these commands call the service with the words of the text. -/
theorem runCommand_payload (shape : PayloadFront cmd front number) (enabled : m.cmdsts cmd = true)
    (noDollar : ∀ word ∈ words isSpaceByte text, word.head? ≠ some dollar) (env : XmppEnv) (sender : List Byte) :
    m.runCommand env (lower (front ++ ([space] ++ text))) sender =
      m.startTask env (payloadRequest cmd (lower number) (cString (joinWords (firstLine (lower text))))) sender := by
  have joined : m.xpandargs ([space] ++ firstLine (lower text)) = joinWords (firstLine (lower text)) :=
    xpandargs_plain noDollar
  have filledLine : [space] ++ firstLine (lower text) ≠ [] := List.cons_ne_nil space _
  unfold runCommand
  rw [resolveCmdStr_front shape enabled]
  cases shape with
  | shellcmd listed kind blank named =>
    have parsed := wordAndLine_front listed blank named text
    rcases kind with kind | kind
    all_goals
      rw [kind]
      dsimp only
      unfold procCmdShellcmd withArg
      rw [parsed, if_neg (cmdName_plain listed).nonempty, if_neg filledLine]
      dsimp only
      rw [joined]
      rfl
  | smsSend listed kind blank named filled between plain noDollarNumber =>
    have parsed := twoWordsAndLine_front listed blank named filled between plain text
    rw [kind]
    dsimp only
    unfold procCmdSmsSend
    rw [parsed]
    dsimp only
    rw [if_neg (cmdName_plain listed).nonempty, if_neg plain.lower.nonempty, if_neg filledLine,
      xpandarg_plain (head_lower noDollarNumber), joined]
    rfl

theorem effects_startTask (env : XmppEnv) (request : RpcCall) (sender : List Byte)
    (connects : env.connects request.port = true) :
    (m.startTask env request sender).mgr.effects = m.effects ++ [.rpc request] := by
  unfold startTask connected taskReply
  rw [if_pos connects]
  split_ifs
  · rfl
  · rfl

/-! When the words are the text. -/

theorem mem_joinWords {c : Byte} (member : c ∈ joinWords text) : c = space ∨ c ∈ text ∧ isSpaceByte c = false := by
  obtain ⟨word, inside, here⟩ := List.mem_flatMap.mp member
  rcases List.mem_append.mp here with inWord | blank
  · exact .inr (mem_words inside c inWord)
  · exact .inl (List.mem_singleton.mp blank)

/-- A text that arrives as it is: without capitals and NUL bytes, and each of its words has
one blank behind it. -/
structure PlainPayload (text : List Byte) : Prop where
  lowered : lower text = text
  noZero : (0 : Byte) ∉ text
  joined : joinWords text = text

theorem newline_joinWords (text : List Byte) : newline ∉ joinWords text := by
  intro member
  rcases mem_joinWords member with blank | inText
  · exact absurd blank (by decide)
  · exact Bool.noConfusion (inText.2.symm.trans (by decide : isSpaceByte newline = true))

theorem firstLine_single (single : newline ∉ text) : firstLine text = text := by
  refine List.takeWhile_eq_self_iff.mpr fun c member => decide_eq_true ?_
  rintro rfl
  exact single member

theorem joined_eq_text : cString (joinWords (firstLine (lower text))) = text ↔ PlainPayload text := by
  constructor
  · intro same
    have origin : ∀ c ∈ text, c = space ∨ c ∈ lower text ∧ isSpaceByte c = false := by
      intro c member
      rw [← same] at member
      rcases mem_joinWords (mem_cString member).1 with blank | inLine
      · exact .inl blank
      · exact .inr ⟨(List.takeWhile_sublist _).subset inLine.1, inLine.2⟩
    have lowered : lower text = text := by
      refine (List.map_congr_left fun c member => ?_).trans (List.map_id text)
      rcases origin c member with rfl | ⟨inLower, _⟩
      · rfl
      · obtain ⟨other, _, rfl⟩ := List.mem_map.mp inLower
        exact toLower_toLower other
    have noZero : (0 : Byte) ∉ text := by
      intro member
      rw [← same] at member
      exact (mem_cString member).2 (Eq.refl _)
    have single : newline ∉ text := by
      intro member
      rcases origin newline member with blank | inLine
      · exact absurd blank (by decide)
      · exact Bool.noConfusion (inLine.2.symm.trans (by decide : isSpaceByte newline = true))
    have kept : (0 : Byte) ∉ joinWords text := by
      intro member
      rcases mem_joinWords member with blank | inText
      · exact absurd blank (by decide)
      · exact noZero inText.1
    rw [lowered, firstLine_single single, cString_of_no_zero kept] at same
    exact ⟨lowered, noZero, same⟩
  · intro plain
    have single : newline ∉ text := by
      rw [← plain.joined]
      exact newline_joinWords text
    rw [plain.lowered, firstLine_single single, plain.joined, cString_of_no_zero plain.noZero]

theorem payloadRequest_inj (shape : PayloadFront cmd front number) {destination first second : List Byte}
    (same : payloadRequest cmd destination first = payloadRequest cmd destination second) : first = second := by
  have params := congrArg RpcCall.params same
  cases shape with
  | shellcmd listed kind blank named =>
    rcases kind with kind | kind
    · rw [kind] at params
      simpa [payloadRequest] using params
    · rw [kind] at params
      simpa [payloadRequest] using params
  | smsSend listed kind blank named filled between plain noDollar =>
    rw [kind] at params
    simpa [payloadRequest] using params

/-- A message that is no alias is executed alone, with its service called once. -/
theorem sendsPayload_sent (shape : PayloadFront cmd front number) (enabled : m.cmdsts cmd = true)
    (noDollar : ∀ word ∈ words isSpaceByte text, word.head? ≠ some dollar)
    (single : semicolon ∉ front ++ ([space] ++ text))
    (other : m.aliasList.find (lower (front ++ ([space] ++ text))) = none) :
    m.SendsPayload (front ++ ([space] ++ text))
      (payloadRequest cmd (lower number) (cString (joinWords (firstLine (lower text))))) := by
  have only : ∀ c : Byte, toLower c = semicolon → c = semicolon := by decide +kernel
  refine ⟨?_, fun env sender connects => ?_⟩
  · rw [subCommands_eq, Alias.expansion_eq, other, Option.getD_none, Alias.meaning_self other]
    exact fun member => single (mem_lower only member)
  · rw [runCommand_payload shape enabled noDollar, effects_startTask _ _ _ connects]

/-- A message hands on one text. -/
theorem SendsPayload.unique (shape : PayloadFront cmd front number) {msg destination first second : List Byte}
    (one : m.SendsPayload msg (payloadRequest cmd destination first))
    (two : m.SendsPayload msg (payloadRequest cmd destination second)) : first = second := by
  have sent := one.sent (.answering .success []) [] rfl
  rw [two.sent (.answering .success []) [] rfl] at sent
  have requests := XmppEffect.rpc.inj (List.singleton_inj.mp (List.append_cancel_left sent))
  exact (payloadRequest_inj shape requests).symm

/-- The text of a message is handed on as it is exactly if it is a plain one. -/
theorem sendsPayload_text (shape : PayloadFront cmd front number) (enabled : m.cmdsts cmd = true)
    (noDollar : ∀ word ∈ words isSpaceByte text, word.head? ≠ some dollar)
    (single : semicolon ∉ front ++ ([space] ++ text))
    (other : m.aliasList.find (lower (front ++ ([space] ++ text))) = none) :
    m.SendsPayload (front ++ ([space] ++ text)) (payloadRequest cmd (lower number) text) ↔ PlainPayload text := by
  have sends := sendsPayload_sent shape enabled noDollar single other
  rw [← joined_eq_text]
  constructor
  · exact fun kept => sends.unique shape kept
  · intro same
    rw [same] at sends
    exact sends

theorem joinWords_intercalate (text : List Byte) : ∃ blanks, (∀ c ∈ blanks, c = space) ∧
    joinWords text = [space].intercalate (words isSpaceByte text) ++ blanks := by
  have joined : ∀ (first : List Byte) (rest : List (List Byte)),
      (first :: rest).flatMap (fun word => word ++ [space]) = [space].intercalate (first :: rest) ++ [space] := by
    intro first rest
    induction rest generalizing first with
    | nil => rw [List.flatMap_singleton, List.intercalate_singleton]
    | cons second rest ih =>
      rw [List.flatMap_cons, ih second, List.intercalate_cons_cons]
      simp only [List.append_assoc]
  unfold joinWords
  cases words isSpaceByte text with
  | nil => exact ⟨[], fun c member => absurd member List.not_mem_nil, rfl⟩
  | cons first rest => exact ⟨[space], fun c member => List.mem_singleton.mp member, joined first rest⟩

/-- The text of one line that follows the command, or the number, is handed on as its words
in lower case with single blanks between them, and nothing but blanks behind them. -/
theorem payload_words (shape : PayloadFront cmd front number) (enabled : m.cmdsts cmd = true)
    (noDollar : ∀ word ∈ words isSpaceByte text, word.head? ≠ some dollar)
    (single : semicolon ∉ front ++ ([space] ++ text))
    (other : m.aliasList.find (lower (front ++ ([space] ++ text))) = none)
    (line : newline ∉ text) (noZero : (0 : Byte) ∉ text) :
    ∃ blanks, (∀ c ∈ blanks, c = space) ∧ m.SendsPayload (front ++ ([space] ++ text))
      (payloadRequest cmd (lower number) ([space].intercalate ((words isSpaceByte text).map lower) ++ blanks)) := by
  have sends := sendsPayload_sent shape enabled noDollar single other
  have lowerLine : newline ∉ lower text := fun member => line (lower_newline member)
  have kept : (0 : Byte) ∉ joinWords (lower text) := by
    have only : ∀ c : Byte, toLower c = 0 → c = 0 := by decide +kernel
    intro member
    rcases mem_joinWords member with blank | inText
    · exact absurd blank (by decide)
    · exact noZero (mem_lower only inText.1)
  have mapped : words isSpaceByte (lower text) = (words isSpaceByte text).map lower :=
    words_map isSpaceByte_toLower text
  obtain ⟨blanks, blank, joined⟩ := joinWords_intercalate (lower text)
  rw [firstLine_single lowerLine, cString_of_no_zero kept, joined, mapped] at sends
  exact ⟨blanks, blank, sends⟩

/-- The manager at the start, a message with capitals and two blanks in its text. -/
theorem payload_words_shellcmd : ∃ blanks, (∀ c ∈ blanks, c = space) ∧
    (XmppMgr.start [] []).SendsPayload (ascii "Shellcmd ls  /tmp/Log")
      (payloadRequest .shellcmd [] (ascii "ls /tmp/log" ++ blanks)) := by
  have listed : (⟨true, .shellcmd, "shellcmd", "<command>", .readwrite⟩ : XmproxyCmdRow) ∈ xmproxyCmdTable := by
    decide +kernel
  have shape : PayloadFront .shellcmd ([] ++ ascii "Shellcmd") [] :=
    .shellcmd listed (.inl rfl) (fun c member => absurd member List.not_mem_nil) (by decide +kernel)
  have noDollar : ∀ word ∈ words isSpaceByte (ascii "ls  /tmp/Log"), word.head? ≠ some dollar := by decide +kernel
  exact payload_words shape (by decide +kernel) noDollar (by decide +kernel) (by decide +kernel) (by decide +kernel)
    (by decide +kernel)

/-- A command in lower case gets a blank at its end, another one also loses its capitals. -/
theorem payload_altered :
    ¬ (XmppMgr.start [] []).SendsPayload (ascii "shellcmd cat /tmp/Log")
        (payloadRequest .shellcmd [] (ascii "cat /tmp/Log")) ∧
      ((XmppMgr.start [] []).runCommand (.answering .success [])
          (lower (ascii "shellcmd cat /tmp/Log")) []).mgr.effects =
        [.rpc (payloadRequest .shellcmd [] (ascii "cat /tmp/log "))] := by
  refine ⟨fun sends => ?_, by decide +kernel⟩
  have sent := sends.sent (.answering .success []) [] rfl
  exact absurd sent (by decide +kernel)

end XmppMgr
end JsonRpcTcp
