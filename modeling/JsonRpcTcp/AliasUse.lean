import JsonRpcTcp.XmppAliases

namespace JsonRpcTcp
open TextStream

/-! An alias that is defined by one message and used as another. -/

/-- A byte that is no letter of either case. -/
theorem mem_lower {c : Byte} {text : List Byte} (only : ∀ other : Byte, toLower other = c → other = c)
    (member : c ∈ lower text) : c ∈ text := by
  obtain ⟨other, inside, lowered⟩ := List.mem_map.mp member
  exact only other lowered ▸ inside

theorem lower_equalsSign {text : List Byte} (sign : equalsSign ∈ lower text) : equalsSign ∈ text :=
  mem_lower (by decide +kernel) sign

theorem lower_newline {text : List Byte} (line : newline ∈ lower text) : newline ∈ text :=
  mem_lower (by decide +kernel) line

namespace Alias

/-- The sub-commands that a text stands for: its pieces, where a piece that is itself an
alias stands for the pieces of its value. -/
def meaning (aliasList : Alias) (text : List Byte) : List (List Byte) :=
  (text.splitOn semicolon).flatMap fun piece =>
    ((aliasList.find piece).map fun value => value.splitOn semicolon).getD [piece]

theorem expansion_eq (aliasList : Alias) (text : List Byte) :
    aliasList.expansion text = aliasList.meaning ((aliasList.find text).getD text) := rfl

/-- No key and no value has an `=`. -/
def SignFree (aliasList : Alias) : Prop :=
  ∀ entry ∈ aliasList.entries, equalsSign ∉ entry.1 ∧ equalsSign ∉ entry.2

section SignFree
variable {aliasList : Alias}

theorem SignFree.insert (free : aliasList.SignFree) {key value : List Byte} (inKey : equalsSign ∉ key)
    (inValue : equalsSign ∉ value) : SignFree (aliasList.insert key value) := by
  intro entry member
  rcases SortedMap.mem_insertEntry member with rfl | old
  · exact ⟨inKey, inValue⟩
  · exact free entry old

/-- A list that is read from a file. -/
theorem signFree_load (content : List Byte) : SignFree (XmppMgr.loadAliasList content .empty) := by
  have loop : ∀ (texts : List (List Byte)) (aliasList : Alias), aliasList.SignFree →
      SignFree (aliasList.insertAll (texts.map XmppMgr.twoFields)) := by
    intro texts
    induction texts with
    | nil => exact fun aliasList free => free
    | cons text texts ih =>
      intro aliasList free
      exact ih _ (free.insert (getline_single equalsSign _) (getline_single equalsSign _))
  exact loop _ .empty fun entry member => absurd member List.not_mem_nil

theorem SignFree.after (free : aliasList.SignFree) (msg : List Byte) : SignFree (aliasList.after msg) := by
  unfold Alias.after XmppMgr.assignAlias
  split_ifs with unchanged deleted
  · exact free
  · exact fun entry member => free entry (List.mem_filter.mp member).1
  · exact free.insert (XmppMgr.aliasKey_clean msg).1 (getline_single equalsSign _)

/-- An `=` in a text is in one of its sub-commands, since no alias has one. -/
theorem SignFree.meaning (free : aliasList.SignFree) (text : List Byte) :
    (∃ command ∈ aliasList.meaning text, equalsSign ∈ command) ↔ equalsSign ∈ text := by
  have other : equalsSign ≠ semicolon := by decide
  rw [← exists_splitOn other text]
  unfold Alias.meaning
  constructor
  · rintro ⟨command, member, sign⟩
    obtain ⟨piece, inside, result⟩ := List.mem_flatMap.mp member
    cases found : aliasList.find piece with
    | none =>
      rw [found] at result
      have same : command = piece := List.mem_singleton.mp result
      exact ⟨piece, inside, same ▸ sign⟩
    | some value =>
      rw [found] at result
      have inValue : equalsSign ∈ value := (exists_splitOn other value).mp ⟨command, result, sign⟩
      exact absurd inValue (free _ (SortedMap.mem_of_find found)).2
  · rintro ⟨piece, inside, sign⟩
    have missing : aliasList.find piece = none := by
      by_contra found
      obtain ⟨value, here⟩ := Option.ne_none_iff_exists'.mp found
      exact (free _ (SortedMap.mem_of_find here)).1 sign
    refine ⟨piece, List.mem_flatMap.mpr ⟨piece, inside, ?_⟩, sign⟩
    rw [missing]
    exact List.mem_singleton_self piece

/-- What a message without an `=` executes has none either. -/
theorem SignFree.expansion (free : aliasList.SignFree) {text : List Byte} (clean : equalsSign ∉ text) :
    ∀ command ∈ aliasList.expansion text, equalsSign ∉ command := by
  intro command member sign
  rw [expansion_eq] at member
  have inText := (free.meaning _).mp ⟨command, member, sign⟩
  cases found : aliasList.find text with
  | none =>
    rw [found] at inText
    exact clean inText
  | some value =>
    rw [found] at inText
    exact (free _ (SortedMap.mem_of_find found)).2 inText

end SignFree

/-- The message that defines an alias. -/
def definition (name value : List Byte) : List Byte := ascii "alias" ++ ([space] ++ name ++ equalsSign :: value)

/-- A message that defines, redefines or deletes this alias. -/
def Redefines (name msg : List Byte) : Prop :=
  XmppMgr.isAliasMessage msg = true ∧ msg ≠ ascii "Alias" ∧ msg ≠ ascii "alias" ∧
    XmppMgr.aliasKey (XmppMgr.twoFields msg).1 = name

instance (name msg : List Byte) : Decidable (Redefines name msg) := inferInstanceAs (Decidable (_ ∧ _))

/-- A text that can be an alias name: its blanks in front would not be part of it. -/
structure IsName (name : List Byte) : Prop where
  sign : equalsSign ∉ name
  front : ∀ c ∈ name.head?, isSpaceByte c = false

section Definition
variable {name value : List Byte}

theorem word_alias (rest : List Byte) :
    readWord (.ofText (ascii "alias" ++ ([space] ++ rest))) = (ascii "alias", ⟨[space] ++ rest, false, false⟩) := by
  have letters : ∀ c ∈ ascii "alias", isSpaceByte c = false := by decide +kernel
  have ends : ∀ c ∈ ([space] ++ rest).head?, isSpaceByte c = true := by
    intro c first
    cases first
    rfl
  exact word_split (fun c member => absurd member List.not_mem_nil) (by decide) letters ends

theorem isAliasMessage_definition (name value : List Byte) :
    XmppMgr.isAliasMessage (definition name value) = true := by
  unfold XmppMgr.isAliasMessage definition
  rw [List.append_assoc, word_alias]
  rfl

theorem definition_long (name value : List Byte) : 6 < (definition name value).length := by
  have word : (ascii "alias").length = 5 := rfl
  unfold definition
  simp only [List.length_append, List.length_cons, word]
  omega

theorem definition_ne (name value : List Byte) {short : List Byte} (bound : short.length ≤ 6) :
    definition name value ≠ short := by
  have long := definition_long name value
  intro same
  rw [same] at long
  omega

theorem twoFields_definition (isName : IsName name) (value : List Byte) :
    XmppMgr.twoFields (definition name value) =
      (ascii "alias" ++ ([space] ++ name), ((ofText value).getline equalsSign).1) := by
  have before : equalsSign ∉ ascii "alias" ++ ([space] ++ name) := by
    have word : equalsSign ∉ ascii "alias" := by decide
    have blank : equalsSign ≠ space := by decide
    simp [word, blank, isName.sign]
  unfold XmppMgr.twoFields definition
  dsimp only
  rw [← List.append_assoc, getline_found before]

theorem aliasKey_name (isName : IsName name) (single : newline ∉ name) :
    XmppMgr.aliasKey (ascii "alias" ++ ([space] ++ name)) = name := by
  have line : newline ∉ [space] ++ name := by
    have blank : newline ≠ space := by decide
    simp [blank, single]
  have kept : name.dropWhile isSpaceByte = name := by
    cases name with
    | nil => rfl
    | cons first rest => exact List.dropWhile_cons_of_neg (by simp [isName.front first rfl])
  unfold XmppMgr.aliasKey XmppMgr.wordAndLine
  dsimp only
  rw [word_alias]
  have read : readLine ⟨[space] ++ name, false, false⟩ = ([space] ++ name, ⟨[], true, false⟩) := getline_last line
  rw [read]
  exact kept

/-- A value without an `=` is put under its name. -/
theorem after_definition (aliasList : Alias) (isName : IsName name) (single : newline ∉ name) (some : value ≠ [])
    (whole : equalsSign ∉ value) : aliasList.after (definition name value) = aliasList.insert name value := by
  have defines : ¬ (¬ XmppMgr.isAliasMessage (definition name value) = true ∨
      definition name value = ascii "Alias" ∨ definition name value = ascii "alias") := by
    rintro (other | query)
    · exact other (isAliasMessage_definition name value)
    · rcases query with upper | plain
      · exact definition_ne name value (by decide) upper
      · exact definition_ne name value (by decide) plain
  unfold Alias.after XmppMgr.assignAlias
  rw [if_neg defines, twoFields_definition isName, aliasKey_name isName single, getline_last whole, if_neg some]

theorem find_after (aliasList : Alias) {msg : List Byte} (other : ¬ Redefines name msg) :
    (aliasList.after msg).find name = aliasList.find name := by
  unfold Alias.after XmppMgr.assignAlias
  split_ifs with unchanged deleted
  · rfl
  all_goals
    have different : name ≠ XmppMgr.aliasKey (XmppMgr.twoFields msg).1 := by
      intro same
      have aliased : XmppMgr.isAliasMessage msg = true := by
        by_contra plain
        exact unchanged (.inl plain)
      exact other ⟨aliased, fun query => unchanged (.inr (.inl query)), fun query => unchanged (.inr (.inr query)),
        same.symm⟩
  · exact SortedMap.find_erase_of_ne aliasList different
  · exact SortedMap.find_insert_of_ne aliasList different _

theorem find_afterAll (aliasList : Alias) {msgs : List XmppCmdEntry}
    (others : ∀ cmd ∈ msgs, ¬ Redefines name cmd.cmdMsg) :
    (aliasList.afterAll msgs).find name = aliasList.find name := by
  induction msgs generalizing aliasList with
  | nil => rfl
  | cons first rest ih =>
    have tail := ih (aliasList.after first.cmdMsg) fun cmd member => others cmd (List.mem_cons_of_mem first member)
    exact tail.trans (find_after aliasList (others first List.mem_cons_self))

theorem afterAll_append (aliasList : Alias) (msgs more : List XmppCmdEntry) :
    aliasList.afterAll (msgs ++ more) = (aliasList.afterAll msgs).afterAll more := by
  unfold afterAll
  exact List.foldl_append

end Definition
end Alias

namespace XmppSystem

/-- The message that defines an alias was replied to, and no later one is about this name. -/
structure Defined (s : XmppSystem) (name value : List Byte) : Prop where
  history : ∃ before sender between, s.popped = before ++ ⟨Alias.definition name value, sender⟩ :: between ∧
    ∀ cmd ∈ between, ¬ Alias.Redefines name cmd.cmdMsg
  replied : ∀ cmd, s.pc ≠ .taken cmd

/-- A message is queued, and the command thread that takes it goes on with these sub-commands. -/
structure Executes (s : XmppSystem) (msg : List Byte) (commands : List (List Byte)) : Prop where
  queued : ∀ sender answer, (s.onXmppMessage msg sender answer).processCmd = s.processCmd ++ [⟨msg, sender⟩]
  resolved : ∀ sender, { s with pc := .taken ⟨msg, sender⟩ }.step .resolve =
    some { s with pc := .running sender commands }

/-- The messages that `onXmppMessage` answers itself. -/
def isDirect (msg : List Byte) : Bool :=
  msg = ascii "Echo" ∨ msg = ascii "echo" ∨ msg = ascii "Help" ∨ msg = ascii "help"

/-- A definition and a use that have the same name, the use of which is a command and the
value of which is read to its end. -/
structure UsableAlias (name value : List Byte) : Prop where
  single : newline ∉ name
  lowered : lower name = name
  queued : isDirect name = false
  plain : XmppMgr.isAliasMessage name = false
  whole : equalsSign ∉ value

variable {s t : XmppSystem} {name value : List Byte}

theorem agent_step {action : XmppAction} (agent : s.aiAgentUrl ≠ [] → s.queued = []) (run : s.step action = some t) :
    t.aiAgentUrl ≠ [] → t.queued = [] := by
  cases action with
  | onXmppMessage msg sender answer =>
    obtain ⟨_, rfl⟩ := onlyIf_eq_some.mp run
    unfold XmppSystem.onXmppMessage
    split_ifs with echo help response redirected
    · exact agent
    · exact agent
    · exact agent
    · exact agent
    · exact fun url => absurd url redirected
  | wakeupThread =>
    obtain ⟨_, rfl⟩ := onlyIf_eq_some.mp run
    exact agent
  | semWait =>
    obtain ⟨_, rfl⟩ := onlyIf_eq_some.mp run
    exact agent
  | interrupted =>
    obtain ⟨_, rfl⟩ := onlyIf_eq_some.mp run
    exact agent
  | popCmd =>
    simp only [step] at run
    split at run
    case h_1 =>
      obtain ⟨_, rfl⟩ := onlyIf_eq_some.mp run
      exact agent
    case h_2 =>
      obtain ⟨_, rfl⟩ := onlyIf_eq_some.mp run
      exact agent
  | resolve =>
    simp only [step] at run
    split at run
    case h_1 =>
      split_ifs at run
      · cases Option.some.inj run
        exact agent
      · cases Option.some.inj run
        exact agent
    case h_2 => cases run
  | command env =>
    simp only [step] at run
    split at run
    case h_1 =>
      cases Option.some.inj run
      exact agent
    case h_2 =>
      cases Option.some.inj run
      exact agent
    case h_3 => cases run

theorem isDirect_eq_false :
    isDirect name = false ↔
      ¬ (name = ascii "Echo" ∨ name = ascii "echo") ∧ ¬ (name = ascii "Help" ∨ name = ascii "help") := by
  unfold isDirect
  rw [decide_eq_false_iff_not, ← not_or, or_assoc]

theorem onXmppMessage_queued (agent : s.aiAgentUrl = []) {msg : List Byte} (direct : isDirect msg = false)
    (noReply : ¬ ascii "return=" <:+: msg) (sender answer : List Byte) :
    s.onXmppMessage msg sender answer = { s with processCmd := s.processCmd ++ [⟨msg, sender⟩]
                                                 queued := s.queued ++ [⟨msg, sender⟩]
                                                 gloox := .waking } := by
  have others := isDirect_eq_false.mp direct
  have here : ¬ s.aiAgentUrl ≠ [] := not_not_intro agent
  unfold XmppSystem.onXmppMessage
  rw [if_neg others.1, if_neg others.2, if_neg noReply, if_neg here]

/-- A name has no `=`, so that it is not taken for a reply. -/
theorem onXmppMessage_name (agent : s.aiAgentUrl = []) (isName : Alias.IsName name) (sender answer : List Byte) :
    (s.onXmppMessage name sender answer).processCmd = s.processCmd ++ [⟨name, sender⟩] ↔ isDirect name = false := by
  have noReply : ¬ ascii "return=" <:+: name := fun inside => isName.sign (inside.subset (by decide +kernel))
  constructor
  · intro queued
    by_contra direct
    have unchanged : (s.onXmppMessage name sender answer).processCmd = s.processCmd := by
      have words := mt isDirect_eq_false.mpr direct
      unfold XmppSystem.onXmppMessage
      by_cases echo : name = ascii "Echo" ∨ name = ascii "echo"
      · rw [if_pos echo]
      · have help : name = ascii "Help" ∨ name = ascii "help" := by
          by_contra noHelp
          exact words ⟨echo, noHelp⟩
        rw [if_neg echo, if_pos help]
    rw [unchanged] at queued
    simp at queued
  · intro direct
    rw [onXmppMessage_queued agent direct noReply]

theorem resolve_name (s : XmppSystem) (name sender : List Byte) (commands : List (List Byte)) :
    { s with pc := .taken ⟨name, sender⟩ }.step .resolve = some { s with pc := .running sender commands } ↔
      XmppMgr.isAliasMessage name = false ∧ s.mgr.aliasList.expansion (lower name) = commands := by
  simp only [step]
  by_cases aliased : XmppMgr.isAliasMessage name = true
  · rw [if_pos aliased, aliased]
    constructor
    · exact fun same => CommandPc.noConfusion (congrArg XmppSystem.pc (Option.some.inj same))
    · exact fun both => Bool.noConfusion both.1
  · rw [if_neg aliased, XmppMgr.subCommands_eq]
    constructor
    · intro same
      have commands := CommandPc.running.inj (congrArg XmppSystem.pc (Option.some.inj same))
      exact ⟨Bool.eq_false_of_not_eq_true aliased, commands.2⟩
    · rintro ⟨_, rfl⟩
      rfl

theorem executes_iff (agent : s.aiAgentUrl = []) (isName : Alias.IsName name) (commands : List (List Byte)) :
    s.Executes name commands ↔ isDirect name = false ∧ XmppMgr.isAliasMessage name = false ∧
      s.mgr.aliasList.expansion (lower name) = commands := by
  constructor
  · intro executes
    exact ⟨(onXmppMessage_name agent isName [] []).mp (executes.queued [] []),
      (resolve_name s name [] commands).mp (executes.resolved [])⟩
  · rintro ⟨direct, both⟩
    exact ⟨fun sender answer => (onXmppMessage_name agent isName sender answer).mpr direct,
      fun sender => (resolve_name s name sender commands).mpr both⟩

section Reached
variable {aiAgentUrl : List Byte} {mgr : XmppMgr}

/-- A message was taken from the queue, so that none is redirected. -/
theorem Defined.agent (defined : s.Defined name value)
    (reach : Reach step (fun _ _ => True) (start aiAgentUrl mgr) s) : s.aiAgentUrl = [] := by
  have agent : s.aiAgentUrl ≠ [] → s.queued = [] :=
    reach.invariant (fun _ => rfl) fun _ _ _ agent _ run => agent_step agent run
  by_contra url
  obtain ⟨before, sender, between, popped, _⟩ := defined.history
  have order := (reach_orderly reach).order
  rw [agent url, popped] at order
  simp at order

theorem Defined.aliasList (defined : s.Defined name value)
    (reach : Reach step (fun _ _ => True) (start aiAgentUrl mgr) s) :
    s.mgr.aliasList = mgr.aliasList.afterAll s.popped := by
  have aliases := (reach_orderly reach).aliases
  have replied := defined.replied
  unfold settledAliases at aliases
  cases here : s.pc with
  | taken cmd => exact absurd here (replied cmd)
  | _ =>
    rw [here] at aliases
    exact aliases

theorem Defined.found (defined : s.Defined name value) (isName : Alias.IsName name) (some : value ≠ [])
    (single : newline ∉ name) (whole : equalsSign ∉ value)
    (reach : Reach step (fun _ _ => True) (start aiAgentUrl mgr) s) : s.mgr.aliasList.find name = .some value := by
  rw [defined.aliasList reach]
  obtain ⟨before, sender, between, popped, others⟩ := defined.history
  rw [popped, Alias.afterAll_append]
  have later := Alias.find_afterAll (((mgr.aliasList.afterAll before).after (Alias.definition name value))) others
  rw [Alias.after_definition _ isName single some whole, SortedMap.find_insert_self] at later
  rw [← later, ← Alias.after_definition _ isName single some whole]
  rfl

end Reached

/-- Whenever an alias is defined, its name executes what its value stands for. -/
def ExecutesDefined (name value : List Byte) : Prop :=
  ∀ (content aiAgentUrl : List Byte) (mgr : XmppMgr) (s : XmppSystem),
    mgr.aliasList = XmppMgr.loadAliasList content .empty → Reach step (fun _ _ => True) (start aiAgentUrl mgr) s →
      s.Defined name value → s.Executes name (s.mgr.aliasList.meaning value)

theorem UsableAlias.executes (usable : UsableAlias name value) (isName : Alias.IsName name) (some : value ≠ []) :
    ExecutesDefined name value := by
  intro content aiAgentUrl mgr s loaded reach defined
  have found := defined.found isName some usable.single usable.whole reach
  refine (executes_iff (defined.agent reach) isName _).mpr ⟨usable.queued, usable.plain, ?_⟩
  rw [usable.lowered, Alias.expansion_eq, found]
  rfl

/-- A run whose only message is about an alias. -/
theorem reach_aliasReply (mgr : XmppMgr) (cmd : XmppCmdEntry) (direct : isDirect cmd.cmdMsg = false)
    (noReply : ¬ ascii "return=" <:+: cmd.cmdMsg) (aliased : XmppMgr.isAliasMessage cmd.cmdMsg = true) :
    Reach step (fun _ _ => True) (start [] mgr)
      { (start [] mgr).sendReply cmd.sender cmd.cmdMsg (mgr.procCmdAlias cmd.cmdMsg) with
        pc := .popping, queued := [cmd], popped := [cmd] } := by
  have sent : Reach step (fun _ _ => True) (start [] mgr)
      { start [] mgr with processCmd := [cmd], queued := [cmd], gloox := .waking } :=
    Reach.start.next (a := XmppAction.onXmppMessage cmd.cmdMsg cmd.sender []) trivial
      (onlyIf_eq_some.mpr ⟨rfl, onXmppMessage_queued rfl direct noReply cmd.sender []⟩)
  have woken : Reach step (fun _ _ => True) (start [] mgr)
      { start [] mgr with processCmd := [cmd], queued := [cmd], sema := 1 } :=
    sent.next (a := XmppAction.wakeupThread) trivial (onlyIf_eq_some.mpr ⟨rfl, rfl⟩)
  have popping : Reach step (fun _ _ => True) (start [] mgr)
      { start [] mgr with processCmd := [cmd], queued := [cmd], pc := .popping } :=
    woken.next (a := XmppAction.semWait) trivial (onlyIf_eq_some.mpr ⟨⟨rfl, Nat.one_pos⟩, rfl⟩)
  have taken : Reach step (fun _ _ => True) (start [] mgr)
      { start [] mgr with pc := .taken cmd, queued := [cmd], popped := [cmd] } :=
    popping.next (a := XmppAction.popCmd) trivial (onlyIf_eq_some.mpr ⟨rfl, rfl⟩)
  refine taken.next (a := XmppAction.resolve) trivial ?_
  simp only [step]
  rw [if_pos aliased]
  rfl

/-- A run whose only message is a definition. -/
theorem exists_defined (name value : List Byte) (mgr : XmppMgr)
    (noReply : ¬ ascii "return=" <:+: Alias.definition name value) :
    ∃ s, Reach step (fun _ _ => True) (start [] mgr) s ∧ s.Defined name value ∧
      s.mgr.aliasList = mgr.aliasList.after (Alias.definition name value) := by
  have aliased := Alias.isAliasMessage_definition name value
  have other : ∀ {short : List Byte}, short.length ≤ 6 → ¬ Alias.definition name value = short := fun bound =>
    Alias.definition_ne name value bound
  have direct : isDirect (Alias.definition name value) = false := by
    refine isDirect_eq_false.mpr ⟨not_or.mpr ⟨?_, ?_⟩, not_or.mpr ⟨?_, ?_⟩⟩
    all_goals exact other (by decide)
  have reach := reach_aliasReply mgr ⟨Alias.definition name value, []⟩ direct noReply aliased
  refine ⟨_, reach, ⟨⟨[], [], [], rfl, fun cmd member => absurd member List.not_mem_nil⟩, ?_⟩, ?_⟩
  · exact fun cmd here => CommandPc.noConfusion here
  · exact XmppMgr.procCmdAlias_aliasList aliased

/-- A text that is longer than the name and the value of an alias, without any separator. -/
def fresh (name value : List Byte) (more : Nat) : List Byte :=
  List.replicate (name.length + value.length + 1 + more) 0x61

theorem fresh_length (name value : List Byte) (more : Nat) :
    (fresh name value more).length = name.length + value.length + 1 + more := List.length_replicate

theorem mem_fresh {more : Nat} {c : Byte} (member : c ∈ fresh name value more) : c = 0x61 :=
  (List.mem_replicate.mp member).2

theorem splitOn_fresh (name value : List Byte) (more : Nat) :
    (fresh name value more).splitOn semicolon = [fresh name value more] :=
  List.splitOn_eq_singleton fun member => absurd (mem_fresh member) (by decide)

/-- Two aliases, of the lower-cased name and of its value, and that of the name. -/
def shadowed (name value : List Byte) : Alias :=
  ((SortedMap.empty.insert (lower name) (fresh name value 0)).insert (fresh name value 0) (fresh name value 1)).insert
    name value

theorem length_lower (text : List Byte) : (lower text).length = text.length := List.length_map _

/-- The message reaches the alias of the lower-cased name. -/
theorem expansion_shadowed (different : lower name ≠ name) :
    (shadowed name value).expansion (lower name) = [fresh name value 1] := by
  have long := fresh_length name value
  have lowered := length_lower name
  have apart : lower name ≠ fresh name value 0 := by
    intro same
    rw [same, long] at lowered
    omega
  have other : fresh name value 0 ≠ name := by
    intro same
    have tooLong := long 0
    rw [same] at tooLong
    omega
  have first : (shadowed name value).find (lower name) = some (fresh name value 0) := by
    unfold shadowed
    rw [SortedMap.find_insert_of_ne _ different, SortedMap.find_insert_of_ne _ apart, SortedMap.find_insert_self]
  have second : (shadowed name value).find (fresh name value 0) = some (fresh name value 1) := by
    unfold shadowed
    rw [SortedMap.find_insert_of_ne _ other, SortedMap.find_insert_self]
  rw [Alias.expansion_eq, first]
  unfold Alias.meaning
  rw [Option.getD_some, splitOn_fresh, List.flatMap_singleton, second]
  exact splitOn_fresh name value 1

/-- The value does not stand for what that alias stands for. -/
theorem fresh_not_mem_meaning (name value : List Byte) :
    fresh name value 1 ∉ (shadowed name value).meaning value := by
  have long := fresh_length name value
  have longer : ∀ {piece : List Byte}, piece ∈ value.splitOn semicolon →
      piece.length < (fresh name value 0).length := by
    intro piece inside
    have short := length_splitOn inside
    rw [long]
    omega
  have apart : ∀ {piece : List Byte} {more : Nat}, piece ∈ value.splitOn semicolon → piece ≠ fresh name value more := by
    intro piece more inside same
    have short := longer inside
    rw [same, long, long] at short
    omega
  intro member
  obtain ⟨piece, inside, result⟩ := List.mem_flatMap.mp member
  unfold shadowed at result
  by_cases own : piece = name
  · rw [own, SortedMap.find_insert_self] at result
    exact apart result (Eq.refl _)
  · rw [SortedMap.find_insert_of_ne _ own, SortedMap.find_insert_of_ne _ (apart inside)] at result
    by_cases lowered : piece = lower name
    · rw [lowered, SortedMap.find_insert_self, Option.map_some, Option.getD_some, splitOn_fresh] at result
      have same := congrArg List.length (List.mem_singleton.mp result)
      rw [long, long] at same
      omega
    · rw [SortedMap.find_insert_of_ne _ lowered] at result
      exact apart inside (List.mem_singleton.mp result).symm

/-- The list file with the first two of these aliases. -/
def shadowedFile (name value : List Byte) : List Byte :=
  [(lower name, fresh name value 0), (fresh name value 0, fresh name value 1)].flatMap fun entry =>
    XmppMgr.aliasLine entry ++ [newline]

theorem load_shadowedFile (isName : Alias.IsName name) (single : newline ∉ name) :
    (XmppMgr.loadAliasList (shadowedFile name value) .empty).insert name value = shadowed name value := by
  have sign : ∀ more, equalsSign ∉ fresh name value more := fun more member => absurd (mem_fresh member) (by decide)
  have line : ∀ more, newline ∉ fresh name value more := fun more member => absurd (mem_fresh member) (by decide)
  have clean : ∀ entry ∈ [(lower name, fresh name value 0), (fresh name value 0, fresh name value 1)],
      XmppMgr.CleanAlias entry := by
    intro entry member
    rcases List.mem_cons.mp member with rfl | later
    · exact ⟨⟨fun inside => isName.sign (lower_equalsSign inside), fun inside => single (lower_newline inside)⟩,
        sign 0, line 0⟩
    · rw [List.mem_singleton.mp later]
      exact ⟨⟨sign 0, line 0⟩, sign 1, line 1⟩
  unfold shadowedFile
  rw [XmppMgr.loadAliasList_lines clean]
  rfl

/-- What a run from a list file with a definition alone says of its use. -/
theorem ExecutesDefined.expansion (executes : ExecutesDefined name value) (isName : Alias.IsName name)
    (noReply : ¬ ascii "return=" <:+: Alias.definition name value) (content : List Byte) :
    isDirect name = false ∧ XmppMgr.isAliasMessage name = false ∧
      ((XmppMgr.loadAliasList content .empty).after (Alias.definition name value)).expansion (lower name) =
        ((XmppMgr.loadAliasList content .empty).after (Alias.definition name value)).meaning value := by
  obtain ⟨s, reach, defined, list⟩ := exists_defined name value
    { XmppMgr.start [] [] with aliasList := XmppMgr.loadAliasList content .empty } noReply
  have used := (executes_iff (defined.agent reach) isName _).mp (executes content [] _ s rfl reach defined)
  rw [list] at used
  exact used

theorem ExecutesDefined.usable (executes : ExecutesDefined name value) (isName : Alias.IsName name) (some : value ≠ [])
    (single : newline ∉ name) (noReply : ¬ ascii "return=" <:+: Alias.definition name value) :
    UsableAlias name value := by
  obtain ⟨queued, plain, same⟩ := executes.expansion isName noReply []
  have whole : equalsSign ∉ value := by
    intro sign
    have free := (Alias.signFree_load []).after (Alias.definition name value)
    obtain ⟨command, member, inside⟩ := (free.meaning value).mpr sign
    rw [← same] at member
    exact free.expansion (fun lowered => isName.sign (lower_equalsSign lowered)) command member inside
  refine ⟨single, ?_, queued, plain, whole⟩
  by_contra different
  have shadow := (executes.expansion isName noReply (shadowedFile name value)).2.2
  rw [Alias.after_definition _ isName single some whole, load_shadowedFile isName single,
    expansion_shadowed different] at shadow
  exact fresh_not_mem_meaning name value (shadow ▸ List.mem_singleton_self _)

/-- A name in lower case that is no message of another kind executes all of its value, if
this has no `=`. Among the names of one line whose definition is not taken for a reply, no
others do so in every run. -/
theorem define_then_use (isName : Alias.IsName name) (some : value ≠ []) :
    (UsableAlias name value → ExecutesDefined name value) ∧
      (newline ∉ name → ¬ ascii "return=" <:+: Alias.definition name value → ExecutesDefined name value →
        UsableAlias name value) :=
  ⟨fun usable => usable.executes isName some,
    fun single noReply executes => executes.usable isName some single noReply⟩

theorem define_then_use_list :
    ∃ s : XmppSystem, s.Executes (ascii "ll") [ascii "uptime", ascii "version", ascii "gpio 1"] := by
  have isName : Alias.IsName (ascii "ll") := ⟨by decide +kernel, by decide +kernel⟩
  have usable : UsableAlias (ascii "ll") (ascii "uptime;state") :=
    ⟨by decide +kernel, by decide +kernel, by decide +kernel, by decide +kernel, by decide +kernel⟩
  obtain ⟨s, reach, popped, popping, meaning⟩ := exists_reach step (fun _ _ => True)
    (start [] (.start (ascii "owner@home") []))
    [.onXmppMessage (ascii "alias ll=uptime;state") (ascii "guest@home") [], .wakeupThread, .semWait, .popCmd, .resolve,
     .onXmppMessage (ascii "alias state=version;gpio 1") (ascii "guest@home") [], .wakeupThread, .popCmd, .resolve]
    (fun s => s.popped = [⟨Alias.definition (ascii "ll") (ascii "uptime;state"), ascii "guest@home"⟩,
        ⟨ascii "alias state=version;gpio 1", ascii "guest@home"⟩] ∧ s.pc = .popping ∧
      s.mgr.aliasList.meaning (ascii "uptime;state") = [ascii "uptime", ascii "version", ascii "gpio 1"])
    (by decide +kernel)
  have defined : s.Defined (ascii "ll") (ascii "uptime;state") := by
    refine ⟨⟨[], _, _, popped, fun cmd member => ?_⟩, fun cmd here => CommandPc.noConfusion (popping.symm.trans here)⟩
    rw [List.mem_singleton.mp member]
    decide +kernel
  have executes := (define_then_use isName (by decide +kernel)).1 usable [] [] _ s rfl reach defined
  rw [meaning] at executes
  exact ⟨s, executes⟩

/-- The text behind a second `=` is lost, and a name with capitals is not found. -/
theorem use_differs_from_definition :
    ¬ ExecutesDefined (ascii "set") (ascii "shellcmd a=b") ∧ ¬ ExecutesDefined (ascii "Up") (ascii "uptime") := by
  refine ⟨fun executes => ?_, fun executes => ?_⟩
  · have isName : Alias.IsName (ascii "set") := ⟨by decide +kernel, by decide +kernel⟩
    have used := (executes.expansion isName (by decide +kernel) []).2.2
    exact absurd used (by decide +kernel)
  · have isName : Alias.IsName (ascii "Up") := ⟨by decide +kernel, by decide +kernel⟩
    have used := (executes.expansion isName (by decide +kernel) []).2.2
    exact absurd used (by decide +kernel)

end XmppSystem
end JsonRpcTcp
