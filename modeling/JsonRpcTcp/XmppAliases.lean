import JsonRpcTcp.XmppQueue

namespace JsonRpcTcp
open TextStream

namespace XmppMgr

/-! The alias file against the alias list. -/

/-- The line of an alias that is read as it was written. -/
structure CleanAlias (entry : List Byte × List Byte) : Prop where
  key : equalsSign ∉ entry.1 ∧ newline ∉ entry.1
  value : equalsSign ∉ entry.2 ∧ newline ∉ entry.2

theorem twoFields_aliasLine {entry : List Byte × List Byte} (clean : CleanAlias entry) :
    twoFields (aliasLine entry) = entry := by
  have first : (ofText (aliasLine entry)).getline equalsSign = (entry.1, ofText entry.2) := by
    rw [aliasLine, List.append_assoc, List.singleton_append]
    exact getline_found clean.key.1
  unfold twoFields
  dsimp only
  rw [first, getline_last clean.value.1]

theorem aliasLine_single {entry : List Byte × List Byte} (clean : CleanAlias entry) : newline ∉ aliasLine entry := by
  unfold aliasLine
  rw [List.mem_append, List.mem_append, List.mem_singleton]
  rintro ((inKey | sign) | inValue)
  · exact clean.key.2 inKey
  · exact absurd sign (by decide)
  · exact clean.value.2 inValue

/-- A file of clean lines is read into the map that it was written from. -/
theorem loadAliasList_lines {entries : List (List Byte × List Byte)} (clean : ∀ entry ∈ entries, CleanAlias entry)
    (aliasList : Alias) :
    loadAliasList (entries.flatMap fun entry => aliasLine entry ++ [newline]) aliasList = aliasList.insertAll entries := by
  have texts : (entries.flatMap fun entry => aliasLine entry ++ [newline]) =
      (entries.map aliasLine).flatMap fun text => text ++ [newline] := by
    rw [List.flatMap_map]
  have single : ∀ text ∈ entries.map aliasLine, newline ∉ text := by
    intro text member
    obtain ⟨entry, inside, rfl⟩ := List.mem_map.mp member
    exact aliasLine_single (clean entry inside)
  have fields : (entries.map aliasLine).map twoFields = entries := by
    rw [List.map_map]
    refine (List.map_congr_left fun entry member => ?_).trans (List.map_id entries)
    exact twoFields_aliasLine (clean entry member)
  unfold loadAliasList
  rw [texts, lines_flatMap single, fields]

/-- The file holds clean lines whose map is the alias list. -/
structure AliasesStored (m : XmppMgr) : Prop where
  clean : ∀ entry ∈ m.aliasList.entries, CleanAlias entry
  stored : ∃ entries, (∀ entry ∈ entries, CleanAlias entry) ∧ SortedMap.empty.insertAll entries = m.aliasList ∧
    m.aliasListFile = some (entries.flatMap fun entry => aliasLine entry ++ [newline])

variable {m : XmppMgr}

theorem AliasesStored.load (stored : m.AliasesStored) :
    ∃ content, m.aliasListFile = some content ∧ loadAliasList content .empty = m.aliasList := by
  obtain ⟨entries, clean, same, file⟩ := stored.stored
  exact ⟨_, file, (loadAliasList_lines clean .empty).trans same⟩

theorem AliasesStored.keeps {m' : XmppMgr} (stored : m.AliasesStored) (keeps : Keeps m m') : m'.AliasesStored where
  clean := keeps.aliasList ▸ stored.clean
  stored := by
    rw [keeps.aliasList, keeps.aliasListFile]
    exact stored.stored

/-- The file is written again from a clean list. -/
theorem AliasesStored.rewrite (stored : m.AliasesStored) {list : Alias}
    (clean : ∀ entry ∈ list.entries, CleanAlias entry) :
    ({ m with aliasList := list, aliasListFile := rewriteAliasList m.aliasListFile list } : XmppMgr).AliasesStored where
  clean := clean
  stored := by
    obtain ⟨entries, _, _, file⟩ := stored.stored
    refine ⟨list.entries, clean, SortedMap.insertAll_entries list, ?_⟩
    unfold rewriteAliasList
    rw [file]
    rfl

/-- A line is appended for a new alias. -/
theorem AliasesStored.extend (stored : m.AliasesStored) {key value : List Byte} (clean : CleanAlias (key, value)) :
    ({ m with aliasList := m.aliasList.insert key value
              aliasListFile := extendAliasList m.aliasListFile key value } : XmppMgr).AliasesStored where
  clean := by
    intro entry member
    rcases SortedMap.mem_insertEntry member with rfl | old
    · exact clean
    · exact stored.clean entry old
  stored := by
    obtain ⟨entries, cleans, same, file⟩ := stored.stored
    refine ⟨entries ++ [(key, value)], ?_, ?_, ?_⟩
    · intro entry member
      rcases List.mem_append.mp member with old | new
      · exact cleans entry old
      · exact List.mem_singleton.mp new ▸ clean
    · rw [SortedMap.insertAll_concat, same]
    · unfold extendAliasList
      rw [file]
      simp

theorem mem_getline {c delim : Byte} {s : TextStream Byte} (member : c ∈ (s.getline delim).1) : c ∈ s.rest := by
  unfold getline at member
  split_ifs at member
  · dsimp only at member
    split at member
    · exact (List.takeWhile_sublist _).subset member
    · exact (List.takeWhile_sublist _).subset member
  · exact absurd member List.not_mem_nil

theorem mem_word_rest {c : Byte} {s : TextStream Byte} (member : c ∈ (readWord s).2.rest) : c ∈ s.rest := by
  unfold readWord word at member
  split_ifs at member
  · exact (List.dropWhile_sublist _).subset ((List.dropWhile_sublist _).subset member)
  · exact member

/-- The key of an alias message has neither a line break nor an `=`. -/
theorem aliasKey_clean (msg : List Byte) :
    equalsSign ∉ aliasKey (twoFields msg).1 ∧ newline ∉ aliasKey (twoFields msg).1 := by
  have inLine : ∀ c ∈ aliasKey (twoFields msg).1, c ∈ (wordAndLine (twoFields msg).1).2 := fun c member =>
    (List.dropWhile_sublist _).subset member
  refine ⟨fun member => ?_, fun member => ?_⟩
  · have inText : equalsSign ∈ (twoFields msg).1 := mem_word_rest (mem_getline (inLine _ member))
    exact getline_single equalsSign (ofText msg) inText
  · exact getline_single newline _ (inLine _ member)

/-- A definition whose value has no line break. -/
theorem cleanAlias_of_single {msg : List Byte} (single : newline ∉ (twoFields msg).2) :
    CleanAlias (aliasKey (twoFields msg).1, (twoFields msg).2) :=
  ⟨aliasKey_clean msg, getline_single equalsSign _, single⟩

theorem AliasesStored.procCmdAlias (stored : m.AliasesStored) {msg : List Byte} (single : newline ∉ (twoFields msg).2) :
    (m.procCmdAlias msg).mgr.AliasesStored := by
  have clean := cleanAlias_of_single single
  have erased : ∀ entry ∈ (m.aliasList.erase (aliasKey (twoFields msg).1)).entries, CleanAlias entry :=
    fun entry member =>
    stored.clean entry (List.mem_filter.mp member).1
  unfold XmppMgr.procCmdAlias
  split_ifs with query
  · exact stored
  · dsimp only
    split_ifs
    · exact stored.rewrite erased
    · cases m.aliasList.find (aliasKey (twoFields msg).1) with
      | none => exact stored.extend clean
      | some old =>
        refine stored.rewrite fun entry member => ?_
        rcases SortedMap.mem_insertEntry member with rfl | kept
        · exact clean
        · exact erased entry kept

end XmppMgr

namespace XmppSystem

/-- An alias message that is queued defines its key by a text without a line break. -/
def SingleLineValue (s : XmppSystem) : XmppAction → Prop
  | .onXmppMessage msg sender answer =>
    (s.onXmppMessage msg sender answer).gloox = .waking → XmppMgr.isAliasMessage msg = true →
      newline ∉ (XmppMgr.twoFields msg).2
  | _ => True

instance (s : XmppSystem) (action : XmppAction) : Decidable (s.SingleLineValue action) := by
  cases action with
  | onXmppMessage msg sender answer =>
    exact inferInstanceAs (Decidable ((s.onXmppMessage msg sender answer).gloox = .waking →
      XmppMgr.isAliasMessage msg = true → newline ∉ (XmppMgr.twoFields msg).2))
  | _ => exact inferInstanceAs (Decidable True)

/-- The messages that are to be processed. -/
def pendingMessages (s : XmppSystem) : List XmppCmdEntry :=
  match s.pc with
  | .taken cmd => cmd :: s.processCmd
  | _ => s.processCmd

structure AliasesKept (s : XmppSystem) : Prop where
  stored : s.mgr.AliasesStored
  single : ∀ cmd ∈ s.pendingMessages, XmppMgr.isAliasMessage cmd.cmdMsg = true →
    newline ∉ (XmppMgr.twoFields cmd.cmdMsg).2

variable {s t : XmppSystem}

theorem AliasesKept.onXmppMessage (kept : s.AliasesKept) {msg sender answer : List Byte}
    (single : (s.onXmppMessage msg sender answer).gloox = .waking → XmppMgr.isAliasMessage msg = true →
      newline ∉ (XmppMgr.twoFields msg).2) : (s.onXmppMessage msg sender answer).AliasesKept := by
  unfold XmppSystem.onXmppMessage at single ⊢
  split_ifs at single ⊢
  · exact ⟨kept.stored, kept.single⟩
  · exact ⟨kept.stored, kept.single⟩
  · exact ⟨kept.stored, kept.single⟩
  · exact ⟨kept.stored, kept.single⟩
  · refine ⟨kept.stored, fun cmd member => ?_⟩
    have old := kept.single cmd
    unfold pendingMessages at old member
    dsimp only at member
    cases here : s.pc with
    | taken current =>
      simp only [here, List.mem_cons, List.mem_append, List.not_mem_nil, or_false] at old member
      rcases member with same | queued | rfl
      · exact old (.inl same)
      · exact old (.inr queued)
      · exact single rfl
    | _ =>
      simp only [here, List.mem_append, List.mem_singleton] at old member
      rcases member with queued | rfl
      · exact old queued
      · exact single rfl

theorem aliasesKept_step {action : XmppAction} (kept : s.AliasesKept) (permitted : s.SingleLineValue action)
    (run : s.step action = some t) : t.AliasesKept := by
  cases action with
  | onXmppMessage msg sender answer =>
    obtain ⟨_, rfl⟩ := onlyIf_eq_some.mp run
    exact kept.onXmppMessage permitted
  | wakeupThread =>
    obtain ⟨_, rfl⟩ := onlyIf_eq_some.mp run
    exact ⟨kept.stored, kept.single⟩
  | semWait =>
    obtain ⟨⟨here, _⟩, rfl⟩ := onlyIf_eq_some.mp run
    have single := kept.single
    simp only [pendingMessages, here] at single
    exact ⟨kept.stored, single⟩
  | interrupted =>
    obtain ⟨_, rfl⟩ := onlyIf_eq_some.mp run
    exact kept
  | popCmd =>
    have single := kept.single
    simp only [step] at run
    split at run
    case h_1 empty =>
      obtain ⟨here, rfl⟩ := onlyIf_eq_some.mp run
      simp only [pendingMessages, here] at single
      exact ⟨kept.stored, single⟩
    case h_2 cmd rest queue =>
      obtain ⟨here, rfl⟩ := onlyIf_eq_some.mp run
      simp only [pendingMessages, here, queue] at single
      exact ⟨kept.stored, single⟩
  | resolve =>
    have single := kept.single
    simp only [step] at run
    split at run
    case h_1 cmd here =>
      simp only [pendingMessages, here] at single
      have later : ∀ other ∈ s.processCmd, XmppMgr.isAliasMessage other.cmdMsg = true →
          newline ∉ (XmppMgr.twoFields other.cmdMsg).2 := fun other member =>
        single other (List.mem_cons_of_mem cmd member)
      split_ifs at run with aliased
      · cases Option.some.inj run
        exact ⟨kept.stored.procCmdAlias (single cmd List.mem_cons_self aliased), later⟩
      · cases Option.some.inj run
        exact ⟨kept.stored, later⟩
    case h_2 => cases run
  | command env =>
    have single := kept.single
    simp only [step] at run
    split at run
    case h_1 sender here =>
      cases Option.some.inj run
      simp only [pendingMessages, here] at single
      exact ⟨kept.stored, single⟩
    case h_2 sender msg rest here =>
      cases Option.some.inj run
      simp only [pendingMessages, here] at single
      exact ⟨kept.stored.keeps (XmppMgr.keeps_runCommand s.mgr env msg sender), single⟩
    case h_3 => cases run

/-- The alias file holds the alias list in every run whose alias definitions have no line
break in their value. -/
theorem aliases_persist {aiAgentUrl : List Byte} {mgr : XmppMgr} (empty : mgr.aliasList = .empty)
    (created : mgr.aliasListFile = some []) (reach : Reach step SingleLineValue (start aiAgentUrl mgr) s) :
    ∃ content, s.mgr.aliasListFile = some content ∧ XmppMgr.loadAliasList content .empty = s.mgr.aliasList := by
  have initially : (start aiAgentUrl mgr).AliasesKept := by
    refine ⟨⟨?_, [], ?_, ?_, created⟩, fun cmd member => absurd member List.not_mem_nil⟩
    · intro entry member
      rw [show (start aiAgentUrl mgr).mgr.aliasList = .empty from empty] at member
      exact absurd member List.not_mem_nil
    · exact fun entry member => absurd member List.not_mem_nil
    · exact empty.symm
  have kept : s.AliasesKept :=
    reach.invariant initially fun _ _ _ kept permitted run => aliasesKept_step kept permitted run
  exact kept.stored.load

/-- An alias is defined, redefined and another one is added. -/
theorem aliases_persist_redefined :
    ∃ s : XmppSystem, s.mgr.aliasListFile = some (ascii "on=gpio 3 1\noff=gpio 3 0\n") ∧
      ∃ content, s.mgr.aliasListFile = some content ∧
        XmppMgr.loadAliasList content .empty = s.mgr.aliasList := by
  obtain ⟨s, reach, file⟩ := exists_reach step SingleLineValue (start [] (.start (ascii "owner@home") []))
    [.onXmppMessage (ascii "alias on=gpio 2 1") (ascii "guest@home") [], .wakeupThread, .semWait, .popCmd, .resolve,
     .onXmppMessage (ascii "Alias on=gpio 3 1") (ascii "guest@home") [], .popCmd, .resolve, .wakeupThread,
     .onXmppMessage (ascii "alias off=gpio 3 0") (ascii "owner@home") [], .popCmd, .resolve]
    (fun s => s.mgr.aliasListFile = some (ascii "on=gpio 3 1\noff=gpio 3 0\n")) (by decide +kernel)
  exact ⟨s, file, aliases_persist rfl rfl reach⟩

/-- The second line of a value is read as an alias of its own. -/
theorem alias_with_line_break :
    ∃ s, Reach step (fun _ _ => True) (start [] (.start (ascii "owner@home") [])) s ∧
      ∃ content, s.mgr.aliasListFile = some content ∧
        XmppMgr.loadAliasList content .empty ≠ s.mgr.aliasList := by
  obtain ⟨s, reach, file, different⟩ := exists_reach step (fun _ _ => True) (start [] (.start (ascii "owner@home") []))
    [.onXmppMessage (ascii "alias on=gpio 2 1\ngpio 3 1") (ascii "guest@home") [], .wakeupThread, .semWait, .popCmd,
     .resolve]
    (fun s => s.mgr.aliasListFile = some (ascii "on=gpio 2 1\ngpio 3 1\n") ∧
      XmppMgr.loadAliasList (ascii "on=gpio 2 1\ngpio 3 1\n") .empty ≠ s.mgr.aliasList) (by decide +kernel)
  exact ⟨s, reach, _, file, different⟩

end XmppSystem
end JsonRpcTcp
