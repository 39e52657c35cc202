import JsonRpcTcp.Lib.Reach
import JsonRpcTcp.XmppAccess

namespace JsonRpcTcp
open TextStream

/-- The command thread's handling of event subscriptions, and a restart of the service. -/
inductive SubscriptionAction where
  | eventGsm (msg sender : List Byte)
  | eventGpio (msg sender : List Byte)
  -- the alias table has changed
  | aliases (aliasList : Alias)
  | restart

/-- What tells one subscription from another. -/
def EventSubscrEntry.key (entry : EventSubscrEntry) : List Byte × EvntType × Int32 :=
  (entry.subscriber, entry.evntType, entry.evntArg)

/-- A name that is read as it was written. -/
structure PlainName (name : List Byte) : Prop where
  nonempty : name ≠ []
  plain : ∀ c ∈ name, isSpaceByte c = false

instance (name : List Byte) : Decidable (PlainName name) :=
  decidable_of_iff (name ≠ [] ∧ ∀ c ∈ name, isSpaceByte c = false)
    ⟨fun both => ⟨both.1, both.2⟩, fun name => ⟨name.nonempty, name.plain⟩⟩

namespace XmppMgr

/-- The list of a service that has just been started. -/
def restartSubscriptions (m : XmppMgr) : XmppMgr :=
  { m with myEventList := (m.eventSubscrListFile.map fun content => loadEventSubscrList content []).getD [] }

def subscriptionStep (m : XmppMgr) : SubscriptionAction → Option XmppMgr
  | .eventGsm msg sender => some (m.procCmdEventGsm msg sender).mgr
  | .eventGpio msg sender => some (m.procCmdEventGpio msg sender).mgr
  | .aliases aliasList => some { m with aliasList := aliasList }
  | .restart => some m.restartSubscriptions

/-- The senders have names without white space. -/
def NamedSender (_ : XmppMgr) : SubscriptionAction → Prop
  | .eventGsm _ sender | .eventGpio _ sender => PlainName sender
  | _ => True

instance (m : XmppMgr) (action : SubscriptionAction) : Decidable (m.NamedSender action) := by
  cases action with
  | eventGsm msg sender | eventGpio msg sender => exact inferInstanceAs (Decidable (PlainName sender))
  | _ => exact inferInstanceAs (Decidable True)

/-- An entry that commands make. -/
structure SoundEntry (entry : EventSubscrEntry) : Prop where
  name : PlainName entry.subscriber
  kind : entry.evntType = .gsm ∧ entry.evntArg = 0 ∨ entry.evntType = .gpio

/-- Three words with blanks between them. -/
theorem threeWords_line {first second third : List Byte} (one : PlainName first) (two : PlainName second)
    (three : PlainName third) : threeWords (first ++ [space] ++ second ++ [space] ++ third) = (first, second, third) := by
  have blank : isSpaceByte space = true := rfl
  have text : first ++ [space] ++ second ++ [space] ++ third =
      [] ++ (first ++ ([space] ++ (second ++ ([space] ++ (third ++ []))))) := by simp
  have ends : ∀ rest : List Byte, ∀ c ∈ ([space] ++ rest).head?, isSpaceByte c = true := by
    intro rest c member
    cases Option.some.inj member
    exact blank
  have blanks : ∀ c ∈ [space], isSpaceByte c = true := fun c member => List.mem_singleton.mp member ▸ blank
  have here : (ofText ([] ++ (first ++ ([space] ++ (second ++ ([space] ++ (third ++ []))))))).word isSpaceByte =
      (first, ofText ([space] ++ (second ++ ([space] ++ (third ++ []))))) :=
    word_split (fun c member => absurd member List.not_mem_nil) one.nonempty one.plain (ends _)
  have there : (ofText ([space] ++ (second ++ ([space] ++ (third ++ []))))).word isSpaceByte =
      (second, ofText ([space] ++ (third ++ []))) :=
    word_split blanks two.nonempty two.plain (ends _)
  have last : (ofText ([space] ++ (third ++ []))).word isSpaceByte = (third, ⟨[], true, false⟩) :=
    word_split blanks three.nonempty three.plain fun c member => absurd member (Option.not_mem_none c)
  unfold threeWords readWord
  dsimp only
  rw [text, here, there, last]

theorem plainName_decimal (n : Int) : PlainName (decimal n) where
  nonempty := decimal_ne_nil n
  plain := fun c member => isSpaceByte_of_decimal (decimal_bytes n c member)

theorem plainName_gsm : PlainName EvntType.gsm.text := by decide +kernel

theorem plainName_gpio : PlainName EvntType.gpio.text := by decide +kernel

/-- A line that was written for an entry is read as this entry, enabled. -/
theorem readEventLine_eventLine {entry : EventSubscrEntry} (sound : SoundEntry entry) :
    readEventLine (eventLine entry) = some { entry with status := true } := by
  have number : atoi (decimal entry.evntArg.toInt) = entry.evntArg := atoi_decimal entry.evntArg
  have other : EvntType.gpio.text ≠ EvntType.gsm.text := by decide +kernel
  unfold readEventLine eventLine
  rcases sound.kind with ⟨gsm, _⟩ | gpio
  · rw [gsm, threeWords_line sound.name plainName_gsm (plainName_decimal _)]
    dsimp only
    rw [if_pos rfl, number, ← gsm]
  · rw [gpio, threeWords_line sound.name plainName_gpio (plainName_decimal _)]
    dsimp only
    rw [if_neg other, if_pos rfl, number, ← gpio]

theorem eventLine_single {entry : EventSubscrEntry} (sound : SoundEntry entry) : newline ∉ eventLine entry := by
  have absent : ∀ {name : List Byte}, PlainName name → newline ∉ name := fun plain member =>
    Bool.noConfusion ((plain.plain newline member).symm.trans (by decide : isSpaceByte newline = true))
  have kind : PlainName entry.evntType.text := by
    rcases sound.kind with ⟨gsm, _⟩ | gpio
    · exact gsm ▸ plainName_gsm
    · exact gpio ▸ plainName_gpio
  unfold eventLine
  simp only [List.mem_append, List.mem_singleton, not_or]
  exact ⟨⟨⟨⟨absent sound.name, by decide⟩, absent kind⟩, by decide⟩, absent (plainName_decimal _)⟩

/-- The enabled entries of a list. -/
def enabled (list : List EventSubscrEntry) : List EventSubscrEntry := list.filter fun entry => entry.status

/-- The file of the enabled entries is read as these entries. -/
theorem loadEventSubscrList_lines {list : List EventSubscrEntry} (sound : ∀ entry ∈ list, SoundEntry entry) :
    loadEventSubscrList ((enabled list).flatMap fun entry => eventLine entry ++ [newline]) [] = enabled list := by
  have soundOn : ∀ entry ∈ enabled list, SoundEntry entry :=
    fun entry member => sound entry (List.mem_filter.mp member).1
  have texts : ((enabled list).flatMap fun entry => eventLine entry ++ [newline]) =
      ((enabled list).map eventLine).flatMap fun text => text ++ [newline] := by
    rw [List.flatMap_map]
  have single : ∀ text ∈ (enabled list).map eventLine, newline ∉ text := by
    intro text member
    obtain ⟨entry, inside, rfl⟩ := List.mem_map.mp member
    exact eventLine_single (soundOn entry inside)
  have read : ∀ entry ∈ enabled list, readEventLine (eventLine entry) = some entry := by
    intro entry member
    have status : entry.status = true := (List.mem_filter.mp member).2
    rw [readEventLine_eventLine (soundOn entry member), ← status]
  have all : ∀ entries : List EventSubscrEntry, (∀ entry ∈ entries, readEventLine (eventLine entry) = some entry) →
      (entries.map eventLine).filterMap readEventLine = entries := by
    intro entries reads
    induction entries with
    | nil => rfl
    | cons entry rest ih =>
      rw [List.map_cons, List.filterMap_cons, reads entry List.mem_cons_self]
      dsimp only
      rw [ih fun other member => reads other (List.mem_cons_of_mem entry member)]
  unfold loadEventSubscrList
  rw [texts, lines_flatMap single, List.nil_append, all _ read]

/-- What holds of the list and the file behind every step. -/
structure Subscribed (m : XmppMgr) : Prop where
  sound : ∀ entry ∈ m.myEventList, SoundEntry entry
  distinct : (m.myEventList.map EventSubscrEntry.key).Nodup
  file : m.eventSubscrListFile = some ((enabled m.myEventList).flatMap fun entry => eventLine entry ++ [newline])

variable {m : XmppMgr}

theorem setStatus_key (found : EventSubscrEntry → Bool) (status : Bool) (list : List EventSubscrEntry) :
    (setStatus found status list).map EventSubscrEntry.key = list.map EventSubscrEntry.key := by
  induction list with
  | nil => rfl
  | cons entry rest ih =>
    unfold setStatus
    split_ifs
    · rfl
    · rw [List.map_cons, List.map_cons, ih]

theorem mem_setStatus {found : EventSubscrEntry → Bool} {status : Bool} {list : List EventSubscrEntry}
    {entry : EventSubscrEntry} (member : entry ∈ setStatus found status list) :
    ∃ old ∈ list, old.key = entry.key := by
  have inKeys : entry.key ∈ list.map EventSubscrEntry.key :=
    setStatus_key found status list ▸ List.mem_map_of_mem member
  exact List.mem_map.mp inKeys

theorem SoundEntry.of_key {entry other : EventSubscrEntry} (sound : SoundEntry entry) (same : entry.key = other.key) :
    SoundEntry other := by
  have subscriber : entry.subscriber = other.subscriber := congrArg Prod.fst same
  have kind : entry.evntType = other.evntType := congrArg (fun key => key.2.1) same
  have arg : entry.evntArg = other.evntArg := congrArg (fun key => key.2.2) same
  exact ⟨subscriber ▸ sound.name, kind ▸ arg ▸ sound.kind⟩

/-- The entry of a key is found by its parts. -/
theorem found_of_key {entry : EventSubscrEntry} (sound : SoundEntry entry) :
    entry.found entry.subscriber entry.evntArg entry.evntType = true := by
  unfold EventSubscrEntry.found
  rcases sound.kind with ⟨gsm, _⟩ | gpio
  · simp [gsm]
  · simp [gpio]

/-- The file is written again from the list with a changed status. -/
theorem Subscribed.rewrite (subscribed : m.Subscribed) (found : EventSubscrEntry → Bool) (status : Bool) :
    ({ m with myEventList := setStatus found status m.myEventList
              eventSubscrListFile := rewriteEventSubscrList m.eventSubscrListFile
                (setStatus found status m.myEventList) } : XmppMgr).Subscribed where
  sound := by
    intro entry member
    obtain ⟨old, inside, same⟩ := mem_setStatus member
    exact (subscribed.sound old inside).of_key same
  distinct := by
    dsimp only
    rw [setStatus_key]
    exact subscribed.distinct
  file := by
    dsimp only
    unfold rewriteEventSubscrList
    rw [subscribed.file]
    rfl

/-- A line is appended for a new subscription. -/
theorem Subscribed.extend (subscribed : m.Subscribed) {entry : EventSubscrEntry} (sound : SoundEntry entry)
    (on : entry.status = true) (fresh : ∀ old ∈ m.myEventList, old.key ≠ entry.key) :
    ({ m with myEventList := m.myEventList ++ [entry]
              eventSubscrListFile := extendEventSubscrList m.eventSubscrListFile entry } : XmppMgr).Subscribed where
  sound := by
    intro other member
    rcases List.mem_append.mp member with old | new
    · exact subscribed.sound other old
    · exact List.mem_singleton.mp new ▸ sound
  distinct := by
    dsimp only
    rw [List.map_append, List.map_singleton]
    refine List.nodup_append.mpr ⟨subscribed.distinct, List.nodup_singleton _, ?_⟩
    intro key inside other member same
    obtain ⟨old, oldInside, rfl⟩ := List.mem_map.mp inside
    exact fresh old oldInside (same.trans (List.mem_singleton.mp member))
  file := by
    have more : enabled (m.myEventList ++ [entry]) = enabled m.myEventList ++ [entry] := by
      unfold enabled
      rw [List.filter_append, List.filter_cons_of_pos on, List.filter_nil]
    dsimp only
    unfold extendEventSubscrList
    rw [subscribed.file, more, List.flatMap_append]
    simp

theorem Subscribed.accessEvent (subscribed : m.Subscribed) {sender : List Byte} {evntType : EvntType} {arg : Int32}
    (name : PlainName sender) (kind : evntType = .gsm ∧ arg = 0 ∨ evntType = .gpio) (value : Option (List Byte)) :
    (m.accessEvent sender evntType arg value).mgr.Subscribed := by
  unfold XmppMgr.accessEvent
  dsimp only
  cases located : m.myEventList.find? (EventSubscrEntry.found sender arg evntType) with
  | some entry =>
    cases value with
    | none => exact subscribed
    | some text => exact subscribed.rewrite _ _
  | none =>
    cases value with
    | none => exact subscribed
    | some text =>
      dsimp only
      split_ifs
      · refine subscribed.extend ⟨name, kind⟩ rfl fun old member same => ?_
        have found := found_of_key (subscribed.sound old member)
        have subscriber : old.subscriber = sender := congrArg Prod.fst same
        have type : old.evntType = evntType := congrArg (fun key => key.2.1) same
        have number : old.evntArg = arg := congrArg (fun key => key.2.2) same
        rw [subscriber, type, number] at found
        exact List.find?_eq_none.mp located old member found
      · exact subscribed

theorem Subscribed.eventGsm (subscribed : m.Subscribed) {sender : List Byte} (name : PlainName sender)
    (msg : List Byte) :
    (m.procCmdEventGsm msg sender).mgr.Subscribed := by
  unfold procCmdEventGsm
  dsimp only
  split_ifs
  · exact subscribed
  · exact subscribed.accessEvent name (.inl ⟨rfl, rfl⟩) _
  · exact subscribed.accessEvent name (.inl ⟨rfl, rfl⟩) _

theorem Subscribed.eventGpio (subscribed : m.Subscribed) {sender : List Byte} (name : PlainName sender)
    (msg : List Byte) :
    (m.procCmdEventGpio msg sender).mgr.Subscribed := by
  unfold procCmdEventGpio
  dsimp only
  split_ifs
  · exact subscribed
  · exact subscribed
  · exact subscribed.accessEvent name (.inr rfl) _
  · exact subscribed.accessEvent name (.inr rfl) _

/-- The disabled entries are forgotten. -/
theorem Subscribed.restart (subscribed : m.Subscribed) : m.restartSubscriptions.Subscribed := by
  have list : m.restartSubscriptions.myEventList = enabled m.myEventList := by
    unfold restartSubscriptions
    rw [subscribed.file]
    exact loadEventSubscrList_lines subscribed.sound
  have again : enabled (enabled m.myEventList) = enabled m.myEventList := by
    unfold enabled
    rw [List.filter_filter]
    simp
  refine ⟨?_, ?_, ?_⟩
  · intro entry member
    rw [list] at member
    exact subscribed.sound entry (List.mem_filter.mp member).1
  · rw [list]
    exact subscribed.distinct.sublist (List.filter_sublist.map EventSubscrEntry.key)
  · rw [list, again]
    exact subscribed.file

theorem subscribed_step {m' : XmppMgr} {action : SubscriptionAction} (subscribed : m.Subscribed)
    (permitted : m.NamedSender action) (run : m.subscriptionStep action = some m') : m'.Subscribed := by
  cases action with
  | eventGsm msg sender =>
    cases Option.some.inj run
    exact subscribed.eventGsm permitted msg
  | eventGpio msg sender =>
    cases Option.some.inj run
    exact subscribed.eventGpio permitted msg
  | aliases aliasList =>
    cases Option.some.inj run
    exact ⟨subscribed.sound, subscribed.distinct, subscribed.file⟩
  | restart =>
    cases Option.some.inj run
    exact subscribed.restart

/-- The file holds the enabled subscriptions in their order, and no subscription is in the
list twice. -/
theorem subscriptions_persist {mgr : XmppMgr} (empty : mgr.myEventList = [])
    (created : mgr.eventSubscrListFile = some []) (reach : Reach subscriptionStep NamedSender mgr m) :
    (∃ content, m.eventSubscrListFile = some content ∧
        loadEventSubscrList content [] = m.myEventList.filter fun entry => entry.status) ∧
      (m.myEventList.map EventSubscrEntry.key).Nodup := by
  have initially : mgr.Subscribed := by
    refine ⟨?_, ?_, ?_⟩
    · intro entry member
      rw [empty] at member
      exact absurd member List.not_mem_nil
    · rw [empty]
      exact List.nodup_nil
    · rw [empty]
      exact created
  have subscribed : m.Subscribed :=
    reach.invariant initially fun _ _ _ subscribed permitted run => subscribed_step subscribed permitted run
  exact ⟨⟨_, subscribed.file, loadEventSubscrList_lines subscribed.sound⟩, subscribed.distinct⟩

/-- Two senders subscribe, one of them takes it back, and the service restarts. -/
theorem subscriptions_persist_restart :
    ∃ m : XmppMgr, m.myEventList =
        [⟨ascii "owner@home", .gpio, 4, true⟩, ⟨ascii "guest@home", .gsm, 0, true⟩] ∧
      (∃ content, m.eventSubscrListFile = some content ∧
        loadEventSubscrList content [] = m.myEventList.filter fun entry => entry.status) ∧
      (m.myEventList.map EventSubscrEntry.key).Nodup := by
  obtain ⟨m, reach, list⟩ := exists_reach subscriptionStep NamedSender (start (ascii "owner@home") [])
    [.eventGpio (ascii "eventgpio 4 1") (ascii "owner@home"), .eventGsm (ascii "eventgsm 1") (ascii "owner@home"),
     .eventGsm (ascii "eventgsm 0") (ascii "owner@home"), .restart,
     .eventGsm (ascii "eventgsm 1") (ascii "guest@home")]
    (fun m => m.myEventList = [⟨ascii "owner@home", .gpio, 4, true⟩, ⟨ascii "guest@home", .gsm, 0, true⟩])
    (by decide +kernel)
  exact ⟨m, list, subscriptions_persist rfl rfl reach⟩

end XmppMgr
end JsonRpcTcp
