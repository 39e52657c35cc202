import JsonRpcTcp.JsonChecker
import JsonRpcTcp.Lib.Trim
import JsonRpcTcp.Lib.Upsert

namespace JsonRpcTcp

/-! The library of `settings.cpp` and `strmap.cpp`: settings in memory, and the text file
that holds them. A string is a list of bytes without its final NUL. -/

/-- `MAX_KEYCHARS`, `MAX_VALUECHARS` and `MAX_LINECHARS`. -/
def maxKeyChars : Nat := 256
def maxValueChars : Nat := 256
def maxLineChars : Nat := maxKeyChars + maxValueChars + 10

/-- `COMMENT_CHAR`, `SECTION_START_CHAR`, `SECTION_END_CHAR` and `KEY_VALUE_SEPARATOR_CHAR`. -/
abbrev commentChar : Byte := 0x23
abbrev sectionStartChar : Byte := 0x5b
abbrev sectionEndChar : Byte := 0x5d
abbrev keyValueSeparatorChar : Byte := 0x3d

/-- `StrMap`: its pairs in the order in which they were put. -/
abbrev StrMap := List (List Byte × List Byte)

namespace StrMap

/-- `DEFAULT_STRMAP_CAPACITY`. -/
def capacity : Nat := 256

/-- `hash`. The sign of a char makes no difference to the index of its bucket. -/
def hash (str : List Byte) : Nat := str.foldl (fun value c => (value * 33 + c.toNat) % 2 ^ 64) 5381

/-- `get_pair`, which needs the key's own bucket only. -/
def getPair (pairs : StrMap) (key : List Byte) : Option (List Byte × List Byte) := pairs.find? fun pair => pair.1 = key

/-- `sm_put`, while there is memory. -/
def put (pairs : StrMap) (key value : List Byte) : StrMap :=
  upsert Prod.fst key (fun _ => (key, value)) (key, value) pairs

/-- The order of `sm_enum`: one bucket after the other, each in the order of insertion. -/
def enum (pairs : StrMap) : StrMap :=
  (List.range capacity).flatMap fun index => pairs.filter fun pair => hash pair.1 % capacity == index

end StrMap

/-- `Section`. -/
structure SettingsSection where
  name : List Byte
  pairs : StrMap
  deriving DecidableEq, Repr

/-- `Settings`. -/
abbrev Settings := List SettingsSection

namespace Settings

/-- `get_section`. -/
def getSection (settings : Settings) (name : List Byte) : Option SettingsSection :=
  settings.find? fun sec => sec.name = name

/-- The value under a key of a section, of any length. -/
def lookup (settings : Settings) (name key : List Byte) : Option (List Byte) :=
  ((settings.getSection name).bind fun sec => sec.pairs.getPair key).map Prod.snd

/-- `settings_get` into a buffer of `size` bytes. -/
def get (settings : Settings) (name key : List Byte) (size : Nat) : Option (List Byte) :=
  (settings.lookup name key).filter fun value => value.length < size

/-- The effect of `settings_set`, while there is memory. -/
def put (settings : Settings) (name key value : List Byte) : Settings :=
  upsert SettingsSection.name name (fun sec => { sec with pairs := sec.pairs.put key value })
    { name := name, pairs := StrMap.put [] key value } settings

/-- `settings_set`. -/
def set (settings : Settings) (name key value : List Byte) : Option Settings :=
  if name = [] then none else some (settings.put name key value)

/-- `enum_map`: the line of a pair, if key and value are short enough. -/
def enumMap (pair : List Byte × List Byte) : List Byte :=
  if pair.1.length < maxKeyChars ∧ pair.2.length < maxValueChars then
    pair.1 ++ [space, keyValueSeparatorChar, space] ++ pair.2 ++ [newline]
  else []

/-- What `settings_save` writes for a section. -/
def saveSection (sec : SettingsSection) : List Byte :=
  [sectionStartChar] ++ sec.name ++ [sectionEndChar, newline] ++ sec.pairs.enum.flatMap enumMap ++ [newline]

/-- `settings_save`. -/
def save (settings : Settings) : List Byte := settings.flatMap saveSection

end Settings

/-- `is_blank_char`. -/
def isBlankChar (c : Byte) : Bool := c == space || c == 0x09 || c == 0x0d || c == newline

/-- `trim_str`. -/
def trimStr (str : List Byte) : List Byte := trim isBlankChar str

/-- `is_comment_str`. -/
def isCommentStr (str : List Byte) : Bool := str.head? == some commentChar

/-- `is_section_str`. -/
def isSectionStr (str : List Byte) : Bool := str.head? == some sectionStartChar && str.contains sectionEndChar

/-- `is_key_value_str`. -/
def isKeyValueStr (str : List Byte) : Bool :=
  str.head? != some keyValueSeparatorChar && str.contains keyValueSeparatorChar

/-- `is_key_without_value_str`. -/
def isKeyWithoutValueStr (str : List Byte) : Bool :=
  str.head? != some keyValueSeparatorChar && !str.contains keyValueSeparatorChar

/-- `get_section_from_str`. -/
def getSectionFromStr (str : List Byte) : List Byte := str.tail.takeWhile (· != sectionEndChar)

/-- `get_key_value_from_str`. -/
def getKeyValueFromStr (str : List Byte) : List Byte × List Byte :=
  ((str.takeWhile (· != keyValueSeparatorChar)).rdropWhile isBlankChar,
    (str.dropWhile (· != keyValueSeparatorChar)).tail.dropWhile isBlankChar)

/-- `ParseState`, with the settings read so far. -/
structure ParseState where
  settings : Settings
  currentSection : Option (List Byte)
  deriving DecidableEq, Repr

namespace ParseState

/-- `settings_set` in the current section. -/
def set (state : ParseState) (key value : List Byte) : Option ParseState := do
  let name ← state.currentSection
  let settings ← state.settings.set name key value
  return { state with settings := settings }

/-- `parse_str`. Its output buffers are as long as the line buffer. -/
def parseStr (state : ParseState) (str : List Byte) : Option ParseState :=
  if str = [] then some state
  else if str.all isBlankChar then some state
  else if isCommentStr str then some state
  else if isSectionStr str then some { state with currentSection := some (getSectionFromStr str) }
  else if isKeyValueStr str then state.set (getKeyValueFromStr str).1 (getKeyValueFromStr str).2
  else if isKeyWithoutValueStr str then state.set str []
  else none

end ParseState

/-- The results of `fgets` until the end of a file, with the part `line` of the next one
already read. -/
def fgetsLines : List Byte → List Byte → List (List Byte)
  | line, [] => if line = [] then [] else [line]
  | line, c :: rest =>
    if c = newline ∨ line.length + 2 = maxLineChars then (line ++ [c]) :: fgetsLines [] rest
    else fgetsLines (line ++ [c]) rest

/-- The loop of `settings_open`. -/
def parseLines (state : ParseState) (lines : List (List Byte)) : Option ParseState :=
  lines.foldlM (fun state line => state.parseStr (trimStr (cString line))) state

/-- `settings_open`. -/
def settingsOpen (content : List Byte) : Option Settings :=
  (parseLines { settings := [], currentSection := none } (fgetsLines [] content)).map ParseState.settings

end JsonRpcTcp
