import JsonRpcTcp.Lib.Reach
import JsonRpcTcp.SettingsValues

namespace JsonRpcTcp
open Function

/-- `ESETTINGS_SECTION`. -/
inductive SettingsPart where
  | data
  | metaData
  deriving DecidableEq, Repr

/-- `SETTINGS_SECTION_DATA_NAME` and `SETTINGS_SECTION_META_DATA_NAME`. -/
def SettingsPart.name : SettingsPart → List Byte
  | .data => ascii "Data"
  | .metaData => ascii "MetaData"

/-- `SETTINGS_SECTION_META_DATA_VERSION`, `_SEQ_COUNT` and `_SIZE`. -/
def versionKey : List Byte := ascii "Version"
def seqCountKey : List Byte := ascii "SequenceCount"
def sizeKey : List Byte := ascii "Size"

/-- `ESETTINGS_KEY_STATE`. -/
inductive KeyState where
  | notLoaded
  | loaded
  | notFound
  deriving DecidableEq, Repr

namespace SettingValue

/-- A string and its final NUL fit in `value_size` bytes. -/
def fits : SettingValue → Bool
  | .string size text => text.length < size
  | _ => true

theorem load_shape {old value : SettingValue} {settings : Settings} {name key : List Byte}
    (loads : old.load settings name key = some value) : value.shape = old.shape := by
  obtain ⟨_, _, same, _⟩ := lookup_of_load loads
  exact same

theorem load_fits {old value : SettingValue} {settings : Settings} {name key : List Byte}
    (loads : old.load settings name key = some value) : value.fits = true := by
  have same := load_shape loads
  cases value with
  | string size text =>
    cases old with
    | string size' text' =>
      cases same
      obtain ⟨found, got, here⟩ := Option.map_eq_some_iff.mp loads
      cases here
      exact decide_eq_true (lookup_of_get got).2
    | _ => cases same
  | _ => rfl

/-- What a buffer holds after an attempt to load into it. -/
def loaded (old : SettingValue) (settings : Settings) (name key : List Byte) : SettingValue :=
  (old.load settings name key).getD old

theorem loaded_of_load {old value : SettingValue} {settings : Settings} {name key : List Byte}
    (loads : old.load settings name key = some value) : old.loaded settings name key = value := by
  unfold loaded
  rw [loads]
  rfl

theorem loaded_shape (old : SettingValue) (settings : Settings) (name key : List Byte) :
    (old.loaded settings name key).shape = old.shape := by
  unfold loaded
  cases loads : old.load settings name key with
  | none => rfl
  | some value => exact load_shape loads

theorem loaded_fits {old : SettingValue} (fits : old.fits = true) (settings : Settings) (name key : List Byte) :
    (old.loaded settings name key).fits = true := by
  unfold loaded
  cases loads : old.load settings name key with
  | none => exact fits
  | some value => exact load_fits loads

end SettingValue

/-- The section, key and value of a `SETTINGS_ENTRY`. -/
structure SettingEntry where
  part : SettingsPart
  key : List Byte
  value : SettingValue
  deriving DecidableEq, Repr

/-- A `SETTINGS_ENTRY` in `SettingsChain` with the value of its copy in
`SettingsChainLocal`, whose buffer has the same size. -/
structure Setting extends SettingEntry where
  shadow : SettingValue
  keyState : KeyState
  sized : shadow.shape = value.shape
  fits : value.fits = true
  deriving DecidableEq, Repr

/-- An int of `MetaData` with its copies: every `Load` attaches one more. -/
structure MetaSetting where
  value : Int32
  shadows : List Int32
  keyState : KeyState
  deriving DecidableEq, Repr

/-- The main file, or the alternate file beside it. -/
inductive FileName where
  | main
  | bkup
  deriving DecidableEq, Repr

def FileName.other : FileName → FileName
  | .main => .bkup
  | .bkup => .main

@[simp] theorem FileName.other_other (file : FileName) : file.other.other = file := by
  cases file <;> rfl

theorem FileName.other_ne (file : FileName) : file.other ≠ file := by
  cases file <;> decide

theorem FileName.eq_other {file another : FileName} (different : another ≠ file) : another = file.other := by
  cases file <;> cases another <;> first | rfl | exact absurd rfl different

/-- A file with its checksum file. A checksum is known by the content it was made of. -/
structure DataFile where
  content : Option (List Byte)
  checksum : Option (List Byte)
  deriving DecidableEq, Repr

abbrev Disk := FileName → DataFile

/-- `ESETTINGS_STATE`, without the two values that are never set. -/
inductive SettingsState where
  | okMain
  | okBackup
  | noFilePassed
  | emptyFileCreateError
  | emptyFileDefaultData
  | mainFileCorrupt
  | backupFileCorrupt
  | bothFilesCorrupt
  | unknown
  deriving DecidableEq, Repr

/-- `ADSettings`. The alternate file is the other one, and `settings` is there when
`settings_open_flag` is set. -/
structure ADSettings where
  user : List Setting
  version : MetaSetting
  seqCount : MetaSetting
  size : MetaSetting
  settingsState : SettingsState
  file : Option FileName
  filepath : Option FileName
  settings : Option Settings
  deriving DecidableEq, Repr

/-- The values of all attached settings. -/
structure Snapshot where
  user : List SettingEntry
  version : Int32
  seqCount : Int32
  size : Int32
  deriving DecidableEq, Repr

def Snapshot.entries (values : Snapshot) : List SettingEntry :=
  values.user ++ [⟨.metaData, versionKey, .int values.version⟩, ⟨.metaData, seqCountKey, .int values.seqCount⟩,
    ⟨.metaData, sizeKey, .int values.size⟩]

/-- What `settings_set` is called with. -/
def Snapshot.texts (values : Snapshot) : List (List Byte × List Byte × List Byte) :=
  values.entries.map fun entry => (entry.part.name, entry.key, entry.value.text)

/-- The `version`, `seq_count` and `size` of `SETTINGS_META_DATA`. -/
structure SettingsMetaData where
  version : Int32
  seqCount : Int32
  size : Int32
  deriving DecidableEq, Repr

/-- `settings_get_int` for a key of the meta data. -/
def Settings.metaInt (settings : Settings) (key : List Byte) : Option Int32 :=
  (settings.get SettingsPart.metaData.name key maxValueChars).map atoi

/-- `ReadMetaData`. -/
def readMetaData (content : Option (List Byte)) : SettingsMetaData :=
  match content.bind settingsOpen with
  | none => ⟨0, 0, 0⟩
  | some settings =>
    ⟨(settings.metaInt versionKey).getD (-1), (settings.metaInt seqCountKey).getD (-1),
      (settings.metaInt sizeKey).getD (-1)⟩

namespace Disk

/-- `VerifyCheckSum`. -/
def verifyCheckSum (disk : Disk) (file : FileName) : Bool :=
  (disk file).checksum.isSome && (disk file).content == (disk file).checksum

/-- The file that `FileConsistencyCheck` selects. -/
def selected (disk : Disk) : FileName :=
  if disk.verifyCheckSum .main && (!disk.verifyCheckSum .bkup ||
      decide ((readMetaData (disk .main).content).seqCount ≥ (readMetaData (disk .bkup).content).seqCount)) then .main
  else .bkup

def write (disk : Disk) (file : FileName) (content : List Byte) : Disk :=
  update disk file { disk file with content := some content }

def writeSum (disk : Disk) (file : FileName) (checksum : Option (List Byte)) : Disk :=
  update disk file { disk file with checksum := checksum }

/-- A file that is missing is made by `touch`, if that works. -/
def touch (disk : Disk) (works : Bool) (file : FileName) : Option Disk :=
  if (disk file).content.isSome then some disk else if works then some (disk.write file []) else none

end Disk

/-- What `FileConsistencyCheck` leaves. `file` is `none` when it returns -1, and
`metaData` is what it writes into `MetaData` when both files are fine. -/
structure Consistency where
  disk : Disk
  settingsState : SettingsState
  file : Option FileName
  metaData : Option SettingsMetaData

/-- `FileConsistencyCheck` with the name of the main file. -/
def fileConsistencyCheck (disk : Disk) (settingsState : SettingsState) (touches : FileName → Bool) : Consistency :=
  match disk.touch (touches .main) .main with
  | none => ⟨disk, .emptyFileCreateError, none, none⟩
  | some disk1 =>
    let state := if (disk .main).content.isSome then settingsState else .emptyFileDefaultData
    match disk1.touch (touches .bkup) .bkup with
    | none => ⟨disk1, state, none, none⟩
    | some disk2 =>
      let unlessEmpty (other : SettingsState) := if state = .emptyFileDefaultData then state else other
      let selected := readMetaData (disk2 disk2.selected).content
      match disk2.verifyCheckSum .main, disk2.verifyCheckSum .bkup with
      | false, false => ⟨disk2, unlessEmpty .bothFilesCorrupt, some disk2.selected, none⟩
      | true, false => ⟨disk2, unlessEmpty .backupFileCorrupt, some disk2.selected, none⟩
      | false, true => ⟨disk2, unlessEmpty .mainFileCorrupt, some disk2.selected, none⟩
      | true, true =>
        ⟨disk2, if disk2.selected = .main then .okMain else .okBackup, some disk2.selected, some selected⟩

namespace Setting

/-- The loop of `Load` for one setting. -/
def load (settings : Settings) (setting : Setting) : Setting where
  part := setting.part
  key := setting.key
  value := setting.value.loaded settings setting.part.name setting.key
  shadow := setting.shadow.loaded settings setting.part.name setting.key
  keyState :=
    if (setting.value.load settings setting.part.name setting.key).isSome &&
      (setting.shadow.load settings setting.part.name setting.key).isSome then .loaded else .notFound
  sized := by rw [SettingValue.loaded_shape, SettingValue.loaded_shape, setting.sized]
  fits := SettingValue.loaded_fits setting.fits _ _ _

/-- The application writes a value that lies in the buffer. -/
def change (setting : Setting) (value : SettingValue) : Setting :=
  if same : value.shape = setting.value.shape ∧ value.fits = true then
    { setting with value := value, sized := setting.sized.trans same.1.symm, fits := same.2 }
  else setting

/-- `Store` brings the copy up to date. -/
def sync (setting : Setting) : Setting := { setting with shadow := setting.value, sized := rfl }

end Setting

namespace MetaSetting

/-- The loop of `Load` for all copies, and `ValidateMetaDataEntries`. -/
def load (settings : Settings) (key : List Byte) (setting : MetaSetting) : MetaSetting :=
  match settings.metaInt key with
  | some value => ⟨value, setting.shadows.map fun _ => value, .loaded⟩
  | none => ⟨0, setting.shadows, .notFound⟩

/-- `InitAndInsertMetaDataEntries`. The new copy holds whatever its memory held. -/
def attach (setting : MetaSetting) (garbage : Int32) : MetaSetting :=
  { setting with shadows := setting.shadows ++ [garbage], keyState := .notLoaded }

def sync (setting : MetaSetting) : MetaSetting :=
  { setting with shadows := setting.shadows.map fun _ => setting.value }

def changed (setting : MetaSetting) : Bool := setting.shadows.any fun shadow => setting.value ≠ shadow

end MetaSetting

/-- What a call of `Load` meets: whether `touch` works, and what is in the memory of the
copies that it attaches. -/
structure LoadInput where
  touches : FileName → Bool
  version : Int32
  seqCount : Int32
  size : Int32

structure LoadResult where
  result : Int
  ads : ADSettings
  disk : Disk

namespace ADSettings

def values (ads : ADSettings) : Snapshot :=
  ⟨ads.user.map Setting.toSettingEntry, ads.version.value, ads.seqCount.value, ads.size.value⟩

/-- The loop of `Load`. -/
def loadEntries (ads : ADSettings) (settings : Settings) : ADSettings :=
  { ads with user := ads.user.map (Setting.load settings), version := ads.version.load settings versionKey
             seqCount := ads.seqCount.load settings seqCountKey, size := ads.size.load settings sizeKey
             settings := some settings }

/-- `MetaData` when both files are fine. -/
def takeMetaData (ads : ADSettings) : Option SettingsMetaData → ADSettings
  | none => ads
  | some metaData =>
    { ads with version := { ads.version with value := metaData.version }
               seqCount := { ads.seqCount with value := metaData.seqCount }
               size := { ads.size with value := metaData.size } }

/-- `InitAndInsertMetaDataEntries`. -/
def attachMetaData (ads : ADSettings) (input : LoadInput) : ADSettings :=
  { ads with version := ads.version.attach input.version, seqCount := ads.seqCount.attach input.seqCount
             size := ads.size.attach input.size }

/-- `Load` with the name of the main file. Settings that are open are not read again. -/
def load (ads : ADSettings) (input : LoadInput) (disk : Disk) : LoadResult :=
  let check := fileConsistencyCheck disk ads.settingsState input.touches
  match check.file with
  | none => ⟨-1, { ads with settingsState := check.settingsState, file := none, filepath := none }, check.disk⟩
  | some file =>
    let attached := ({ ads with settingsState := check.settingsState, file := some file
                                filepath := some file }.takeMetaData check.metaData).attachMetaData input
    match attached.settings.or ((check.disk file).content.bind settingsOpen) with
    | none => ⟨-1, attached, check.disk⟩
    | some settings => ⟨0, attached.loadEntries settings, check.disk⟩

/-- `SettingsChanged` after the loop of `Store`. -/
def changed (ads : ADSettings) : Bool :=
  (ads.user.any fun setting => setting.value ≠ setting.shadow) || ads.version.changed || ads.seqCount.changed ||
    ads.size.changed

/-- The loop of `Store`. Meta data that is attached twice is set twice, to the same text. -/
def storeEntries (ads : ADSettings) (settings : Settings) : ADSettings :=
  { ads with user := ads.user.map Setting.sync, version := ads.version.sync, seqCount := ads.seqCount.sync
             size := ads.size.sync, settings := some (settings.putAll ads.values.texts) }

/-- `UpdateSequenceCount`. It updates the first copy only. -/
def updateSequenceCount (ads : ADSettings) : ADSettings :=
  let next := ads.seqCount.value + 1
  { ads with seqCount := { ads.seqCount with value := next, shadows := ads.seqCount.shadows.set 0 next }
             settings := ads.settings.map fun settings =>
               settings.put SettingsPart.metaData.name seqCountKey (decimal next.toInt) }

/-- `value` holds every text, and `seq_count` does not overflow. -/
def storeFits (ads : ADSettings) : Prop :=
  (∀ text ∈ ads.values.texts, text.2.2.length < 4096) ∧ (ads.changed = true → ads.seqCount.value.toInt < 2 ^ 31 - 1)

instance (ads : ADSettings) : Decidable ads.storeFits := instDecidableAnd

end ADSettings
end JsonRpcTcp
