import JsonRpcTcp.SettingsStore

namespace JsonRpcTcp
open Function

/-- Where `Store` is: between two calls, in `Save` before `fopen`, with the rest of the
text still to be written, before `sha1sum` is started, while it runs, and done with it.
`target` is `filepath`. -/
inductive StorePc where
  | idle
  | opening (target : FileName) (text : List Byte)
  | writing (target : FileName) (rest : List Byte)
  | summing (target : FileName)
  | hashing (target : FileName)
  | returning
  deriving DecidableEq, Repr

/-- A process with its settings, and the files. -/
structure SettingsSystem where
  ads : ADSettings
  disk : Disk
  pc : StorePc
  -- the result of `Store`, if that was the last call
  storeResult : Option Int
  -- history, not in the source: the values of the last `Store` that returned 0, those of the
  -- ones that have begun since, and whether all values were read from the selected file or
  -- saved to it, with no failure of `Store` since
  returned : Option Snapshot
  begun : List Snapshot
  settled : Bool

inductive SettingsAction where
  | load (input : LoadInput)
  | change (user : List SettingValue) (version : Int32)
  | store
  | openFails
  | openFile
  | write (count : Nat)
  | writeFails
  | written
  | sumFails (status : Int)
  | openSum
  | hashFails (status : Int)
  | hash
  | returns
  -- the process is cut off, and another one is started
  | crash (fresh : ADSettings)

/-- The text that is found gives every element of an array. -/
def SettingValue.readsWhole (value : SettingValue) (settings : Settings) (name key : List Byte) : Bool :=
  match value with
  | .string size _ => (settings.get name key size).isSome
  | .int _ | .long _ => (settings.get name key maxValueChars).isSome
  | .intArr values =>
    values.length != 0 && (settings.get name key maxValueChars).any fun text =>
      decide (values.length ≤ (getTokens comma [] text).length)
  | .longArr values =>
    values.length != 0 && (settings.get name key maxValueChars).any fun text =>
      decide (values.length ≤ (getTokens comma [] text).length)

namespace ADSettings

/-- Every setting is found, with all elements. -/
def readsWhole (ads : ADSettings) : Bool :=
  ads.settings.any fun settings => ads.values.entries.all fun entry =>
    entry.value.readsWhole settings entry.part.name entry.key

/-- `MetaData.version` and the values of the application. -/
def change (ads : ADSettings) (user : List SettingValue) (version : Int32) : ADSettings :=
  { ads with user := ads.user.zipWith Setting.change user, version := { ads.version with value := version } }

/-- The values lie in the buffers of the settings. -/
def accepts (ads : ADSettings) (user : List SettingValue) : Prop :=
  user.map SettingValue.shape = ads.user.map (fun setting => setting.value.shape) ∧
    ∀ value ∈ user, value.inBuffer = true

instance (ads : ADSettings) (user : List SettingValue) : Decidable (ads.accepts user) := instDecidableAnd

/-- The attached settings without their values. -/
def declares (ads : ADSettings) : List (SettingsPart × List Byte × SettingValue.Shape) :=
  ads.user.map fun setting => (setting.part, setting.key, setting.value.shape)

/-- Another object with the same settings attached, before its first `Load`. -/
def Fresh (ads fresh : ADSettings) : Prop := fresh.settings = none ∧ fresh.filepath = none ∧
    fresh.declares = ads.declares

instance (ads fresh : ADSettings) : Decidable (ads.Fresh fresh) := instDecidableAnd

end ADSettings

namespace SettingsSystem

/-- A process that has not loaded its settings yet. -/
def start (ads : ADSettings) (disk : Disk) : SettingsSystem where
  ads := ads
  disk := disk
  pc := .idle
  storeResult := none
  returned := none
  begun := []
  settled := false

/-- `Load` of the main file. -/
def load (s : SettingsSystem) (input : LoadInput) : SettingsSystem :=
  let result := s.ads.load input s.disk
  { s with ads := result.ads, disk := result.disk, storeResult := none
           settled := if s.ads.settings.isSome then s.settled else result.result = 0 && result.ads.readsWhole }

/-- The beginning of `Store`, up to the call of `Save`. -/
def beginStore (s : SettingsSystem) (settings : Settings) (file : FileName) : SettingsSystem :=
  let stored := s.ads.storeEntries settings
  if s.ads.changed then
    let ads := { stored.updateSequenceCount with filepath := some file.other }
    { s with ads := ads, pc := .opening file.other ((ads.settings.map Settings.save).getD []), storeResult := none
             begun := s.begun ++ [ads.values], settled := false }
  else { s with ads := stored, storeResult := some 0, returned := some stored.values, begun := [] }

/-- `Store` returns with an error. -/
def fail (s : SettingsSystem) (result : Int) : SettingsSystem := { s with pc := .idle, storeResult := some result }

def step (s : SettingsSystem) : SettingsAction → Option SettingsSystem
  | .load input => onlyIf (s.pc = .idle) (s.load input)
  | .change user version => onlyIf (s.pc = .idle ∧ s.ads.accepts user)
      { s with ads := s.ads.change user version, storeResult := none }
  | .store =>
    match s.pc with
    | .idle =>
      match s.ads.settings, s.ads.filepath, s.ads.file with
      | none, _, _ => some (s.fail (-1))
      | some settings, some _, some file => onlyIf s.ads.storeFits (s.beginStore settings file)
      -- Load of the empty name
      | some _, _, _ =>
        some ({ s with ads := { s.ads with settingsState := .noFilePassed, file := none, filepath := none } }.fail (-1))
    | _ => none
  | .openFails =>
    match s.pc with
    | .opening _ _ => some (s.fail (-1))
    | _ => none
  | .openFile =>
    match s.pc with
    | .opening target text => some { s with disk := s.disk.write target [], pc := .writing target text }
    | _ => none
  | .write count =>
    match s.pc with
    | .writing target rest =>
      some { s with disk := s.disk.write target (((s.disk target).content.getD []) ++ rest.take count)
                    pc := .writing target (rest.drop count) }
    | _ => none
  | .writeFails =>
    match s.pc with
    | .writing _ _ => some (s.fail (-1))
    | _ => none
  -- fclose and SwapAlternateFile
  | .written =>
    match s.pc with
    | .writing target [] =>
      some { s with ads := { s.ads with file := s.ads.file.map FileName.other }, pc := .summing target }
    | _ => none
  | .sumFails status =>
    match s.pc with
    | .summing _ => onlyIf (status ≠ 0) (s.fail status)
    | _ => none
  | .openSum =>
    match s.pc with
    | .summing target => some { s with disk := s.disk.writeSum target none, pc := .hashing target }
    | _ => none
  | .hashFails status =>
    match s.pc with
    | .hashing _ => onlyIf (status ≠ 0) (s.fail status)
    | _ => none
  | .hash =>
    match s.pc with
    | .hashing target =>
      some { s with disk := s.disk.writeSum target (s.disk target).content, pc := .returning }
    | _ => none
  | .returns => onlyIf (s.pc = .returning)
      { s with pc := .idle, storeResult := some 0, returned := some s.ads.values, begun := [], settled := true }
  | .crash fresh => onlyIf (s.ads.Fresh fresh)
      { s with ads := fresh, pc := .idle, storeResult := none, settled := false }

end SettingsSystem

/-- A setting that is attached before the first `Load`. -/
def newSetting (key : List Byte) (value : SettingValue) (fits : value.fits = true) : Setting where
  part := .data
  key := key
  value := value
  shadow := value
  keyState := .notLoaded
  sized := rfl
  fits := fits

/-- A name and three ports, before the first `Load`. -/
def sampleSettings : ADSettings where
  user := [newSetting (ascii "name") (.string 512 []) rfl, newSetting (ascii "ports") (.intArr [0, 0, 0]) rfl]
  version := ⟨0, [], .notLoaded⟩
  seqCount := ⟨0, [], .notLoaded⟩
  size := ⟨0, [], .notLoaded⟩
  settingsState := .unknown
  file := none
  filepath := none
  settings := none

def noFiles : Disk := fun _ => ⟨none, none⟩

def sampleLoad : LoadInput := ⟨fun _ => true, 0, 0, 0⟩

/-- The steps of a `Store` that saves, behind the first one. -/
def saveSteps : List SettingsAction := [.openFile, .write 4096, .written, .openSum, .hash]

end JsonRpcTcp
