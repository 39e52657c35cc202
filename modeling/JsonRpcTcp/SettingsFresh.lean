import JsonRpcTcp.SettingsLoad

namespace JsonRpcTcp
open Function

/-- The sequence count that `ReadMetaData` gives. -/
def contentSeq (content : Option (List Byte)) : Int := (readMetaData content).seqCount.toInt

theorem contentSeq_of_open {content : List Byte} {settings : Settings} (opens : settingsOpen content = some settings)
    {count : Int32} (found : settings.metaInt seqCountKey = some count) : contentSeq (some content) = count.toInt := by
  unfold contentSeq readMetaData
  rw [Option.bind_some, opens]
  dsimp only
  rw [found]
  rfl

/-- The sequence count in memory is the one of the file, or 0 where the file has none. -/
theorem contentSeq_le {content : List Byte} {settings : Settings} (opens : settingsOpen content = some settings) :
    contentSeq (some content) ≤ ((settings.metaInt seqCountKey).getD 0).toInt := by
  unfold contentSeq readMetaData
  rw [Option.bind_some, opens]
  dsimp only
  cases settings.metaInt seqCountKey with
  | none => decide
  | some count => exact le_rfl

namespace Disk
variable {disk after : Disk} {file : FileName}

/-- Both files are there. -/
def Exists (disk : Disk) : Prop := ∀ file, (disk file).content.isSome = true

/-- What `touch` may do: a missing file becomes an empty one. -/
def Touched (disk after : Disk) : Prop :=
  ∀ file, after file = disk file ∨ (disk file).content = none ∧ after file = { disk file with content := some [] }

theorem Touched.refl (disk : Disk) : disk.Touched disk := fun _ => .inl rfl

theorem Touched.of_exists (touched : disk.Touched after) (there : disk.Exists) : after = disk := by
  funext file
  rcases touched file with same | ⟨missing, _⟩
  · exact same
  · have here := there file
    rw [missing] at here
    cases here

theorem Touched.checksum (touched : disk.Touched after) (file : FileName) :
    (after file).checksum = (disk file).checksum := by
  rcases touched file with same | ⟨_, made⟩
  · rw [same]
  · rw [made]

/-- A file whose checksum verifies is there and stays as it is. -/
theorem Touched.content (touched : disk.Touched after) (there : (disk file).content.isSome = true) :
    (after file).content = (disk file).content := by
  rcases touched file with same | ⟨missing, _⟩
  · rw [same]
  · rw [missing] at there
    cases there

theorem verifyCheckSum_iff :
    disk.verifyCheckSum file = true ↔
      ∃ content, (disk file).content = some content ∧ (disk file).checksum = some content := by
  unfold verifyCheckSum
  rw [Bool.and_eq_true_iff, beq_iff_eq]
  constructor
  · rintro ⟨present, same⟩
    obtain ⟨content, here⟩ := Option.isSome_iff_exists.mp present
    exact ⟨content, same.trans here, here⟩
  · rintro ⟨content, here, covered⟩
    rw [here, covered]
    exact ⟨rfl, rfl⟩

theorem touch_spec {works : Bool} (made : disk.touch works file = some after) :
    disk.Touched after ∧ (after file).content.isSome = true ∧ after file.other = disk file.other := by
  unfold touch at made
  split_ifs at made with there able
  · cases made
    exact ⟨.refl disk, there, rfl⟩
  · cases made
    have missing : (disk file).content = none := Option.not_isSome_iff_eq_none.mp there
    have new : disk.write file [] file = { disk file with content := some [] } := by
      unfold write
      rw [update_self]
    have old : ∀ other, other ≠ file → disk.write file [] other = disk other := by
      intro other different
      unfold write
      rw [update_of_ne different]
    refine ⟨?_, ?_, old file.other file.other_ne⟩
    · intro other
      rcases eq_or_ne other file with rfl | different
      · exact .inr ⟨missing, new⟩
      · exact .inl (old other different)
    · rw [new]
      rfl

theorem touch_none {works : Bool} (failed : disk.touch works file = none) : (disk file).content = none := by
  unfold touch at failed
  split_ifs at failed with there able
  exact Option.not_isSome_iff_eq_none.mp there

/-- The file outdoes whatever the checksum of the other one was made of. -/
def Beats (disk : Disk) (file : FileName) : Prop :=
  ∀ covered, (disk file.other).checksum = some covered →
    contentSeq (some covered) ≤ contentSeq (disk file).content ∧
      (file = .bkup → contentSeq (some covered) < contentSeq (disk file).content)

/-- A file that verifies and outdoes the other one is selected. -/
theorem selected_of_beats (verified : disk.verifyCheckSum file = true) (beats : disk.Beats file) :
    disk.selected = file := by
  unfold selected
  cases file with
  | main =>
    refine if_pos ?_
    rw [verified, Bool.true_and]
    cases other : disk.verifyCheckSum .bkup with
    | false => rfl
    | true =>
      obtain ⟨covered, content, checksum⟩ := verifyCheckSum_iff.mp other
      have order := (beats covered checksum).1
      rw [← content] at order
      exact decide_eq_true (Int32.le_iff_toInt_le.mpr order)
  | bkup =>
    refine if_neg ?_
    rw [Bool.and_eq_true_iff]
    rintro ⟨main, order⟩
    obtain ⟨covered, content, checksum⟩ := verifyCheckSum_iff.mp main
    have less := (beats covered checksum).2 rfl
    rw [← content] at less
    rw [verified, Bool.not_true, Bool.false_or, decide_eq_true_eq] at order
    have back := Int32.le_iff_toInt_le.mp order
    unfold contentSeq at less
    omega

/-- No checksum, or a file that verifies and outdoes what the other checksum was made of. -/
def Sound (disk : Disk) : Prop :=
  (∀ file, (disk file).checksum = none) ∨ ∃ file, disk.verifyCheckSum file = true ∧ disk.Beats file

theorem Sound.touched (sound : disk.Sound) (touched : disk.Touched after) : after.Sound := by
  rcases sound with none | ⟨file, verified, beats⟩
  · exact .inl fun file => (touched.checksum file).trans (none file)
  · obtain ⟨content, here, covered⟩ := verifyCheckSum_iff.mp verified
    have there : (disk file).content.isSome = true := by
      rw [here]
      rfl
    have same := touched.content there
    refine .inr ⟨file, ?_, ?_⟩
    · exact verifyCheckSum_iff.mpr ⟨content, same.trans here, (touched.checksum file).trans covered⟩
    · intro other checksum
      rw [touched.checksum] at checksum
      rw [same]
      exact beats other checksum

/-- The selected file of a sound disk outdoes all checksums. -/
theorem Sound.covered_le (sound : disk.Sound) {covered : List Byte} (checksum : (disk file).checksum = some covered) :
    contentSeq (some covered) ≤ contentSeq (disk disk.selected).content := by
  rcases sound with none | ⟨best, verified, beats⟩
  · rw [none file] at checksum
    cases checksum
  · rw [selected_of_beats verified beats]
    rcases eq_or_ne file best with rfl | different
    · obtain ⟨content, here, made⟩ := verifyCheckSum_iff.mp verified
      rw [checksum] at made
      rw [here, Option.some.inj made]
    · rw [FileName.eq_other different] at checksum
      exact (beats covered checksum).1

end Disk

/-- `FileConsistencyCheck` fails only where a file is missing, and else selects one. -/
theorem fileConsistencyCheck_spec (disk : Disk) (state : SettingsState) (touches : FileName → Bool) :
    disk.Touched (fileConsistencyCheck disk state touches).disk ∧
      ((fileConsistencyCheck disk state touches).file = none ∧ ¬ disk.Exists ∨
        (fileConsistencyCheck disk state touches).disk.Exists ∧
          (fileConsistencyCheck disk state touches).file =
            some (fileConsistencyCheck disk state touches).disk.selected) := by
  unfold fileConsistencyCheck
  cases first : disk.touch (touches .main) .main with
  | none =>
    refine ⟨.refl disk, .inl ⟨rfl, fun there => ?_⟩⟩
    have here := there .main
    rw [Disk.touch_none first] at here
    cases here
  | some disk1 =>
    obtain ⟨touched, main, same⟩ := Disk.touch_spec first
    dsimp only
    cases second : disk1.touch (touches .bkup) .bkup with
    | none =>
      refine ⟨touched, .inl ⟨rfl, fun there => ?_⟩⟩
      have here := there .bkup
      have missing := Disk.touch_none second
      have bkup : disk1 .bkup = disk .bkup := same
      rw [← bkup, missing] at here
      cases here
    | some disk2 =>
      obtain ⟨touched', bkup, same'⟩ := Disk.touch_spec second
      have whole : disk.Touched disk2 := by
        intro file
        cases file with
        | main =>
          have keeps : disk2 .main = disk1 .main := same'
          rw [keeps]
          exact touched .main
        | bkup =>
          have keeps : disk1 .bkup = disk .bkup := same
          have made := touched' .bkup
          rw [keeps] at made
          exact made
      have there : disk2.Exists := by
        intro file
        cases file with
        | main =>
          have keeps : disk2 .main = disk1 .main := same'
          rw [keeps]
          exact main
        | bkup => exact bkup
      dsimp only
      cases disk2.verifyCheckSum .main <;> cases disk2.verifyCheckSum .bkup <;>
        exact ⟨whole, .inr ⟨there, rfl⟩⟩

namespace ADSettings
variable {ads : ADSettings} {disk : Disk} {values : Snapshot}

/-- The object up to the call of `Open`. -/
def attached (ads : ADSettings) (input : LoadInput) (check : Consistency) (file : FileName) : ADSettings :=
  ({ ads with settingsState := check.settingsState, file := some file
              filepath := some file }.takeMetaData check.metaData).attachMetaData input

theorem attached_keeps (ads : ADSettings) (input : LoadInput) (check : Consistency) (file : FileName) :
    (ads.attached input check file).user = ads.user ∧ (ads.attached input check file).settings = ads.settings ∧
      (ads.attached input check file).file = some file ∧ (ads.attached input check file).filepath = some file := by
  unfold attached attachMetaData takeMetaData
  cases check.metaData with
  | none => exact ⟨rfl, rfl, rfl, rfl⟩
  | some metaData => exact ⟨rfl, rfl, rfl, rfl⟩

theorem load_unselected {input : LoadInput}
    (none : (fileConsistencyCheck disk ads.settingsState input.touches).file = none) :
    (ads.load input disk).result ≠ 0 ∧ (ads.load input disk).ads.settings = ads.settings ∧
      (ads.load input disk).ads.user = ads.user := by
  unfold load
  dsimp only
  rw [none]
  refine ⟨fun success => ?_, rfl, rfl⟩
  have failed : (-1 : Int) = 0 := success
  omega

/-- `Load` opens settings when they are not open yet. -/
theorem load_selected {input : LoadInput} {file : FileName}
    (some : (fileConsistencyCheck disk ads.settingsState input.touches).file = some file) :
    ads.load input disk =
      let check := fileConsistencyCheck disk ads.settingsState input.touches
      match ads.settings.or ((check.disk file).content.bind settingsOpen) with
      | .none => ⟨-1, ads.attached input check file, check.disk⟩
      | .some settings => ⟨0, (ads.attached input check file).loadEntries settings, check.disk⟩ := by
  have settings := (ads.attached_keeps input (fileConsistencyCheck disk ads.settingsState input.touches) file).2.1
  dsimp only
  rw [← settings]
  unfold load
  dsimp only
  rw [some]
  rfl

theorem load_disk (ads : ADSettings) (input : LoadInput) (disk : Disk) :
    (ads.load input disk).disk = (fileConsistencyCheck disk ads.settingsState input.touches).disk := by
  unfold load
  dsimp only
  split
  · rfl
  · split <;> rfl

/-- What a call of `Load` does: it fails without settings, or loads those that were open or
those of the selected file. -/
theorem load_cases (ads : ADSettings) (input : LoadInput) (disk : Disk) :
    disk.Touched (ads.load input disk).disk ∧
      ((ads.load input disk).result ≠ 0 ∧ (ads.load input disk).ads.settings = ads.settings ∧
          (ads.load input disk).ads.user = ads.user ∧
          (disk.Exists → ads.settings.or ((disk disk.selected).content.bind settingsOpen) = none) ∨
        (ads.load input disk).result = 0 ∧ (ads.load input disk).disk.Exists ∧
          ∃ check settings, (ads.load input disk).ads =
              (ads.attached input check (ads.load input disk).disk.selected).loadEntries settings ∧
            ads.settings.or (((ads.load input disk).disk (ads.load input disk).disk.selected).content.bind settingsOpen) =
              some settings) := by
  obtain ⟨touched, spec⟩ := fileConsistencyCheck_spec disk ads.settingsState input.touches
  rw [load_disk]
  refine ⟨touched, ?_⟩
  rcases spec with ⟨none, missing⟩ | ⟨there, selected⟩
  · obtain ⟨result, settings, user⟩ := load_unselected none
    exact .inl ⟨result, settings, user, fun exist => absurd exist missing⟩
  · have whole := load_selected selected
    have keeps := ads.attached_keeps input (fileConsistencyCheck disk ads.settingsState input.touches)
      (fileConsistencyCheck disk ads.settingsState input.touches).disk.selected
    dsimp only at whole
    cases opened : ads.settings.or (((fileConsistencyCheck disk ads.settingsState input.touches).disk
        (fileConsistencyCheck disk ads.settingsState input.touches).disk.selected).content.bind settingsOpen) with
    | none =>
      rw [opened] at whole
      rw [whole]
      refine .inl ⟨fun success => ?_, keeps.2.1, keeps.1, fun exist => ?_⟩
      · have failed : (-1 : Int) = 0 := success
        omega
      rw [touched.of_exists exist] at opened
      exact opened
    | some settings =>
      rw [opened] at whole
      rw [whole]
      exact .inr ⟨rfl, there, _, settings, rfl, rfl⟩

theorem loadEntries_declares (ads : ADSettings) (settings : Settings) :
    (ads.loadEntries settings).declares = ads.declares := by
  have one : ∀ setting : Setting, (setting.load settings).declares = setting.declares := by
    intro setting
    have shape : (setting.load settings).value.shape = setting.value.shape := SettingValue.loaded_shape _ _ _ _
    unfold SettingEntry.declares
    rw [shape]
    rfl
  unfold declares loadEntries
  dsimp only
  rw [List.map_map]
  exact List.map_congr_left fun setting _ => one setting

theorem load_declares (ads : ADSettings) (input : LoadInput) (disk : Disk) :
    (ads.load input disk).ads.declares = ads.declares := by
  rcases (ads.load_cases input disk).2 with ⟨_, _, user, _⟩ | ⟨_, _, check, settings, same, _⟩
  · unfold declares
    rw [user]
  · rw [same, loadEntries_declares]
    unfold declares
    rw [(ads.attached_keeps input check _).1]

/-- Every object with the same settings, once it has been made anew, loads these values. -/
def FreshLoadGives (ads : ADSettings) (disk : Disk) (values : Snapshot) : Prop :=
  ∀ fresh input, ads.Fresh fresh →
    (fresh.load input disk).result = 0 ∧ (fresh.load input disk).ads.values = values ∧
      (fresh.load input disk).ads.AllLoaded

/-- The selected file holds the values. -/
def SelectedHolds (disk : Disk) (values : Snapshot) : Prop :=
  ∃ content settings, (disk disk.selected).content = some content ∧ settingsOpen content = some settings ∧
    values.Reads settings

theorem freshLoadGives_of_holds (there : disk.Exists) (declared : ads.declares = values.user.map SettingEntry.declares)
    (holds : SelectedHolds disk values) : ads.FreshLoadGives disk values := by
  obtain ⟨content, settings, inside, opens, reads⟩ := holds
  intro fresh input new
  obtain ⟨touched, spec⟩ := fresh.load_cases input disk
  have same := touched.of_exists there
  have opened : fresh.settings.or ((disk disk.selected).content.bind settingsOpen) = some settings := by
    rw [new.1, Option.none_or, inside, Option.bind_some, opens]
  rw [same, opened] at spec
  rcases spec with ⟨_, _, _, failed⟩ | ⟨result, _, check, parsed, loaded, parsed'⟩
  · cases failed there
  · cases parsed'
    have user : (fresh.attached input check disk.selected).declares = values.user.map SettingEntry.declares := by
      rw [← declared, ← new.2.2]
      unfold ADSettings.declares
      rw [(fresh.attached_keeps input check disk.selected).1]
    obtain ⟨equal, all, _⟩ := loadEntries_reads user reads
    rw [loaded]
    exact ⟨result, equal, all⟩

/-- Whatever a fresh object loads can be read from the selected file. -/
theorem loads_of_freshLoadGives (there : disk.Exists) (gives : ads.FreshLoadGives disk values) :
    ∃ content settings, (disk disk.selected).content = some content ∧ settingsOpen content = some settings ∧
      ∀ entry ∈ values.entries, ∃ old : SettingValue,
        old.load settings entry.part.name entry.key = some entry.value := by
  have new : ads.Fresh { ads with settings := none, filepath := none } := ⟨rfl, rfl, rfl⟩
  obtain ⟨result, equal, all⟩ := gives _ ⟨fun _ => true, 0, 0, 0⟩ new
  obtain ⟨touched, spec⟩ := load_cases { ads with settings := none, filepath := none } ⟨fun _ => true, 0, 0, 0⟩ disk
  rw [touched.of_exists there] at spec
  rcases spec with ⟨failed, _⟩ | ⟨_, _, check, settings, loaded, opened⟩
  · exact absurd result failed
  · obtain ⟨content, inside, opens⟩ := Option.bind_eq_some_iff.mp opened
    rw [loaded] at equal all
    exact ⟨content, settings, inside, opens, load_of_allLoaded all equal⟩

end ADSettings
end JsonRpcTcp
