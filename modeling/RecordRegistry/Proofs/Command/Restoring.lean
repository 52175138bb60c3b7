/-
# Making a configuration anew

A project can be given the default configuration in place of the one it has.  The project is looked
up first, as for every other command, and this reads the configuration that is to be replaced: where
it cannot be read, nothing is replaced.  Where it can, the defaults take its place, and from then on
the project is as one without a configuration.
-/

import RecordRegistry.Proofs.Command.Placement
import RecordRegistry.Proofs.File.Places
import RecordRegistry.Proofs.Settings.Document

namespace RecordRegistry

variable {files : FileSystem} {root way : Location}

namespace Project

/-- The location of the directory that holds the configuration of a project. -/
def directoryPlace (root : Location) : Location := (FilePath.ofString ".modelreg").bytes :: root

/-- The location of the configuration of a project. -/
def configurationPlace (root : Location) : Location :=
  (FilePath.ofString "config.toml").bytes :: directoryPlace root

theorem isProper_directoryPlace (proper : root.IsProper) : (directoryPlace root).IsProper :=
  List.forall_mem_cons.mpr ⟨by decide +kernel, proper⟩

theorem isProper_configurationPlace (proper : root.IsProper) : (configurationPlace root).IsProper :=
  List.forall_mem_cons.mpr ⟨by decide +kernel, isProper_directoryPlace proper⟩

theorem directoryAt_path (proper : root.IsProper) :
    directoryAt root.path = (directoryPlace root).path :=
  Location.join_path (isProper_directoryPlace proper)

theorem configurationAt_path (proper : root.IsProper) :
    configurationAt root.path = (configurationPlace root).path := by
  rw [configurationAt, directoryAt_path proper]
  exact Location.join_path (isProper_configurationPlace proper)

/-- A configuration can be put in its place: the directory for it is there, or nothing is there, and
what is in the place of the configuration itself, if anything, is a file. -/
structure HasRoom (files : FileSystem) (root : Location) : Prop where
  inside : files.HoldsDirectory root
  directory : files.node? (directoryPlace root) = none ∨
    files.HoldsDirectory (directoryPlace root)
  file : files.node? (configurationPlace root) = none ∨
    ∃ mode content, files.node? (configurationPlace root) = some (.file mode content)

/-- What is in the place of the configuration, if it is a file, is a text that configures
settings. -/
def IsReadable (files : FileSystem) (root : Location) : Prop :=
  ∀ mode content, files.node? (configurationPlace root) = some (.file mode content) →
    ∃ text settings, Utf8.decode? content = some text ∧ Settings.parse text = .ok settings

namespace HasRoom

variable (tree : files.IsTree) (room : HasRoom files root)
include tree room

theorem isProper : root.IsProper := tree.isProper room.inside.present

theorem unlinked : files.Unlinked (configurationPlace root) := by
  refine ((tree.unlinked room.inside).cons fun target isLink => ?_).cons fun target isLink => ?_
  · rcases room.directory with absent | isDirectory
    · exact absurd (isLink.symm.trans absent) (by simp)
    · exact isDirectory.ne_link target isLink
  · rcases room.file with absent | ⟨mode, content, isFile⟩
    · exact absurd (isLink.symm.trans absent) (by simp)
    · exact absurd (isLink.symm.trans isFile) (by simp)

theorem isPresent_iff (here : Location) : files.isPresent here (configurationAt root.path) = true ↔
    (configurationPlace root).Fits ∧ files.node? (configurationPlace root) ≠ none := by
  rw [configurationAt_path (room.isProper tree)]
  exact FileSystem.isPresent_path_iff tree (isProper_configurationPlace (room.isProper tree))
    (room.unlinked tree)

/-- A project without a configuration, or with one that is too far away to be looked up, has no
settings of its own. -/
theorem load_of_not_present (here : Location) (absent : ¬ ((configurationPlace root).Fits ∧
    files.node? (configurationPlace root) ≠ none)) :
    load files here root.path = .ok ⟨root.path, none⟩ := by
  rw [← room.isPresent_iff tree here] at absent
  rw [load, if_neg absent]
  rfl

theorem load_of_file (here : Location) {mode : Nat} {content : Bytes}
    (fits : (configurationPlace root).Fits)
    (isFile : files.node? (configurationPlace root) = some (.file mode content)) :
    load files here root.path =
      match Utf8.decode? content with
      | none => .error (.unreadable .notText)
      | some text =>
        match Settings.parse text with
        | .error error => .error (.malformed text error)
        | .ok settings => .ok ⟨root.path, some settings⟩ := by
  have proper := isProper_configurationPlace (room.isProper tree)
  have present : files.isPresent here (configurationAt root.path) = true :=
    (room.isPresent_iff tree here).mpr ⟨fits, by simp [isFile]⟩
  have read : files.readText here (configurationPlace root).path = _ :=
    FileSystem.readText_path tree proper (room.unlinked tree) fits isFile
  rw [load, if_pos present, configurationAt_path (room.isProper tree), read]
  cases Utf8.decode? content with
  | none => rfl
  | some text =>
      cases parsed : Settings.parse text <;> simp [parsed]

theorem load_of_default (here : Location) {mode : Nat} (fits : (configurationPlace root).Fits)
    (isFile : files.node? (configurationPlace root) =
      some (.file mode (Utf8.encode Settings.default.text))) :
    load files here root.path = .ok ⟨root.path, some .default⟩ := by
  rw [room.load_of_file tree here fits isFile, Utf8.decode?_encode]
  simp only [Configuration.parse_text]

/-- A project is looked up successfully unless its configuration is read and cannot be. -/
theorem exists_load_iff (here : Location) : (∃ project, load files here root.path = .ok project) ↔
    ((configurationPlace root).Fits → IsReadable files root) := by
  constructor
  · rintro ⟨project, loaded⟩ fits mode content isFile
    rw [room.load_of_file tree here fits isFile] at loaded
    cases decoded : Utf8.decode? content with
    | none => simp [decoded] at loaded
    | some text =>
        cases parsed : Settings.parse text with
        | error error => simp [decoded, parsed] at loaded
        | ok settings => exact ⟨text, settings, rfl, parsed⟩
  · intro readable
    by_cases present : (configurationPlace root).Fits ∧ files.node? (configurationPlace root) ≠ none
    · obtain ⟨mode, content, isFile⟩ := room.file.resolve_left present.2
      obtain ⟨text, settings, decoded, parsed⟩ := readable present.1 mode content isFile
      refine ⟨⟨root.path, some settings⟩, ?_⟩
      rw [room.load_of_file tree here present.1 isFile, decoded]
      simp only [parsed]
    · exact ⟨_, room.load_of_not_present tree here present⟩

end HasRoom

theorem hasRoom_of_file {mode : Nat} {content : Bytes} (tree : files.IsTree)
    (isFile : files.node? (configurationPlace root) = some (.file mode content)) :
    HasRoom files root := by
  have isDirectory : files.HoldsDirectory (directoryPlace root) :=
    tree.inDirectory _ _ (by rw [← configurationPlace, isFile]; simp)
  exact ⟨tree.inDirectory _ _ isDirectory.present, .inr isDirectory, .inr ⟨mode, content, isFile⟩⟩

end Project

namespace InitCommand

variable {project : Project}

open Project (HasRoom directoryPlace configurationPlace)

/-- A configuration has been put into its place, and nothing else has changed but that its directory
may have come if it was not there. -/
structure Restored (root : Location) (before after : FileSystem) : Prop where
  tree : after.IsTree
  isFile : ∃ mode, after.node? (configurationPlace root) =
    some (.file mode (Utf8.encode Settings.default.text))
  isDirectory : after.HoldsDirectory (directoryPlace root)
  keptDirectory : before.HoldsDirectory (directoryPlace root) →
    after.node? (directoryPlace root) = before.node? (directoryPlace root)
  others : ∀ location, location ≠ configurationPlace root → location ≠ directoryPlace root →
    after.node? location = before.node? location

theorem configure_of_fits (here : Location) (tree : files.IsTree) (room : HasRoom files root)
    (atRoot : project.root = root.path) (fits : (configurationPlace root).Fits) :
    ∃ after, configure files here project true = (after, .ok ()) ∧ Restored root files after := by
  have outer := Project.isProper_directoryPlace (room.isProper tree)
  have proper := Project.isProper_configurationPlace (room.isProper tree)
  have directory : project.directory = (directoryPlace root).path := by
    rw [Project.directory, atRoot, Project.directoryAt_path (room.isProper tree)]
  have configuration : project.configuration = (configurationPlace root).path := by
    rw [Project.configuration, atRoot, Project.configurationAt_path (room.isProper tree)]
  obtain ⟨made, makes, madeTree, inside, unmade, kept⟩ :
      ∃ made, files.makeDirectories here (directoryPlace root).path = (made, .ok ()) ∧ made.IsTree ∧
        made.HoldsDirectory (directoryPlace root) ∧
        (files.HoldsDirectory (directoryPlace root) → made = files) ∧
        ∀ location, location ≠ directoryPlace root → made.node? location = files.node? location :=
    FileSystem.makeDirectories_path tree outer room.inside fits.tail room.directory
  have apart : configurationPlace root ≠ directoryPlace root := List.cons_ne_self _ _
  have free : made.node? (configurationPlace root) = none ∨
      ∃ mode content, made.node? (configurationPlace root) = some (.file mode content) := by
    rw [kept _ apart]
    exact room.file
  obtain ⟨mode, writes⟩ : ∃ mode, made.write here (configurationPlace root).path
      (Utf8.encode Settings.default.text) =
        .ok (made.put (configurationPlace root) (.file mode (Utf8.encode Settings.default.text))) :=
    FileSystem.write_path madeTree proper inside fits free _
  have named : configurationPlace root ≠ [] := List.cons_ne_nil _ _
  refine ⟨made.put (configurationPlace root) (.file mode (Utf8.encode Settings.default.text)),
    ?_, ?_, ⟨mode, FileSystem.node?_put_self named⟩, ?_, fun held => ?_,
    fun location notFile notDirectory => ?_⟩
  · simp [configure, directory, configuration, makes, writes]
  · refine madeTree.put proper.head inside (.inr ?_)
    refine madeTree.nothing_below fun isDirectory => ?_
    rcases free with absent | ⟨mode, content, isFile⟩
    · exact isDirectory.present absent
    · exact FileSystem.not_holdsDirectory_of_file isFile isDirectory
  · rw [FileSystem.HoldsDirectory, FileSystem.node?_put_of_ne named apart.symm]
    exact inside
  · rw [FileSystem.node?_put_of_ne named apart.symm, unmade held]
  · rw [FileSystem.node?_put_of_ne named notFile, kept location notDirectory]

theorem configure_of_not_fits (here : Location) (tree : files.IsTree) (room : HasRoom files root)
    (atRoot : project.root = root.path) (long : ¬ (configurationPlace root).Fits) :
    ∃ after message, configure files here project true = (after, .error message) := by
  have proper := Project.isProper_configurationPlace (room.isProper tree)
  have configuration : project.configuration = (configurationPlace root).path := by
    rw [Project.configuration, atRoot, Project.configurationAt_path (room.isProper tree)]
  rw [configure]
  simp only [Bool.not_true, Bool.and_false, Bool.false_eq_true, if_false]
  split
  · exact ⟨_, _, rfl⟩
  · next made _ =>
      obtain ⟨fault, refused⟩ := made.write_path_of_not_fits proper long
      rw [configuration, refused]
      exact ⟨_, _, rfl⟩

/-- Overwriting succeeds where the project can be looked up and the path to its configuration is
short enough, and what it leaves is the default configuration. -/
theorem run_force {setting : Setting} (tree : files.IsTree) (room : HasRoom files root)
    (found : setting.project files = Project.load files root root.path) :
    ((run setting files true).2.code = 0 ↔
      (configurationPlace root).Fits ∧ Project.IsReadable files root) ∧
    ((run setting files true).2.code = 0 → Restored root files (run setting files true).1) ∧
    ∀ error, Project.load files root root.path = .error error →
      run setting files true = (files, setting.failure "" "" error.message) := by
  have loads := room.exists_load_iff tree root
  rw [run, found]
  cases loaded : Project.load files root root.path with
  | error error =>
      have unreadable : ¬ ((configurationPlace root).Fits → Project.IsReadable files root) := by
        rw [← loads, loaded]
        rintro ⟨_, ⟨⟩⟩
      refine ⟨iff_of_false Outcome.failureCode_ne_zero fun both => unreadable fun _ => both.2,
        fun succeeds => absurd succeeds Outcome.failureCode_ne_zero, ?_⟩
      rintro _ ⟨⟩
      rfl
  | ok project =>
      have atRoot := Project.root_of_load loaded
      have readable := loads.mp ⟨project, loaded⟩
      by_cases fits : (configurationPlace root).Fits
      · obtain ⟨after, configured, restored⟩ :=
          configure_of_fits setting.here tree room atRoot fits
        simp only [configured]
        exact ⟨iff_of_true rfl ⟨fits, readable fits⟩, fun _ => restored, by rintro _ ⟨⟩⟩
      · obtain ⟨after, message, failed⟩ :=
          configure_of_not_fits setting.here tree room atRoot fits
        simp only [failed]
        exact ⟨iff_of_false Outcome.failureCode_ne_zero fun both => fits both.1,
          fun succeeds => absurd succeeds Outcome.failureCode_ne_zero, by rintro _ ⟨⟩⟩

end InitCommand

/-- What a generation does in the given project. -/
def GenerateCommand.runIn (project : Project) (setting : Setting) (files : FileSystem)
    (overrides : Overrides) (mode : GenerateMode) : FileSystem × Outcome :=
  match project.generator setting.environment overrides with
  | .error error => (files, setting.failure "" "" error.message)
  | .ok generator =>
    runFor setting files generator (project.shown generator.source) (project.shown generator.output)
      mode

/-- What a listing does in the given project. -/
def ScanCommand.runIn (project : Project) (setting : Setting) (files : FileSystem)
    (source : Option FilePath) : Outcome :=
  match project.generator setting.environment { Overrides.none with source := source } with
  | .error error => setting.failure "" "" error.message
  | .ok generator =>
    let errors := setting.logged (generator.planRecords files setting.here)
    match generator.plan files setting.here with
    | .error error =>
      setting.failure "" errors
        ("Failed to scan " ++ project.shown generator.source ++ ": " ++ error.account)
    | .ok plan =>
      let output := setting.prose.heading ("Declarations in " ++ project.shown generator.source)
      match (display plan).render setting.prose with
      | .error message => setting.failure output errors message
      | .ok text => .success (output ++ text ++ remarks setting.prose plan) errors

variable {setting : Setting} {project other : Project}

theorem GenerateCommand.run_eq_runIn (found : setting.project files = .ok project)
    (overrides : Overrides) (mode : GenerateMode) :
    run setting files overrides mode = runIn project setting files overrides mode := by
  rw [run, runIn, found]
  simp only [ok_bind, pure_eq_ok]
  generalize project.generator setting.environment overrides = made
  cases made <;> rfl

theorem ScanCommand.run_eq_runIn (found : setting.project files = .ok project)
    (source : Option FilePath) : run setting files source = runIn project setting files source := by
  rw [run, runIn, found]
  simp only [ok_bind, pure_eq_ok]
  generalize project.generator setting.environment _ = made
  cases made <;> rfl

/-- Of a project the commands only use where it is and the settings that it comes to. -/
theorem GenerateCommand.runIn_congr (atRoot : project.root = other.root)
    (settings : project.settings = other.settings) : runIn project = runIn other := by
  funext setting files overrides mode
  simp only [runIn, Project.generator, Project.shown, atRoot, settings]

theorem ScanCommand.runIn_congr (atRoot : project.root = other.root)
    (settings : project.settings = other.settings) : runIn project = runIn other := by
  funext setting files source
  simp only [runIn, Project.generator, Project.shown, atRoot, settings]

/-- In a directory of a project, generations and listings do and print what they do if the project
has no configuration. -/
structure RunsUnconfigured (files : FileSystem) (root here : Location) : Prop where
  generate : ∀ setting : Setting, setting.here = here → ∀ overrides mode,
    GenerateCommand.run setting files overrides mode =
      GenerateCommand.runIn ⟨root.path, none⟩ setting files overrides mode
  scan : ∀ setting : Setting, setting.here = here → ∀ source,
    ScanCommand.run setting files source = ScanCommand.runIn ⟨root.path, none⟩ setting files source

theorem runsUnconfigured_of_load (tree : files.IsTree) (placed : InProject files root way)
    (loaded : Project.load files root root.path = .ok project)
    (defaults : project.settings = .default) : RunsUnconfigured files root (way ++ root) := by
  have atRoot : project.root = (Project.mk root.path none).root := Project.root_of_load loaded
  have settings : project.settings = (Project.mk root.path none).settings := defaults
  have found (setting : Setting) (isHere : setting.here = way ++ root) :
      setting.project files = .ok project := by
    rw [Setting.project, isHere, Project.findFrom_of_inProject tree placed, loaded]
  constructor
  · intro setting isHere overrides mode
    rw [GenerateCommand.run_eq_runIn (found setting isHere),
      GenerateCommand.runIn_congr atRoot settings]
  · intro setting isHere source
    rw [ScanCommand.run_eq_runIn (found setting isHere), ScanCommand.runIn_congr atRoot settings]

namespace CommandLine

open Project (HasRoom directoryPlace configurationPlace)

variable {environment : Environment} {words : List SystemText} {presentation : Presentation}

/-- Asking for the default configuration, in place of whatever there is, succeeds exactly if what
there is, if anything, is a text that configures settings, and the path to it can be followed.  Then
only the configuration has changed, and its directory may have come; from now on, for as long as the
configuration stays, it is read as the defaults, and generations and listings do what they do where
there is no configuration.  If the configuration cannot be read, nothing is changed. -/
theorem run_init_force (tree : files.IsTree) (placed : InProject files root way)
    (room : HasRoom files root)
    (asked : Invocation.parse environment words = .ok ⟨presentation, .init true⟩) :
    let after := (run files (way ++ root) environment words).1
    let code := (run files (way ++ root) environment words).2.code
    (code = 0 ↔ (configurationPlace root).Fits ∧ Project.IsReadable files root) ∧
    (code = 0 → InitCommand.Restored root files after ∧
      ∀ later further, later.IsTree → InProject later root further →
        later.node? (configurationPlace root) = after.node? (configurationPlace root) →
          Project.load later root root.path = .ok ⟨root.path, some .default⟩ ∧
            RunsUnconfigured later root (further ++ root)) ∧
    (∀ error, Project.load files root root.path = .error error →
      after = files ∧ code = Outcome.failureCode) ∧
    ∀ bare further, bare.IsTree → InProject bare root further → HasRoom bare root →
      bare.node? (configurationPlace root) = none →
        RunsUnconfigured bare root (further ++ root) := by
  obtain ⟨errors, same⟩ := run_of_parse asked files (way ++ root)
  have found := Project.findFrom_of_inProject tree placed
  obtain ⟨succeeds, restores, fails⟩ :=
    @InitCommand.run_force _ _ (settingOf (way ++ root) environment presentation) tree room found
  dsimp only
  rw [same]
  refine ⟨succeeds, fun code => ⟨restores code, ?_⟩, fun error unloaded => ?_, ?_⟩
  · intro later further laterTree within stays
    obtain ⟨mode, isFile⟩ := (restores code).isFile
    have isFile := stays.trans isFile
    have laterRoom := Project.hasRoom_of_file laterTree isFile
    have loaded := laterRoom.load_of_default laterTree root (succeeds.mp code).1 isFile
    exact ⟨loaded, runsUnconfigured_of_load laterTree within loaded rfl⟩
  · exact ⟨congrArg Prod.fst (fails error unloaded), congrArg (·.2.code) (fails error unloaded)⟩
  · intro bare further bareTree within bareRoom absent
    exact runsUnconfigured_of_load bareTree within
      (bareRoom.load_of_not_present bareTree root fun both => both.2 absent) rfl

/-- A project whose configuration has the given content. -/
def configuredProject (content : Bytes) : FileSystem :=
  ((FileSystem.empty.put [Project.manifestName.bytes] (.file plainMode [])).put (directoryPlace [])
    (.directory directoryMode)).put (configurationPlace []) (.file plainMode content)

theorem node?_configuredProject (content : Bytes) :
    (configuredProject content).node? (configurationPlace []) = some (.file plainMode content) :=
  FileSystem.node?_put_self (List.cons_ne_nil _ _)

theorem inProject_of_holdsManifest (isRoot : HoldsManifest files []) : InProject files [] [] where
  inside := FileSystem.holdsDirectory_nil
  isRoot := isRoot
  nearest _ ends some := absurd (List.suffix_nil.mp ends) some

/-- A configuration that asks for another package. -/
def packageProject : FileSystem :=
  configuredProject (Utf8.encode "[registry]\nnamespace = 'crate'\n")

/-- It gives way to the defaults. -/
theorem run_init_force_packageProject :
    ∃ presentation, Invocation.parse [] ["init", "--force"] = .ok ⟨presentation, .init true⟩ ∧
      packageProject.IsTree ∧ InProject packageProject [] [] ∧ HasRoom packageProject [] ∧
      (run packageProject [] [] ["init", "--force"]).2.code = 0 ∧
      Project.load packageProject [] (Location.path []) =
        .ok ⟨Location.path [], some ⟨"src/entity", "src/entity/models.rs", ⟨"crate", "models"⟩⟩⟩ ∧
      Project.load (run packageProject [] [] ["init", "--force"]).1 [] (Location.path []) =
        .ok ⟨Location.path [], some .default⟩ := by
  have asked : Invocation.parse [] ["init", "--force"] =
      .ok ⟨⟨.table, false, false, false⟩, .init true⟩ := by
    decide +kernel
  have tree : packageProject.IsTree := by decide +kernel
  have placed : InProject packageProject [] [] :=
    inProject_of_holdsManifest (by unfold HoldsManifest; decide +kernel)
  have stays : InProject (run packageProject [] [] ["init", "--force"]).1 [] [] :=
    inProject_of_holdsManifest (by unfold HoldsManifest; decide +kernel)
  have room : HasRoom packageProject [] :=
    Project.hasRoom_of_file tree (node?_configuredProject _)
  have before : Project.load packageProject [] (Location.path []) =
      .ok ⟨Location.path [], some ⟨"src/entity", "src/entity/models.rs", ⟨"crate", "models"⟩⟩⟩ := by
    decide +kernel
  have fits : (configurationPlace []).Fits := Nat.le_of_ble_eq_true (by decide +kernel)
  have readable := (room.exists_load_iff tree []).mp ⟨_, before⟩ fits
  have effect := run_init_force tree placed room asked
  simp only [List.nil_append] at effect
  obtain ⟨succeeds, restores, -⟩ := effect
  have code := succeeds.mpr ⟨fits, readable⟩
  obtain ⟨restored, lasts⟩ := restores code
  exact ⟨_, asked, tree, placed, room, code, before, (lasts _ [] restored.tree stays rfl).1⟩

/-- A configuration that is not complete. -/
def brokenProject : FileSystem := configuredProject (Utf8.encode "[")

/-- It stays, though overwriting it is asked for. -/
theorem unchanged_of_init_force_brokenProject :
    (∃ presentation, Invocation.parse [] ["init", "--force"] = .ok ⟨presentation, .init true⟩) ∧
      brokenProject.IsTree ∧ InProject brokenProject [] [] ∧ HasRoom brokenProject [] ∧
      (run brokenProject [] [] ["init", "--force"]).1 = brokenProject ∧
      (run brokenProject [] [] ["init", "--force"]).2.code = 1 := by
  have tree : brokenProject.IsTree := by decide +kernel
  refine ⟨⟨⟨.table, false, false, false⟩, by decide +kernel⟩, tree,
    inProject_of_holdsManifest (by unfold HoldsManifest; decide +kernel),
    Project.hasRoom_of_file tree (node?_configuredProject _), ?_, ?_⟩
  · decide +kernel
  · decide +kernel

end CommandLine

end RecordRegistry
