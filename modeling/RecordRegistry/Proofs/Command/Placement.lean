/-
# Commands in a project

A project is found from every directory in it, and from then on only its root matters: all paths
that a command looks at or changes lead on from the root, whose path is absolute.  So a command does
and prints the same, wherever in the project it runs.
-/

import RecordRegistry.Proofs.Command.Generating
import RecordRegistry.Proofs.File.Absolute

namespace RecordRegistry

variable {files : FileSystem} {here there : Location}

namespace Package

variable {directory : FilePath} {exclude : Option FilePath}

theorem readUnit_of_isAbsolute {path : FilePath} (absolute : path.isAbsolute = true)
    (here there : Location) (files : FileSystem) :
    readUnit files here path = readUnit files there path := by
  rw [readUnit, readUnit, FileSystem.readText_of_isAbsolute absolute here there]

/-- Visiting an entry of an absolute directory is the same from anywhere. -/
theorem visit_of_isAbsolute (absolute : directory.isAbsolute = true) (here there : Location)
    (location : Location) (excluded : Option Location) (name : Bytes) :
    visit files here directory location excluded name =
      visit files there directory location excluded name := by
  have joined := FilePath.isAbsolute_join absolute ⟨name⟩
  simp only [visit, visitFile, FileSystem.find_of_isAbsolute joined here there,
    FileSystem.target?_of_isAbsolute joined here there, readUnit_of_isAbsolute joined here there]

theorem visits_of_isAbsolute (absolute : directory.isAbsolute = true)
    (outside : ∀ path ∈ exclude, path.isAbsolute = true) (here there : Location) :
    visits files here directory exclude = visits files there directory exclude := by
  have excluded : exclude.bind (files.target? here) = exclude.bind (files.target? there) := by
    cases exclude with
    | none => rfl
    | some path =>
        exact FileSystem.target?_of_isAbsolute (outside path rfl) here there files
  rw [visits, visits, FileSystem.find_of_isAbsolute absolute here there, excluded]
  simp only [funext (visit_of_isAbsolute absolute here there _ _)]

end Package

namespace Generator

variable {generator : Generator}

/-- The paths of a generator do not depend on a working directory. -/
structure IsAbsolute (generator : Generator) : Prop where
  source : generator.source.isAbsolute = true
  output : generator.output.isAbsolute = true

namespace IsAbsolute

variable (absolute : generator.IsAbsolute) (here there : Location)
include absolute

theorem visits : Package.visits files here generator.source (some generator.output) =
    Package.visits files there generator.source (some generator.output) :=
  Package.visits_of_isAbsolute absolute.source (by simpa using absolute.output) here there

theorem plan : generator.plan files here = generator.plan files there := by
  rw [Generator.plan, Generator.plan, Package.scan, Package.scan, absolute.visits here there]

theorem planRecords : generator.planRecords files here = generator.planRecords files there := by
  rw [Generator.planRecords, Generator.planRecords, Package.records, Package.records,
    absolute.visits here there, absolute.plan here there]

theorem prepare : generator.prepare files here = generator.prepare files there := by
  rw [Generator.prepare, Generator.prepare, absolute.plan here there]

theorem render : generator.render files here = generator.render files there := by
  rw [Generator.render, Generator.render, absolute.prepare here there]

theorem check : generator.check files here = generator.check files there := by
  rw [Generator.check, Generator.check, absolute.render here there,
    FileSystem.read_of_isAbsolute absolute.output here there]

/-- A run may look into the directory it runs in, if the output says nothing but that it is
absolute, but it leaves nothing there. -/
theorem run (first : files.HoldsDirectory here)
    (second : files.HoldsDirectory there) :
    generator.run files here = generator.run files there := by
  have replaced (content : Bytes) :=
    @Replacement.run_of_isAbsolute files here there _ content absolute.output first second
  rw [Generator.run, Generator.run, absolute.prepare here there]
  simp only [replaced]

end IsAbsolute

end Generator

namespace Project

variable {root : FilePath}

theorem load_of_isAbsolute (absolute : root.isAbsolute = true) (here there : Location) :
    load files here root = load files there root := by
  have configuration : (configurationAt root).isAbsolute = true :=
    FilePath.isAbsolute_join (FilePath.isAbsolute_join absolute _) _
  rw [load, load, FileSystem.isPresent_of_isAbsolute configuration here there,
    FileSystem.readText_of_isAbsolute configuration here there]

/-- The paths of a generator lead on from the root of its project. -/
theorem generator_eq_ok_iff {project : Project} {environment : Environment} {overrides : Overrides}
    {generator : Generator} :
    project.generator environment overrides = .ok generator ↔
      ∃ source output,
        pathSetting environment overrides.source project.settings.source = .ok source ∧
        pathSetting environment overrides.output project.settings.output = .ok output ∧
        generator = ⟨project.root.join source, project.root.join output,
          ⟨overrides.package.getD project.settings.naming.package,
            overrides.collection.getD project.settings.naming.collection⟩⟩ := by
  rw [Project.generator, bind_eq_ok_iff]
  constructor
  · rintro ⟨source, first, onward⟩
    obtain ⟨output, second, made⟩ := bind_eq_ok_iff.mp onward
    exact ⟨source, output, first, second, (Except.ok.inj made).symm⟩
  · rintro ⟨source, output, first, second, rfl⟩
    exact ⟨source, first, bind_eq_ok_iff.mpr ⟨output, second, rfl⟩⟩

theorem isAbsolute_generator {project : Project} {environment : Environment} {overrides : Overrides}
    {generator : Generator} (absolute : project.root.isAbsolute = true)
    (made : project.generator environment overrides = .ok generator) : generator.IsAbsolute := by
  obtain ⟨source, output, -, -, rfl⟩ := generator_eq_ok_iff.mp made
  exact ⟨FilePath.isAbsolute_join absolute source, FilePath.isAbsolute_join absolute output⟩

end Project

/-- A directory holds the manifest of a project. -/
def HoldsManifest (files : FileSystem) (directory : Location) : Prop :=
  files.isPresent directory (directory.path.join Project.manifestName) = true

/-- A directory is in the project with a root: it is below the root on a way on which no other
manifest stands. -/
structure InProject (files : FileSystem) (root way : Location) : Prop where
  inside : files.HoldsDirectory (way ++ root)
  isRoot : HoldsManifest files root
  nearest : ∀ between, between <:+ way → between ≠ [] → ¬ HoldsManifest files (between ++ root)

namespace Project

/-- Of the locations from one outward, the first good one is found. -/
private theorem find?_tails {good : Location → Bool} {root way : Location}
    (isGood : good root = true)
    (nearest : ∀ between, between <:+ way → between ≠ [] → good (between ++ root) = false) :
    (way ++ root).tails.find? good = some root := by
  induction way with
  | nil => cases root <;> simp [isGood]
  | cons name way ih =>
      have passed := nearest (name :: way) List.suffix_rfl (List.cons_ne_nil _ _)
      have onward := ih fun between ends => nearest between (ends.trans (List.suffix_cons name way))
      rw [List.cons_append, List.tails_cons, List.find?_cons_of_neg (by simpa using passed), onward]

/-- From a directory in a project, its root is the first on the way outward with a manifest. -/
theorem rootFrom?_of_inProject {root way : Location} (tree : files.IsTree)
    (placed : InProject files root way) :
    rootFrom? files (way ++ root) (way ++ root).path = some root.path := by
  have holds (directory : Location) :
      files.isPresent (way ++ root) (directory.path.join manifestName) = true ↔
        HoldsManifest files directory := by
    have absolute := FilePath.isAbsolute_join (Location.isAbsolute_path directory) manifestName
    rw [HoldsManifest, FileSystem.isPresent_of_isAbsolute absolute (way ++ root) directory]
  rw [rootFrom?, Location.ancestors_path (tree.isProper placed.inside.present),
    List.find?_map, Option.map_eq_some_iff]
  refine ⟨root, find?_tails ((holds root).mpr placed.isRoot) ?_, rfl⟩
  intro between ends some
  rw [Function.comp_apply, ← Bool.not_eq_true, holds]
  exact placed.nearest between ends some

example :
    let app := (FileSystem.empty.put [Utf8.encode "app"] (.directory directoryMode)).put
      [manifestName.bytes, Utf8.encode "app"] (.file plainMode [])
    rootFrom? app [Utf8.encode "app"] (.ofString "/app") = some (.ofString "/app") := by
  decide +kernel

/-- The project is loaded from its root, wherever it is looked for. -/
theorem findFrom_of_inProject {root way : Location} (tree : files.IsTree)
    (placed : InProject files root way) :
    findFrom files (way ++ root) (way ++ root).path = load files root root.path := by
  rw [findFrom, rootFrom?_of_inProject tree placed]
  exact load_of_isAbsolute (Location.isAbsolute_path root) _ _

theorem root_of_load {root : FilePath} {project : Project}
    (loaded : load files here root = .ok project) : project.root = root := by
  revert loaded
  simp only [load]
  split
  · intro loaded
    obtain ⟨text, -, onward⟩ := bind_eq_ok_iff.mp loaded
    obtain ⟨settings, -, same⟩ := bind_eq_ok_iff.mp onward
    rw [← Except.ok.inj same]
  · intro loaded
    rw [← Except.ok.inj loaded]

/-- The root of a project that is found from an absolute path is absolute. -/
theorem isAbsolute_of_findFrom {start : FilePath} {project : Project}
    (absolute : start.isAbsolute = true) (found : findFrom files here start = .ok project) :
    project.root.isAbsolute = true := by
  unfold findFrom at found
  cases first : rootFrom? files here start with
  | none => simp [first] at found
  | some root =>
      rw [first] at found
      rw [root_of_load found]
      exact FilePath.isAbsolute_of_mem_outward _ absolute root (List.mem_of_find?_eq_some first)

end Project

/-- Two directories belong to the same project, or both to none. -/
structure SameProject (files : FileSystem) (here there : Location) : Prop where
  first : files.HoldsDirectory here
  second : files.HoldsDirectory there
  found : Project.findFrom files here here.path = Project.findFrom files there there.path

/-- The root of a project is in it. -/
theorem InProject.isRootInProject {root way : Location} (tree : files.IsTree)
    (placed : InProject files root way) : InProject files root [] where
  inside := by
    rw [List.nil_append]
    by_contra notDirectory
    cases way with
    | nil => exact notDirectory placed.inside
    | cons name way =>
        exact placed.inside.present (tree.nothing_under notDirectory name way)
  isRoot := placed.isRoot
  nearest between ends some := absurd (List.suffix_nil.mp ends) some

theorem InProject.sameProject {root way : Location} (tree : files.IsTree)
    (placed : InProject files root way) : SameProject files (way ++ root) root where
  first := placed.inside
  second := (placed.isRootInProject tree).inside
  found := by
    rw [Project.findFrom_of_inProject tree placed]
    exact (Project.findFrom_of_inProject tree (placed.isRootInProject tree)).symm

variable {project : Project} {environment : Environment} {prose : Prose} {log : LogStyle}

namespace InitCommand

theorem configure_of_isAbsolute (absolute : project.root.isAbsolute = true) (here there : Location)
    (force : Bool) :
    configure files here project force = configure files there project force := by
  have directory : project.directory.isAbsolute = true := FilePath.isAbsolute_join absolute _
  have configuration : project.configuration.isAbsolute = true :=
    FilePath.isAbsolute_join directory _
  rw [configure, configure, Project.isInitialized, Project.isInitialized,
    FileSystem.isPresent_of_isAbsolute configuration here there,
    FileSystem.makeDirectories_of_isAbsolute directory here there]
  simp only [FileSystem.write_of_isAbsolute configuration here there]

theorem run_of_sameProject (same : SameProject files here there) (force : Bool) :
    run ⟨here, environment, prose, log⟩ files force =
      run ⟨there, environment, prose, log⟩ files force := by
  simp only [run, Setting.project, same.found]
  cases found : Project.findFrom files there there.path with
  | error error => rfl
  | ok project =>
      have absolute := Project.isAbsolute_of_findFrom (Location.isAbsolute_path there) found
      simp only [configure_of_isAbsolute absolute here there]
      rfl

end InitCommand

namespace GenerateCommand

theorem runFor_of_isAbsolute {generator : Generator} (absolute : generator.IsAbsolute)
    (first : files.HoldsDirectory here) (second : files.HoldsDirectory there)
    (source target : String) (mode : GenerateMode) :
    runFor ⟨here, environment, prose, log⟩ files generator source target mode =
      runFor ⟨there, environment, prose, log⟩ files generator source target mode := by
  cases mode with
  | preview =>
      simp only [runFor, absolute.planRecords here there, absolute.render here there]
      rfl
  | check =>
      simp only [runFor, absolute.planRecords here there, absolute.check here there]
      rfl
  | write =>
      simp only [runFor, absolute.planRecords here there, absolute.run here there first second]
      rfl

theorem run_of_sameProject (same : SameProject files here there) (overrides : Overrides)
    (mode : GenerateMode) :
    run ⟨here, environment, prose, log⟩ files overrides mode =
      run ⟨there, environment, prose, log⟩ files overrides mode := by
  simp only [run, Setting.project, same.found]
  cases found : Project.findFrom files there there.path with
  | error error => rfl
  | ok project =>
      have rooted := Project.isAbsolute_of_findFrom (Location.isAbsolute_path there) found
      cases made : project.generator environment overrides with
      | error error => simp [made, Setting.failure]
      | ok generator =>
          have absolute := Project.isAbsolute_generator rooted made
          simp only [made, ok_bind, pure_eq_ok]
          exact runFor_of_isAbsolute absolute same.first same.second _ _ mode

end GenerateCommand

namespace ScanCommand

theorem run_of_sameProject (same : SameProject files here there) (source : Option FilePath) :
    run ⟨here, environment, prose, log⟩ files source =
      run ⟨there, environment, prose, log⟩ files source := by
  simp only [run, Setting.project, same.found]
  cases found : Project.findFrom files there there.path with
  | error error => rfl
  | ok project =>
      have rooted := Project.isAbsolute_of_findFrom (Location.isAbsolute_path there) found
      cases made : project.generator environment { Overrides.none with source := source } with
      | error error => simp [made, Setting.failure]
      | ok generator =>
          have absolute := Project.isAbsolute_generator rooted made
          simp only [made, ok_bind, pure_eq_ok, absolute.planRecords here there,
            absolute.plan here there]
          rfl

end ScanCommand

namespace CommandLine

open GenerateCommand

variable {root way : Location} {words : List SystemText}

theorem perform_of_sameProject (same : SameProject files here there) (action : Action) :
    perform files ⟨here, environment, prose, log⟩ action =
      perform files ⟨there, environment, prose, log⟩ action := by
  cases action with
  | init force => exact InitCommand.run_of_sameProject same force
  | generate overrides mode => exact GenerateCommand.run_of_sameProject same overrides mode
  | scan source => exact congrArg (files, ·) (ScanCommand.run_of_sameProject same source)

/-- What is left by words that ask for a registry: what the generator that is found has done, if it
is to write. -/
theorem run_generate_of_finds {overrides : Overrides} {mode : GenerateMode}
    {presentation : Presentation} {generator : Generator}
    (parsed : Invocation.parse environment words = .ok ⟨presentation, .generate overrides mode⟩)
    (finds : Finds files here environment overrides generator) :
    (run files here environment words).1 =
      if mode = .write then (generator.run files here).1 else files := by
  obtain ⟨project, found, made⟩ := finds
  simp only [run, parsed, perform, GenerateCommand.run, Setting.project, found, made, ok_bind,
    pure_eq_ok]
  cases mode <;> rfl

/-- What is left by words that ask for a configuration of the project that is found. -/
theorem run_init_of_findFrom {force : Bool} {presentation : Presentation}
    (parsed : Invocation.parse environment words = .ok ⟨presentation, .init force⟩)
    (found : Project.findFrom files here here.path = .ok project) :
    (run files here environment words).1 =
      (InitCommand.configure files here project force).1 := by
  simp only [run, parsed, perform, InitCommand.run, Setting.project, found]
  split <;> simp_all

/-- A command does and prints the same in every directory of a project, and the paths that it is
about lead on from the root of the project: those that are asked for, be it on the command line or
by the environment, and otherwise those of the configuration.  What the words change is what the
generator with these paths writes in the root, or the configuration that stands there. -/
theorem run_of_inProject (tree : files.IsTree) (placed : InProject files root way) :
    run files (way ++ root) environment words = run files root environment words ∧
      (∀ overrides generator, Finds files (way ++ root) environment overrides generator →
        ∃ project source output, Project.load files root root.path = .ok project ∧
          Project.pathSetting environment overrides.source project.settings.source = .ok source ∧
          Project.pathSetting environment overrides.output project.settings.output = .ok output ∧
          generator.source = root.path.join source ∧ generator.output = root.path.join output) ∧
      (∀ presentation overrides mode,
        Invocation.parse environment words = .ok ⟨presentation, .generate overrides mode⟩ →
        ∀ generator, Finds files (way ++ root) environment overrides generator →
          (run files (way ++ root) environment words).1 =
            if mode = .write then (generator.run files root).1 else files) ∧
      ∀ presentation force,
        Invocation.parse environment words = .ok ⟨presentation, .init force⟩ →
        ∀ project, Project.load files root root.path = .ok project →
          (run files (way ++ root) environment words).1 =
            (InitCommand.configure files root project force).1 ∧ project.root = root.path := by
  have same : run files (way ++ root) environment words = run files root environment words := by
    unfold run
    cases Invocation.parse environment words with
    | error halt => rfl
    | ok invocation =>
        simp only
        rw [perform_of_sameProject (placed.sameProject tree)]
  have inRoot := placed.isRootInProject tree
  have fromRoot : Project.findFrom files root root.path = Project.load files root root.path :=
    Project.findFrom_of_inProject tree inRoot
  refine ⟨same, ?_, ?_, ?_⟩
  · rintro overrides generator ⟨project, found, made⟩
    rw [Project.findFrom_of_inProject tree placed] at found
    obtain ⟨source, output, first, second, rfl⟩ := Project.generator_eq_ok_iff.mp made
    exact ⟨project, source, output, found, first, second, by rw [Project.root_of_load found],
      by rw [Project.root_of_load found]⟩
  · rintro presentation overrides mode parsed generator ⟨project, found, made⟩
    rw [Project.findFrom_of_inProject tree placed, ← fromRoot] at found
    rw [same, run_generate_of_finds parsed ⟨project, found, made⟩]
  · intro presentation force parsed project loaded
    rw [same, run_init_of_findFrom parsed (fromRoot.trans loaded)]
    exact ⟨rfl, Project.root_of_load loaded⟩

/-- The names of a directory that is a project, and of the directory of its sources. -/
def appNames : Bytes × Bytes := (Utf8.encode "app", Utf8.encode "src")

/-- A project with one declaration. -/
def appProject : FileSystem :=
  (((FileSystem.empty.put [appNames.1] (.directory directoryMode)).put
    [Project.manifestName.bytes, appNames.1] (.file plainMode [])).put [appNames.2, appNames.1]
      (.directory directoryMode)).put [Utf8.encode "book.rs", appNames.2, appNames.1]
        (.file plainMode (Utf8.encode "pub struct Book;"))

theorem inProject_appProject : InProject appProject [appNames.1] [appNames.2] where
  inside := by decide +kernel
  isRoot := by
    unfold HoldsManifest
    decide +kernel
  nearest between ends some := by
    rcases List.suffix_cons_iff.mp ends with rfl | ends
    · unfold HoldsManifest
      decide +kernel
    · exact absurd (List.suffix_nil.mp ends) some

/-- Words that ask for the registry of the sources in a file. -/
def appWords : List SystemText := ["generate", "--source", "src", "--out", "models.rs"]

/-- In the directory of its sources, the registry of a project is generated as in its root, and it
stands in the root. -/
theorem run_of_inProject_appProject :
    appProject.IsTree ∧ InProject appProject [appNames.1] [appNames.2] ∧
      run appProject [appNames.2, appNames.1] [] appWords = run appProject [appNames.1] [] appWords ∧
      (run appProject [appNames.1] [] appWords).2.code = 0 ∧
      (run appProject [appNames.1] [] appWords).1.isPresent [appNames.1] (.ofString "models.rs") := by
  have tree : appProject.IsTree := by decide +kernel
  have same := (@run_of_inProject appProject [] [appNames.1] [appNames.2] appWords tree
    inProject_appProject).1
  exact ⟨tree, inProject_appProject, same, by decide +kernel⟩

end CommandLine

end RecordRegistry
