/-
# Where settings come from

A path setting comes from its flag, then from its variable, then from the configuration, whose text
is expanded, and then from its default; the other settings have no variable.  What an outer layer
says masks the inner ones: neither what they say nor whether it can be expanded matters.
-/

import RecordRegistry.Proofs.Command.Placement
import RecordRegistry.Proofs.Settings.Configuring
import RecordRegistry.Proofs.Settings.Expansion

namespace RecordRegistry

namespace Gathered

variable {gathered result : Gathered} {option other : CommandOption} {value : SystemText}
  {environment : Environment} {options : List CommandOption}

/-- The value that a variable gives to an option. -/
def assigned? (environment : Environment) (option : CommandOption) : Option SystemText :=
  option.fallback?.bind environment.get?

theorem value?_append (gathered : Gathered) (option other : CommandOption) (value : SystemText) :
    ({ gathered with given := gathered.given ++ [(option, value)] } : Gathered).value? other =
      (gathered.value? other).or (if other = option then some value else none) := by
  rw [value?, List.lookup_append, value?]
  by_cases same : other = option
  · simp [same]
  · simp [List.lookup_cons, same, beq_false_of_ne same]

/-- The step for one variable. -/
def takeVariable (gathered : Gathered) (environment : Environment) (option : CommandOption) :
    Except Halt Gathered :=
  match assigned? environment option, gathered.has option with
  | some value, false => gathered.accept option value
  | _, _ => .ok gathered

theorem takeVariables_cons : gathered.takeVariables environment (option :: options) =
    gathered.takeVariable environment option >>= (takeVariables · environment options) := by
  rw [takeVariables, takeVariable, assigned?]
  cases option.fallback?.bind environment.get? with
  | none => rfl
  | some value =>
      cases gathered.has option with
      | true => rfl
      | false => cases accepted : gathered.accept option value <;> simp [accepted]

/-- Of the options for a generation only two have variables. -/
theorem takeVariables_generate :
    gathered.takeVariables environment CommandName.generate.ownOptions =
      gathered.takeVariable environment .source >>= (takeVariable · environment .outputFile) := by
  have others (gathered : Gathered) : gathered.takeVariables environment
      [.namespacePath, .collection, .dryRun, .check] = .ok gathered := rfl
  rw [CommandName.ownOptions, takeVariables_cons]
  simp only [@takeVariables_cons _ .outputFile, others]
  cases gathered.takeVariable environment .source with
  | error halt => rfl
  | ok middle =>
      cases last : middle.takeVariable environment .outputFile <;> simp [last]

/-- A variable counts if its option is not given, and then it has to have a value. -/
theorem takeVariable_eq_ok_iff :
    gathered.takeVariable environment option = .ok result ↔
      (∀ value, assigned? environment option = some value → gathered.has option = false →
        checkValue gathered.command option value = .ok ()) ∧
      result = if gathered.has option then gathered else
        { gathered with given := gathered.given ++
          ((assigned? environment option).map fun value => (option, value)).toList } := by
  unfold takeVariable
  cases held : gathered.has option with
  | true => cases assigned? environment option <;> simp [eq_comm]
  | false =>
      cases assigned? environment option with
      | none => simpa using eq_comm
      | some value => simp [accept_eq_ok_iff, held]

theorem value?_of_takeVariable
    (taken : gathered.takeVariable environment option = .ok result) (other : CommandOption) :
    result.value? other =
      (gathered.value? other).or (if other = option then assigned? environment other else none) := by
  obtain ⟨-, rfl⟩ := takeVariable_eq_ok_iff.mp taken
  cases held : gathered.value? option with
  | some value =>
      have has : gathered.has option = true := by simp [has, held]
      by_cases same : other = option <;> simp [has, same, held]
  | none =>
      have free : gathered.has option = false := by simp [has, held]
      cases assigned : assigned? environment option with
      | none => by_cases same : other = option <;> simp [free, assigned, same, value?]
      | some value =>
          have appended := value?_append gathered option other value
          by_cases same : other = option <;> simp_all

/-- The value of a path is only checked not to be empty. -/
theorem checkValue_of_isPath (isPath : option = .source ∨ option = .outputFile)
    (command : CommandName) : checkValue command option value =
      if value.bytes = [] then .error (.mistake ⟨.noValue option, none, none⟩) else .ok () := by
  by_cases empty : value.bytes = []
  · obtain rfl | rfl := isPath <;> simp [checkValue, CommandOption.isPath, CommandOption.choices, empty]
  · obtain rfl | rfl := isPath <;>
      simp [checkValue, CommandOption.isPath, CommandOption.choices, empty]

theorem takeVariable_of_empty (isPath : option = .source ∨ option = .outputFile)
    (free : gathered.has option = false) (empty : assigned? environment option = some ⟨[]⟩) :
    gathered.takeVariable environment option = .error (.mistake ⟨.noValue option, none, none⟩) := by
  simp [takeVariable, empty, free, accept, checkValue_of_isPath isPath]

theorem exists_takeVariable (isPath : option = .source ∨ option = .outputFile)
    (filled : gathered.has option = false → assigned? environment option ≠ some ⟨[]⟩) :
    ∃ result, gathered.takeVariable environment option = .ok result := by
  refine ⟨_, takeVariable_eq_ok_iff.mpr ⟨fun value assigned free => ?_, rfl⟩⟩
  rw [checkValue_of_isPath isPath, if_neg]
  intro empty
  exact filled free (assigned.trans (congrArg some (congrArg SystemText.mk empty)))

theorem command_of_takeVariable (taken : gathered.takeVariable environment option = .ok result) :
    result.command = gathered.command := by
  obtain ⟨-, rfl⟩ := takeVariable_eq_ok_iff.mp taken
  split <;> rfl

/-- Without an environment nothing is taken from variables. -/
theorem takeVariables_nil (gathered : Gathered) :
    gathered.takeVariables [] CommandName.generate.ownOptions = .ok gathered := by
  have unset (option : CommandOption) : assigned? [] option = none := by
    cases option <;> simp [assigned?, CommandOption.fallback?, Environment.get?]
  have skipped (option : CommandOption) : gathered.takeVariable [] option = .ok gathered := by
    simp [takeVariable, unset]
  rw [takeVariables_generate, skipped]
  exact skipped .outputFile

/-- Other options are as they were given. -/
theorem value?_of_takeVariables {middle : Gathered} (unset : other.fallback? = none)
    (first : gathered.takeVariable environment .source = .ok middle)
    (second : middle.takeVariable environment .outputFile = .ok result) :
    result.value? other = gathered.value? other := by
  have none : assigned? environment other = none := by simp [assigned?, unset]
  simp [value?_of_takeVariable second, value?_of_takeVariable first, none]

theorem checkConflicts_of_takeVariables {middle : Gathered}
    (first : gathered.takeVariable environment .source = .ok middle)
    (second : middle.takeVariable environment .outputFile = .ok result)
    (free : gathered.checkConflicts = .ok ()) : result.checkConflicts = .ok () := by
  rw [checkConflicts_eq_ok_iff] at free ⊢
  intro option other held opposed
  have unset : option.fallback? = none ∧ other.fallback? = none := by
    cases option <;> cases opposed <;> exact ⟨rfl, rfl⟩
  rw [has, value?_of_takeVariables unset.1 first second] at held
  rw [has, value?_of_takeVariables unset.2 first second]
  exact free option other held opposed

end Gathered

/-! ## Flags and variables -/

namespace Overrides

/-- What the flags ask for, and the variables where a flag is missing. -/
def orAssigned (flags : Overrides) (environment : Environment) : Overrides :=
  { flags with
    source := flags.source.or ((environment.get? "MODELREG_SOURCE_DIR").map .ofSystem)
    output := flags.output.or ((environment.get? "MODELREG_OUTPUT_FILE").map .ofSystem) }

/-- No variable whose flag is missing is empty. -/
structure Filled (flags : Overrides) (environment : Environment) : Prop where
  source : flags.source = .none → environment.get? "MODELREG_SOURCE_DIR" ≠ some ⟨[]⟩
  output : flags.output = .none → environment.get? "MODELREG_OUTPUT_FILE" ≠ some ⟨[]⟩

end Overrides

namespace Invocation

open Gathered

variable {environment : Environment} {words : List SystemText} {presentation : Presentation}
  {flags : Overrides} {mode : GenerateMode} {settled middle after : Gathered} {halt : Halt}

theorem parse_generate_eq_error (failed : complete .generate environment words = .error halt) :
    parse environment ("generate" :: words) = .error halt := by
  unfold parse
  rw [gather_generate]
  change (Gathered.complete .generate environment words >>= _) = _
  rw [failed]
  rfl

theorem overridesOf_of_takeVariables
    (first : settled.takeVariable environment .source = .ok middle)
    (second : middle.takeVariable environment .outputFile = .ok after) :
    overridesOf after = (overridesOf settled).orAssigned environment := by
  have source := value?_of_takeVariable second .source
  have output := value?_of_takeVariable second .outputFile
  rw [value?_of_takeVariable first] at source output
  have package := @value?_of_takeVariables _ _ .namespacePath _ _ rfl first second
  have collection := @value?_of_takeVariables _ _ .collection _ _ rfl first second
  simp only [overridesOf, Overrides.orAssigned, source, output, package, collection]
  simp [assigned?, CommandOption.fallback?, Option.map_or]

/-- The words are flags for generation, and come to the options before any variable is looked at. -/
structure Settles (words : List SystemText) (settled : Gathered) : Prop where
  settles : ∃ early follower, (start .generate).gather words = .ok (early, follower) ∧
    early.settle = .ok settled
  free : settled.checkConflicts = .ok ()
  isGenerate : settled.command = .generate

theorem exists_settles (asked : parse [] ("generate" :: words) =
    .ok ⟨presentation, .generate flags mode⟩) :
    ∃ settled, Settles words settled ∧
      action? settled = some (.generate flags mode) ∧ flags = overridesOf settled ∧
      presentation = presentation? (start .program) settled := by
  obtain ⟨after, action, complete, acts, same⟩ := parse_generate_eq_ok_iff.mp asked
  obtain ⟨rfl, rfl⟩ := Invocation.mk.inj same
  obtain ⟨early, follower, settled, reached, settles, taken, free⟩ := complete_eq_ok_iff.mp complete
  rw [takeVariables_nil] at taken
  obtain rfl : settled = after := Except.ok.inj taken
  have isGenerate := command_of_action? acts
  have action := acts
  rw [action?_of_generate isGenerate] at action
  obtain ⟨rfl, -⟩ := Action.generate.inj (Option.some.inj action)
  exact ⟨settled, ⟨⟨early, follower, reached, settles⟩, free, isGenerate⟩, acts, rfl, rfl⟩

theorem source_eq_none_iff : (overridesOf settled).source = none ↔ settled.has .source = false := by
  simp [overridesOf, has]

theorem output_eq_none_iff :
    (overridesOf settled).output = none ↔ settled.has .outputFile = false := by
  simp [overridesOf, has]

/-- Taking the source from its variable does not give the output. -/
theorem has_outputFile_of_takeVariable
    (first : settled.takeVariable environment .source = .ok middle) :
    middle.has .outputFile = settled.has .outputFile := by
  simp [has, value?_of_takeVariable first]

/-- Variables that can be taken are added, and nothing else changes. -/
theorem Settles.parse_of_filled (settles : Settles words settled)
    (acts : action? settled = some (.generate flags mode))
    (filled : (overridesOf settled).Filled environment) : parse environment ("generate" :: words) =
      .ok ⟨presentation? (start .program) settled,
        .generate ((overridesOf settled).orAssigned environment) mode⟩ := by
  obtain ⟨⟨early, follower, reached, settles⟩, free, isGenerate⟩ := settles
  obtain ⟨middle, first⟩ := exists_takeVariable (.inl rfl) (filled.source ∘ source_eq_none_iff.mpr)
  obtain ⟨after, second⟩ := exists_takeVariable (.inr rfl) fun missing =>
    filled.output (output_eq_none_iff.mpr (by rw [← has_outputFile_of_takeVariable first, missing]))
  have taken : settled.takeVariables environment CommandName.generate.ownOptions = .ok after := by
    rw [takeVariables_generate]
    exact bind_eq_ok_iff.mpr ⟨middle, first, second⟩
  have kept (option : CommandOption) (unset : option.fallback? = none) :
      after.value? option = settled.value? option := value?_of_takeVariables unset first second
  have held (option : CommandOption) (unset : option.fallback? = none) :
      after.has option = settled.has option := by rw [has, kept option unset, has]
  rw [action?_of_generate isGenerate] at acts
  obtain ⟨-, rfl⟩ := Action.generate.inj (Option.some.inj acts)
  refine parse_generate_eq_ok_iff.mpr ⟨after, _, complete_eq_ok_iff.mpr ⟨early, follower, settled,
    reached, settles, taken, checkConflicts_of_takeVariables first second free⟩,
    action?_of_generate ?_, ?_⟩
  · rw [command_of_takeVariable second, command_of_takeVariable first, isGenerate]
  · simp only [overridesOf_of_takeVariables first second, presentation?, kept .output rfl,
      held .quiet rfl, held .verbose rfl, held .noColor rfl, held .dryRun rfl, held .check rfl]

/-- An empty variable is refused where its flag is missing. -/
theorem Settles.parse_of_not_filled (settles : Settles words settled)
    (unfilled : ¬ (overridesOf settled).Filled environment) : ∃ option,
      parse environment ("generate" :: words) = .error (.mistake ⟨.noValue option, none, none⟩) := by
  obtain ⟨⟨early, follower, reached, settles⟩, -⟩ := settles
  have failing {option : CommandOption} (failed : settled.takeVariables environment
      CommandName.generate.ownOptions = .error (.mistake ⟨.noValue option, none, none⟩)) :
      parse environment ("generate" :: words) = .error (.mistake ⟨.noValue option, none, none⟩) :=
    parse_generate_eq_error (by simp [Gathered.complete, reached, settles, failed])
  by_cases blank : settled.has .source = false ∧ environment.get? "MODELREG_SOURCE_DIR" = some ⟨[]⟩
  · refine ⟨.source, failing ?_⟩
    rw [takeVariables_generate, takeVariable_of_empty (.inl rfl) blank.1 blank.2]
    rfl
  · obtain ⟨middle, first⟩ := @exists_takeVariable settled .source environment (.inl rfl)
      fun free assigned => blank ⟨free, assigned⟩
    have alsoBlank : settled.has .outputFile = false ∧
        environment.get? "MODELREG_OUTPUT_FILE" = some ⟨[]⟩ := by
      by_contra other
      exact unfilled ⟨fun free assigned => blank ⟨source_eq_none_iff.mp free, assigned⟩,
        fun free assigned => other ⟨output_eq_none_iff.mp free, assigned⟩⟩
    refine ⟨.outputFile, failing ?_⟩
    rw [takeVariables_generate, first]
    exact takeVariable_of_empty (.inr rfl)
      ((has_outputFile_of_takeVariable first).trans alsoBlank.1) alsoBlank.2

/-- Flags that are understood without an environment are understood in one, which adds its
variables, unless one of these is empty. -/
theorem parse_orAssigned (asked : parse [] ("generate" :: words) =
    .ok ⟨presentation, .generate flags mode⟩) :
    (flags.Filled environment → parse environment ("generate" :: words) =
      .ok ⟨presentation, .generate (flags.orAssigned environment) mode⟩) ∧
    (¬ flags.Filled environment → ∃ option, parse environment ("generate" :: words) =
      .error (.mistake ⟨.noValue option, none, none⟩)) := by
  obtain ⟨settled, settles, acts, rfl, rfl⟩ := exists_settles asked
  exact ⟨settles.parse_of_filled acts, settles.parse_of_not_filled⟩

end Invocation

/-! ## The layers of a setting -/

/-- What the layers say about a path setting, from the outermost inward. -/
structure PathLayers where
  flag : Option FilePath
  /-- The value of the variable. -/
  assigned : Option SystemText
  /-- The text in the configuration, which may refer to variables. -/
  written : Option String
  default : String
  deriving DecidableEq, Repr

namespace Project

variable {environment : Environment} {value : String}

theorem pathSetting_none_eq_ok_iff {path : FilePath} :
    pathSetting environment none value = .ok path ↔
      ∃ text, expand environment value = .ok text ∧ path = .ofString text := by
  unfold pathSetting
  cases expand environment value <;> simp [Except.map, eq_comm]

theorem pathSetting_none_eq_error_iff {error : ProjectError} :
    pathSetting environment none value = .error error ↔
      ∃ cause, expand environment value = .error cause ∧ error = .unexpandable cause := by
  unfold pathSetting
  cases expand environment value <;> simp [Except.map, eq_comm]

end Project

namespace PathLayers

variable {layers : PathLayers} {environment : Environment} {root final : FilePath}

/-- The outermost layer that says something decides where the setting leads. -/
inductive Selects (layers : PathLayers) (environment : Environment) (root : FilePath) :
    FilePath → Prop
  | flag {path : FilePath} (given : layers.flag = some path) :
      Selects layers environment root (root.join path)
  | assigned {value : SystemText} (ungiven : layers.flag = none)
      (assigned : layers.assigned = some value) :
      Selects layers environment root (root.join (.ofSystem value))
  | written {value text : String} (ungiven : layers.flag = none)
      (unassigned : layers.assigned = none) (written : layers.written = some value)
      (expanded : expand environment value = .ok text) :
      Selects layers environment root (root.join (.ofString text))
  | default (ungiven : layers.flag = none) (unassigned : layers.assigned = none)
      (unwritten : layers.written = none) :
      Selects layers environment root (root.join (.ofString layers.default))

/-- The configuration decides, and its text cannot be expanded. -/
def Fails (layers : PathLayers) (environment : Environment) (error : ExpansionError) : Prop :=
  layers.flag = none ∧ layers.assigned = none ∧
    ∃ value, layers.written = some value ∧ expand environment value = .error error

/-- What is asked for in place of the setting. -/
def override (layers : PathLayers) : Option FilePath :=
  layers.flag.or (layers.assigned.map .ofSystem)

/-- The setting, if nothing is asked for in its place. -/
def setting (layers : PathLayers) : String := layers.written.getD layers.default

theorem pathSetting_eq_ok_iff (plain : expand environment layers.default = .ok layers.default) :
    (∃ path, Project.pathSetting environment layers.override layers.setting = .ok path ∧
      final = root.join path) ↔ layers.Selects environment root final := by
  obtain ⟨flag, assigned, written, default⟩ := layers
  constructor
  · rintro ⟨path, selected, rfl⟩
    match flag, assigned, written with
    | some given, _, _ =>
        obtain rfl := Except.ok.inj selected
        exact .flag rfl
    | none, some value, _ =>
        obtain rfl := Except.ok.inj selected
        exact .assigned rfl rfl
    | none, none, some value =>
        obtain ⟨text, expanded, rfl⟩ := Project.pathSetting_none_eq_ok_iff.mp selected
        exact .written rfl rfl rfl expanded
    | none, none, none =>
        obtain ⟨text, expanded, rfl⟩ := Project.pathSetting_none_eq_ok_iff.mp selected
        obtain rfl := Except.ok.inj (plain.symm.trans expanded)
        exact .default rfl rfl rfl
  · rintro (⟨⟨⟩⟩ | ⟨⟨⟩, ⟨⟩⟩ | ⟨⟨⟩, ⟨⟩, ⟨⟩, expanded⟩ | ⟨⟨⟩, ⟨⟩, ⟨⟩⟩)
    · exact ⟨_, rfl, rfl⟩
    · exact ⟨_, rfl, rfl⟩
    · exact ⟨_, Project.pathSetting_none_eq_ok_iff.mpr ⟨_, expanded, rfl⟩, rfl⟩
    · exact ⟨_, Project.pathSetting_none_eq_ok_iff.mpr ⟨_, plain, rfl⟩, rfl⟩

theorem pathSetting_eq_error_iff (plain : expand environment layers.default = .ok layers.default)
    {error : ProjectError} :
    Project.pathSetting environment layers.override layers.setting = .error error ↔
      ∃ cause, layers.Fails environment cause ∧ error = .unexpandable cause := by
  obtain ⟨flag, assigned, written, default⟩ := layers
  constructor
  · intro failed
    match flag, assigned, written with
    | some given, _, _ => cases failed
    | none, some value, _ => cases failed
    | none, none, some value =>
        obtain ⟨cause, expanded, rfl⟩ := Project.pathSetting_none_eq_error_iff.mp failed
        exact ⟨cause, ⟨rfl, rfl, value, rfl, expanded⟩, rfl⟩
    | none, none, none =>
        obtain ⟨cause, expanded, -⟩ := Project.pathSetting_none_eq_error_iff.mp failed
        cases plain.symm.trans expanded
  · rintro ⟨cause, ⟨⟨⟩, ⟨⟩, value, ⟨⟩, expanded⟩, rfl⟩
    exact Project.pathSetting_none_eq_error_iff.mpr ⟨cause, expanded, rfl⟩

end PathLayers

namespace Project

variable {files : FileSystem} {here : Location} {root : FilePath} {project : Project}
  {environment : Environment} {words : List SystemText} {presentation : Presentation}
  {flags : Overrides} {mode : GenerateMode}

/-- The layers of the source. -/
def sourceLayers (files : FileSystem) (here : Location) (root : FilePath)
    (environment : Environment) (flags : Overrides) : PathLayers :=
  ⟨flags.source, environment.get? "MODELREG_SOURCE_DIR", written? files here root "source_dir",
    "src/entity"⟩

/-- The layers of the output. -/
def outputLayers (files : FileSystem) (here : Location) (root : FilePath)
    (environment : Environment) (flags : Overrides) : PathLayers :=
  ⟨flags.output, environment.get? "MODELREG_OUTPUT_FILE", written? files here root "output_file",
    "src/entity/models.rs"⟩

/-- What is not masked is the same for another project and another environment. -/
structure SameUnmasked (environment elsewhere : Environment) (overrides : Overrides)
    (project other : Project) : Prop where
  root : other.root = project.root
  sourceVariable : elsewhere.get? "MODELREG_SOURCE_DIR" = environment.get? "MODELREG_SOURCE_DIR"
  outputVariable : elsewhere.get? "MODELREG_OUTPUT_FILE" = environment.get? "MODELREG_OUTPUT_FILE"
  source : overrides.source = none → other.settings.source = project.settings.source ∧
    ∀ name, Refers project.settings.source name → elsewhere.get? name = environment.get? name
  output : overrides.output = none → other.settings.output = project.settings.output ∧
    ∀ name, Refers project.settings.output name → elsewhere.get? name = environment.get? name
  package : overrides.package = none →
    other.settings.naming.package = project.settings.naming.package
  collection : overrides.collection = none →
    other.settings.naming.collection = project.settings.naming.collection

theorem pathSetting_congr {elsewhere : Environment} {override : Option FilePath}
    {value other : String} (same : override = none → other = value ∧
      ∀ name, Refers value name → elsewhere.get? name = environment.get? name) :
    pathSetting elsewhere override other = pathSetting environment override value := by
  cases override with
  | some path => rfl
  | none =>
      obtain ⟨rfl, agree⟩ := same rfl
      rw [pathSetting, pathSetting, expand_congr agree]

/-- The generator depends on what is not masked. -/
theorem generator_of_sameUnmasked {elsewhere : Environment} {other : Project} {overrides : Overrides}
    (same : SameUnmasked environment elsewhere overrides project other) :
    other.generator elsewhere overrides = project.generator environment overrides := by
  have package : overrides.package.getD other.settings.naming.package =
      overrides.package.getD project.settings.naming.package := by
    cases given : overrides.package with
    | none => exact same.package given
    | some text => rfl
  have collection : overrides.collection.getD other.settings.naming.collection =
      overrides.collection.getD project.settings.naming.collection := by
    cases given : overrides.collection with
    | none => exact same.collection given
    | some text => rfl
  rw [generator, generator, pathSetting_congr same.source, pathSetting_congr same.output, same.root,
    package, collection]

theorem settings_of_load (loaded : load files here root = .ok project) :
    project.settings.source = (sourceLayers files here root environment flags).setting ∧
      project.settings.output = (outputLayers files here root environment flags).setting ∧
      project.settings.naming.package = (written? files here root "namespace").getD "super" ∧
      project.settings.naming.collection = (written? files here root "collection").getD "models" := by
  have each (name : String) (known : name ∈ Configuration.names) := named_of_load known loaded
  exact ⟨each "source_dir" (by simp [Configuration.names]),
    each "output_file" (by simp [Configuration.names]),
    each "namespace" (by simp [Configuration.names]),
    each "collection" (by simp [Configuration.names])⟩

/-- The defaults refer to no variables. -/
theorem expand_default (environment : Environment) :
    expand environment "src/entity" = .ok "src/entity" ∧
      expand environment "src/entity/models.rs" = .ok "src/entity/models.rs" := by
  constructor <;> rfl

/-- The paths of a generator come from the outermost layers that say something. -/
theorem generator_eq_ok_iff_selects (loaded : load files here root = .ok project)
    {generator : Generator} :
    project.generator environment (flags.orAssigned environment) = .ok generator ↔
      (sourceLayers files here root environment flags).Selects environment root generator.source ∧
      (outputLayers files here root environment flags).Selects environment root generator.output ∧
      generator.naming.package =
        (flags.package.or (written? files here root "namespace")).getD "super" ∧
      generator.naming.collection =
        (flags.collection.or (written? files here root "collection")).getD "models" := by
  obtain ⟨plainSource, plainOutput⟩ := expand_default environment
  obtain ⟨source, output, package, collection⟩ := @settings_of_load _ _ _ _ environment flags loaded
  have first {final : FilePath} := @PathLayers.pathSetting_eq_ok_iff
    (sourceLayers files here root environment flags) environment root final plainSource
  have second {final : FilePath} := @PathLayers.pathSetting_eq_ok_iff
    (outputLayers files here root environment flags) environment root final plainOutput
  rw [← first, ← second, generator_eq_ok_iff, ← source, ← output, root_of_load loaded, package,
    collection, Option.getD_or, Option.getD_or]
  constructor
  · rintro ⟨path, other, first, second, rfl⟩
    exact ⟨⟨path, first, rfl⟩, ⟨other, second, rfl⟩, rfl, rfl⟩
  · rintro ⟨⟨path, first, isSource⟩, ⟨other, second, isOutput⟩, isPackage, isCollection⟩
    refine ⟨path, other, first, second, ?_⟩
    obtain ⟨_, _, _, _⟩ := generator
    subst isSource isOutput isPackage isCollection
    rfl

/-- The generator fails for a path that comes from the configuration and cannot be expanded, first of
all for the source. -/
theorem generator_eq_error_iff_fails (loaded : load files here root = .ok project)
    {error : ProjectError} :
    project.generator environment (flags.orAssigned environment) = .error error ↔
      ∃ cause, error = .unexpandable cause ∧
        ((sourceLayers files here root environment flags).Fails environment cause ∨
          (¬ ∃ first, (sourceLayers files here root environment flags).Fails environment first) ∧
            (outputLayers files here root environment flags).Fails environment cause) := by
  obtain ⟨plainSource, plainOutput⟩ := expand_default environment
  obtain ⟨source, output, -, -⟩ := @settings_of_load _ _ _ _ environment flags loaded
  have first {error : ProjectError} := @PathLayers.pathSetting_eq_error_iff
    (sourceLayers files here root environment flags) environment plainSource error
  have second {error : ProjectError} := @PathLayers.pathSetting_eq_error_iff
    (outputLayers files here root environment flags) environment plainOutput error
  rw [← source] at first
  rw [← output] at second
  rw [generator, bind_eq_error_iff]
  constructor
  · rintro (failed | ⟨path, selected, onward⟩)
    · obtain ⟨cause, fails, rfl⟩ := first.mp failed
      exact ⟨cause, rfl, .inl fails⟩
    · rcases bind_eq_error_iff.mp onward with failed | ⟨_, _, ⟨⟩⟩
      obtain ⟨cause, fails, rfl⟩ := second.mp failed
      refine ⟨cause, rfl, .inr ⟨?_, fails⟩⟩
      rintro ⟨earlier, blocked⟩
      cases selected.symm.trans (first.mpr ⟨earlier, blocked, rfl⟩)
  · rintro ⟨cause, rfl, fails | ⟨sound, fails⟩⟩
    · exact .inl (first.mpr ⟨cause, fails, rfl⟩)
    · cases selected : pathSetting environment (flags.orAssigned environment).source
          project.settings.source with
      | error error =>
          obtain ⟨earlier, blocked, -⟩ := first.mp selected
          exact absurd ⟨earlier, blocked⟩ sound
      | ok path =>
          exact .inr ⟨path, rfl, bind_eq_error_iff.mpr (.inl (second.mpr ⟨cause, fails, rfl⟩))⟩

/-- Where the settings of a generation come from.  A variable that is empty is a mistake unless its
flag is given.  Otherwise the source and the output are what their outermost layers say, as they
lead on from the root, and an absolute path replaces it; the other settings are what the flags say,
or else the configuration.  There is no generator if and only if a path comes from the configuration
and cannot be expanded, and the source is the first to be reported.  What is masked by an outer
layer, and variables that nothing unmasked refers to, do not matter. -/
theorem generator_of_layers
    (asked : Invocation.parse [] ("generate" :: words) =
      .ok ⟨presentation, .generate flags mode⟩)
    (loaded : load files here root = .ok project) (environment : Environment) :
    (¬ flags.Filled environment → ∃ option, Invocation.parse environment ("generate" :: words) =
      .error (.mistake ⟨.noValue option, none, none⟩)) ∧
    (flags.Filled environment →
      let overrides := flags.orAssigned environment
      let source := sourceLayers files here root environment flags
      let output := outputLayers files here root environment flags
      Invocation.parse environment ("generate" :: words) =
        .ok ⟨presentation, .generate overrides mode⟩ ∧
      (∀ generator, project.generator environment overrides = .ok generator ↔
        source.Selects environment root generator.source ∧
        output.Selects environment root generator.output ∧
        generator.naming.package =
          (flags.package.or (written? files here root "namespace")).getD "super" ∧
        generator.naming.collection =
          (flags.collection.or (written? files here root "collection")).getD "models") ∧
      (∀ path : FilePath, path.isAbsolute = true → root.join path = path) ∧
      (∀ error, project.generator environment overrides = .error error ↔
        ∃ cause, error = .unexpandable cause ∧
          (source.Fails environment cause ∨
            (¬ ∃ first, source.Fails environment first) ∧ output.Fails environment cause)) ∧
      ∀ elsewhere other, SameUnmasked environment elsewhere overrides project other →
        Invocation.parse elsewhere ("generate" :: words) =
          .ok ⟨presentation, .generate overrides mode⟩ ∧
        other.generator elsewhere overrides = project.generator environment overrides) := by
  obtain ⟨understood, mistaken⟩ := @Invocation.parse_orAssigned environment _ _ _ _ asked
  refine ⟨mistaken, fun filled => ⟨understood filled, fun _ => generator_eq_ok_iff_selects loaded,
    fun path absolute => by rw [FilePath.join, if_pos absolute],
    fun _ => generator_eq_error_iff_fails loaded, fun elsewhere other same =>
    ⟨?_, generator_of_sameUnmasked same⟩⟩⟩
  have overrides : flags.orAssigned elsewhere = flags.orAssigned environment := by
    rw [Overrides.orAssigned, same.sourceVariable, same.outputVariable, Overrides.orAssigned]
  rw [← overrides]
  exact (@Invocation.parse_orAssigned elsewhere _ _ _ _ asked).1
    ⟨by simpa [same.sourceVariable] using filled.source,
      by simpa [same.outputVariable] using filled.output⟩

/-! ## A project with a configuration -/

/-- A configuration whose source is the value of a variable. -/
def layeredText : String := "[registry]\nsource_dir = \x22$\x7bMODELS\x7d\x22\n"

/-- The files of a project with this configuration. -/
def layeredFiles : FileSystem :=
  (FileSystem.empty.put [Utf8.encode ".modelreg"] (.directory directoryMode)).put
    [Utf8.encode "config.toml", Utf8.encode ".modelreg"] (.file plainMode (Utf8.encode layeredText))

/-- In this project the source comes from the configuration, and the output from its flag. -/
theorem generator_of_layers_layeredFiles :
    ∃ presentation flags project,
      Invocation.parse [] ["generate", "--out", "registry.rs"] =
        .ok ⟨presentation, .generate flags .write⟩ ∧
      load layeredFiles [] (.ofString "/") = .ok project ∧
      flags.Filled [("MODELS", "db")] ∧
      ∃ generator, project.generator [("MODELS", "db")] (flags.orAssigned [("MODELS", "db")]) =
          .ok generator ∧
        (sourceLayers layeredFiles [] (.ofString "/") [("MODELS", "db")] flags).Selects
          [("MODELS", "db")] (.ofString "/") (.ofString "/db") := by
  have asked : Invocation.parse [] ["generate", "--out", "registry.rs"] =
      .ok ⟨⟨.table, false, false, false⟩,
        .generate ⟨none, some (.ofString "registry.rs"), none, none⟩ .write⟩ := by
    decide +kernel
  have loaded : load layeredFiles [] (.ofString "/") =
      .ok ⟨.ofString "/", some ⟨"$\x7bMODELS\x7d", "src/entity/models.rs", .default⟩⟩ := by
    decide +kernel
  have filled : (Overrides.mk none (some (.ofString "registry.rs")) none none).Filled
      [("MODELS", "db")] :=
    ⟨fun _ => by decide, fun free => by cases free⟩
  obtain ⟨-, made, -⟩ := (generator_of_layers asked loaded [("MODELS", "db")]).2 filled
  have success : (⟨.ofString "/", some ⟨"$\x7bMODELS\x7d", "src/entity/models.rs", .default⟩⟩ :
      Project).generator [("MODELS", "db")]
        ((Overrides.mk none (some (.ofString "registry.rs")) none none).orAssigned
          [("MODELS", "db")]) =
      .ok ⟨.ofString "/db", .ofString "/registry.rs", .default⟩ := by
    decide +kernel
  exact ⟨_, _, _, asked, loaded, filled, _, success, ((made _).mp success).1⟩

/-- A variable that is empty is not passed over, though the setting has a default. -/
theorem parse_emptyVariable :
    (∃ invocation, Invocation.parse [] ["generate"] = .ok invocation) ∧
      (∃ generator, (⟨.ofString "/", none⟩ : Project).generator [("MODELREG_SOURCE_DIR", "")]
        .none = .ok generator) ∧
      ∀ invocation, Invocation.parse [("MODELREG_SOURCE_DIR", "")] ["generate"] ≠ .ok invocation := by
  have mistaken : Invocation.parse [("MODELREG_SOURCE_DIR", "")] ["generate"] =
      .error (.mistake ⟨.noValue .source, none, none⟩) := by
    decide +kernel
  refine ⟨⟨_, rfl⟩, ⟨_, rfl⟩, fun invocation understood => ?_⟩
  cases mistaken.symm.trans understood

end Project

end RecordRegistry
