/-
# One more flag

A flag in front of the other words of a command changes nothing about what the other words give, as
long as they do not give the flag, too.  Every step of the gathering is followed side by side, with
and without the flag.
-/

import RecordRegistry.Command.Invocation
import RecordRegistry.Proofs.Results

namespace RecordRegistry

namespace Gathered

variable {gathered result : Gathered} {extra option other : CommandOption} {value : SystemText}

/-- The same options behind one more flag. -/
def behind (gathered : Gathered) (extra : CommandOption) : Gathered :=
  { gathered with given := (extra, "") :: gathered.given }

@[simp] theorem behind_command : (gathered.behind extra).command = gathered.command := rfl

@[simp] theorem behind_pending : (gathered.behind extra).pending = gathered.pending := rfl

theorem value?_behind (different : other ≠ extra) :
    (gathered.behind extra).value? other = gathered.value? other := by
  have skipped : (other == extra) = false := by simpa using different
  simp [value?, behind, List.lookup_cons, skipped]

theorem has_behind (different : other ≠ extra) :
    (gathered.behind extra).has other = gathered.has other := by
  simp [has, value?_behind different]

/-- The option has been given, or it is the one that is pending. -/
def Mentions (gathered : Gathered) (option : CommandOption) : Prop :=
  gathered.has option ∨ ∃ value, gathered.pending = some (option, value)

/-- A step that leads to options without the flag leads to the same behind the flag. -/
def Parallel (extra : CommandOption) (step : Gathered → Except Halt Gathered) : Prop :=
  ∀ gathered result, step gathered = .ok result → ¬ result.Mentions extra →
    ¬ gathered.Mentions extra ∧ step (gathered.behind extra) = .ok (result.behind extra)

theorem Parallel.bind {first second : Gathered → Except Halt Gathered}
    (early : Parallel extra first) (late : Parallel extra second) :
    Parallel extra fun gathered => first gathered >>= second := by
  intro gathered result reached free
  obtain ⟨middle, toMiddle, fromMiddle⟩ := bind_eq_ok_iff.mp reached
  obtain ⟨free, onward⟩ := late middle result fromMiddle free
  obtain ⟨free, start⟩ := early gathered middle toMiddle free
  exact ⟨free, bind_eq_ok_iff.mpr ⟨_, start, onward⟩⟩

/-- The same, where an error of the first step is passed on by hand. -/
theorem Parallel.andThen {first second : Gathered → Except Halt Gathered}
    (early : Parallel extra first) (late : Parallel extra second) :
    Parallel extra fun gathered =>
      match first gathered with
      | .ok gathered => second gathered
      | .error halt => .error halt := by
  have same (gathered : Gathered) : (match first gathered with
      | .ok gathered => second gathered
      | .error halt => .error halt) = first gathered >>= second := by
    cases first gathered <;> rfl
  simpa only [same] using early.bind late

theorem accept_eq_ok_iff :
    gathered.accept option value = .ok result ↔
      gathered.has option = false ∧ checkValue gathered.command option value = .ok () ∧
        result = { gathered with given := gathered.given ++ [(option, value)] } := by
  unfold accept
  cases held : gathered.has option with
  | true => simp
  | false =>
      cases checked : checkValue gathered.command option value with
      | error halt => simp
      | ok => simp [eq_comm]

/-- What is accepted is given then, and nothing else is. -/
theorem has_append (gathered : Gathered) (option other : CommandOption) (value : SystemText) :
    ({ gathered with given := gathered.given ++ [(option, value)] } : Gathered).has other =
      (gathered.has other || other == option) := by
  cases same : other == option <;> simp [has, value?, List.lookup_append, List.lookup_cons, same]

theorem parallel_accept (option : CommandOption) (value : SystemText) :
    Parallel extra fun gathered => gathered.accept option value := by
  intro gathered result accepted free
  obtain ⟨fresh, checked, rfl⟩ := accept_eq_ok_iff.mp accepted
  rw [Mentions, has_append, Bool.or_eq_true, beq_iff_eq, not_or, not_or] at free
  obtain ⟨⟨notHeld, different⟩, notPending⟩ := free
  refine ⟨not_or.mpr ⟨notHeld, notPending⟩, accept_eq_ok_iff.mpr ⟨?_, checked, rfl⟩⟩
  rw [has_behind (Ne.symm different), fresh]

theorem parallel_settle : Parallel extra settle := by
  intro gathered result settled free
  unfold settle at settled
  cases pending : gathered.pending with
  | none =>
      simp only [pending, Except.ok.injEq] at settled
      subst settled
      exact ⟨free, by simp [settle, pending]⟩
  | some entry =>
      obtain ⟨option, value⟩ := entry
      cases value with
      | none => simp [pending] at settled
      | some value =>
          simp only [pending] at settled
          obtain ⟨early, onward⟩ := parallel_accept option value _ _ settled free
          have different : option ≠ extra := by
            rintro rfl
            obtain ⟨-, -, rfl⟩ := accept_eq_ok_iff.mp settled
            refine free (.inl ?_)
            rw [has_append]
            simp
          refine ⟨?_, ?_⟩
          · rintro (held | ⟨other, same⟩)
            · exact early (.inl held)
            · rw [pending] at same
              exact different (Prod.mk.inj (Option.some.inj same)).1
          · simpa [settle, pending, behind] using onward

theorem parallel_takeFlag (option : CommandOption) (long : Bool) :
    Parallel extra fun gathered => gathered.takeFlag option long := by
  refine parallel_settle.bind fun gathered result taken free => ?_
  cases option with
  | help => cases taken
  | version => cases taken
  | _ => exact parallel_accept _ _ gathered result taken free

theorem pending_of_settle (settled : gathered.settle = .ok result) : result.pending = none := by
  unfold settle at settled
  cases pending : gathered.pending with
  | none =>
      simp only [pending, Except.ok.injEq] at settled
      rw [← settled, pending]
  | some entry =>
      obtain ⟨option, value⟩ := entry
      cases value with
      | none => simp [pending] at settled
      | some value =>
          simp only [pending] at settled
          obtain ⟨-, -, rfl⟩ := accept_eq_ok_iff.mp settled
          rfl

/-- The next option may wait for its value. -/
theorem parallel_await (option : CommandOption) :
    Parallel extra fun gathered =>
      gathered.settle >>= fun settled => .ok { settled with pending := some (option, none) } := by
  intro gathered result awaited free
  obtain ⟨settled, before, awaits⟩ := bind_eq_ok_iff.mp awaited
  obtain rfl := Except.ok.inj awaits
  have unmentioned : ¬ settled.Mentions extra := by
    rintro (held | ⟨value, pending⟩)
    · exact free (.inl held)
    · rw [pending_of_settle before] at pending
      cases pending
  obtain ⟨free, onward⟩ := parallel_settle gathered settled before unmentioned
  exact ⟨free, bind_eq_ok_iff.mpr ⟨_, onward, rfl⟩⟩

theorem parallel_takeLong (name : String) (attached : Option SystemText) (later : List SystemText) :
    Parallel extra fun gathered => gathered.takeLong name attached later := by
  intro gathered result taken free
  dsimp only at taken ⊢
  unfold takeLong at taken ⊢
  rw [behind_command]
  cases found : gathered.command.options.find? fun option => option.long = name with
  | none =>
      rw [found] at taken
      cases taken
  | some option =>
      rw [found] at taken
      dsimp only at taken ⊢
      cases takes : option.takesValue with
      | true =>
          rw [takes] at taken
          cases attached with
          | some value => exact (parallel_settle.bind (parallel_accept option value)) _ _ taken free
          | none => exact parallel_await option _ _ taken free
      | false =>
          rw [takes] at taken
          cases attached with
          | some value => cases taken
          | none => exact parallel_takeFlag option true _ _ taken free

theorem parallel_takeShort (letters : List Utf8.Piece) :
    Parallel extra fun gathered => gathered.takeShort letters := by
  induction letters with
  | nil =>
      rintro gathered _ ⟨⟩ free
      exact ⟨free, rfl⟩
  | cons letter letters ih =>
      intro gathered result taken free
      dsimp only at taken ⊢
      unfold takeShort at taken ⊢
      cases letter with
      | invalid bytes => cases taken
      | character letter =>
          dsimp only at taken ⊢
          rw [behind_command]
          cases found : gathered.command.options.find? fun option =>
              option.short? = some letter with
          | none =>
              rw [found] at taken
              cases taken
          | some option =>
              rw [found] at taken
              dsimp only at taken ⊢
              exact (parallel_takeFlag option false).andThen ih gathered result taken free

/-- The words are gathered behind the flag as without it, to this end. -/
def GathersBehind (extra : CommandOption) (words : List SystemText) (result : Gathered)
    (follower : Option (CommandName × List SystemText)) (gathered : Gathered) : Prop :=
  ¬ gathered.Mentions extra ∧
    (gathered.behind extra).gather words = .ok (result.behind extra, follower)

section

variable {words : List SystemText} {follower : Option (CommandName × List SystemText)}

/-- A step that runs in parallel, before more words. -/
theorem Parallel.gather {step : Gathered → Except Halt Gathered} (parallel : Parallel extra step)
    (onward : ∀ {middle : Gathered}, middle.gather words = .ok (result, follower) →
      GathersBehind extra words result follower middle)
    (reached : (match step gathered with
      | .ok gathered => gathered.gather words
      | .error halt => .error halt) = .ok (result, follower)) :
    ¬ gathered.Mentions extra ∧
      (match step (gathered.behind extra) with
        | .ok gathered => gathered.gather words
        | .error halt => .error halt) = .ok (result.behind extra, follower) := by
  cases taken : step gathered with
  | error halt =>
      rw [taken] at reached
      cases reached
  | ok middle =>
      rw [taken] at reached
      obtain ⟨free, onward⟩ := onward reached
      obtain ⟨free, start⟩ := parallel gathered middle taken free
      exact ⟨free, by rw [start]; exact onward⟩

/-- The flag is not mentioned by what waits for a value, if it is not mentioned with the value. -/
theorem not_mentions_of_pending {option : CommandOption} {word : SystemText}
    (pending : gathered.pending = some (option, none))
    (free : ¬ ({ gathered with pending := some (option, some word) } : Gathered).Mentions extra) :
    ¬ gathered.Mentions extra := by
  rintro (held | ⟨value, same⟩)
  · exact free (.inl held)
  · rw [pending] at same
    obtain ⟨rfl, -⟩ := Prod.mk.inj (Option.some.inj same)
    exact free (.inr ⟨_, rfl⟩)

/-- All words are gathered behind the flag as without it. -/
theorem gather_behind (words : List SystemText)
    (reached : gathered.gather words = .ok (result, follower)) (free : ¬ result.Mentions extra) :
    GathersBehind extra words result follower gathered := by
  induction words generalizing gathered with
  | nil =>
      obtain ⟨rfl, rfl⟩ := Prod.mk.inj (Except.ok.inj reached)
      exact ⟨free, rfl⟩
  | cons word words ih =>
      have waits : (gathered.behind extra).isWaiting = gathered.isWaiting := rfl
      rw [GathersBehind]
      unfold gather at reached ⊢
      rw [behind_command, waits]
      split at reached
      · cases reached
      · cases reached
        exact ⟨free, rfl⟩
      · split at reached
        · split at reached
          · cases reached
            exact ⟨free, rfl⟩
          · cases reached
        · exact (parallel_takeLong _ _ _).gather ih reached
        · exact (parallel_takeShort _).gather ih reached
        · rw [behind_pending]
          split at reached
          · next option pending =>
              obtain ⟨free, onward⟩ := ih reached
              exact ⟨not_mentions_of_pending pending free, onward⟩
          · cases reached

end

theorem parallel_takeVariables (environment : Environment) (unset : extra.fallback? = none)
    (options : List CommandOption) :
    Parallel extra fun gathered => gathered.takeVariables environment options := by
  induction options with
  | nil =>
      rintro gathered _ ⟨⟩ free
      exact ⟨free, rfl⟩
  | cons option options ih =>
      intro gathered result taken free
      dsimp only at taken ⊢
      unfold takeVariables at taken ⊢
      cases assigned : option.fallback?.bind environment.get? with
      | none =>
          rw [assigned] at taken
          exact ih gathered result taken free
      | some value =>
          have different : option ≠ extra := by
            rintro rfl
            simp [unset] at assigned
          rw [has_behind different]
          rw [assigned] at taken
          cases held : gathered.has option with
          | true =>
              rw [held] at taken
              exact ih gathered result taken free
          | false =>
              rw [held] at taken
              exact (parallel_accept option value).andThen ih gathered result taken free

theorem has_iff_mem : gathered.has option = true ↔ option ∈ gathered.given.map Prod.fst := by
  rw [has, value?, Option.isSome_iff_ne_none, ne_eq, List.lookup_eq_none_iff, List.mem_map]
  simp only [Classical.not_forall, bne_iff_ne, ne_eq, Classical.not_not]
  constructor
  · rintro ⟨entry, given, same⟩
    exact ⟨entry, given, same.symm⟩
  · rintro ⟨entry, given, same⟩
    exact ⟨entry, given, same.symm⟩

theorem checkConflicts_eq_ok_iff :
    gathered.checkConflicts = .ok () ↔
      ∀ option other, gathered.has option = true → opposite? option = some other →
        gathered.has other = false := by
  simp only [← Bool.not_eq_true, has_iff_mem, checkConflicts]
  generalize gathered.given.map Prod.fst = options
  have searched : (options.findSome? fun option => (opposite? option).bind fun other =>
      if options.contains other then some (option, other) else none) = none ↔
        ∀ option other, option ∈ options → opposite? option = some other → other ∉ options := by
    rw [List.findSome?_eq_none_iff]
    constructor
    · intro none option other given opposed held
      simpa [opposed, held] using none option given
    · intro none option given
      cases opposed : opposite? option with
      | none => rfl
      | some other => simpa using none option other given opposed
  rw [← searched]
  split
  · next conflict => exact iff_of_false (by rintro ⟨⟩) (by rw [conflict]; rintro ⟨⟩)
  · next nothing => exact iff_of_true rfl nothing

theorem opposite?_symm (opposed : opposite? option = some other) : opposite? other = some option := by
  cases option <;> cases opposed <;> rfl

/-- A flag whose opposite is not given excludes nothing. -/
theorem checkConflicts_behind
    (alone : ∀ other, opposite? extra = some other → gathered.has other = false)
    (free : gathered.checkConflicts = .ok ()) :
    (gathered.behind extra).checkConflicts = .ok () := by
  rw [checkConflicts_eq_ok_iff] at free ⊢
  intro option other held opposed
  have different : option ≠ other := by
    rintro rfl
    cases option <;> cases opposed
  by_cases first : option = extra
  · subst first
    rw [has_behind (Ne.symm different)]
    exact alone other opposed
  · rw [has_behind first] at held
    have second : other ≠ extra := by
      rintro rfl
      have none := alone option (opposite?_symm opposed)
      rw [held] at none
      cases none
    rw [has_behind second]
    exact free option other held opposed

theorem pending_of_takeVariables {environment : Environment} {options : List CommandOption}
    (taken : gathered.takeVariables environment options = .ok result) :
    result.pending = gathered.pending := by
  induction options generalizing gathered with
  | nil =>
      cases taken
      rfl
  | cons option options ih =>
      unfold takeVariables at taken
      split at taken
      · split at taken
        · next accepted =>
            obtain ⟨-, -, rfl⟩ := accept_eq_ok_iff.mp accepted
            have later := ih taken
            exact later
        · cases taken
      · exact ih taken

/-- The options of a command line are complete if they can be gathered, settled and completed from
the environment, and do not exclude each other. -/
theorem complete_eq_ok_iff {command : CommandName} {environment : Environment}
    {words : List SystemText} :
    complete command environment words = .ok result ↔
      ∃ early follower settled, (start command).gather words = .ok (early, follower) ∧
        early.settle = .ok settled ∧
        settled.takeVariables environment command.ownOptions = .ok result ∧
        result.checkConflicts = .ok () := by
  unfold complete
  constructor
  · intro succeeds
    obtain ⟨⟨early, follower⟩, reached, succeeds⟩ := bind_eq_ok_iff.mp succeeds
    obtain ⟨settled, settles, succeeds⟩ := bind_eq_ok_iff.mp succeeds
    obtain ⟨other, taken, succeeds⟩ := bind_eq_ok_iff.mp succeeds
    obtain ⟨⟨⟩, free, same⟩ := bind_eq_ok_iff.mp succeeds
    obtain rfl := Except.ok.inj same
    exact ⟨early, follower, settled, reached, settles, taken, free⟩
  · rintro ⟨early, follower, settled, reached, settles, taken, free⟩
    simp [reached, settles, taken, free]

/-- A flag in front of the options is given besides them. -/
theorem complete_behind {command : CommandName} {environment : Environment} {word : SystemText}
    {words : List SystemText} (unset : extra.fallback? = none)
    (takes : ∀ rest, (start command).gather (word :: rest) =
      ((start command).behind extra).gather rest)
    (fresh : result.has extra = false)
    (alone : ∀ other, opposite? extra = some other → result.has other = false)
    (complete : Gathered.complete command environment words = .ok result) :
    Gathered.complete command environment (word :: words) = .ok (result.behind extra) := by
  obtain ⟨early, follower, settled, reached, settles, taken, free⟩ :=
    complete_eq_ok_iff.mp complete
  have unmentioned : ¬ result.Mentions extra := by
    rintro (held | ⟨value, pending⟩)
    · rw [fresh] at held
      cases held
    · rw [pending_of_takeVariables taken, pending_of_settle settles] at pending
      cases pending
  obtain ⟨unmentioned, third⟩ := parallel_takeVariables environment unset _ _ _ taken unmentioned
  obtain ⟨unmentioned, second⟩ := parallel_settle _ _ settles unmentioned
  obtain ⟨-, first⟩ := gather_behind words reached unmentioned
  exact complete_eq_ok_iff.mpr ⟨_, _, _, by rw [takes, first], second, third,
    checkConflicts_behind alone free⟩

end Gathered

namespace Invocation

open Gathered

variable {environment : Environment} {words : List SystemText} {invocation : Invocation}
  {presentation : Presentation} {overrides : Overrides} {mode : GenerateMode} {after : Gathered}

/-- The command ends the words for the program. -/
theorem gather_generate (words : List SystemText) :
    (start .program).gather ("generate" :: words) =
      .ok (start .program, some (.generate, words)) := by
  have follows : CommandName.program.follower? "generate" = some .generate := by decide +kernel
  simp [gather, isWaiting, start, follows]

/-- A command line that begins with the command asks for what its options say. -/
theorem parse_generate_eq_ok_iff :
    parse environment ("generate" :: words) = .ok invocation ↔
      ∃ after action, complete .generate environment words = .ok after ∧
        action? after = some action ∧
        invocation = ⟨presentation? (start .program) after, action⟩ := by
  unfold parse
  rw [gather_generate]
  change (Gathered.complete .generate environment words >>= _) = _ ↔ _
  constructor
  · intro succeeds
    obtain ⟨after, complete, succeeds⟩ := bind_eq_ok_iff.mp succeeds
    obtain ⟨before, settled, succeeds⟩ := bind_eq_ok_iff.mp succeeds
    obtain rfl := Except.ok.inj settled
    cases asked : action? after with
    | none =>
        rw [asked] at succeeds
        cases succeeds
    | some action =>
        rw [asked] at succeeds
        exact ⟨after, action, complete, asked, (Except.ok.inj succeeds).symm⟩
  · rintro ⟨after, action, complete, asked, rfl⟩
    simp [complete, asked, settle, start]

/-- What the options for a generation ask for in place of settings. -/
def overridesOf (options : Gathered) : Overrides :=
  ⟨(options.value? .source).map FilePath.ofSystem, (options.value? .outputFile).map FilePath.ofSystem,
    (options.value? .namespacePath).bind SystemText.text?,
    (options.value? .collection).bind SystemText.text?⟩

/-- What a generation is asked for depends on the two flags. -/
theorem action?_of_generate (isGenerate : after.command = .generate) :
    action? after = some (.generate (overridesOf after)
      (if after.has .dryRun then .preview else if after.has .check then .check else .write)) := by
  simp only [action?, isGenerate]
  rfl

theorem command_of_action? (asked : action? after = some (.generate overrides mode)) :
    after.command = .generate := by
  unfold action? at asked
  cases isGenerate : after.command <;> simp [isGenerate] at asked ⊢

/-- Neither of the flags is given if the registry is to be written. -/
theorem has_of_action? (asked : action? after = some (.generate overrides .write)) :
    after.has .dryRun = false ∧ after.has .check = false ∧ overrides = overridesOf after := by
  rw [action?_of_generate (command_of_action? asked)] at asked
  obtain ⟨same, isWrite⟩ := Action.generate.inj (Option.some.inj asked)
  cases preview : after.has .dryRun with
  | true => simp [preview] at isWrite
  | false =>
      cases check : after.has .check with
      | true => simp [preview, check] at isWrite
      | false => exact ⟨rfl, rfl, same.symm⟩

/-- Neither settings nor the presentation are read from the two flags. -/
theorem overridesOf_behind {flag : CommandOption} (isFlag : flag = .dryRun ∨ flag = .check) :
    overridesOf (after.behind flag) = overridesOf after ∧
      presentation? (start .program) (after.behind flag) =
        presentation? (start .program) after := by
  obtain rfl | rfl := isFlag <;> simp [overridesOf, presentation?, value?_behind, has_behind]

theorem has_behind_self (extra : CommandOption) : (after.behind extra).has extra = true := by
  simp [has, value?, behind]

/-- The flag for a preview, or for a comparison, changes what is done, and nothing else. -/
theorem parse_generate_behind
    (plain : parse environment ("generate" :: words) =
      .ok ⟨presentation, .generate overrides .write⟩) :
    parse environment ("generate" :: "--dry-run" :: words) =
        .ok ⟨presentation, .generate overrides .preview⟩ ∧
      parse environment ("generate" :: "--check" :: words) =
        .ok ⟨presentation, .generate overrides .check⟩ := by
  obtain ⟨after, action, complete, asked, same⟩ := parse_generate_eq_ok_iff.mp plain
  obtain ⟨rfl, rfl⟩ := Invocation.mk.inj same
  obtain ⟨noPreview, noCheck, rfl⟩ := has_of_action? asked
  have isGenerate := command_of_action? asked
  have preview (rest : List SystemText) : (start .generate).gather ("--dry-run" :: rest) =
      ((start .generate).behind .dryRun).gather rest := rfl
  have check (rest : List SystemText) : (start .generate).gather ("--check" :: rest) =
      ((start .generate).behind .check).gather rest := rfl
  constructor
  · have taken := complete_behind rfl preview noPreview
      (fun other opposed => by cases opposed; exact noCheck) complete
    refine parse_generate_eq_ok_iff.mpr ⟨_, _, taken, action?_of_generate isGenerate, ?_⟩
    obtain ⟨settings, presented⟩ := @overridesOf_behind after .dryRun (.inl rfl)
    rw [settings, presented, has_behind_self, if_pos rfl]
  · have taken := complete_behind rfl check noCheck
      (fun other opposed => by cases opposed; exact noPreview) complete
    refine parse_generate_eq_ok_iff.mpr ⟨_, _, taken, action?_of_generate isGenerate, ?_⟩
    obtain ⟨settings, presented⟩ := @overridesOf_behind after .check (.inr rfl)
    rw [settings, presented, has_behind_self, has_behind (by decide), noPreview, if_pos rfl,
      if_neg (by decide)]

example : parse [] ["generate", "--check", "--out", "models.rs"] =
    .ok ⟨⟨.table, false, false, false⟩,
      .generate ⟨none, some (.ofString "models.rs"), none, none⟩ .check⟩ := by
  decide +kernel

end Invocation

end RecordRegistry
