import AsmListing.Command.Build
import AsmListing.Proofs.Config.Decoding

/-!
# Which source decides an option

The flags of a command line, the environment and a configuration file can each
say something about the options of a listing.  Every option is decided by the
first of these sources that says anything about it, and by the default if none
does.  A source that is passed over for one option still counts for the others.
-/

namespace AsmListing

namespace Command

namespace Build

/-! ## Sources -/

/-- What one source says about the options of a listing, with the mode as it is
written there. -/
structure Source where
  mode? : Option String
  indent? : Option String
  output? : Option String
  verbose? : Option Bool

namespace Source

/-- What the flags of a command line say. -/
def ofChoices (choices : Choices) : Source where
  mode? := choices.mode?
  indent? := choices.indent?
  output? := choices.output?
  verbose? := choices.verbose?

/-- What the variables of an environment say.  None of them is for the
output. -/
def ofEnvironment (environment : Environment) : Source where
  mode? := environment.get? Environment.modeName
  indent? := environment.get? Environment.indentName
  output? := none
  verbose? := (environment.get? Environment.verboseName).map Environment.affirms

def textIn (table : Config) (name : String) : Option String :=
  Options.resultOf (Options.toText name (Options.valueOf table name))

/-- What a configuration says.  An empty text or a null is no mode. -/
def ofTable (table : Config) : Source where
  mode? := (textIn table "mode").filter fun text => !text.isEmpty
  indent? := textIn table "indent"
  output? := textIn table "output"
  verbose? := Options.resultOf (Options.toBool "verbose" (Options.valueOf table "verbose"))

/-- The source names a mode that does not exist. -/
def Refused (source : Source) : Prop :=
  ∃ text, source.mode? = some text ∧ Mode.ofText? text = none

/-- The later options are the earlier ones, except for what the source says. -/
structure Applied (source : Source) (before after : Options) : Prop where
  mode : source.mode?.elim (some before.mode) Mode.ofText? = some after.mode
  indent : after.indent = source.indent?.getD before.indent
  output : after.output = source.output?.getD before.output
  verbose : after.verbose = source.verbose?.getD before.verbose

end Source

/-- Every option is what the first source says that says anything about it, or
else the default. -/
structure Settled (sources : List Source) (options : Options) : Prop where
  mode : (sources.findSome? Source.mode?).elim (some Options.default.mode) Mode.ofText? =
    some options.mode
  indent : options.indent =
    (sources.findSome? Source.indent?).getD Options.default.indent
  output : options.output =
    (sources.findSome? Source.output?).getD Options.default.output
  verbose : options.verbose =
    (sources.findSome? Source.verbose?).getD Options.default.verbose

theorem settled_nil : Settled [] Options.default :=
  ⟨rfl, rfl, rfl, rfl⟩

/-- A source that is applied last comes first. -/
theorem Settled.cons {sources : List Source} {source : Source} {before after : Options}
    (settled : Settled sources before) (applied : source.Applied before after) :
    Settled (source :: sources) after where
  mode := by
    have said := applied.mode
    rw [List.findSome?_cons]
    cases spoken : source.mode? with
    | none =>
        -- A source that names no mode leaves the one that was found before.
        rw [spoken, Option.elim_none] at said
        exact settled.mode.trans said
    | some text => rwa [spoken] at said
  indent := by
    rw [applied.indent, settled.indent, List.findSome?_cons]
    cases source.indent? <;> rfl
  output := by
    rw [applied.output, settled.output, List.findSome?_cons]
    cases source.output? <;> rfl
  verbose := by
    rw [applied.verbose, settled.verbose, List.findSome?_cons]
    cases source.verbose? <;> rfl

/-! ## Applying sources -/

/-- What becomes of options that a source overrides: a mode that does not exist
is refused, and everything else is applied. -/
inductive Source.Overrides (source : Source) (before : Options) :
    Except OptionsError Options → Prop where
  | refused (refused : source.Refused) : source.Overrides before (.error .mode)
  | applied (accepted : ¬ source.Refused) {after : Options}
      (applied : source.Applied before after) : source.Overrides before (.ok after)

/-- Steps that set the mode and then all else that a source says override
options by the source. -/
theorem Source.overrides_settle (source : Source) {steps : Attempt Options OptionsError Unit}
    {before : Options} {change : Mode → Options}
    (run : steps.run before = (Mode.after? source.mode? before.mode).elim (.error .mode before)
      fun mode => .ok () (change mode))
    (changed : ∀ mode, (change mode).mode = mode ∧
      (change mode).indent = source.indent?.getD before.indent ∧
      (change mode).output = source.output?.getD before.output ∧
      (change mode).verbose = source.verbose?.getD before.verbose) :
    source.Overrides before (steps.settle before) := by
  cases named : Mode.after? source.mode? before.mode with
  | none =>
      rw [named, Option.elim_none] at run
      rw [Attempt.settle_eq_error_iff.mpr ⟨before, run⟩]
      exact .refused (Mode.after?_eq_none_iff.mp named)
  | some mode =>
      rw [named, Option.elim_some] at run
      obtain ⟨sameMode, indent, output, verbose⟩ := changed mode
      rw [Attempt.settle_eq_ok_iff.mpr run]
      refine .applied ?_ ⟨named.trans (congrArg some sameMode.symm), indent, output, verbose⟩
      intro refused
      rw [Mode.after?_eq_none_iff.mpr refused] at named
      contradiction

theorem environment_overrides (environment : Environment) (before : Options) :
    (Source.ofEnvironment environment).Overrides before (environment.override.settle before) :=
  Source.overrides_settle (.ofEnvironment environment) (environment.override_run before)
    fun _ => ⟨rfl, rfl, rfl, rfl⟩

namespace Choices

/-- The options after the flags were heeded, once the mode is known. -/
def upon (choices : Choices) (before : Options) (mode : Mode) : Options where
  mode := mode
  indent := choices.indent?.getD before.indent
  comments := if choices.noComments then false else before.comments
  output := choices.output?.getD before.output
  verbose := choices.verbose?.getD before.verbose

theorem override_run (choices : Choices) (before : Options) :
    choices.override.run before =
      (Mode.after? choices.mode? before.mode).elim (.error .mode before) fun mode =>
        .ok () (choices.upon before mode) := by
  rw [override, EStateM.run_bind, Options.forM_setMode_run]
  cases Mode.after? choices.mode? before.mode with
  | none => rfl
  | some mode =>
      unfold upon
      cases choices.output? <;> cases choices.indent? <;> cases choices.verbose? <;>
        cases choices.noComments <;> rfl

end Choices

theorem choices_overrides (choices : Choices) (before : Options) :
    (Source.ofChoices choices).Overrides before (choices.override.settle before) :=
  Source.overrides_settle (.ofChoices choices) (choices.override_run before)
    fun _ => ⟨rfl, rfl, rfl, rfl⟩

/-! ## Configuration files -/

/-- What a configuration says is applied to the default options. -/
theorem ofTable_applied {table : Config} {options : Options}
    (read : Options.ofTable table = .ok options) :
    (Source.ofTable table).Applied Options.default options := by
  obtain ⟨reading, _, converts, _⟩ := Options.ofTable_eq_ok_iff.mp read
  obtain ⟨mode?, indent?, output?, comments?, verbose?, converted⟩ :=
    Options.Reading.exists_converted converts
  obtain ⟨mode, named, rfl⟩ := (Options.ofTable_eq_ok_iff_of_converted converted).mp read
  constructor
  · rw [Source.ofTable, Source.textIn, converted.mode]
    exact named
  · simp [Source.ofTable, Source.textIn, converted.indent, Options.resultOf, Options.default]
  · simp [Source.ofTable, Source.textIn, converted.output, Options.resultOf, Options.default]
  · simp [Source.ofTable, converted.verbose, Options.resultOf, Options.default]

namespace Choices

variable (choices : Choices) (tree : FileTree)

/-- Why the configuration file that the flags name cannot be loaded. -/
def loadFailure? : Option LoadError :=
  if choices.config.isEmpty then none
  else (Config.load choices.config (tree.read choices.config)).2

/-- The configuration in the file that the flags name.  Without such a file it
is empty. -/
def table : Config :=
  if choices.config.isEmpty then []
  else
    (Config.ofFile choices.config (.ofFilename choices.config)
      (tree.read choices.config)).toOption.getD []

/-- The options that the flags, the environment and the files result in. -/
def resolved (environment : Environment) : Except CommandError Options :=
  resolve
    (if choices.config.isEmpty then .ok .default
      else loadedFrom choices.config (tree.read choices.config))
    environment choices

/-- All that is said about the options, by flags first, then by the environment
and then by the configuration. -/
def sources (environment : Environment) : List Source :=
  [.ofChoices choices, .ofEnvironment environment, .ofTable (choices.table tree)]

end Choices

/-- A file cannot be loaded, or else it has a configuration that is applied to
the default options. -/
theorem loadedFrom_cases (name : String) (read : Except PathError (List UInt8)) :
    (∃ failure, (Config.load name read).2 = some failure ∧
      loadedFrom name read = .error failure) ∨
    ∃ table options, (Config.load name read).2 = none ∧
      Config.ofFile name (.ofFilename name) read = .ok table ∧
      loadedFrom name read = .ok options ∧
      (Source.ofTable table).Applied Options.default options := by
  unfold loadedFrom Config.load
  cases Config.ofFile name (.ofFilename name) read with
  | error failure => exact .inl ⟨failure, rfl, rfl⟩
  | ok table =>
      rcases result : Options.decode table with ⟨options, failure?⟩
      cases failure? with
      | some failure =>
          simp only [result]
          exact .inl ⟨.options failure, rfl, rfl⟩
      | none =>
          simp only [result]
          exact .inr ⟨table, options, rfl, rfl, rfl,
            ofTable_applied (Options.decode_eq_none_iff.mp result)⟩

theorem ofTable_nil : Options.ofTable [] = .ok .default :=
  rfl

/-! ## Resolving options -/

/-- The environment is applied to loaded options, and the flags after it. -/
theorem resolve_loaded (environment : Environment) (choices : Choices) {sources : List Source}
    {loaded : Options} (settled : Settled sources loaded) :
    (((Source.ofEnvironment environment).Refused ∨ (Source.ofChoices choices).Refused) ∧
      resolve (.ok loaded) environment choices = .error (.options .mode)) ∨
    ∃ options, ¬ (Source.ofEnvironment environment).Refused ∧
      ¬ (Source.ofChoices choices).Refused ∧
      resolve (.ok loaded) environment choices = .ok options ∧
      Settled (.ofChoices choices :: .ofEnvironment environment :: sources) options := by
  have first := environment_overrides environment loaded
  simp only [resolve]
  cases between : environment.override.settle loaded with
  | error failure =>
      rw [between] at first
      cases first with
      | refused refused => exact .inl ⟨.inl refused, rfl⟩
  | ok overridden =>
      rw [between] at first
      cases first with
      | applied accepted applied =>
          have second := choices_overrides choices overridden
          cases final : choices.override.settle overridden with
          | error failure =>
              rw [final] at second
              cases second with
              | refused refused => exact .inl ⟨.inr refused, by simp only [final]⟩
          | ok options =>
              rw [final] at second
              cases second with
              | applied alsoAccepted alsoApplied =>
                  exact .inr ⟨options, accepted, alsoAccepted, by simp only [final],
                    (settled.cons applied).cons alsoApplied⟩

/-- A flag decides the mode, a variable the indent, and the file the rest. -/
example :
    let loaded : Options := ⟨.bits16, "?", true, "out.s", true⟩
    let environment : Environment := ⟨[("NGPASM_MODE", "16"), ("NGPASM_INDENT", "  ")]⟩
    let choices : Choices := ⟨"listing.json", some "32", none, none, none, false⟩
    resolve (.ok loaded) environment choices = .ok ⟨.bits32, "  ", true, "out.s", true⟩ := by
  rfl

/-- Resolving stops at the first thing that is wrong, or settles all options. -/
theorem resolved_cases (choices : Choices) (environment : Environment) (tree : FileTree) :
    (∃ failure, choices.loadFailure? tree = some failure ∧
      choices.resolved tree environment = .error (.load failure)) ∨
    choices.loadFailure? tree = none ∧
      (((Source.ofEnvironment environment).Refused ∨ (Source.ofChoices choices).Refused) ∧
        choices.resolved tree environment = .error (.options .mode) ∨
      ∃ options, ¬ (Source.ofEnvironment environment).Refused ∧
        ¬ (Source.ofChoices choices).Refused ∧
        choices.resolved tree environment = .ok options ∧
        Settled (choices.sources tree environment) options) := by
  unfold Choices.loadFailure? Choices.resolved Choices.sources Choices.table
  by_cases absent : choices.config.isEmpty = true
  · -- No file is the same as a file without entries.
    rw [if_pos absent, if_pos absent, if_pos absent]
    exact .inr ⟨rfl, resolve_loaded environment choices
      (settled_nil.cons (ofTable_applied ofTable_nil))⟩
  · rw [if_neg absent, if_neg absent, if_neg absent]
    rcases loadedFrom_cases choices.config (tree.read choices.config) with
      ⟨failure, failed, loaded⟩ | ⟨table, options, complete, found, loaded, applied⟩
    · rw [loaded]
      exact .inl ⟨failure, failed, rfl⟩
    · rw [loaded, found]
      exact .inr ⟨complete, resolve_loaded environment choices (settled_nil.cons applied)⟩

/-- Building a listing goes on with the resolved options, or stops with what is
wrong with them and leaves everything as it was. -/
theorem task_run (filename : String) (environment : Environment) (choices : Choices)
    (tree : FileTree) :
    (∀ failure, choices.resolved tree environment = .error failure →
      (task filename environment choices).run tree = ⟨tree, "", [], some failure⟩) ∧
    ∀ options, choices.resolved tree environment = .ok options →
      (task filename environment choices).run tree = (ofScript filename options).run tree := by
  unfold Choices.resolved task
  by_cases absent : choices.config.isEmpty = true
  · simp only [absent, if_true, configured]
    refine ⟨fun failure failed => ?_, fun options resolved => ?_⟩
    · rw [failed]
      rfl
    · rw [resolved]
  · simp only [absent, configured]
    refine ⟨fun failure failed => ?_, fun options resolved => ?_⟩
    · simp only [Bool.false_eq_true, if_false, Task.run] at failed ⊢
      rw [failed]
      rfl
    · simp only [Bool.false_eq_true, if_false, Task.run] at resolved ⊢
      rw [resolved]

end Build

end Command

end AsmListing
