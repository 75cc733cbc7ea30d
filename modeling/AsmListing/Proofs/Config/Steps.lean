import AsmListing.Config.Environment
import AsmListing.Proofs.Attempt

/-!
# Options change step by step

A configuration and an environment change options one after another.  Only the
mode can be refused, and it is the first option to be set, so a refusal leaves
all options as they were.
-/

namespace AsmListing

namespace Mode

/-- The mode after a text was heeded, if it names one.  Without a text it is
the one before. -/
def after? (text? : Option String) (before : Mode) : Option Mode :=
  text?.elim (some before) ofText?

theorem after?_eq_none_iff {text? : Option String} {before : Mode} :
    after? text? before = none ↔ ∃ text, text? = some text ∧ ofText? text = none := by
  cases text? <;> simp [after?]

theorem mem_all_of_ofText? {text : String} {mode : Mode} (read : ofText? text = some mode) :
    mode ∈ all :=
  List.mem_of_find?_eq_some read

theorem mem_all_of_after? {text? : Option String} {before mode : Mode} (listed : before ∈ all)
    (known : after? text? before = some mode) : mode ∈ all := by
  cases text? with
  | none => exact Option.some.inj known ▸ listed
  | some text => exact mem_all_of_ofText? known

end Mode

namespace Options

/-! ## The mode -/

theorem setMode_atomic (text : String) : (setMode text).Atomic := by
  unfold setMode
  split
  · exact (Attempt.modify_certain _).atomic
  · exact (Attempt.throw_checks _).atomic

theorem setMode_run_of_some {text : String} {mode : Mode} (named : Mode.ofText? text = some mode)
    (before : Options) : (setMode text).run before = .ok () { before with mode := mode } := by
  simp [setMode, named]

theorem setMode_run_of_none {text : String} (unknown : Mode.ofText? text = none)
    (before : Options) : (setMode text).run before = .error .mode before := by
  simp [setMode, unknown]

/-- A text that may be there sets the mode, or it names none. -/
theorem forM_setMode_run (text? : Option String) (before : Options) :
    (text?.forM setMode).run before =
      (Mode.after? text? before.mode).elim (.error .mode before) fun mode =>
        .ok () { before with mode := mode } := by
  cases text? with
  | none => rfl
  | some text =>
      cases known : Mode.ofText? text with
      | none => simp [Mode.after?, known, setMode_run_of_none known]
      | some mode => simp [Mode.after?, known, setMode_run_of_some known]

/-! ## Configurations -/

theorem adopt_atomic (reading : Reading) : (adopt reading).Atomic := by
  unfold adopt
  apply (Attempt.forM_atomic setMode_atomic reading.mode?).bind_certain
  -- What follows the mode cannot fail.
  intro _
  apply (Attempt.modify_certain _).bind
  intro _
  apply (Attempt.forM_certain (fun _ => Attempt.modify_certain _) reading.comments?).bind
  intro _
  exact (Attempt.modify_certain _).bind fun _ => Attempt.modify_certain _

theorem read_atomic (table : List (String × Datum)) : (read table).Atomic :=
  (Attempt.ofExcept_checks _).bind_atomic adopt_atomic

/-- The options after a reading was taken over, once the mode is known. -/
def Reading.upon (reading : Reading) (before : Options) (mode : Mode) : Options :=
  ⟨mode, reading.indent, reading.comments?.getD before.comments, reading.output,
    reading.verbose⟩

theorem adopt_run (reading : Reading) (before : Options) :
    (adopt reading).run before =
      (Mode.after? reading.mode? before.mode).elim (.error .mode before) fun mode =>
        .ok () (reading.upon before mode) := by
  rw [adopt, EStateM.run_bind, forM_setMode_run]
  cases Mode.after? reading.mode? before.mode with
  | none => rfl
  | some mode =>
      unfold Reading.upon
      cases reading.comments? <;> rfl

/-- Options are read from a table exactly if its values are converted and it
names no mode that does not exist. -/
theorem ofTable_eq_ok_iff {table : List (String × Datum)} {options : Options} :
    ofTable table = .ok options ↔ ∃ reading mode, Reading.ofTable table = .ok reading ∧
      Mode.after? reading.mode? default.mode = some mode ∧
      options = reading.upon default mode := by
  rw [ofTable, Attempt.settle_eq_ok_iff, read, EStateM.run_bind]
  cases Reading.ofTable table with
  | error failure => simp
  | ok reading =>
      simp only [Attempt.ofExcept_run_ok, adopt_run, Except.ok.injEq, exists_and_left,
        exists_eq_left']
      cases Mode.after? reading.mode? default.mode <;> simp [eq_comm]

theorem decode_eq_none_iff {table : List (String × Datum)} {options : Options} :
    decode table = (options, none) ↔ ofTable table = .ok options :=
  Attempt.outcome_eq_none_iff

theorem decode_snd_eq_some_iff {table : List (String × Datum)} {failure : OptionsError} :
    (decode table).2 = some failure ↔ ofTable table = .error failure :=
  Attempt.outcome_snd_eq_some_iff

end Options

/-! ## Environments -/

namespace Environment

variable (environment : Environment)

theorem override_atomic : environment.override.Atomic := by
  unfold override
  apply (Attempt.forM_atomic Options.setMode_atomic _).bind_certain
  intro _
  apply (Attempt.forM_certain (fun _ => Attempt.modify_certain _) _).bind
  intro _
  apply (Attempt.forM_certain (fun _ => Attempt.modify_certain _) _).bind
  intro _
  exact Attempt.forM_certain (fun _ => Attempt.modify_certain _) _

/-- The later options are the earlier ones, except for what the variables
say.  None of them is for the output. -/
structure Heeded (before after : Options) : Prop where
  mode : Mode.after? (environment.get? modeName) before.mode = some after.mode
  indent : after.indent = (environment.get? indentName).getD before.indent
  comments : after.comments =
    ((environment.get? commentsName).map affirms).getD before.comments
  output : after.output = before.output
  verbose : after.verbose = ((environment.get? verboseName).map affirms).getD before.verbose

/-- The options after the variables were heeded, once the mode is known. -/
def upon (before : Options) (mode : Mode) : Options :=
  ⟨mode, (environment.get? indentName).getD before.indent,
    ((environment.get? commentsName).map affirms).getD before.comments, before.output,
    ((environment.get? verboseName).map affirms).getD before.verbose⟩

theorem override_run (before : Options) :
    environment.override.run before =
      (Mode.after? (environment.get? modeName) before.mode).elim (.error .mode before) fun mode =>
        .ok () (environment.upon before mode) := by
  rw [override, EStateM.run_bind, Options.forM_setMode_run]
  cases Mode.after? (environment.get? modeName) before.mode with
  | none => rfl
  | some mode =>
      unfold upon
      cases environment.get? indentName <;> cases environment.get? commentsName <;>
        cases environment.get? verboseName <;> rfl

variable {environment} {before after : Options}

theorem settle_eq_ok_iff : environment.override.settle before = .ok after ↔
    environment.Heeded before after := by
  rw [Attempt.settle_eq_ok_iff, override_run]
  cases named : Mode.after? (environment.get? modeName) before.mode with
  | none =>
      refine iff_of_false nofun fun heeded => ?_
      have known := heeded.mode
      rw [named] at known
      contradiction
  | some mode =>
      rw [Option.elim_some]
      constructor
      · intro same
        rw [← (EStateM.Result.ok.inj same).2]
        exact ⟨named, rfl, rfl, rfl, rfl⟩
      · rintro ⟨known, indent, comments, output, verbose⟩
        rw [named, Option.some.injEq] at known
        cases after
        simp_all [upon]

theorem settle_eq_error_iff {failure : OptionsError} :
    environment.override.settle before = .error failure ↔
      Mode.after? (environment.get? modeName) before.mode = none ∧ failure = .mode := by
  rw [Attempt.settle_eq_error_iff, override_run]
  cases Mode.after? (environment.get? modeName) before.mode <;> simp [eq_comm]

end Environment

end AsmListing
