import AsmListing.Proofs.Command.Delivery
import AsmListing.Proofs.Program.Logging
import AsmListing.Proofs.Script.Call

/-!
# Verbosity changes the log only

Scripts, disassembly and rendering all log what they do if they are told to.
Two runs that differ in nothing else do the same to programs and files, return
the same and fail alike.  The build of a listing renders it once, so that its
log has every line of the listing once.
-/

namespace AsmListing

/-! ## Scripts -/

namespace Script

/-- The second outcome is the first one with another log and a program that may
be verbose. -/
structure Outcome.Matches (verbose : Bool) (quiet loud : Outcome) : Prop where
  program : loud.program = quiet.program.withVerbose verbose
  globals : loud.globals = quiet.globals
  error? : loud.error? = quiet.error?

section

variable (kinds : KindTable) (chatty verbose : Bool) (program : Program)

/-- Answers to a call that are the same and leave the same program, which may be
verbose, whatever they log. -/
inductive Host.Echoes (verbose : Bool) :
    EStateM.Result Failure Work Reply → EStateM.Result Failure Work Reply → Prop where
  | answered (reply : Reply) {quiet loud : Work}
      (program : loud.program = quiet.program.withVerbose verbose) :
      Echoes verbose (.ok reply quiet) (.ok reply loud)
  | failed (failure : Failure) {quiet loud : Work}
      (program : loud.program = quiet.program.withVerbose verbose) :
      Echoes verbose (.error failure quiet) (.error failure loud)

theorem Host.passing_echoes {Value : Type} (check : Except Failure Value)
    {quiet loud : Value → EStateM.Result Failure Work Reply}
    (passes : ∀ value, Host.Echoes verbose (quiet value) (loud value)) :
    Host.Echoes verbose (Attempt.passing check ⟨program, []⟩ quiet)
      (Attempt.passing check ⟨program.withVerbose verbose, []⟩ loud) := by
  cases check with
  | error failure => exact .failed failure rfl
  | ok value => exact passes value

theorem Host.insert_echoes (function name : String) (operands : List HostValue)
    (named : List (String × HostValue)) :
    Host.Echoes verbose
      ((Host.insert ⟨kinds, false⟩ function name operands named).run ⟨program, []⟩)
      ((Host.insert ⟨kinds, chatty⟩ function name operands named).run
        ⟨program.withVerbose verbose, []⟩) := by
  rw [insert_run, insert_run]
  -- Only what is logged about the instruction depends on the host.
  refine passing_echoes verbose program _ fun mnemonic => .answered .nothing ?_
  exact program.withVerbose_append verbose mnemonic

/-- Whether a host and a program are verbose makes no difference to an answer and
to what it does to the program. -/
theorem Host.answer_echoes (call : Call) :
    Host.Echoes verbose (Host.answer ⟨kinds, false⟩ program call)
      (Host.answer ⟨kinds, chatty⟩ (program.withVerbose verbose) call) := by
  unfold Host.answer Host.apply
  split
  · unfold Host.emit
    split
    · split
      · exact .failed .nameMissing rfl
      · exact insert_echoes kinds chatty verbose program _ _ _ _
    · exact .failed .nameMissing rfl
  · split
    · rw [setIndent_run, setIndent_run]
      exact passing_echoes verbose program _ fun text => .answered .nothing rfl
    · split
      · rw [findRegister_run, findRegister_run]
        exact passing_echoes verbose program _ fun name => .answered _ rfl
      · exact insert_echoes kinds chatty verbose program _ _ _ _

/-- What holds of the two runs of an action, whatever they log. -/
structure Action.Trace.Matches {State : Type} (verbose : Bool) (quiet loud : Trace State) :
    Prop where
  program : loud.program = quiet.program.withVerbose verbose
  state : loud.state = quiet.state
  ending : loud.ending = quiet.ending

theorem Action.run_matches {State Result : Type} (name : String)
    (action : Action State Result) :
    Trace.Matches verbose (action.run ⟨kinds, false⟩ name program)
      (action.run ⟨kinds, chatty⟩ name (program.withVerbose verbose)) := by
  induction action generalizing program with
  | done state result => exact ⟨rfl, rfl, rfl⟩
  | failed state failure => exact ⟨rfl, rfl, rfl⟩
  | exhausted state => exact ⟨rfl, rfl, rfl⟩
  | print text next induction =>
      have rest := induction program
      exact ⟨rest.program, rest.state, rest.ending⟩
  | call state request resume induction =>
      have answers := Host.answer_echoes kinds chatty verbose program request
      rw [run, run]
      revert answers
      generalize Host.answer ⟨kinds, false⟩ program request = quiet
      generalize Host.answer ⟨kinds, chatty⟩ (program.withVerbose verbose) request = loud
      rintro (⟨reply, same⟩ | ⟨failure, same⟩)
      · have rest := induction reply
        dsimp only
        rw [same]
        exact ⟨(rest _).program, (rest _).state, (rest _).ending⟩
      · exact ⟨same, rfl, rfl⟩

theorem exec_matches (name source : String) :
    Outcome.Matches verbose (exec ⟨kinds, false⟩ program name source)
      (exec ⟨kinds, chatty⟩ (program.withVerbose verbose) name source) := by
  unfold exec
  rw [Program.withVerbose_registers, Program.withVerbose_mode]
  cases program.registers with
  | none => exact ⟨rfl, rfl, rfl⟩
  | some registers =>
      have alike : Host.bindings ⟨kinds, chatty⟩ registers program.mode =
          Host.bindings ⟨kinds, false⟩ registers program.mode := rfl
      dsimp only
      rw [alike]
      cases prepare (Host.bindings ⟨kinds, false⟩ registers program.mode) source with
      | error failure => exact ⟨rfl, rfl, rfl⟩
      | ok action =>
          have runs := action.run_matches kinds chatty verbose program name
          refine ⟨runs.program, ?_, ?_⟩
          · simp only [Outcome.ofTrace, runs.state]
          · simp only [Outcome.ofTrace, runs.ending]

end

end Script

/-! ## Disassembly -/

namespace Disassembly

/-- The second outcome is the first one with another log and a program that may
be verbose. -/
structure Outcome.Matches (verbose : Bool) (quiet loud : Outcome) : Prop where
  program : loud.program = quiet.program.withVerbose verbose
  consumed : loud.consumed = quiet.consumed
  error? : loud.error? = quiet.error?

section

variable (decoder : InstructionDecoder) (kinds : KindTable) (registers : RegisterSet)
  (verbose : Bool) (program : Program)

theorem walk_matches (fuel offset : Nat) (bytes : List UInt8) (log otherLog : List String) :
    Outcome.Matches verbose (walk decoder kinds registers fuel program offset bytes log)
      (walk decoder kinds registers fuel (program.withVerbose verbose) offset bytes otherLog) := by
  induction fuel generalizing program offset bytes log otherLog with
  | zero => exact ⟨rfl, rfl, rfl⟩
  | succ fuel induction =>
      cases bytes with
      | nil => exact ⟨rfl, rfl, rfl⟩
      | cons byte rest =>
          rw [walk, walk, Program.withVerbose_mode]
          cases next decoder program.mode (byte :: rest) with
          | error cause => exact ⟨rfl, rfl, rfl⟩
          | ok instruction =>
              dsimp only
              rw [Program.withVerbose_append]
              apply induction

theorem runWith_matches (code : List UInt8) :
    Outcome.Matches verbose (runWith decoder kinds program code)
      (runWith decoder kinds (program.withVerbose verbose) code) := by
  unfold runWith
  rw [Program.withVerbose_registers]
  cases program.registers with
  | none => exact ⟨rfl, rfl, rfl⟩
  | some registers => exact walk_matches decoder kinds registers verbose program _ 0 code [] []

end

end Disassembly

/-! ## Building listings -/

namespace Command

/-- The second result is the first one with another log. -/
structure Result.Matches (quiet loud : Result) : Prop where
  tree : loud.tree = quiet.tree
  printed : loud.printed = quiet.printed
  failure? : loud.failure? = quiet.failure?

theorem Result.Matches.log {quiet loud : Task} {tree : FileTree}
    (same : Result.Matches (quiet.run tree) (loud.run tree)) (entries others : List String) :
    Result.Matches ((Task.log entries quiet).run tree) ((Task.log others loud).run tree) :=
  ⟨same.tree, same.printed, same.failure?⟩

namespace Build

variable (filename : String) (options : Options) (verbose : Bool)

theorem executed_matches (bytes : List UInt8) :
    Script.Outcome.Matches verbose (executed filename { options with verbose := false } bytes)
      (executed filename { options with verbose := verbose } bytes) :=
  Script.exec_matches .standard verbose verbose
    (emptyProgram filename { options with verbose := false }) filename _

theorem listed_withVerbose (program : Program) :
    listed options (program.withVerbose verbose) =
      (listed options program).withVerbose verbose := by
  unfold listed
  split
  · rfl
  · exact program.withVerbose_setComments verbose false

theorem listed_of_verbose (program : Program) :
    listed { options with verbose := verbose } program = listed options program :=
  rfl

theorem conclude_matches (program : Program) (tree : FileTree) :
    Result.Matches ((conclude { options with verbose := false } program).run tree)
      ((conclude { options with verbose := verbose } (program.withVerbose verbose)).run tree) := by
  have alike : (listed { options with verbose := verbose } (program.withVerbose verbose)).output =
      (listed { options with verbose := false } program).output := by
    rw [listed_of_verbose options verbose, listed_of_verbose options false, listed_withVerbose,
      Program.output_withVerbose]
  cases output : (listed { options with verbose := false } program).output with
  | error failure =>
      rw [output] at alike
      rw [conclude_of_output_error output, conclude_of_output_error alike]
      exact Result.Matches.log ⟨rfl, rfl, rfl⟩ _ _
  | ok text =>
      rw [output] at alike
      rw [conclude_of_output output, conclude_of_output alike]
      exact Result.Matches.log ⟨rfl, rfl, rfl⟩ _ _

theorem ofScript_matches (tree : FileTree) :
    Result.Matches ((ofScript filename { options with verbose := false }).run tree)
      ((ofScript filename { options with verbose := verbose }).run tree) := by
  have same : (emptyProgram filename { options with verbose := verbose }).registers =
      (emptyProgram filename { options with verbose := false }).registers := rfl
  by_cases missing : (emptyProgram filename { options with verbose := false }).registers = none
  · rw [ofScript_of_missing missing, ofScript_of_missing (same.trans missing)]
    exact ⟨rfl, rfl, rfl⟩
  cases read : tree.read filename with
  | error failure =>
      rw [ofScript_run_of_unread missing read, ofScript_run_of_unread (same ▸ missing) read]
      exact ⟨rfl, rfl, rfl⟩
  | ok bytes =>
      have scripts := executed_matches filename options verbose bytes
      have alike := scripts.error?
      cases ended : (executed filename { options with verbose := false } bytes).error? with
      | some failure =>
          rw [ended] at alike
          rw [ofScript_run_of_error read ended, ofScript_run_of_error read alike]
          exact Result.Matches.log ⟨rfl, rfl, rfl⟩ _ _
      | none =>
          rw [ended] at alike
          rw [ofScript_run_of_complete read ended, ofScript_run_of_complete read alike,
            scripts.program]
          exact (conclude_matches options verbose _ tree).log _ _

/-- What the build of a listing logs.  A script that runs to its end is followed
by the lines of the listing, once each. -/
inductive Logs (filename : String) (options : Options) (tree : FileTree) :
    List String → Prop where
  | unequipped (missing : (emptyProgram filename options).registers = none) :
      Logs filename options tree []
  | unread (failure : PathError) (read : tree.read filename = .error failure) :
      Logs filename options tree []
  | failed (bytes : List UInt8) (failure : Script.ScriptError)
      (read : tree.read filename = .ok bytes)
      (failed : (executed filename options bytes).error? = some failure) :
      Logs filename options tree (executed filename options bytes).log
  | rendered (bytes : List UInt8) (program : Program) (texts : List String)
      (read : tree.read filename = .ok bytes)
      (complete : (executed filename options bytes).error? = none)
      (listed : listed options (executed filename options bytes).program = program)
      (rendered : program.Rendered program.lines texts) :
      Logs filename options tree
        ((executed filename options bytes).log ++ Program.logged program.filename texts)

theorem deliver_log (text : String) (tree : FileTree) :
    ((deliver options text).run tree).log = [] := by
  unfold deliver
  split
  · rw [Task.run]
    split
    · rfl
    · rfl
  · rfl

theorem conclude_log (program : Program) (tree : FileTree) :
    ((conclude options program).run tree).log = ((listed options program).render none).2 := by
  cases output : (listed options program).output with
  | error failure =>
      rw [conclude_of_output_error output, Task.run]
      exact List.append_nil _
  | ok text =>
      rw [conclude_of_output output, Task.run]
      dsimp only
      rw [deliver_log, List.append_nil]

theorem ofScript_logs (tree : FileTree) :
    Logs filename { options with verbose := true } tree
      ((ofScript filename { options with verbose := true }).run tree).log := by
  by_cases missing : (emptyProgram filename { options with verbose := true }).registers = none
  · rw [ofScript_of_missing missing]
    exact .unequipped missing
  cases read : tree.read filename with
  | error failure =>
      rw [ofScript_run_of_unread missing read]
      exact .unread failure read
  | ok bytes =>
      have scripts := executed_matches filename options true bytes
      cases ended : (executed filename { options with verbose := true } bytes).error? with
      | some failure =>
          rw [ofScript_run_of_error read ended, Task.run]
          dsimp only [Task.fail, Task.run]
          rw [List.append_nil]
          exact .failed bytes failure read ended
      | none =>
          rw [ofScript_run_of_complete read ended, Task.run]
          dsimp only
          rw [conclude_log]
          have loud : (listed { options with verbose := true }
              (executed filename { options with verbose := true } bytes).program).verbose =
                true := by
            rw [scripts.program, listed_withVerbose]
            rfl
          obtain ⟨texts, rendered, log⟩ := Program.render_rendered (listed
            { options with verbose := true }
            (executed filename { options with verbose := true } bytes).program) none
          rw [loud, if_pos rfl] at log
          rw [log]
          exact .rendered bytes _ texts read ended rfl rendered

end Build

end Command

/-- Whether a script, its program or a disassembled program is verbose makes no
difference to programs, results, failures and what is written.  A verbose
program logs each line that is rendered once and in order, up to the instruction
that fails or the line after which the reader has enough, and a verbose build
logs each line of its listing once. -/
theorem verbosity_changes_log_only (program : Program) :
    (∀ kinds chatty verbose name source, Script.Outcome.Matches verbose
      (Script.exec ⟨kinds, false⟩ (program.withVerbose false) name source)
      (Script.exec ⟨kinds, chatty⟩ (program.withVerbose verbose) name source)) ∧
    (∀ decoder kinds verbose code, Disassembly.Outcome.Matches verbose
      (Disassembly.runWith decoder kinds (program.withVerbose false) code)
      (Disassembly.runWith decoder kinds (program.withVerbose verbose) code)) ∧
    (∀ verbose,
      (∀ demand, ((program.withVerbose verbose).render demand).1 =
        ((program.withVerbose false).render demand).1) ∧
      (program.withVerbose verbose).listing = (program.withVerbose false).listing ∧
      ∀ {State Failure : Type} (writer : Program.Writer State Failure) (state : State),
        (program.withVerbose verbose).send writer state =
          (program.withVerbose false).send writer state) ∧
    (∀ wants, ∃ demand, ∀ verbose,
      (program.withVerbose verbose).received wants =
        (program.withVerbose verbose).render demand) ∧
    (∀ verbose log,
      ((program.withVerbose verbose).generate.run log).2 =
        log ++ ((program.withVerbose verbose).render none).2 ∧
      ∀ {State Failure : Type} (writer : Program.Writer State Failure) (state : State),
        (((program.withVerbose verbose).writeTo writer state).run log).2 =
          log ++ ((program.withVerbose verbose).render none).2) ∧
    (∀ demand, ∃ texts,
      program.Rendered ((program.withVerbose true).render demand).1 texts ∧
      ((program.withVerbose true).render demand).2 = Program.logged program.filename texts ∧
      ((program.withVerbose false).render demand).2 = []) ∧
    ∀ (filename : String) (options : Options) (tree : FileTree),
      let quiet := (Command.Build.ofScript filename { options with verbose := false }).run tree
      let loud := (Command.Build.ofScript filename { options with verbose := true }).run tree
      quiet.Matches loud ∧
        Command.Build.Logs filename { options with verbose := true } tree loud.log := by
  refine ⟨?_, ?_, ?_, ?_, ?_, ?_, ?_⟩
  · intro kinds chatty verbose name source
    exact Script.exec_matches kinds chatty verbose (program.withVerbose false) name source
  · intro decoder kinds verbose code
    exact Disassembly.runWith_matches decoder kinds verbose (program.withVerbose false) code
  · intro verbose
    refine ⟨fun demand => ?_, ?_, fun writer state => ?_⟩
    · rw [Program.render_withVerbose, Program.render_withVerbose]
    · rw [Program.listing_withVerbose, Program.listing_withVerbose]
    · rw [Program.send_withVerbose, Program.send_withVerbose]
  · exact program.exists_received_eq_render
  · intro verbose log
    refine ⟨?_, fun writer state => ?_⟩
    · rw [Program.generate_run]
    · rw [Program.writeTo_run]
  · intro demand
    obtain ⟨texts, rendered, log⟩ := (program.withVerbose true).render_rendered demand
    refine ⟨texts, ⟨rendered.items, rendered.constructed⟩, log, ?_⟩
    rw [Program.render_withVerbose]
    rfl
  · intro filename options tree
    exact ⟨Command.Build.ofScript_matches filename options true tree,
      Command.Build.ofScript_logs filename options tree⟩

end AsmListing
