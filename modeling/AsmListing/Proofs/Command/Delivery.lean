import AsmListing.Command.Build
import AsmListing.Proofs.Disassembly.Rendering
import AsmListing.Proofs.FileTree

/-!
# Listings are delivered whole or not at all

A listing is known before anything is printed or created.  If the script or
one of its instructions fails, the surroundings stay as they were.  Otherwise
the text that a writer would be handed goes to one place, which is a file or
the standard output.
-/

namespace AsmListing

/-- A writer is handed the text in one piece, and its answer is the answer of
the program. -/
def Program.HandsOver (program : Program) (text : String) : Prop :=
  ∀ {State Failure : Type} (writer : Program.Writer State Failure) (state : State),
    program.send writer state =
      ((writer state text).1,
        ⟨(writer state text).2.count, (writer state text).2.failure?.map .writer⟩)

namespace Command

/-! ## What a task leaves behind -/

/-- A task fails without having printed or created anything. -/
structure Result.Untouched (tree : FileTree) (failure : CommandError) (result : Result) :
    Prop where
  tree : result.tree = tree
  printed : result.printed = ""
  failure? : result.failure? = some failure

theorem Result.untouched_fail (tree : FileTree) (failure : CommandError) :
    Untouched tree failure ((Task.fail failure).run tree) :=
  ⟨rfl, rfl, rfl⟩

/-- A text has been printed, or it has become the contents of one file, or that
file cannot be created. -/
inductive Result.Delivered (tree : FileTree) (output text : String) (result : Result) :
    Prop where
  | printed (standard : output = "" ∨ output = "-") (untouched : result.tree = tree)
      (whole : result.printed = text) (complete : result.failure? = none)
  | created (path : List String) (named : output ≠ "" ∧ output ≠ "-")
      (placed : tree.place output = .ok path) (silent : result.printed = "")
      (found : result.tree.read output = .ok text.toUTF8.toList)
      (whole : result.tree.contents? path = some text.toUTF8.toList)
      (untouched : ∀ other, other ≠ path →
        result.tree.contents? other = tree.contents? other)
      (complete : result.failure? = none)
  | refused (cause : PathCause) (named : output ≠ "" ∧ output ≠ "-")
      (placed : tree.place output = .error cause)
      (untouched : Untouched tree (.path ⟨"open", output, cause⟩) result)

section Log

variable {tree : FileTree} {result : Result}

/-- What is logged touches nothing. -/
theorem Result.Untouched.logged {failure : CommandError}
    (untouched : Untouched tree failure result) (log : List String) :
    Untouched tree failure { result with log := log } :=
  ⟨untouched.tree, untouched.printed, untouched.failure?⟩

theorem Result.Delivered.logged {output text : String}
    (delivered : Delivered tree output text result) (log : List String) :
    Delivered tree output text { result with log := log } := by
  cases delivered with
  | printed standard untouched whole complete =>
      exact .printed standard untouched whole complete
  | created path named placed silent found whole untouched complete =>
      exact .created path named placed silent found whole untouched complete
  | refused cause named placed untouched =>
      exact .refused cause named placed (untouched.logged log)

end Log

namespace Build

/-! ## Delivering a text -/

theorem isFile_iff (output : String) : isFile output = true ↔ output ≠ "" ∧ output ≠ "-" := by
  simp [isFile]

/-- A text goes to where the options say, and nowhere else. -/
theorem deliver_delivered (options : Options) (text : String) (tree : FileTree) :
    Result.Delivered tree options.output text ((deliver options text).run tree) := by
  unfold deliver
  split
  · rename_i file
    have named := (isFile_iff options.output).mp file
    -- Only the way to the file can fail, and it is followed before anything is written.
    cases placed : tree.place options.output with
    | error cause =>
        refine .refused cause named placed ⟨?_, ?_, ?_⟩ <;>
          simp [Task.run, FileTree.create, placed]
    | ok path =>
        have run : (Task.create options.output text fun failure? =>
            .finish (failure?.map CommandError.path)).run tree =
              ⟨tree.put path text.toUTF8.toList, "", [], none⟩ := by
          simp [Task.run, FileTree.create, placed]
        rw [run]
        exact .created path named placed rfl (FileTree.read_put_of_place placed _)
          (FileTree.contents?_put_self tree path _)
          (fun other different => FileTree.contents?_put_of_ne tree path _ different) rfl
  · rename_i standard
    rw [isFile_iff, not_and_or, not_not, not_not] at standard
    exact .printed standard rfl (String.append_empty) rfl

/-! ## Building a listing -/

def executed (filename : String) (options : Options) (bytes : List UInt8) : Script.Outcome :=
  Script.exec ⟨.standard, options.verbose⟩ (emptyProgram filename options) filename
    (String.ofList (Text.decodeLossy bytes))

/-- The program that is listed, without comments unless the options ask for
them. -/
def listed (options : Options) (program : Program) : Program :=
  if options.comments then program else program.setComments false

section Conclude

variable {options : Options} {program : Program}

theorem conclude_of_output_error {failure : InstructionError}
    (unwritten : (listed options program).output = .error failure) :
    conclude options program =
      .log ((listed options program).render none).2 (.fail (.instruction failure)) :=
  Task.rendering_of_output_error unwritten (deliver options)

theorem conclude_of_output {text : String} (output : (listed options program).output = .ok text) :
    conclude options program =
      .log ((listed options program).render none).2 (deliver options text) :=
  Task.rendering_of_output output (deliver options)

end Conclude

/-- A program is delivered, unless it has an instruction that cannot be
written. -/
theorem conclude_cases (options : Options) (program : Program) (tree : FileTree) :
    (∃ texts failure, (listed options program).Stopped texts failure ∧
      ((conclude options program).run tree).Untouched tree (.instruction failure)) ∨
    ∃ text, (listed options program).HandsOver text ∧
      ((conclude options program).run tree).Delivered tree options.output text := by
  cases first : (listed options program).firstFailure? with
  | some index =>
      obtain ⟨texts, failure, _, stopped⟩ := Program.exists_stopped _ index first
      have unwritten : (listed options program).output = .error failure := by
        rw [Program.output_eq_map, stopped.listing]
        rfl
      refine .inl ⟨texts, failure, stopped, ?_⟩
      rw [conclude_of_output_error unwritten]
      exact (Result.untouched_fail tree (.instruction failure)).logged _
  | none =>
      obtain ⟨texts, written⟩ := Program.exists_written _ first
      obtain ⟨text, output⟩ : ∃ text, (listed options program).output = .ok text := by
        rw [Program.output_eq_map, written.listing]
        exact ⟨_, rfl⟩
      refine .inr ⟨text, fun writer state => Program.send_of_output writer state output, ?_⟩
      rw [conclude_of_output output]
      exact (deliver_delivered options text tree).logged _

section Script

variable {filename : String} {options : Options} {tree : FileTree} {bytes : List UInt8}

theorem ofScript_of_missing (missing : (emptyProgram filename options).registers = none) :
    ofScript filename options = .fail (.script .noRegisters) := by
  rw [ofScript, missing, Option.isNone_none, if_pos rfl]

theorem ofScript_run_of_read (present : (emptyProgram filename options).registers ≠ none)
    (read : tree.read filename = .ok bytes) :
    (ofScript filename options).run tree =
      (ofSource filename options (String.ofList (Text.decodeLossy bytes))).run tree := by
  rw [ofScript, if_neg (by simpa using present), Task.run, read]

theorem ofScript_run_of_unread (present : (emptyProgram filename options).registers ≠ none)
    {failure : PathError} (read : tree.read filename = .error failure) :
    (ofScript filename options).run tree = (Task.fail (.path failure)).run tree := by
  rw [ofScript, if_neg (by simpa using present), Task.run, read]

theorem executed_of_missing (missing : (emptyProgram filename options).registers = none) :
    executed filename options bytes =
      .refused (emptyProgram filename options) .noRegisters := by
  rw [executed, Script.exec, missing]

/-- A script that fails ends the task. -/
theorem ofScript_run_of_error (read : tree.read filename = .ok bytes)
    {failure : Script.ScriptError}
    (failed : (executed filename options bytes).error? = some failure) :
    (ofScript filename options).run tree =
      (Task.log (executed filename options bytes).log (.fail (.script failure))).run tree := by
  by_cases missing : (emptyProgram filename options).registers = none
  · -- Without registers the script is not read, and it would have failed in the same way.
    rw [executed_of_missing missing] at failed ⊢
    cases failed
    rw [ofScript_of_missing missing]
    rfl
  · unfold executed at failed ⊢
    rw [ofScript_run_of_read missing read]
    dsimp only [ofSource]
    rw [failed]

theorem ofScript_run_of_complete (read : tree.read filename = .ok bytes)
    (complete : (executed filename options bytes).error? = none) :
    (ofScript filename options).run tree =
      (Task.log (executed filename options bytes).log
        (conclude options (executed filename options bytes).program)).run tree := by
  have present : (emptyProgram filename options).registers ≠ none := by
    intro missing
    rw [executed_of_missing missing] at complete
    cases complete
  unfold executed at complete ⊢
  rw [ofScript_run_of_read present read]
  dsimp only [ofSource]
  rw [complete]

end Script

/-- How the build of a listing ends.  A mode without registers, a script that
cannot be read, a script that fails and an instruction that cannot be written
all leave the files and the standard output as they were.  Otherwise the text
that a writer would be handed for the program is delivered. -/
inductive Built (filename : String) (options : Options) (tree : FileTree) (result : Result) :
    Prop where
  | unequipped (missing : (emptyProgram filename options).registers = none)
      (untouched : result.Untouched tree (.script .noRegisters))
  | unread (present : (emptyProgram filename options).registers ≠ none)
      (failure : PathError) (read : tree.read filename = .error failure)
      (untouched : result.Untouched tree (.path failure))
  | failed (bytes : List UInt8) (failure : Script.ScriptError)
      (read : tree.read filename = .ok bytes)
      (failed : (executed filename options bytes).error? = some failure)
      (untouched : result.Untouched tree (.script failure))
  | stopped (bytes : List UInt8) (texts : List String) (failure : InstructionError)
      (read : tree.read filename = .ok bytes)
      (complete : (executed filename options bytes).error? = none)
      (stopped : (listed options (executed filename options bytes).program).Stopped texts failure)
      (untouched : result.Untouched tree (.instruction failure))
  | written (bytes : List UInt8) (text : String) (read : tree.read filename = .ok bytes)
      (complete : (executed filename options bytes).error? = none)
      (handed : (listed options (executed filename options bytes).program).HandsOver text)
      (delivered : result.Delivered tree options.output text)

/-- Building a listing is all or nothing. -/
theorem ofScript_built (filename : String) (options : Options) (tree : FileTree) :
    Built filename options tree ((ofScript filename options).run tree) := by
  by_cases missing : (emptyProgram filename options).registers = none
  · rw [ofScript_of_missing missing]
    exact .unequipped missing (Result.untouched_fail tree (.script .noRegisters))
  cases read : tree.read filename with
  | error failure =>
      rw [ofScript_run_of_unread missing read]
      exact .unread missing failure read (Result.untouched_fail tree (.path failure))
  | ok bytes =>
      cases ended : (executed filename options bytes).error? with
      | some failure =>
          rw [ofScript_run_of_error read ended]
          exact .failed bytes failure read ended
            ((Result.untouched_fail tree (.script failure)).logged _)
      | none =>
          rw [ofScript_run_of_complete read ended]
          rcases conclude_cases options (executed filename options bytes).program tree with
            ⟨texts, failure, stopped, untouched⟩ | ⟨text, handed, delivered⟩
          · exact .stopped bytes texts failure read ended stopped (untouched.logged _)
          · exact .written bytes text read ended handed (delivered.logged _)

end Build

end Command

end AsmListing
