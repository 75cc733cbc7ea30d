import AsmListing.Program
import AsmListing.Proofs.Sequence.Consumer

/-!
# What a program supplies

The lines of a program lie ready in a list, and a consumer takes as many from
the front as it wants.  Just the lines that it takes are logged.  A reader, the
listing and a writer are consumers, so each of them is described by the lines
that it takes and by what it makes of them.
-/

namespace AsmListing

/-! ## Steps that log -/

namespace Logging

variable {First Second : Type} (log : List String)

theorem run_pure (result : First) : (pure result : Logging First).run log = (result, log) := rfl

theorem run_bind (first : Logging First) (next : First → Logging Second) :
    (first >>= next).run log = (next (first.run log).1).run (first.run log).2 :=
  rfl

end Logging

namespace Program

open PushSequence

/-! ## Lines that lie ready -/

/-- The lines of instructions, the first of which has the given index.
Nothing follows an instruction that cannot be written. -/
def linesFrom (indent : String) (index : Nat) :
    List Mnemonic → List (Except InstructionError String)
  | [] => []
  | mnemonic :: rest =>
      match mnemonic.construct indent with
      | .error cause => [.error ⟨index, mnemonic.name, cause⟩]
      | .ok line => .ok line :: linesFrom indent (index + 1) rest

/-- What a verbose program logs about lines, the first of which has the given
index. -/
def lineLog (filename : String) (index : Nat) :
    List (Except InstructionError String) → List String
  | [] => []
  | .error _ :: rest => lineLog filename (index + 1) rest
  | .ok line :: rest =>
      s!"{filename}:{index}: {line}" :: lineLog filename (index + 1) rest

def logFrom (program : Program) (index : Nat)
    (items : List (Except InstructionError String)) : List String :=
  if program.verbose then lineLog program.filename index items else []

section Log

variable (program : Program) (index : Nat) (items : List (Except InstructionError String))

@[simp] theorem logFrom_nil : program.logFrom index [] = [] := by
  simp [logFrom, lineLog]

@[simp] theorem logFrom_error (failure : InstructionError) :
    program.logFrom index [.error failure] = [] := by
  simp [logFrom, lineLog]

theorem logLine_run (line : String) (log : List String) :
    (program.logLine index line).run log = ((), log ++ program.logFrom index [.ok line]) := by
  have logged : (program.logLine index line).run log =
      ((), if program.verbose then log ++ lineLog program.filename index [.ok line] else log) :=
    rfl
  cases verbose : program.verbose with
  | false => simp [logged, logFrom, verbose]
  | true => simp [logged, logFrom, verbose]

theorem logFrom_cons (line : String) :
    program.logFrom index (.ok line :: items) =
      program.logFrom index [.ok line] ++ program.logFrom (index + 1) items := by
  cases verbose : program.verbose with
  | false => simp [logFrom, verbose]
  | true => simp [logFrom, verbose, lineLog]

end Log

/-! ## The loop -/

/-- A consumer takes lines from the front, and these are logged. -/
theorem supplyFrom_run (program : Program) {State : Type}
    (consume : State → Except InstructionError String → State × Bool) (index : Nat)
    (state : State) (mnemonics : List Mnemonic) (log : List String) :
    let items := taken consume state (linesFrom program.indent index mnemonics)
    (program.supplyFrom (fun state item => pure (consume state item)) index state mnemonics).run
        log =
      (reached consume state items, log ++ program.logFrom index items) := by
  induction mnemonics generalizing index state log with
  | nil => simp only [supplyFrom, linesFrom, taken, Logging.run_pure, reached_nil, logFrom_nil,
      List.append_nil]
  | cons mnemonic rest induction =>
      cases constructed : mnemonic.construct program.indent with
      | error cause =>
          simp only [supplyFrom, linesFrom, constructed, taken_singleton, pure_bind,
            Logging.run_pure, reached_cons, reached_nil, logFrom_error, List.append_nil]
      | ok line =>
          simp only [supplyFrom, linesFrom, constructed, pure_bind, Logging.run_bind, logLine_run]
          by_cases more : (consume state (.ok line)).2 = true
          · rw [taken_cons_of_more more, if_pos more, induction, reached_cons, List.append_assoc,
              ← logFrom_cons]
          · rw [taken_cons_of_enough (by simpa using more), if_neg more, Logging.run_pure,
              reached_cons, reached_nil]

/-! ## Readers -/

section Readers

variable (program : Program)

variable {program} in
theorem supply_run {State : Type}
    {consume : State → Except InstructionError String → State × Bool} {state : State}
    {items : List (Except InstructionError String)}
    (takes : taken consume state (linesFrom program.indent 0 program.mnemonics) = items)
    (log : List String) :
    (program.supply.run (fun state item => pure (consume state item)) state).run log =
      (reached consume state items, log ++ program.logFrom 0 items) := by
  rw [← takes]
  exact program.supplyFrom_run consume 0 state program.mnemonics log

/-- A reader of a number of items receives that many of the lines, and these are
logged. -/
theorem render_eq (demand : Option Nat) :
    let lines := linesFrom program.indent 0 program.mnemonics
    let items := demand.elim lines lines.take
    program.render demand = (items, program.logFrom 0 items) := by
  intro lines items
  cases demand with
  | none =>
      have all : taken (fun kept item => (item :: kept, true)) [] lines = lines :=
        taken_of_forall_more (fun _ _ => rfl) [] lines
      rw [render, PushSequence.take, Logging.run_bind, supply_run all, Logging.run_pure,
        reached_keeping]
      simp [items]
  | some count =>
      cases count with
      | zero =>
          rw [render, PushSequence.take, Logging.run_pure]
          simp [items]
      | succ count =>
          have some := taken_counting [] lines (Nat.succ_pos count)
          rw [render, PushSequence.take, Logging.run_bind, supply_run some, Logging.run_pure,
            reached_keeping]
          · simp [items]
          · exact Nat.succ_ne_zero count

theorem lines_eq : program.lines = linesFrom program.indent 0 program.mnemonics := by
  rw [lines, render_eq]
  rfl

/-- A reader who decides by all items so far whether to go on. -/
def deciding (wants : List (Except InstructionError String) → Bool) :
    List (Except InstructionError String) → Except InstructionError String →
      List (Except InstructionError String) × Bool :=
  fun items item => (items ++ [item], wants (items ++ [item]))

/-- What a reader gets who decides, and what is logged on the way. -/
def received (wants : List (Except InstructionError String) → Bool) :
    List (Except InstructionError String) × List String :=
  (program.supply.run (fun items item => pure (deciding wants items item)) []).run []

theorem reached_deciding (wants : List (Except InstructionError String) → Bool)
    (kept items : List (Except InstructionError String)) :
    reached (deciding wants) kept items = kept ++ items := by
  induction items generalizing kept with
  | nil => simp
  | cons item rest induction =>
      rw [reached_cons, deciding, induction, List.append_assoc]
      rfl

/-- A reader who decides is a reader of a number of items. -/
theorem received_eq_render (wants : List (Except InstructionError String) → Bool) :
    let items := taken (deciding wants) [] (linesFrom program.indent 0 program.mnemonics)
    program.received wants = program.render (some items.length) := by
  intro items
  have front : items = (linesFrom program.indent 0 program.mnemonics).take items.length :=
    List.prefix_iff_eq_take.mp (taken_isPrefix _ _)
  rw [received, supply_run (rfl : _ = items), reached_deciding, render_eq, Option.elim_some,
    ← front, List.nil_append, List.nil_append]

end Readers

/-! ## The listing and its writer -/

/-- The texts of lines that were all written, or the first failure. -/
def collect : List (Except InstructionError String) → Except InstructionError (List String)
  | [] => .ok []
  | .error failure :: _ => .error failure
  | .ok line :: rest => (collect rest).map (line :: ·)

/-- The listing wants every line. -/
theorem taken_gather (indent : String) (index : Nat) (texts : List String)
    (mnemonics : List Mnemonic) :
    taken gather (.ok texts) (linesFrom indent index mnemonics) =
      linesFrom indent index mnemonics := by
  induction mnemonics generalizing index texts with
  | nil => rfl
  | cons mnemonic rest induction =>
      cases constructed : mnemonic.construct indent with
      | error cause => simp only [linesFrom, constructed, taken_singleton]
      | ok line =>
          simp only [linesFrom, constructed]
          rw [taken_cons_of_more rfl]
          exact congrArg (.ok line :: ·) (induction (index + 1) (texts ++ [line]))

theorem reached_gather_error (failure : InstructionError)
    (items : List (Except InstructionError String)) :
    reached gather (.error failure) items = .error failure := by
  induction items with
  | nil => rfl
  | cons item rest induction => rw [reached_cons, gather, induction]

theorem reached_gather (texts : List String) (items : List (Except InstructionError String)) :
    reached gather (.ok texts) items = (collect items).map (texts ++ ·) := by
  induction items generalizing texts with
  | nil => simp [collect, Except.map]
  | cons item rest induction =>
      cases item with
      | error failure =>
          rw [reached_cons, gather, reached_gather_error]
          rfl
      | ok line =>
          rw [reached_cons, gather, induction, collect]
          cases collect rest with
          | error failure => rfl
          | ok others => simp [Except.map]

section Listing

variable (program : Program) (log : List String)

theorem generate_run :
    program.generate.run log =
      ((collect program.lines).map fun lines => "\n".intercalate lines,
        log ++ (program.render none).2) := by
  have all := taken_gather program.indent 0 [] program.mnemonics
  rw [generate, Logging.run_bind, supply_run all, Logging.run_pure, reached_gather, lines_eq,
    render_eq]
  cases collect (linesFrom program.indent 0 program.mnemonics) with
  | error failure => rfl
  | ok texts => rfl

theorem listing_eq_collect :
    program.listing = (collect program.lines).map fun lines => "\n".intercalate lines := by
  rw [listing, generate_run]

theorem written_run :
    program.written.run log =
      (program.listing.map fun text => if text.isEmpty then text else text ++ "\n",
        log ++ (program.render none).2) := by
  rw [written, Logging.run_bind, Logging.run_pure, generate_run, listing_eq_collect]

theorem output_eq_map :
    program.output =
      program.listing.map fun text => if text.isEmpty then text else text ++ "\n" := by
  rw [output, written_run]

section Writers

variable {State Failure : Type} (writer : Writer State Failure) (state : State)

theorem writeTo_run_of_output {program : Program} {text : String}
    (output : program.output = .ok text) :
    (program.writeTo writer state).run log =
      (((writer state text).1,
        ⟨(writer state text).2.count, (writer state text).2.failure?.map .writer⟩),
        log ++ (program.render none).2) := by
  rw [output_eq_map] at output
  rw [writeTo, Logging.run_bind, written_run, output]
  rfl

theorem writeTo_run_of_output_error {program : Program} {failure : InstructionError}
    (unwritten : program.output = .error failure) :
    (program.writeTo writer state).run log =
      ((state, ⟨0, some (.instruction failure)⟩), log ++ (program.render none).2) := by
  rw [output_eq_map] at unwritten
  rw [writeTo, Logging.run_bind, written_run, unwritten]
  rfl

/-- A program is rendered once on its way to a writer, whatever becomes of
it. -/
theorem writeTo_run :
    (program.writeTo writer state).run log =
      (program.send writer state, log ++ (program.render none).2) := by
  cases output : program.output with
  | error failure =>
      rw [send, writeTo_run_of_output_error log writer state output,
        writeTo_run_of_output_error [] writer state output]
  | ok text =>
      rw [send, writeTo_run_of_output log writer state output,
        writeTo_run_of_output [] writer state output]

/-- A program that can be written is handed to the writer, and only the writer
can fail. -/
theorem send_of_output {program : Program} {text : String} (output : program.output = .ok text) :
    program.send writer state =
      ((writer state text).1,
        ⟨(writer state text).2.count, (writer state text).2.failure?.map .writer⟩) := by
  rw [send, writeTo_run_of_output [] writer state output]

theorem send_of_output_error {program : Program} {failure : InstructionError}
    (unwritten : program.output = .error failure) :
    program.send writer state = (state, ⟨0, some (.instruction failure)⟩) := by
  rw [send, writeTo_run_of_output_error [] writer state unwritten]

end Writers

end Listing

end Program

end AsmListing
