import AsmListing.Mnemonic
import AsmListing.Register.Catalog
import AsmListing.Sequence.Push

/-!
# Programs

A program is a sequence of instructions for one mode.  Instructions are
drafted first and then inserted, possibly more than once.  A later change to a
draft shows at every place where it was inserted.  A program is rendered line by
line for a consumer who may stop at any time, and a verbose one logs each line
on the way.
-/

namespace AsmListing

/-- An instruction of a program that cannot be written. -/
structure InstructionError where
  index : Nat
  name : String
  cause : OperandTypeError
deriving DecidableEq, Repr

def InstructionError.message (failure : InstructionError) : String :=
  let index := failure.index
  let name := failure.name
  let cause := failure.cause.message
  s!"instruction {index} ({name}) {cause}"

/-- Steps that add to a log. -/
abbrev Logging : Type → Type :=
  StateM (List String)

/-- A program: its settings, its registers, the instructions drafted for it,
and the drafts inserted into it in order. -/
structure Program where
  filename : String
  mode : Mode
  indent : String
  verbose : Bool
  registers : Option RegisterSet
  drafts : Array Mnemonic
  sequence : Array Nat
  sequence_lt : ∀ position ∈ sequence, position < drafts.size

namespace Program

/-- The empty program of a mode.  Its registers are numbered from the given
serial number on. -/
def new (serial : Nat) (filename : String) (mode : Mode) : Program where
  filename := filename
  mode := mode
  indent := ""
  verbose := false
  registers := RegisterSet.ofMode? serial mode
  drafts := #[]
  sequence := #[]
  sequence_lt := by simp

def size (program : Program) : Nat :=
  program.sequence.size

def mnemonics (program : Program) : List Mnemonic :=
  program.sequence.toList.filterMap fun position => program.drafts[position]?

/-- Drafts an instruction without inserting it. -/
def draft (program : Program) (mnemonic : Mnemonic) : Program :=
  { program with
    drafts := program.drafts.push mnemonic
    sequence_lt := by
      intro position member
      have bound := program.sequence_lt position member
      simp only [Array.size_push]
      omega }

/-- Inserts a draft at the end.  A position that no draft has is passed
over. -/
def insert (program : Program) (position : Nat) : Program :=
  if drafted : position < program.drafts.size then
    { program with
      sequence := program.sequence.push position
      sequence_lt := by
        intro other member
        rcases Array.mem_push.mp member with member | rfl
        · exact program.sequence_lt other member
        · exact drafted }
  else program

/-- Inserts drafts at the end, in order. -/
def insertAll (program : Program) (positions : List Nat) : Program :=
  positions.foldl insert program

/-- Drafts an instruction and inserts it at the end. -/
def append (program : Program) (mnemonic : Mnemonic) : Program :=
  (program.draft mnemonic).insert program.drafts.size

def edit (program : Program) (position : Nat) (change : Mnemonic → Mnemonic) : Program :=
  { program with
    drafts := program.drafts.modify position change
    sequence_lt := by
      intro other member
      have bound := program.sequence_lt other member
      simpa using bound }

/-- Switches the comments of all inserted instructions on or off. -/
def setComments (program : Program) (enabled : Bool) : Program :=
  program.sequence.foldl
    (fun program position =>
      program.edit position fun mnemonic => { mnemonic with commentEnabled := enabled })
    program

/-- Logs a line with its index, if the program is verbose. -/
def logLine (program : Program) (index : Nat) (line : String) : Logging Unit :=
  let filename := program.filename
  modify fun log => if program.verbose then log ++ [s!"{filename}:{index}: {line}"] else log

/-- Hands the lines of instructions to a consumer, the first with the given
index.  A line is logged before the consumer gets it.  Nothing follows an
instruction that cannot be written. -/
def supplyFrom {State : Type} (program : Program)
    (consume : State → Except InstructionError String → Logging (State × Bool)) (index : Nat)
    (state : State) : List Mnemonic → Logging State
  | [] => pure state
  | mnemonic :: rest =>
      match mnemonic.construct program.indent with
      | .error cause => do
          let answer ← consume state (.error ⟨index, mnemonic.name, cause⟩)
          return answer.1
      | .ok line => do
          program.logLine index line
          let answer ← consume state (.ok line)
          if answer.2 then program.supplyFrom consume (index + 1) answer.1 rest
          else return answer.1

/-- The sequence of the lines of a program, up to the first instruction that
cannot be written. -/
def supply (program : Program) : PushSequence Logging (Except InstructionError String) where
  run consume state := program.supplyFrom consume 0 state program.mnemonics

/-- Renders a program for a reader who takes at most the given number of
items.  The second part is what is logged on the way. -/
def render (program : Program) (demand : Option Nat) :
    List (Except InstructionError String) × List String :=
  (program.supply.take demand).run []

/-- The lines of a program, up to the first instruction that cannot be
written. -/
def lines (program : Program) : List (Except InstructionError String) :=
  (program.render none).1

/-- Adds an item to the texts of earlier lines, and goes on unless it is a
failure. -/
def gather (texts : Except InstructionError (List String))
    (item : Except InstructionError String) : Except InstructionError (List String) × Bool :=
  match texts, item with
  | .error failure, _ => (.error failure, false)
  | .ok _, .error failure => (.error failure, false)
  | .ok texts, .ok line => (.ok (texts ++ [line]), true)

/-- Renders the listing of a program, one instruction on a line and no line end
after the last. -/
def generate (program : Program) : Logging (Except InstructionError String) := do
  let texts ← program.supply.run (fun texts item => pure (gather texts item)) (.ok [])
  return texts.map fun lines => "\n".intercalate lines

/-- Renders the text that is written for a program: its listing, with a line
end unless it is empty. -/
def written (program : Program) : Logging (Except InstructionError String) := do
  let listing ← program.generate
  return listing.map fun text => if text.isEmpty then text else text ++ "\n"

def listing (program : Program) : Except InstructionError String :=
  (program.generate.run []).1

def output (program : Program) : Except InstructionError String :=
  (program.written.run []).1

/-- What became of a text that was handed to a writer: how many bytes it took,
and what went wrong. -/
structure Receipt (Failure : Type) where
  count : Nat
  failure? : Option Failure
deriving DecidableEq, Repr

/-- A writer, which goes on to another state with every text it is handed. -/
abbrev Writer (State Failure : Type) :=
  State → String → State × Receipt Failure

/-- The reasons for which a program is not written in full. -/
inductive WriteError (Failure : Type) where
  | instruction (failure : InstructionError)
  | writer (failure : Failure)
deriving DecidableEq, Repr

/-- Writes a program to a writer in a given state, in one piece.  Nothing is
handed to the writer if an instruction cannot be written.  The result has the
state that the writer is left in, the number of bytes it took, and what went
wrong. -/
def writeTo {State Failure : Type} (program : Program) (writer : Writer State Failure)
    (state : State) : Logging (State × Receipt (WriteError Failure)) := do
  match ← program.written with
  | .error failure => return (state, ⟨0, some (.instruction failure)⟩)
  | .ok text =>
      let (next, receipt) := writer state text
      return (next, ⟨receipt.count, receipt.failure?.map .writer⟩)

def send {State Failure : Type} (program : Program) (writer : Writer State Failure)
    (state : State) : State × Receipt (WriteError Failure) :=
  ((program.writeTo writer state).run []).1

end Program

end AsmListing
