import AsmListing.Proofs.Disassembly.Rendering
import AsmListing.Proofs.Kind.Table
import AsmListing.Proofs.Script.Effects
import AsmListing.Proofs.Text.Quotation

/-!
# Instructions fit their kinds

Instructions come into being in many ways: one by one, from scripts and from
machine code, while kinds are added and comments are edited.  Whatever is
done, in whatever order, every instruction has as many operands as its kind
takes.  The standard kinds can therefore fill the templates of their comments
from the operands alone.
-/

namespace AsmListing

/-! ## Accepted instructions -/

namespace Mnemonic

/-- The kind of an instruction takes the number of its operands. -/
def Accepted (mnemonic : Mnemonic) : Prop :=
  mnemonic.kind.validate mnemonic.name mnemonic.operands.length = .ok ()

/-- A fixed kind takes exactly the number of operands it was made with. -/
theorem Accepted.length_eq {mnemonic : Mnemonic} (accepted : mnemonic.Accepted) {count : Int}
    {template : String} (kind : mnemonic.kind = .fixed count template) :
    (mnemonic.operands.length : Int) = count := by
  rw [Accepted, kind, Kind.validate] at accepted
  split at accepted
  · assumption
  · contradiction

theorem accepted_of_make {kind? : Option Kind} {name : String} {operands : List Datum}
    {mnemonic : Mnemonic} (made : make kind? name operands = .ok mnemonic) :
    mnemonic.Accepted := by
  unfold make at made
  dsimp only at made
  split at made
  · contradiction
  · rename_i valid
    rw [← Except.ok.inj made]
    exact valid

theorem basic_accepted (name : String) (operands : List Datum) : (basic name operands).Accepted :=
  rfl

end Mnemonic

theorem Disassembly.mnemonic_accepted (kinds : KindTable) (registers : RegisterSet)
    (instruction : MachineInstruction) :
    (mnemonic kinds registers instruction).Accepted := by
  have taken := kinds.fitting_takes (Text.lower instruction.name) instruction.operands.length
  rw [mnemonic_eq, Mnemonic.Accepted, List.length_map]
  exact Kind.validate_of_takes taken (Text.lower instruction.name)

/-! ## Scripts -/

namespace Script

namespace Host

variable {host : Host} {program : Program} {work changed : Work} {reply : Reply}

theorem insert_every {function name : String} {operands : List HostValue}
    {named : List (String × HostValue)} (every : work.program.Every Mnemonic.Accepted)
    (success : (host.insert function name operands named).run work = .ok reply changed) :
    changed.program.Every Mnemonic.Accepted := by
  obtain ⟨mnemonic, asked, appended⟩ := exists_instruction_of_insert success
  obtain ⟨bare, made, rfl⟩ := exists_named_of_instruction asked
  rw [appended]
  refine every.of_grown (Program.Grown.append work.program _) fun other member => ?_
  have bareAccepted : bare.Accepted := Mnemonic.accepted_of_make made
  rw [List.mem_singleton.mp member]
  exact bareAccepted

/-- A call that is answered keeps all instructions accepted. -/
theorem apply_every {call : Call} (every : work.program.Every Mnemonic.Accepted)
    (answered : (host.apply call).run work = .ok reply changed) :
    changed.program.Every Mnemonic.Accepted := by
  rcases apply_cases answered with
    ⟨_, name, operands, _, inserted⟩ | ⟨_, text, _, indented⟩ | ⟨_, _, unchanged⟩
  · exact insert_every every inserted
  · rw [indented]
    exact every
  · rw [unchanged]
    exact every

theorem session_every (every : program.Every Mnemonic.Accepted) (calls : List Call) :
    (host.session program calls).program.Every Mnemonic.Accepted := by
  induction calls generalizing program with
  | nil => exact every
  | cons call rest induction =>
      unfold session
      split
      · rename_i failed
        rw [answer_error failed]
        exact every
      · rename_i answered
        exact induction (apply_every every answered)

end Host

theorem exec_every {host : Host} {program : Program}
    (every : program.Every Mnemonic.Accepted) (name source : String) :
    (exec host program name source).program.Every Mnemonic.Accepted := by
  obtain ⟨calls, same, _⟩ := exec_session host program name source
  rw [same]
  exact Host.session_every every calls

end Script

/-! ## The workbench -/

/-- A workbench has the kinds of instructions that are known, and a program with
all instructions that were made. -/
structure Workbench where
  kinds : KindTable
  program : Program

/-- What can be done at a workbench.  Instructions are made of a given kind or
without one, of the generic kind, of the kind of their name, of a standard
kind, by a script or from machine code.  A kind can be added, instructions can
be inserted, and comments and settings can be changed at any time. -/
inductive Deed where
  | register (request : KindTable.Request)
  | make (kind? : Option Kind) (name : String) (operands : List Datum)
  | basic (name : String) (operands : List Datum)
  | named (name : String) (operands : List Datum)
  | standard (entry : String × Kind) (known : entry ∈ KindTable.standard.entries)
      (operands : List Datum)
  | script (verbose : Bool) (name source : String)
  | disassemble (decoder : InstructionDecoder) (code : List UInt8)
  | convert (registers : RegisterSet) (instruction : MachineInstruction)
  | insert (positions : List Nat)
  | comment (position : Nat) (text : String)
  | enable (position : Nat) (enabled : Bool)
  | setComments (enabled : Bool)
  | configure (filename : String) (mode : Mode) (indent : String) (verbose : Bool)

namespace Workbench

/-- A workbench with the standard kinds and an empty program. -/
def new (serial : Nat) (filename : String) (mode : Mode) : Workbench :=
  ⟨.standard, .new serial filename mode⟩

/-- Keeps an instruction, if it could be made. -/
def keep (bench : Workbench) (made : Except OperandCountError Mnemonic) : Workbench :=
  match made with
  | .error _ => bench
  | .ok mnemonic => { bench with program := bench.program.draft mnemonic }

def perform (bench : Workbench) : Deed → Workbench
  | .register request => { bench with kinds := bench.kinds.after request }
  | .make kind? name operands => bench.keep (Mnemonic.make kind? name operands)
  | .basic name operands => bench.keep (.ok (.basic name operands))
  | .named name operands => bench.keep (Mnemonic.named bench.kinds name operands)
  | .standard entry _ operands => bench.keep (Mnemonic.make (some entry.2) entry.1 operands)
  | .script verbose name source =>
      { bench with
        program := (Script.exec ⟨bench.kinds, verbose⟩ bench.program name source).program }
  | .disassemble decoder code =>
      { bench with
        program := (Disassembly.runWith decoder bench.kinds bench.program code).program }
  | .convert registers instruction =>
      bench.keep (.ok (Disassembly.mnemonic bench.kinds registers instruction))
  | .insert positions => { bench with program := bench.program.insertAll positions }
  | .comment position text =>
      { bench with
        program := bench.program.edit position fun mnemonic =>
          { mnemonic with comment := text } }
  | .enable position enabled =>
      { bench with
        program := bench.program.edit position fun mnemonic =>
          { mnemonic with commentEnabled := enabled } }
  | .setComments enabled => { bench with program := bench.program.setComments enabled }
  | .configure filename mode indent verbose =>
      { bench with program := { bench.program with filename, mode, indent, verbose } }

def run (bench : Workbench) (deeds : List Deed) : Workbench :=
  deeds.foldl perform bench

/-- All instructions that were made are accepted by their kinds. -/
def Sound (bench : Workbench) : Prop :=
  bench.program.Every Mnemonic.Accepted

theorem Sound.keep {bench : Workbench} (sound : bench.Sound)
    {made : Except OperandCountError Mnemonic}
    (accepted : ∀ mnemonic, made = .ok mnemonic → mnemonic.Accepted) :
    (bench.keep made).Sound := by
  unfold Workbench.keep
  split
  · exact sound
  · exact Program.Every.draft sound (accepted _ rfl)

theorem Sound.perform {bench : Workbench} (sound : bench.Sound) (deed : Deed) :
    (bench.perform deed).Sound := by
  cases deed with
  | register request => exact sound
  | make kind? name operands => exact sound.keep fun _ => Mnemonic.accepted_of_make
  | basic name operands =>
      apply sound.keep
      rintro _ ⟨rfl⟩
      exact Mnemonic.basic_accepted name operands
  | named name operands => exact sound.keep fun _ => Mnemonic.accepted_of_make
  | standard entry known operands => exact sound.keep fun _ => Mnemonic.accepted_of_make
  | script verbose name source => exact Script.exec_every sound name source
  | disassemble decoder code =>
      exact Disassembly.runWith_every decoder
        (Disassembly.mnemonic_accepted bench.kinds) sound code
  | convert registers instruction =>
      apply sound.keep
      rintro _ ⟨rfl⟩
      exact Disassembly.mnemonic_accepted bench.kinds registers instruction
  | insert positions => exact Program.Every.insertAll sound positions
  | comment position text =>
      refine Program.Every.edit sound ?_ position
      exact fun _ accepted => accepted
  | enable position enabled =>
      refine Program.Every.edit sound ?_ position
      exact fun _ accepted => accepted
  | setComments enabled => exact Program.Every.setComments sound fun _ accepted => accepted
  | configure filename mode indent verbose => exact sound

theorem Sound.run {bench : Workbench} (sound : bench.Sound) (deeds : List Deed) :
    (bench.run deeds).Sound := by
  unfold Workbench.run
  induction deeds generalizing bench with
  | nil => exact sound
  | cons deed rest induction => exact induction (sound.perform deed)

end Workbench

/-! ## Comments of the standard kinds -/

/-- Whether a kind has a template that quotes each operand once. -/
def Kind.quotes : Kind → Bool
  | .generic => false
  | .fixed count template =>
      decide (Text.Template.Quotes count.toNat (Text.Template.pieces template))

theorem KindTable.standard_quotes : ∀ entry ∈ standard.entries, entry.2.quotes = true := by
  decide +kernel

namespace Mnemonic

/-- The texts of the operands in a comment. -/
def shownOperands (mnemonic : Mnemonic) : List String :=
  mnemonic.operands.map fun operand =>
    match operand.operandText with
    | .ok text => text
    | .error _ => operand.print

/-- An instruction fits its kind: it has the number of operands that the kind
takes.  If the kind is a standard one, the default comment is the wording of
the kind with the operands in it, and all marks in it come from operands. -/
structure Fits (mnemonic : Mnemonic) : Prop where
  accepted : mnemonic.Accepted
  length_eq : ∀ count template, mnemonic.kind = .fixed count template →
    (mnemonic.operands.length : Int) = count
  comment : ∀ entry ∈ KindTable.standard.entries, mnemonic.kind = entry.2 →
    ∃ count template, entry.2 = .fixed count template ∧
      mnemonic.defaultComment = String.ofList ((Text.Template.pieces template).flatMap
        (Text.Template.pieceText mnemonic.shownOperands)) ∧
      Text.markCount mnemonic.defaultComment.toList =
        (mnemonic.shownOperands.map fun text => Text.markCount text.toList).sum

/-- An accepted instruction gives the template of its kind as many texts as it
quotes. -/
theorem Accepted.fits {mnemonic : Mnemonic} (accepted : mnemonic.Accepted) :
    mnemonic.Fits where
  accepted := accepted
  length_eq _ _ := accepted.length_eq
  comment entry member same := by
    have quotes := KindTable.standard_quotes entry member
    cases kind : entry.2 with
    | generic => simp [kind, Kind.quotes] at quotes
    | fixed count template =>
        rw [kind] at same quotes
        have length := accepted.length_eq same
        have exact : Text.Template.Quotes mnemonic.shownOperands.length
            (Text.Template.pieces template) := by
          have count : mnemonic.shownOperands.length = count.toNat := by
            simp [shownOperands, ← length]
          rw [count]
          exact of_decide_eq_true quotes
        have comment : mnemonic.defaultComment = Text.Template.render Text.commentStyle template
            (mnemonic.shownOperands.map .text) := by
          rw [defaultComment, same]
          rfl
        refine ⟨count, template, rfl, ?_, ?_⟩
        · rw [comment, Text.Template.render_eq _ exact]
        · rw [comment, exact.markCount_render]

end Mnemonic

/-- Whatever is done at a workbench, every instruction that was made fits its
kind, and so does every instruction in the program, which is one of them. -/
theorem Workbench.run_fits (serial : Nat) (filename : String) (mode : Mode)
    (deeds : List Deed) :
    let program := ((Workbench.new serial filename mode).run deeds).program
    (∀ mnemonic ∈ program.drafts, mnemonic.Fits) ∧
      ∀ mnemonic ∈ program.mnemonics, mnemonic ∈ program.drafts ∧ mnemonic.Fits := by
  intro program
  have start : (Workbench.new serial filename mode).Sound :=
    Program.Every.new serial filename mode
  have fits : program.Every Mnemonic.Fits := fun mnemonic member =>
    (start.run deeds mnemonic member).fits
  have drafted : program.Every (· ∈ program.drafts) := fun _ member => member
  exact ⟨fits, fun mnemonic member =>
    ⟨drafted.mnemonics mnemonic member, fits.mnemonics mnemonic member⟩⟩

/-- With too few operands a mark would show. -/
example : Text.markCount
    (Kind.comment (.fixed 2 "Adding the %[2]v value to the %[1]v") "add" ["AX"]).toList = 1 := by
  decide +kernel

end AsmListing
