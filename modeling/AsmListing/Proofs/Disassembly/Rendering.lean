import AsmListing.Command.Disassemble
import AsmListing.Proofs.Mnemonic
import AsmListing.Proofs.Program.Drafts

/-!
# Disassembled programs can be written

The operands of a decoded instruction become registers, integers or texts, and
these are what an operand may be.  A disassembled instruction can therefore
always be written, and disassembly never makes a program unwritable that could
be written before.
-/

namespace AsmListing

/-! ## Programs that can be written -/

namespace Program

/-- A program has a listing exactly if all its instructions can be written. -/
theorem exists_listing_iff (program : Program) :
    (∃ listing, program.listing = .ok listing) ↔
      ∀ mnemonic ∈ program.mnemonics, mnemonic.Writable := by
  cases first : program.firstFailure? with
  | none =>
      obtain ⟨texts, written⟩ := exists_written program first
      refine iff_of_true ⟨_, written.listing⟩ fun mnemonic member => ?_
      have whole := List.findIdx?_eq_none_iff.mp first mnemonic member
      exact Mnemonic.construct_isOk_iff.mp (by simpa using whole)
  | some index =>
      obtain ⟨texts, failure, _, stopped⟩ := exists_stopped program index first
      refine iff_of_false (by simp [stopped.listing]) fun writable => ?_
      obtain ⟨mnemonic, found, _, fails⟩ := stopped.instruction
      have constructed : (mnemonic.construct program.indent).isOk = true :=
        Mnemonic.construct_isOk_iff.mpr (writable mnemonic (List.mem_of_getElem? found))
      rw [fails] at constructed
      simp [Except.isOk, Except.toBool] at constructed

theorem exists_output {program : Program}
    (writable : ∀ mnemonic ∈ program.mnemonics, mnemonic.Writable) :
    ∃ text, program.output = .ok text := by
  obtain ⟨listing, listed⟩ := (exists_listing_iff program).mpr writable
  rw [output_eq_map, listed]
  exact ⟨_, rfl⟩

end Program

/-! ## Disassembled instructions -/

namespace KindTable

/-- The kind of an instruction with a number of operands: the one that its name
has in the table, or the generic one if that does not take them. -/
def fitting (kinds : KindTable) (name : String) (count : Nat) : Kind :=
  if (kinds.lookup name).takes count then kinds.lookup name else .generic

theorem fitting_takes (kinds : KindTable) (name : String) (count : Nat) :
    (kinds.fitting name count).takes count = true := by
  unfold fitting
  split
  · assumption
  · rfl

end KindTable

namespace Disassembly

def operandText (registers : RegisterSet) : MachineOperand → String
  | .register register => ((registers.machine? register).map Register.name).getD register.name
  | .immediate value => toString value
  | .relative distance => toString distance
  | .memory reference => reference.text

theorem operand_written (registers : RegisterSet) (machineOperand : MachineOperand) :
    (operand registers machineOperand).admissible = true ∧
      (operand registers machineOperand).print = operandText registers machineOperand := by
  cases machineOperand with
  | register register =>
      cases found : registers.machine? register with
      | none => simp [operand, operandText, found, Datum.admissible, Datum.print]
      | some known => simp [operand, operandText, found, Datum.admissible, Datum.print]
  | _ => exact ⟨rfl, rfl⟩

theorem operandTexts_map_operand (registers : RegisterSet) (operands : List MachineOperand)
    (position : Nat) :
    Mnemonic.operandTexts position (operands.map (operand registers)) =
      .ok (operands.map (operandText registers)) := by
  have fit : ∀ datum ∈ operands.map (operand registers), datum.admissible = true := by
    intro datum member
    obtain ⟨machineOperand, _, rfl⟩ := List.mem_map.mp member
    exact (operand_written registers machineOperand).1
  have texts : (operands.map (operand registers)).map Datum.print =
      operands.map (operandText registers) := by
    rw [List.map_map]
    exact List.map_congr_left fun machineOperand _ => (operand_written registers machineOperand).2
  rw [Mnemonic.operandTexts_eq_ok position fit, texts]

section Mnemonic

variable (kinds : KindTable) (registers : RegisterSet) (instruction : MachineInstruction)

/-- The kind is the only part of a disassembled instruction that the table has a
say in. -/
theorem mnemonic_eq :
    mnemonic kinds registers instruction =
      ⟨Text.lower instruction.name, instruction.operands.map (operand registers),
        kinds.fitting (Text.lower instruction.name) instruction.operands.length, "", true⟩ := by
  cases taken : (kinds.lookup (Text.lower instruction.name)).takes instruction.operands.length with
  | true =>
      have valid := Kind.validate_of_takes taken (Text.lower instruction.name)
      simp [mnemonic, Mnemonic.named, Mnemonic.make, valid, KindTable.fitting, taken]
  | false =>
      obtain ⟨failure, invalid⟩ :=
        Kind.exists_validate_of_not_takes taken (Text.lower instruction.name)
      simp [mnemonic, Mnemonic.named, Mnemonic.make, invalid, Mnemonic.basic, KindTable.fitting,
        taken]

theorem mnemonic_name :
    (mnemonic kinds registers instruction).name = Text.lower instruction.name := by
  rw [mnemonic_eq]

theorem operandTexts_mnemonic :
    Mnemonic.operandTexts 1 (mnemonic kinds registers instruction).operands =
      .ok (instruction.operands.map (operandText registers)) := by
  rw [mnemonic_eq]
  exact operandTexts_map_operand registers instruction.operands 1

theorem mnemonic_writable : (mnemonic kinds registers instruction).Writable :=
  ⟨_, operandTexts_mnemonic kinds registers instruction⟩

end Mnemonic

/-! ## Programs -/

/-- A walk appends disassembled instructions and nothing else. -/
theorem walk_grown (decoder : InstructionDecoder) (kinds : KindTable) (registers : RegisterSet)
    (fuel : Nat) (program : Program) (offset : Nat) (bytes : List UInt8) (log : List String) :
    ∃ instructions : List MachineInstruction,
      program.Grown (instructions.map (mnemonic kinds registers))
        (walk decoder kinds registers fuel program offset bytes log).program := by
  induction fuel generalizing program offset bytes log with
  | zero => exact ⟨[], .refl program⟩
  | succ fuel induction =>
      cases bytes with
      | nil => exact ⟨[], .refl program⟩
      | cons byte rest =>
          unfold walk
          split
          · exact ⟨[], .refl program⟩
          · rename_i instruction _
            obtain ⟨instructions, grown⟩ := induction
              (program.append (mnemonic kinds registers instruction))
              (offset + instruction.length) ((byte :: rest).drop instruction.length) _
            exact ⟨instruction :: instructions, (Program.Grown.append program _).trans grown⟩

theorem runWith_grown (decoder : InstructionDecoder) (kinds : KindTable) (program : Program)
    (code : List UInt8) :
    ∃ (registers : RegisterSet) (instructions : List MachineInstruction),
      program.Grown (instructions.map (mnemonic kinds registers))
        (runWith decoder kinds program code).program := by
  unfold runWith
  split
  · exact ⟨.empty program.mode, [], .refl program⟩
  · rename_i registers _
    exact ⟨registers, walk_grown decoder kinds registers code.length program 0 code []⟩

/-- What disassembly appends can be written. -/
theorem runWith_writable_iff (decoder : InstructionDecoder) (kinds : KindTable)
    (program : Program) (code : List UInt8) :
    (∀ mnemonic ∈ (runWith decoder kinds program code).program.mnemonics, mnemonic.Writable) ↔
      ∀ mnemonic ∈ program.mnemonics, mnemonic.Writable := by
  obtain ⟨registers, instructions, grown⟩ := runWith_grown decoder kinds program code
  rw [grown.mnemonics]
  constructor
  · intro writable made member
    exact writable made (List.mem_append_left _ member)
  · intro writable made member
    rcases List.mem_append.mp member with old | new
    · exact writable made old
    · obtain ⟨instruction, _, rfl⟩ := List.mem_map.mp new
      exact mnemonic_writable kinds registers instruction

/-- What holds of all disassembled instructions holds of all drafts, if it did
before. -/
theorem runWith_every {property : Mnemonic → Prop} (decoder : InstructionDecoder)
    {kinds : KindTable}
    (holds : ∀ registers instruction, property (mnemonic kinds registers instruction))
    {program : Program} (every : program.Every property) (code : List UInt8) :
    (runWith decoder kinds program code).program.Every property := by
  obtain ⟨registers, instructions, grown⟩ := runWith_grown decoder kinds program code
  refine every.of_grown grown fun made member => ?_
  obtain ⟨instruction, _, rfl⟩ := List.mem_map.mp member
  exact holds registers instruction

end Disassembly

/-! ## The command -/

namespace Command.Task

variable {program : Program}

theorem rendering_of_output {text : String} (output : program.output = .ok text)
    (next : String → Task) :
    rendering program next = .log (program.render none).2 (next text) := by
  rw [Program.output_eq_map] at output
  rw [rendering, Program.written_run, output]
  rfl

theorem rendering_of_output_error {failure : InstructionError}
    (unwritten : program.output = .error failure) (next : String → Task) :
    rendering program next = .log (program.render none).2 (.fail (.instruction failure)) := by
  rw [Program.output_eq_map] at unwritten
  rw [rendering, Program.written_run, unwritten]
  rfl

end Command.Task

namespace Command.Disassemble

def disassembled (filename : String) (options : Options) (code : List UInt8) :
    Disassembly.Outcome :=
  Disassembly.run .standard
    { Program.new 0 filename options.mode with
      indent := options.indent
      verbose := options.verbose } code

def listed (filename : String) (options : Options) (code : List UInt8) : Program :=
  (disassembled filename options code).program.setComments options.comments

theorem listed_writable (filename : String) (options : Options) (code : List UInt8) :
    ∀ mnemonic ∈ (listed filename options code).mnemonics, mnemonic.Writable := by
  have empty : ({ Program.new 0 filename options.mode with
      indent := options.indent
      verbose := options.verbose } : Program).Every Mnemonic.Writable :=
    Program.Every.new 0 filename options.mode
  have disassembled := Disassembly.runWith_every Machine.decode
    (Disassembly.mnemonic_writable .standard) empty code
  exact (disassembled.setComments fun _ writable => writable).mnemonics

theorem ofCode_failure? (filename : String) (options : Options) (code : List UInt8)
    (tree : FileTree) :
    ((ofCode filename options code).run tree).failure? =
      (disassembled filename options code).error?.map .disassembly := by
  obtain ⟨text, output⟩ := Program.exists_output (listed_writable filename options code)
  unfold listed disassembled at output
  unfold ofCode disassembled
  simp only [Task.run]
  split
  · rename_i failure stopped
    rw [stopped]
    rfl
  · rename_i complete
    rw [complete, Task.rendering_of_output output]
    rfl

/-- With usable options, a listing of machine code fails for its file or for
its code. -/
theorem task_failure? (filename : String) {words : Words} {chosen : Options}
    (usable : options words = .ok chosen) (tree : FileTree) :
    ((task filename words).run tree).failure? =
      match tree.read filename with
      | .error failure => some (.path failure)
      | .ok code => (disassembled filename chosen code).error?.map .disassembly := by
  rw [task, usable]
  simp only [Task.run]
  cases tree.read filename with
  | error failure => rfl
  | ok code => exact ofCode_failure? filename chosen code tree

end Command.Disassemble

/-- A disassembled instruction can be written, with any indent and any comment.
A program can be written after disassembly exactly if it could be before.  With
usable options, a listing of machine code fails only for its file or its code,
or because of the writer that it is handed to. -/
theorem disassembled_writable :
    (∀ kinds registers instruction indent comment enabled,
      let texts := instruction.operands.map (Disassembly.operandText registers)
      let made : Mnemonic :=
        { Disassembly.mnemonic kinds registers instruction with
          comment := comment
          commentEnabled := enabled }
      made.name = Text.lower instruction.name ∧ made.construct indent =
        .ok (indent ++ Mnemonic.code made.name texts ++ made.remark texts)) ∧
    (∀ decoder kinds program code,
      (∃ listing, (Disassembly.runWith decoder kinds program code).program.listing =
        .ok listing) ↔ ∃ listing, program.listing = .ok listing) ∧
    (∀ filename words options tree, Command.Disassemble.options words = .ok options →
      ((Command.Disassemble.task filename words).run tree).failure? =
        match tree.read filename with
        | .error failure => some (.path failure)
        | .ok code =>
            (Command.Disassemble.disassembled filename options code).error?.map .disassembly) ∧
    (∀ filename options code, ∃ text, ∀ {State Failure : Type}
      (writer : Program.Writer State Failure) (state : State),
      (Command.Disassemble.listed filename options code).send writer state =
        ((writer state text).1,
          ⟨(writer state text).2.count, (writer state text).2.failure?.map .writer⟩)) := by
  refine ⟨?_, ?_, ?_, ?_⟩
  · intro kinds registers instruction indent comment enabled texts made
    refine ⟨Disassembly.mnemonic_name kinds registers instruction, ?_⟩
    apply Mnemonic.construct_of_operandTexts
    exact Disassembly.operandTexts_mnemonic kinds registers instruction
  · intro decoder kinds program code
    rw [Program.exists_listing_iff, Program.exists_listing_iff,
      Disassembly.runWith_writable_iff]
  · intro filename words options tree usable
    exact Command.Disassemble.task_failure? filename usable tree
  · intro filename options code
    obtain ⟨text, output⟩ := Program.exists_output
      (Command.Disassemble.listed_writable filename options code)
    exact ⟨text, fun writer state => Program.send_of_output writer state output⟩

end AsmListing
