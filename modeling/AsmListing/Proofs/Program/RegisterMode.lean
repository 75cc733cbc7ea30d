import AsmListing.Proofs.Script.Bindings
import AsmListing.Proofs.Workbench

/-!
# The registers of a program and its mode

A program gets its registers when it is made, for the mode that it is made in.
Nothing that is done later changes them, but the mode is a setting like any
other.  A program that is set to another mode goes on with the registers of the
first one, while scripts and disassembly are told the new mode.
-/

namespace AsmListing

/-! ## What keeps registers and mode -/

namespace Program

/-- Both programs have the same registers and the same mode. -/
structure SameTarget (before after : Program) : Prop where
  registers : after.registers = before.registers
  mode : after.mode = before.mode

namespace SameTarget

variable {program : Program}

theorem of_grown {appended : List Mnemonic} {after : Program}
    (grown : program.Grown appended after) : program.SameTarget after :=
  ⟨grown.registers, grown.mode⟩

theorem insertAll (positions : List Nat) : program.SameTarget (program.insertAll positions) := by
  unfold Program.insertAll
  induction positions generalizing program with
  | nil => exact ⟨rfl, rfl⟩
  | cons position rest induction =>
      have first : program.SameTarget (program.insert position) := by
        unfold Program.insert
        split
        · exact ⟨rfl, rfl⟩
        · exact ⟨rfl, rfl⟩
      have later := @induction (program.insert position)
      exact ⟨later.registers.trans first.registers, later.mode.trans first.mode⟩

theorem setComments (enabled : Bool) : program.SameTarget (program.setComments enabled) := by
  unfold Program.setComments
  rw [← Array.foldl_toList]
  generalize program.sequence.toList = positions
  induction positions generalizing program with
  | nil => exact ⟨rfl, rfl⟩
  | cons position rest induction =>
      have later := @induction (program.edit position
        fun mnemonic => { mnemonic with commentEnabled := enabled })
      exact ⟨later.registers, later.mode⟩

theorem exec (host : Script.Host) (name source : String) :
    program.SameTarget (Script.exec host program name source).program := by
  obtain ⟨calls, same, _⟩ := Script.exec_session host program name source
  obtain ⟨appended, grown, _⟩ := (host.session_effects program calls).grows
  rw [same]
  exact of_grown grown

theorem runWith (decoder : InstructionDecoder) (kinds : KindTable) (code : List UInt8) :
    program.SameTarget (Disassembly.runWith decoder kinds program code).program := by
  obtain ⟨registers, instructions, grown⟩ := Disassembly.runWith_grown decoder kinds program code
  exact of_grown grown

end SameTarget

end Program

def Deed.mode? : Deed → Option Mode
  | .configure _ mode _ _ => some mode
  | _ => none

namespace Workbench

theorem keep_sameTarget (bench : Workbench) (made : Except OperandCountError Mnemonic) :
    bench.program.SameTarget (bench.keep made).program := by
  unfold keep
  split
  · exact ⟨rfl, rfl⟩
  · exact ⟨rfl, rfl⟩

/-- Only a change of the settings can change the mode. -/
theorem perform_sameTarget (bench : Workbench) {deed : Deed} (kept : deed.mode? = none) :
    bench.program.SameTarget (bench.perform deed).program := by
  cases deed with
  | register request => exact ⟨rfl, rfl⟩
  | make kind? name operands => exact keep_sameTarget bench _
  | basic name operands => exact keep_sameTarget bench _
  | named name operands => exact keep_sameTarget bench _
  | standard entry known operands => exact keep_sameTarget bench _
  | script verbose name source => exact .exec _ name source
  | disassemble decoder code => exact .runWith decoder bench.kinds code
  | convert registers instruction => exact keep_sameTarget bench _
  | insert positions => exact .insertAll positions
  | comment position text => exact ⟨rfl, rfl⟩
  | enable position enabled => exact ⟨rfl, rfl⟩
  | setComments enabled => exact .setComments enabled
  | configure filename mode indent verbose => contradiction

theorem perform_registers (bench : Workbench) (deed : Deed) :
    (bench.perform deed).program.registers = bench.program.registers := by
  cases set : deed.mode? with
  | none => exact (perform_sameTarget bench set).registers
  | some mode =>
      cases deed with
      | configure filename mode indent verbose => rfl
      | _ => contradiction

theorem perform_mode (bench : Workbench) (deed : Deed) :
    (bench.perform deed).program.mode = deed.mode?.getD bench.program.mode := by
  cases set : deed.mode? with
  | none => exact (perform_sameTarget bench set).mode
  | some mode =>
      cases deed with
      | configure filename mode indent verbose => exact Option.some.inj set
      | _ => contradiction

theorem run_registers (bench : Workbench) (deeds : List Deed) :
    (bench.run deeds).program.registers = bench.program.registers := by
  unfold run
  induction deeds generalizing bench with
  | nil => rfl
  | cons deed rest induction =>
      rw [List.foldl_cons, induction, perform_registers]

/-- The mode is the one that was set last. -/
theorem run_mode (bench : Workbench) (deeds : List Deed) :
    (bench.run deeds).program.mode =
      ((deeds.filterMap Deed.mode?).getLast?).getD bench.program.mode := by
  unfold run
  induction deeds generalizing bench with
  | nil => rfl
  | cons deed rest induction =>
      rw [List.foldl_cons, induction, perform_mode]
      cases set : deed.mode? with
      | none => simp [set]
      | some mode =>
          -- A mode that is set here counts only if none is set later.
          cases last : (rest.filterMap Deed.mode?).getLast? with
          | none => simp [set, List.getLast?_cons, last]
          | some later => simp [set, List.getLast?_cons, last]

end Workbench

/-! ## Registers of the mode -/

namespace Program

/-- The registers of a program are those of its mode, and it has none exactly if
its mode is not supported. -/
structure Concordant (program : Program) : Prop where
  absent : program.registers = none ↔ program.mode ∉ Mode.all
  mode : ∀ registers, program.registers = some registers → registers.mode = program.mode

/-- With the registers of a mode, a program has to be in that mode, or both
modes have no registers. -/
theorem concordant_iff {program : Program} {serial : Nat} {first : Mode}
    (held : program.registers = RegisterSet.ofMode? serial first) :
    program.Concordant ↔
      program.mode = first ∨ program.mode ∉ Mode.all ∧ first ∉ Mode.all := by
  cases present : RegisterSet.ofMode? serial first with
  | none =>
      have unsupported := (RegisterSet.ofMode?_eq_none_iff serial first).mp present
      rw [present] at held
      constructor
      · intro concordant
        exact .inr ⟨concordant.absent.mp held, unsupported⟩
      · intro modes
        have absent : program.mode ∉ Mode.all := by
          rcases modes with same | ⟨other, _⟩
          · rwa [same]
          · exact other
        exact ⟨iff_of_true held absent, by simp [held]⟩
  | some registers =>
      have mode := RegisterSet.mode_of_ofMode? present
      have supported := RegisterSet.mem_all_of_ofMode? present
      rw [present] at held
      constructor
      · intro concordant
        exact .inl ((concordant.mode registers held).symm.trans mode)
      · rintro (same | ⟨_, unsupported⟩)
        · refine ⟨iff_of_false (by simp [held]) (by simpa [same] using supported), ?_⟩
          intro other found
          rw [← Option.some.inj (held.symm.trans found), mode, same]
        · exact absurd supported unsupported

/-- What scripts and disassembly take for the mode of a program is the mode of
the registers: it is what the constant of a script stands for, and machine code
is read in it. -/
structure Agrees (program : Program) (registers : RegisterSet) : Prop where
  constant : ∀ host : Script.Host,
    Script.Host.find? (host.bindings registers program.mode) Script.Host.modeName =
      some (.mode registers.mode)
  reading : ∀ (decoder : InstructionDecoder) (kinds : KindTable) (code : List UInt8),
    Disassembly.runWith decoder kinds program code =
      Disassembly.runWith (fun _ => decoder registers.mode) kinds program code

end Program

namespace Disassembly

/-- A walk reads all of its bytes in one mode. -/
theorem walk_mode (decoder : InstructionDecoder) (kinds : KindTable) (registers : RegisterSet)
    (fuel : Nat) (program : Program) (offset : Nat) (bytes : List UInt8) (log : List String) :
    walk decoder kinds registers fuel program offset bytes log =
      walk (fun _ => decoder program.mode) kinds registers fuel program offset bytes log := by
  induction fuel generalizing program offset bytes log with
  | zero => rfl
  | succ fuel induction =>
      cases bytes with
      | nil => rfl
      | cons byte rest =>
          have alike : next (fun _ => decoder program.mode) program.mode (byte :: rest) =
              next decoder program.mode (byte :: rest) := rfl
          rw [walk, walk, alike]
          cases next decoder program.mode (byte :: rest) with
          | error cause => rfl
          | ok instruction =>
              dsimp only
              -- The program goes on with one more instruction, in the same mode.
              rw [induction, Program.append_mode]

theorem runWith_mode (decoder : InstructionDecoder) (kinds : KindTable) (program : Program)
    (code : List UInt8) :
    runWith decoder kinds program code =
      runWith (fun _ => decoder program.mode) kinds program code := by
  unfold runWith
  cases program.registers with
  | none => rfl
  | some registers => exact walk_mode decoder kinds registers code.length program 0 code []

end Disassembly

theorem Program.agrees_iff (program : Program) (registers : RegisterSet) :
    program.Agrees registers ↔ registers.mode = program.mode := by
  constructor
  · intro agrees
    have constant := agrees.constant ⟨.standard, false⟩
    rw [Script.Host.find?_bindings, if_pos rfl] at constant
    simpa using constant.symm
  · intro same
    refine ⟨fun host => ?_, fun decoder kinds code => ?_⟩
    · rw [Script.Host.find?_bindings, if_pos rfl, same]
    · rw [same]
      exact Disassembly.runWith_mode decoder kinds program code

/-- Whatever is done at a workbench, the registers of the program stay those of
the mode that it was made in, and the mode is the one that was set last.  The
registers are those of the mode exactly if it is the first one again, or if
neither of the two is supported.  Scripts and disassembly agree with the
registers that there are exactly in the first mode. -/
theorem Workbench.run_concordant_iff (serial : Nat) (filename : String) (mode : Mode)
    (deeds : List Deed) :
    let program := ((Workbench.new serial filename mode).run deeds).program
    program.registers = RegisterSet.ofMode? serial mode ∧
    program.mode = ((deeds.filterMap Deed.mode?).getLast?).getD mode ∧
    (program.Concordant ↔
      program.mode = mode ∨ program.mode ∉ Mode.all ∧ mode ∉ Mode.all) ∧
    ((∃ registers, program.registers = some registers ∧ program.Agrees registers) ↔
      program.mode = mode ∧ mode ∈ Mode.all) := by
  intro program
  have held : program.registers = RegisterSet.ofMode? serial mode :=
    run_registers (Workbench.new serial filename mode) deeds
  refine ⟨held, run_mode _ deeds, Program.concordant_iff held, ?_⟩
  constructor
  · rintro ⟨registers, present, agrees⟩
    have found := held.symm.trans present
    have same := (Program.agrees_iff program registers).mp agrees
    exact ⟨same.symm.trans (RegisterSet.mode_of_ofMode? found),
      RegisterSet.mem_all_of_ofMode? found⟩
  · rintro ⟨same, supported⟩
    obtain ⟨_, listed, _, _, found⟩ := RegisterSet.exists_ofMode? supported serial
    refine ⟨_, held.trans found, (Program.agrees_iff program _).mpr ?_⟩
    rw [RegisterSet.mode_of_ofMode? found, same]

/-- A program that was made in the 16-bit mode and set to the 64-bit mode has
registers of 16 bits.  A script for it cannot name `RAX`, though the mode that it
is told has this register. -/
theorem Workbench.run_discordant_wider :
    let program := ((Workbench.new 0 "boot.asm" .bits16).run
      [.configure "boot.asm" .bits64 "" false]).program
    program.mode = .bits64 ∧
    (∃ registers, program.registers = some registers ∧ registers.mode = .bits16 ∧
      ¬ program.Agrees registers) ∧
    ¬ program.Concordant ∧
    (Script.exec ⟨.standard, false⟩ program "boot.star" "push(RAX)\n").error?.map
      Script.ScriptError.message = some "1:6: undefined: RAX" ∧
    (RegisterSet.ofMode? 0 program.mode).any (fun registers => registers.contains "RAX") =
      true := by
  intro program
  obtain ⟨_, listed, _, _, found⟩ :=
    RegisterSet.exists_ofMode? (by decide : Mode.bits16 ∈ Mode.all) 0
  have mode := RegisterSet.mode_of_ofMode? found
  refine ⟨rfl, ⟨_, found, mode, ?_⟩, ?_, ?_, ?_⟩
  · rw [Program.agrees_iff, mode]
    decide
  · intro concordant
    have same := concordant.mode _ found
    rw [mode] at same
    exact absurd same (by decide)
  · decide +kernel
  · decide +kernel

end AsmListing
