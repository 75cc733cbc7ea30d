import AsmListing.Disassembly
import AsmListing.Proofs.Machine.Length
import AsmListing.Proofs.Program.Growth

/-!
# Disassembly tiles machine code

A walk over machine code cuts it into instructions that lie side by side, from
the first byte up to the byte where it stops.  It stops at the end of the code
or at the first place where no instruction can be decoded, and it has appended
one mnemonic for each instruction before that place.
-/

namespace AsmListing

/-- A decoder is bounded if an instruction has at least one byte, and no more
bytes than there are. -/
def InstructionDecoder.Bounded (decoder : InstructionDecoder) : Prop :=
  ∀ mode bytes instruction, decoder mode bytes = .ok (some instruction) →
    1 ≤ instruction.length ∧ instruction.length ≤ bytes.length

/-- A decoder fails at the front of a text of bytes if it reports the cause
itself, or if it finds a bare leading byte, which is a truncated
instruction. -/
def InstructionDecoder.Fails (decoder : InstructionDecoder) (mode : Mode)
    (bytes : List UInt8) (cause : DecodeError) : Prop :=
  decoder mode bytes = .error cause ∨
    decoder mode bytes = .ok none ∧ cause = .truncated

namespace Disassembly

section Next

variable {decoder : InstructionDecoder} {mode : Mode} {bytes : List UInt8}

theorem next_eq_ok {instruction : MachineInstruction}
    (decoded : next decoder mode bytes = .ok instruction) :
    decoder mode bytes = .ok (some instruction) := by
  unfold next at decoded
  split at decoded
  · contradiction
  · contradiction
  · rename_i found result
    rw [result, Except.ok.inj decoded]

theorem next_eq_error {cause : DecodeError}
    (failed : next decoder mode bytes = .error cause) :
    decoder.Fails mode bytes cause := by
  unfold next at failed
  split at failed
  · rename_i reported result
    exact .inl (by rw [result, Except.error.inj failed])
  · rename_i result
    exact .inr ⟨result, (Except.error.inj failed).symm⟩
  · contradiction

end Next

/-- Instructions that lie side by side in machine code, from one offset to
another.  The offsets are those at which the instructions start and, last,
the one at which they stop. -/
structure Tiling (decoder : InstructionDecoder) (mode : Mode) (code : List UInt8)
    (start stop : Nat) (instructions : List MachineInstruction) (offsets : Nat → Nat) :
    Prop where
  starts : offsets 0 = start
  stops : offsets instructions.length = stop
  decodes : ∀ (index : Nat) (inside : index < instructions.length),
    decoder mode (code.drop (offsets index)) = .ok (some instructions[index])
  advances : ∀ (index : Nat) (inside : index < instructions.length),
    offsets (index + 1) = offsets index + instructions[index].length
  increases : ∀ index < instructions.length, offsets index < offsets (index + 1)

namespace Tiling

variable {decoder : InstructionDecoder} {mode : Mode} {code : List UInt8}

theorem nil (offset : Nat) : Tiling decoder mode code offset offset [] fun _ => offset where
  starts := rfl
  stops := rfl
  decodes := by simp
  advances := by simp
  increases := by simp

/-- One more instruction in front of a tiling. -/
theorem cons {start stop : Nat} {instruction : MachineInstruction}
    {rest : List MachineInstruction} {offsets : Nat → Nat}
    (decoded : decoder mode (code.drop start) = .ok (some instruction))
    (positive : 1 ≤ instruction.length)
    (tiling : Tiling decoder mode code (start + instruction.length) stop rest offsets) :
    Tiling decoder mode code start stop (instruction :: rest)
      (fun index => if index = 0 then start else offsets (index - 1)) where
  starts := by simp
  stops := by simpa using tiling.stops
  decodes := by
    intro index inside
    cases index with
    | zero => simpa using decoded
    | succ index => simpa using tiling.decodes index (by simpa using inside)
  advances := by
    intro index inside
    cases index with
    | zero => simpa using tiling.starts
    | succ index => simpa using tiling.advances index (by simpa using inside)
  increases := by
    intro index inside
    cases index with
    | zero =>
        have started : offsets 0 = start + instruction.length := tiling.starts
        have later : start < offsets 0 := by omega
        simpa using later
    | succ index => simpa using tiling.increases index (by simpa using inside)

end Tiling

/-- What a walk over machine code from an offset on leaves behind. -/
structure Walked (decoder : InstructionDecoder) (kinds : KindTable) (registers : RegisterSet)
    (before : Program) (code : List UInt8) (start : Nat) (outcome : Outcome) : Prop where
  tiles : ∃ instructions offsets,
    Tiling decoder before.mode code start outcome.consumed instructions offsets ∧
      before.Grown (instructions.map (mnemonic kinds registers)) outcome.program
  indent : outcome.program.indent = before.indent
  ends : outcome.error? = none ∧ outcome.consumed = code.length ∨
    outcome.consumed < code.length ∧ ∃ cause,
      outcome.error? = some (.decode outcome.consumed cause) ∧
        decoder.Fails before.mode (code.drop outcome.consumed) cause

section Walk

variable {decoder : InstructionDecoder} {kinds : KindTable} {registers : RegisterSet}

/-- An instruction that was walked over comes before all that follow. -/
theorem Walked.cons {before : Program} {code : List UInt8} {start : Nat} {outcome : Outcome}
    {instruction : MachineInstruction}
    (decoded : decoder before.mode (code.drop start) = .ok (some instruction))
    (positive : 1 ≤ instruction.length)
    (walked : Walked decoder kinds registers
      (before.append (mnemonic kinds registers instruction)) code
      (start + instruction.length) outcome) :
    Walked decoder kinds registers before code start outcome := by
  obtain ⟨instructions, offsets, tiling, grown⟩ := walked.tiles
  have indent := walked.indent
  have ends := walked.ends
  rw [Program.append_mode] at tiling ends
  rw [Program.append_indent] at indent
  refine ⟨⟨instruction :: instructions, _, tiling.cons decoded positive, ?_⟩, indent, ends⟩
  exact (Program.Grown.append before _).trans grown

/-- A walk with as much fuel as there are bytes left. -/
theorem walk_walked (bounded : decoder.Bounded) (code : List UInt8) (fuel : Nat)
    (program : Program) (offset : Nat) (log : List String)
    (inside : offset ≤ code.length) (enough : (code.drop offset).length ≤ fuel) :
    Walked decoder kinds registers program code offset
      (walk decoder kinds registers fuel program offset (code.drop offset) log) := by
  induction fuel generalizing program offset log with
  | zero =>
      have atEnd : offset = code.length := by
        rw [List.length_drop] at enough
        omega
      exact ⟨⟨[], _, .nil offset, .refl program⟩, rfl, .inl ⟨rfl, atEnd⟩⟩
  | succ fuel induction =>
      cases left : code.drop offset with
      | nil =>
          have atEnd : offset = code.length := by
            have nothing := List.drop_eq_nil_iff.mp left
            omega
          exact ⟨⟨[], _, .nil offset, .refl program⟩, rfl, .inl ⟨rfl, atEnd⟩⟩
      | cons byte rest =>
          have inCode : offset < code.length := by
            have length := congrArg List.length left
            rw [List.length_drop, List.length_cons] at length
            omega
          unfold walk
          split
          · rename_i cause failed
            have fails := next_eq_error failed
            rw [← left] at fails
            exact ⟨⟨[], _, .nil offset, .refl program⟩, rfl,
              .inr ⟨inCode, cause, rfl, fails⟩⟩
          · rename_i instruction found
            have decoded := next_eq_ok found
            rw [← left] at decoded
            obtain ⟨positive, fits⟩ := bounded _ _ _ decoded
            rw [List.length_drop] at fits enough
            rw [← left, List.drop_drop]
            apply Walked.cons decoded positive
            apply induction
            · omega
            · rw [List.length_drop]
              omega

/-- Fuel beyond the number of bytes makes no difference: the walk has stopped
before it runs out. -/
theorem walk_fuel (bounded : decoder.Bounded) (program : Program) (offset : Nat)
    (bytes : List UInt8) (log : List String) (fuel more : Nat)
    (enough : bytes.length ≤ fuel) (enoughMore : bytes.length ≤ more) :
    walk decoder kinds registers fuel program offset bytes log =
      walk decoder kinds registers more program offset bytes log := by
  induction fuel generalizing program offset bytes log more with
  | zero =>
      have empty := List.eq_nil_of_length_eq_zero (Nat.le_zero.mp enough)
      subst empty
      cases more <;> rfl
  | succ fuel induction =>
      cases bytes with
      | nil => cases more <;> rfl
      | cons byte rest =>
          cases more with
          | zero => simp at enoughMore
          | succ more =>
              rw [walk, walk]
              cases found : next decoder program.mode (byte :: rest) with
              | error cause => rfl
              | ok instruction =>
                  have positive := (bounded _ _ _ (next_eq_ok found)).1
                  rw [List.length_cons] at enough enoughMore
                  apply induction <;>
                    · rw [List.length_drop, List.length_cons]
                      omega

end Walk

/-- Disassembly with a bounded decoder comes to an end, and tiles the code up
to where it stops.  Behind the old instructions the program has one mnemonic
for each tile, and there is an error exactly if some of the code is left. -/
theorem runWith_tiles (decoder : InstructionDecoder) (bounded : decoder.Bounded)
    (kinds : KindTable) (program : Program) (registers : RegisterSet)
    (present : program.registers = some registers) (code : List UInt8) :
    let outcome := runWith decoder kinds program code
    (∀ fuel, code.length ≤ fuel →
      walk decoder kinds registers fuel program 0 code [] = outcome) ∧
    (∃ instructions offsets,
      Tiling decoder program.mode code 0 outcome.consumed instructions offsets ∧
      program.Grown (instructions.map (mnemonic kinds registers)) outcome.program ∧
      outcome.program.mnemonics =
        program.mnemonics ++ instructions.map (mnemonic kinds registers)) ∧
    (outcome.error? = none ↔ outcome.consumed = code.length) ∧
    (outcome.consumed ≠ code.length →
      outcome.consumed < code.length ∧ ∃ cause,
        outcome.error? = some (.decode outcome.consumed cause) ∧
          decoder.Fails program.mode (code.drop outcome.consumed) cause) := by
  have ran : runWith decoder kinds program code =
      walk decoder kinds registers code.length program 0 code [] := by
    rw [runWith, present]
  have walked : Walked decoder kinds registers program code 0
      (runWith decoder kinds program code) := by
    rw [ran]
    exact walk_walked bounded code code.length program 0 [] (Nat.zero_le _) (by simp)
  obtain ⟨instructions, offsets, tiling, grown⟩ := walked.tiles
  refine ⟨?_, ⟨instructions, offsets, tiling, grown, grown.mnemonics⟩, ?_, ?_⟩
  · intro fuel enough
    rw [ran]
    exact walk_fuel bounded program 0 code [] fuel code.length enough (Nat.le_refl _)
  · rcases walked.ends with ⟨clean, all⟩ | ⟨left, cause, error, _⟩
    · simp [clean, all]
    · simp [error, Nat.ne_of_lt left]
  · intro unfinished
    rcases walked.ends with ⟨_, all⟩ | stopped
    · exact (unfinished all).elim
    · exact stopped

theorem decode_bounded : InstructionDecoder.Bounded Machine.decode := by
  intro mode bytes instruction decoded
  have bounds := Machine.decode_length decoded
  omega

/-- One byte of `NOP` and a bare leading byte behind it. -/
theorem runWith_tiles_nop_leading :
    let program := Program.new 0 "" .bits64
    let outcome := runWith Machine.decode .standard program [0x90, 0x66]
    ∃ registers, program.registers = some registers ∧
      outcome.consumed = 1 ∧ outcome.error? = some (.decode 1 .truncated) ∧
      ∃ instructions offsets,
        Tiling Machine.decode program.mode [0x90, 0x66] 0 1 instructions offsets ∧
        program.Grown (instructions.map (mnemonic .standard registers)) outcome.program := by
  obtain ⟨registers, present⟩ : ∃ registers,
      (Program.new 0 "" .bits64).registers = some registers :=
    Option.isSome_iff_exists.mp (by decide +kernel)
  obtain ⟨_, ⟨instructions, offsets, tiling, grown, _⟩, _⟩ :=
    runWith_tiles Machine.decode decode_bounded .standard (Program.new 0 "" .bits64) registers
      present [0x90, 0x66]
  have consumed : (runWith Machine.decode .standard (Program.new 0 "" .bits64)
      [0x90, 0x66]).consumed = 1 := by
    decide +kernel
  have error : (runWith Machine.decode .standard (Program.new 0 "" .bits64)
      [0x90, 0x66]).error? = some (.decode 1 .truncated) := by
    decide +kernel
  rw [consumed] at tiling
  exact ⟨registers, present, consumed, error, instructions, offsets, tiling, grown⟩

end Disassembly

end AsmListing
