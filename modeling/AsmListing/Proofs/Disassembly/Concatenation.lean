import AsmListing.Proofs.Disassembly.Rendering
import AsmListing.Proofs.Disassembly.Tiling

/-!
# Disassembly in pieces

Machine code that is cut between two instructions can be disassembled piece by
piece.  The pieces append what the whole code does, and a failure in a later
piece is the failure of the whole code, counted from the start of that piece.
This needs a decoder that looks at the bytes of an instruction only.
-/

namespace AsmListing

/-- A decoder is decided by the bytes of an instruction: once it finds one, it
finds the same whatever stands behind the bytes of that instruction. -/
def InstructionDecoder.Decided (decoder : InstructionDecoder) : Prop :=
  ∀ mode bytes instruction more, decoder mode bytes = .ok (some instruction) →
    decoder mode (bytes.take instruction.length ++ more) = .ok (some instruction)

/-- The same failure in code that starts a distance earlier. -/
def DisassemblyError.later (distance : Nat) : DisassemblyError → DisassemblyError
  | .noRegisters => .noRegisters
  | .decode offset cause => .decode (distance + offset) cause

theorem DisassemblyError.map_later_eq_some_decode_iff {distance offset : Nat}
    {cause : DecodeError} {error? : Option DisassemblyError} :
    error?.map (later distance) = some (.decode (distance + offset) cause) ↔
      error? = some (.decode offset cause) := by
  cases error? with
  | none => simp
  | some error => cases error <;> simp [later]

namespace Disassembly

section Walk

variable {decoder : InstructionDecoder} {kinds : KindTable} {registers : RegisterSet}

/-- An instruction is found in front of more bytes as it is without them. -/
theorem next_append (decided : decoder.Decided) {mode : Mode} {bytes : List UInt8}
    {instruction : MachineInstruction} (found : next decoder mode bytes = .ok instruction)
    (more : List UInt8) :
    next decoder mode (bytes ++ more) = .ok instruction := by
  have decoded := next_eq_ok found
  have split : bytes ++ more =
      bytes.take instruction.length ++ (bytes.drop instruction.length ++ more) := by
    rw [← List.append_assoc, List.take_append_drop]
  rw [next, split, decided mode bytes instruction _ decoded]

@[simp] theorem walk_nil (fuel : Nat) (program : Program) (offset : Nat) (log : List String) :
    walk decoder kinds registers fuel program offset [] log =
      ⟨program, offset, none, log.reverse⟩ := by
  cases fuel <;> rfl

/-- A walk that comes to the end of its code goes on with the code behind
it. -/
theorem walk_append (bounded : decoder.Bounded) (decided : decoder.Decided)
    (fuel : Nat) (program : Program) (offset : Nat) (front back : List UInt8)
    (log : List String) (enough : (front ++ back).length ≤ fuel)
    (complete : (walk decoder kinds registers fuel program offset front log).error? = none) :
    let first := walk decoder kinds registers fuel program offset front log
    walk decoder kinds registers fuel program offset (front ++ back) log =
      walk decoder kinds registers fuel first.program (offset + front.length) back
        first.log.reverse := by
  induction fuel generalizing program offset front log with
  | zero =>
      obtain ⟨rfl, rfl⟩ := List.append_eq_nil_iff.mp
        (List.eq_nil_of_length_eq_zero (Nat.le_zero.mp enough))
      simp
  | succ fuel induction =>
      cases front with
      | nil => simp
      | cons byte rest =>
          cases found : next decoder program.mode (byte :: rest) with
          | error cause => simp [walk, found] at complete
          | ok instruction =>
              obtain ⟨positive, fits⟩ := bounded _ _ _ (next_eq_ok found)
              have foundMore := next_append decided found back
              rw [List.length_append] at enough
              have dropped : (byte :: (rest ++ back)).drop instruction.length =
                  (byte :: rest).drop instruction.length ++ back := by
                rw [← List.cons_append, List.drop_append_of_le_length fits]
              have reached : offset + instruction.length +
                  ((byte :: rest).drop instruction.length).length =
                    offset + (byte :: rest).length := by
                rw [List.length_drop]
                omega
              rw [List.cons_append] at foundMore
              simp only [walk, found] at complete
              simp only [List.cons_append, walk, found, foundMore, dropped]
              rw [induction _ _ _ _ (by rw [List.length_append, List.length_drop]; omega) complete,
                reached]
              apply walk_fuel bounded
              all_goals
                rw [List.length_cons] at enough
                omega

/-- Where a walk starts to count shows in the offsets only. -/
theorem walk_later (distance fuel : Nat) (program : Program) (offset : Nat)
    (bytes : List UInt8) (log other : List String) :
    let near := walk decoder kinds registers fuel program offset bytes log
    let far := walk decoder kinds registers fuel program (distance + offset) bytes other
    far.program = near.program ∧ far.consumed = distance + near.consumed ∧
      far.error? = near.error?.map (.later distance) := by
  induction fuel generalizing program offset bytes log other with
  | zero => exact ⟨rfl, rfl, rfl⟩
  | succ fuel induction =>
      cases bytes with
      | nil => exact ⟨rfl, rfl, rfl⟩
      | cons byte rest =>
          simp only [walk]
          cases found : next decoder program.mode (byte :: rest) with
          | error cause => exact ⟨rfl, rfl, rfl⟩
          | ok instruction =>
              simp only [Nat.add_assoc]
              exact induction _ _ _ _ _

end Walk

/-- Disassembly with a decoder that is decided by the bytes of an instruction
can be done in pieces.  If the front piece is disassembled in full, the whole
code does to the program what the pieces do one after the other.  It fails
exactly if the piece at the back does, for the same cause and at an offset that
is greater by the length of the front piece. -/
theorem runWith_append (decoder : InstructionDecoder) (bounded : decoder.Bounded)
    (decided : decoder.Decided) (kinds : KindTable) (program : Program)
    (front back : List UInt8)
    (complete : (runWith decoder kinds program front).error? = none) :
    let first := runWith decoder kinds program front
    let second := runWith decoder kinds first.program back
    let whole := runWith decoder kinds program (front ++ back)
    whole.program = second.program ∧
    whole.consumed = front.length + second.consumed ∧
    whole.error? = second.error?.map (.later front.length) ∧
    (whole.error? = none ↔ second.error? = none) ∧
    ∀ offset cause, whole.error? = some (.decode (front.length + offset) cause) ↔
      second.error? = some (.decode offset cause) := by
  intro first second whole
  cases present : program.registers with
  | none => simp [runWith, present] at complete
  | some registers =>
      let fuel := (front ++ back).length
      have enough : front.length ≤ fuel ∧ back.length ≤ fuel := by
        simp only [fuel, List.length_append]
        omega
      have firstEq : first = walk decoder kinds registers fuel program 0 front [] := by
        simp only [first, runWith, present]
        exact walk_fuel bounded program 0 front [] front.length fuel (Nat.le_refl _) enough.1
      have kept : first.program.registers = some registers := by
        obtain ⟨_, _, grown⟩ := runWith_grown decoder kinds program front
        exact grown.registers.trans present
      have secondEq : second = walk decoder kinds registers fuel first.program 0 back [] := by
        simp only [second, runWith, kept]
        exact walk_fuel bounded first.program 0 back [] back.length fuel (Nat.le_refl _) enough.2
      have wholeEq : whole = walk decoder kinds registers fuel first.program
          (front.length + 0) back first.log.reverse := by
        have complete : first.error? = none := complete
        rw [firstEq] at complete ⊢
        simp only [whole, runWith, present]
        rw [walk_append bounded decided fuel program 0 front back [] (Nat.le_refl _) complete,
          Nat.zero_add, Nat.add_zero]
      obtain ⟨sameProgram, laterCount, laterError⟩ := @walk_later decoder kinds registers
        front.length fuel first.program 0 back [] first.log.reverse
      rw [← wholeEq, ← secondEq] at sameProgram laterCount laterError
      refine ⟨sameProgram, laterCount, laterError, ?_, fun offset cause => ?_⟩
      · rw [laterError, Option.map_eq_none_iff]
      · rw [laterError, DisassemblyError.map_later_eq_some_decode_iff]

theorem decode_decided : InstructionDecoder.Decided Machine.decode := by
  intro mode bytes instruction more decoded
  obtain ⟨taken, rest, rfl, length, _, _, stable⟩ := Machine.decode_takes decoded
  rw [List.take_left' length]
  exact stable more

/-- A piece of one `NOP`, and a piece of a `PUSH` with a bare leading byte behind
it. -/
theorem runWith_append_nop_push :
    let program := Program.new 0 "" .bits64
    let first := runWith Machine.decode .standard program [0x90]
    let second := runWith Machine.decode .standard first.program [0x50, 0x66]
    let whole := runWith Machine.decode .standard program [0x90, 0x50, 0x66]
    first.error? = none ∧ second.consumed = 1 ∧
      second.error? = some (.decode 1 .truncated) ∧
      whole.program = second.program ∧ whole.consumed = 2 ∧
      whole.error? = some (.decode 2 .truncated) := by
  intro program first second whole
  have complete : first.error? = none := by decide +kernel
  have count : second.consumed = 1 := by decide +kernel
  have failed : second.error? = some (.decode 1 .truncated) := by decide +kernel
  obtain ⟨sameProgram, laterCount, laterError, _⟩ := runWith_append Machine.decode
    decode_bounded decode_decided .standard program [0x90] [0x50, 0x66] complete
  have counted : whole.consumed = 1 + second.consumed := laterCount
  have shifted : whole.error? = second.error?.map (DisassemblyError.later 1) := laterError
  refine ⟨complete, count, failed, sameProgram, ?_, ?_⟩
  · rw [counted, count]
  · rw [shifted, failed]
    rfl

end Disassembly

end AsmListing
