import AsmListing.Machine.Decode
import AsmListing.Program

/-!
# Disassembly

Disassembly walks over machine code, decodes one instruction after the other,
and appends each of them to a program.  It stops at the first instruction that
cannot be decoded, and what was appended before stays.
-/

namespace AsmListing

/-- The reasons for which disassembly stops. -/
inductive DisassemblyError where
  | noRegisters
  | decode (offset : Nat) (cause : DecodeError)
deriving DecidableEq, Repr

/-- An offset in hexadecimal, four digits at least. -/
def offsetText (offset : Nat) : String :=
  "0x" ++ String.ofList (Text.hexDigits 4 offset)

def DisassemblyError.message : DisassemblyError → String
  | .noRegisters => "architecture mode invalid"
  | .decode offset cause =>
      let place := offsetText offset
      let reason := cause.message
      s!"offset {place}: {reason}"

/-- A decoder of the instruction at the front of a text of bytes.  An empty
result is a bare leading byte. -/
abbrev InstructionDecoder :=
  Mode → List UInt8 → Except DecodeError (Option MachineInstruction)

namespace Disassembly

def operand (registers : RegisterSet) : MachineOperand → Datum
  | .register register =>
      match registers.machine? register with
      | some found => .register found
      | none => .text register.name
  | .immediate value => .integer .int64 value
  | .relative distance => .integer .int64 distance
  | .memory reference => .text reference.text

/-- The mnemonic of a decoded instruction.  If the kind of its name does not
take its operands, it is of the generic kind. -/
def mnemonic (kinds : KindTable) (registers : RegisterSet) (instruction : MachineInstruction) :
    Mnemonic :=
  let name := Text.lower instruction.name
  let operands := instruction.operands.map (operand registers)
  match Mnemonic.named kinds name operands with
  | .ok mnemonic => mnemonic
  | .error _ => .basic name operands

/-- The instruction at the front of a text of bytes.  A bare leading byte is a
truncated instruction. -/
def next (decoder : InstructionDecoder) (mode : Mode) (bytes : List UInt8) :
    Except DecodeError MachineInstruction :=
  match decoder mode bytes with
  | .error cause => .error cause
  | .ok none => .error .truncated
  | .ok (some instruction) => .ok instruction

/-- What a walk over machine code leaves behind. -/
structure Outcome where
  program : Program
  consumed : Nat
  error? : Option DisassemblyError
  log : List String

/-- Walks over the bytes behind an offset.  Every instruction takes at least
one byte, so the number of bytes is fuel enough. -/
def walk (decoder : InstructionDecoder) (kinds : KindTable) (registers : RegisterSet) :
    Nat → Program → Nat → List UInt8 → List String → Outcome
  | 0, program, offset, _, log => ⟨program, offset, none, log.reverse⟩
  | _ + 1, program, offset, [], log => ⟨program, offset, none, log.reverse⟩
  | fuel + 1, program, offset, byte :: rest, log =>
      match next decoder program.mode (byte :: rest) with
      | .error cause => ⟨program, offset, some (.decode offset cause), log.reverse⟩
      | .ok instruction =>
          let filename := program.filename
          let place := offsetText offset
          let shown := instruction.text
          let log := if program.verbose then s!"{filename}:{place}: {shown}" :: log else log
          walk decoder kinds registers fuel
            (program.append (mnemonic kinds registers instruction))
            (offset + instruction.length) ((byte :: rest).drop instruction.length) log

/-- Appends the instructions of machine code to a program, with a given
decoder. -/
def runWith (decoder : InstructionDecoder) (kinds : KindTable) (program : Program)
    (code : List UInt8) : Outcome :=
  match program.registers with
  | none => ⟨program, 0, some .noRegisters, []⟩
  | some registers => walk decoder kinds registers code.length program 0 code []

/-- Appends the instructions of machine code to a program. -/
def run (kinds : KindTable) (program : Program) (code : List UInt8) : Outcome :=
  runWith Machine.decode kinds program code

end Disassembly

end AsmListing
