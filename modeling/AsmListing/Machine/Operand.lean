import AsmListing.Machine.Register

/-!
# Operands of machine instructions

An operand is a register, a constant, a distance to jump, or a reference to
memory.
-/

namespace AsmListing

/-- A reference to memory: a base register, an index register times a scale,
and a displacement. -/
structure MemoryReference where
  segment : MachineRegister
  base : MachineRegister
  scale : Nat
  index : MachineRegister
  displacement : Int
deriving DecidableEq, Repr, Inhabited

inductive MachineOperand where
  | register (register : MachineRegister)
  | immediate (value : Int)
  | relative (distance : Int)
  | memory (reference : MemoryReference)
deriving DecidableEq, Repr

/-- An integer in hexadecimal, with a sign in front of the base mark. -/
def hexText (showPlus : Bool) (value : Int) : String :=
  let sign := if value < 0 then "-" else if showPlus then "+" else ""
  sign ++ "0x" ++ String.ofList (Nat.toDigits 16 value.natAbs)

namespace MemoryReference

/-- The text of a memory reference.  A scale of zero means that there is no
index, and the displacement is left out when it is zero and something else
is shown.  The segment is never shown. -/
def text (reference : MemoryReference) : String :=
  let hasBase := reference.base != .absent
  let hasIndex := reference.scale != 0
  let base := if hasBase then reference.base.name else ""
  let plus := if hasBase && hasIndex then "+" else ""
  let scale := if 1 < reference.scale then toString reference.scale ++ "*" else ""
  let index := if hasIndex then reference.index.name else ""
  let displacement :=
    if reference.displacement != 0 || !(hasBase || hasIndex) then
      hexText true reference.displacement
    else ""
  "[" ++ base ++ plus ++ scale ++ index ++ displacement ++ "]"

end MemoryReference

namespace MachineOperand

def text : MachineOperand → String
  | register named => named.name
  | immediate value => hexText false value
  | relative distance => (if distance < 0 then "." else ".+") ++ toString distance
  | memory place => place.text

end MachineOperand

/-- A decoded machine instruction.  Operand slots behind an empty one do not
count, and marks are the leading bytes that a full text shows. -/
structure MachineInstruction where
  name : String
  slots : List (Option MachineOperand)
  length : Nat
  marks : List String
deriving DecidableEq, Repr

namespace MachineInstruction

/-- Slots up to the first empty one. -/
def leading : List (Option MachineOperand) → List MachineOperand
  | some operand :: rest => operand :: leading rest
  | _ => []

def operands (instruction : MachineInstruction) : List MachineOperand :=
  leading instruction.slots

def text (instruction : MachineInstruction) : String :=
  let head := String.join (instruction.marks.map (· ++ " ")) ++ instruction.name
  match instruction.operands with
  | [] => head
  | operands => head ++ " " ++ ", ".intercalate (operands.map MachineOperand.text)

end MachineInstruction

inductive DecodeError where
  | truncated
  | unrecognized
  | invalidMode
deriving DecidableEq, Repr

def DecodeError.message : DecodeError → String
  | .truncated => "truncated instruction"
  | .unrecognized => "unrecognized instruction"
  | .invalidMode => "invalid x86 mode in Decode"

end AsmListing
