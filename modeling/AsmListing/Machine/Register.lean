import AsmListing.Register.Set

/-!
# Machine registers

Machine code names registers by numbers.  The numbers are grouped by width,
and each group follows the order in which instructions encode its registers.
A few machine names differ from the names in the register catalogs.
-/

namespace AsmListing

/-- A register of the machine, by number.  Zero is no register. -/
structure MachineRegister where
  number : Nat
deriving DecidableEq, Repr, Inhabited

namespace MachineRegister

/-- Names made of a stem, a number and an ending, for consecutive numbers. -/
def numbered (stem ending : String) (first count : Nat) : List String :=
  (List.range count).map fun index => s!"{stem}{first + index}{ending}"

/-- The names of the machine registers, from number one on. -/
def names : List String :=
  ["AL", "CL", "DL", "BL", "AH", "CH", "DH", "BH", "SPB", "BPB", "SIB", "DIB"] ++
    numbered "R" "B" 8 8 ++
    ["AX", "CX", "DX", "BX", "SP", "BP", "SI", "DI"] ++ numbered "R" "W" 8 8 ++
    ["EAX", "ECX", "EDX", "EBX", "ESP", "EBP", "ESI", "EDI"] ++ numbered "R" "L" 8 8 ++
    ["RAX", "RCX", "RDX", "RBX", "RSP", "RBP", "RSI", "RDI"] ++ numbered "R" "" 8 8 ++
    ["IP", "EIP", "RIP"] ++
    numbered "F" "" 0 8 ++ numbered "M" "" 0 8 ++ numbered "X" "" 0 16 ++
    ["ES", "CS", "SS", "DS", "FS", "GS"] ++
    ["GDTR", "IDTR", "LDTR", "MSW", "TASK"] ++
    numbered "CR" "" 0 16 ++ numbered "DR" "" 0 16 ++ numbered "TR" "" 0 8

/-- The name of a machine register.  A number without a name is shown as a
number. -/
def name (register : MachineRegister) : String :=
  let number := register.number
  let unnamed := s!"Reg({number})"
  match number with
  | 0 => unnamed
  | index + 1 => names[index]?.getD unnamed

/-- The name under which the register catalogs list a machine register.  The
low bytes of the pointer and index registers end in `L`, and the numbered
doublewords in `D`. -/
def catalogName (register : MachineRegister) : String :=
  let name := register.name
  if name == "SPB" then "SPL"
  else if name == "BPB" then "BPL"
  else if name == "SIB" then "SIL"
  else if name == "DIB" then "DIL"
  else
    match name.toList.reverse with
    | 'L' :: stem =>
        match stem.reverse with
        | 'R' :: digit :: rest =>
            if digit.isDigit then String.ofList ('R' :: digit :: rest ++ ['D']) else name
        | _ => name
    | _ => name

def absent : MachineRegister := ⟨0⟩

/-- The first byte register, of those with high bytes. -/
def al : MachineRegister := ⟨1⟩

def cl : MachineRegister := ⟨2⟩

/-- The first of the byte registers that replace the high bytes when an
extension byte is present. -/
def spb : MachineRegister := ⟨9⟩

def dx : MachineRegister := ⟨23⟩

/-- The 32-bit instruction pointer. -/
def eip : MachineRegister := ⟨70⟩

/-- The 64-bit instruction pointer. -/
def rip : MachineRegister := ⟨71⟩

/-- The general register of a width in bits with the given encoding. -/
def general (bits encoding : Nat) : MachineRegister :=
  match bits with
  | 16 => ⟨21 + encoding⟩
  | 32 => ⟨37 + encoding⟩
  | 64 => ⟨53 + encoding⟩
  | _ => ⟨1 + encoding⟩

def stack (encoding : Nat) : MachineRegister := ⟨72 + encoding⟩

def mmx (encoding : Nat) : MachineRegister := ⟨80 + encoding⟩

def xmm (encoding : Nat) : MachineRegister := ⟨88 + encoding⟩

def segment (encoding : Nat) : MachineRegister := ⟨104 + encoding⟩

def control (encoding : Nat) : MachineRegister := ⟨115 + encoding⟩

def debug (encoding : Nat) : MachineRegister := ⟨131 + encoding⟩

end MachineRegister

/-- The register of a set that a machine register stands for. -/
def RegisterSet.machine? (set : RegisterSet) (register : MachineRegister) : Option Register :=
  set.get? register.catalogName

end AsmListing
