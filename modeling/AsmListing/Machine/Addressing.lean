import AsmListing.Machine.Leading

/-!
# Addressing bytes

The addressing byte behind an operation names a register and a register or
memory reference.  A scale byte and a displacement may follow it.
-/

namespace AsmListing

namespace Machine

/-- The reasons for which reading an instruction stops early. -/
inductive Stop where
  | short
  | unknown
deriving DecidableEq, Repr

/-- The number that bytes hold, the lowest byte first. -/
def littleEndian : List UInt8 → Nat
  | [] => 0
  | byte :: rest => byte.toNat + 256 * littleEndian rest

def readUnsigned (count : Nat) (bytes : List UInt8) : Except Stop (Nat × List UInt8) :=
  if bytes.length < count then .error .short
  else .ok (littleEndian (bytes.take count), bytes.drop count)

/-- The signed reading of an unsigned number of the given count of bytes. -/
def signed (count value : Nat) : Int :=
  if value < Nat.pow 2 (8 * count - 1) then value else (value : Int) - Nat.pow 2 (8 * count)

def readSigned (count : Nat) (bytes : List UInt8) : Except Stop (Int × List UInt8) :=
  (readUnsigned count bytes).map fun (value, rest) => (signed count value, rest)

/-- What the addressing bytes say: the register field, the other register,
and the memory reference if there is one.  The last part has the bits of the
extension byte that were needed. -/
structure Addressing where
  register : Nat
  other : Nat
  low : Nat
  memory? : Option MemoryReference
  extensionUsed : UInt8
deriving DecidableEq, Repr

/-- The bases and indices of 16-bit addresses. -/
def wordBase (other : Nat) : Nat × Option Nat :=
  match other with
  | 0 => (3, some 6)
  | 1 => (3, some 7)
  | 2 => (5, some 6)
  | 3 => (5, some 7)
  | 4 => (6, none)
  | 5 => (7, none)
  | 6 => (5, none)
  | _ => (3, none)

/-- Reads a displacement: of the given wide size, of one byte, or none. -/
def readDisplacement (wide narrow : Bool) (size : Nat) (bytes : List UInt8) :
    Except Stop (Int × List UInt8) :=
  if wide then (readUnsigned size bytes).map fun (value, rest) => ((value : Int), rest)
  else if narrow then readSigned 1 bytes
  else .ok (0, bytes)

/-- Reads the rest of a 16-bit address. -/
def readWordAddress (segment : MachineRegister) (form other : Nat) (bytes : List UInt8) :
    Except Stop (MemoryReference × List UInt8) := do
  let direct := form == 0 && other == 6
  let (displacement, rest) ← readDisplacement (direct || form == 2) (form == 1) 2 bytes
  let (base, index?) := wordBase other
  let baseRegister := if direct then .absent else .general 16 base
  match index? with
  | some index => .ok (⟨segment, baseRegister, 1, .general 16 index, displacement⟩, rest)
  | none => .ok (⟨segment, baseRegister, 0, .absent, displacement⟩, rest)

/-- The bit of the extension byte, moved to the place that widens a register
number, and the bit itself. -/
def extensionBit (extension bit : UInt8) : Nat × UInt8 :=
  if extension &&& bit != 0 then (8, bit) else (0, 0)

def readScaledAddress (leading : Leading) (form : Nat) (bytes : List UInt8) :
    Except Stop (MemoryReference × UInt8 × List UInt8) := do
  let (scaleByte, rest) ← readUnsigned 1 bytes
  let (baseHigh, baseUsed) := extensionBit leading.extension 1
  let (indexHigh, indexUsed) := extensionBit leading.extension 2
  let base := scaleByte % 8 + baseHigh
  let index := scaleByte / 8 % 8 + indexHigh
  let noBase := scaleByte % 8 == 5 && form == 0
  let (displacement, rest) ← readDisplacement (noBase || form == 2) (form == 1) 4 rest
  let baseRegister := if noBase then .absent else .general leading.addressSize base
  let indexRegister := if index == 4 then .absent else .general leading.addressSize index
  .ok (⟨leading.segmentRegister, baseRegister, Nat.pow 2 (scaleByte / 64), indexRegister,
    displacement⟩, baseUsed ||| indexUsed, rest)

/-- Reads an address with a base register only, or a bare displacement, which
counts from the next instruction in 64-bit code. -/
def readPlainAddress (leading : Leading) (form other : Nat) (bytes : List UInt8) :
    Except Stop (MemoryReference × List UInt8) := do
  let direct := form == 0 && other % 8 == 5
  let (displacement, rest) ← readDisplacement (direct || form == 2) (form == 1) 4 bytes
  let base :=
    if direct then
      if leading.mode == 64 then
        if leading.addressSize == 32 then MachineRegister.eip else .rip
      else .absent
    else .general leading.addressSize other
  .ok (⟨leading.segmentRegister, base, 0, .absent, displacement⟩, rest)

/-- Reads the addressing byte and what follows it. -/
def readAddressing (leading : Leading) (bytes : List UInt8) :
    Except Stop (Addressing × List UInt8) := do
  let (byte, rest) ← readUnsigned 1 bytes
  let form := byte / 64
  let (registerHigh, registerUsed) := extensionBit leading.extension 4
  let register := byte / 8 % 8 + registerHigh
  let low := byte % 8
  if leading.addressSize == 16 then
    if form == 3 then .ok (⟨register, low, low, none, registerUsed⟩, rest)
    else
      let (memory, rest) ← readWordAddress leading.segmentRegister form low rest
      .ok (⟨register, low, low, some memory, registerUsed⟩, rest)
  else if low == 4 && form != 3 then
    let (memory, used, rest) ← readScaledAddress leading form rest
    .ok (⟨register, low, low, some memory, registerUsed ||| used⟩, rest)
  else
    let (otherHigh, otherUsed) := extensionBit leading.extension 1
    let other := low + otherHigh
    let used := registerUsed ||| otherUsed
    if form == 3 then .ok (⟨register, other, low, none, used⟩, rest)
    else
      let (memory, rest) ← readPlainAddress leading form other rest
      .ok (⟨register, other, low, some memory, used⟩, rest)

end Machine

end AsmListing
