import AsmListing.Machine.Operand

/-!
# Leading bytes of an instruction

An instruction may start with bytes that change how the rest is read: sizes
of operands and addresses, segments, repetition, locking, and in 64-bit code
the extension byte that widens register numbers.
-/

namespace AsmListing

namespace Machine

inductive LeadingRole where
  | lock
  | repetition
  | segment
  | operandSize
  | addressSize
  | extension
deriving DecidableEq, Repr

/-- A leading byte.  It is in force unless another of its role follows or it
means nothing in the mode, and it is hidden from the text of the instruction
once the operands tell the same. -/
structure LeadingByte where
  byte : UInt8
  role : LeadingRole
  label : String
  inForce : Bool
  hidden : Bool
deriving DecidableEq, Repr

/-- The leading bytes of an instruction and the sizes they lead to. -/
structure Leading where
  mode : Nat
  operandSize : Nat
  addressSize : Nat
  extension : UInt8
  bytes : List LeadingByte
deriving DecidableEq, Repr

/-- The most leading bytes that an instruction can have. -/
def leadingLimit : Nat := 14

def extensionLabel (byte : UInt8) : String :=
  if byte == 0x40 then "REX"
  else
    let letter (bit : UInt8) (text : String) : String := if byte &&& bit != 0 then text else ""
    "REX." ++ letter 8 "W" ++ letter 4 "R" ++ letter 2 "X" ++ letter 1 "B"

/-- The leading byte that a byte is in a mode, the extension byte apart. -/
def leadingByte? (mode : Nat) (byte : UInt8) : Option LeadingByte :=
  let segment (label : String) (inForce : Bool) : Option LeadingByte :=
    some ⟨byte, .segment, label, inForce, false⟩
  match byte.toNat with
  | 0xf0 => some ⟨byte, .lock, "LOCK", true, false⟩
  | 0xf2 => some ⟨byte, .repetition, "REPN", true, false⟩
  | 0xf3 => some ⟨byte, .repetition, "REP", true, false⟩
  | 0x26 => segment "ES" (mode != 64)
  | 0x2e => segment "CS" (mode != 64)
  | 0x36 => segment "SS" (mode != 64)
  | 0x3e => segment "DS" (mode != 64)
  | 0x64 => segment "FS" true
  | 0x65 => segment "GS" true
  | 0x66 => some ⟨byte, .operandSize, if mode == 16 then "DATA32" else "DATA16", true, false⟩
  | 0x67 => some ⟨byte, .addressSize, if mode == 32 then "ADDR16" else "ADDR32", true, false⟩
  | _ => none

namespace Leading

/-- The state before any leading byte. -/
def start (mode : Nat) : Leading where
  mode := mode
  operandSize := if mode == 16 then 16 else 32
  addressSize := mode
  extension := 0
  bytes := []

/-- Takes a byte of a role out of force. -/
def retire (role : LeadingRole) (bytes : List LeadingByte) : List LeadingByte :=
  bytes.map fun entry => if entry.role = role then { entry with inForce := false } else entry

def push (leading : Leading) (entry : LeadingByte) : Leading :=
  let bytes := if entry.inForce then retire entry.role leading.bytes else leading.bytes
  let leading := { leading with bytes := bytes ++ [entry] }
  match entry.role with
  | .operandSize => { leading with operandSize := if leading.mode == 16 then 32 else 16 }
  | .addressSize => { leading with addressSize := if leading.mode == 32 then 16 else 32 }
  | _ => leading

def extend (leading : Leading) (byte : UInt8) : Leading :=
  let wide := byte &&& 8 != 0
  { leading with
    extension := byte
    operandSize := if wide then 64 else leading.operandSize
    bytes := leading.bytes ++ [⟨byte, .extension, extensionLabel byte, true, false⟩] }

/-- The leading byte of a role that is in force. -/
def find? (leading : Leading) (role : LeadingRole) : Option LeadingByte :=
  leading.bytes.find? fun entry => entry.role = role && entry.inForce

def has (leading : Leading) (role : LeadingRole) : Bool :=
  (leading.find? role).isSome

def repetition? (leading : Leading) : Option UInt8 :=
  (leading.find? .repetition).map LeadingByte.byte

/-- The segment register that an override selects. -/
def segmentRegister (leading : Leading) : MachineRegister :=
  match (leading.find? .segment).map fun entry => entry.byte.toNat with
  | some 0x26 => .segment 0
  | some 0x2e => .segment 1
  | some 0x36 => .segment 2
  | some 0x3e => .segment 3
  | some 0x64 => .segment 4
  | some 0x65 => .segment 5
  | _ => .absent

/-- Changes the byte of a role that is in force. -/
def modify (leading : Leading) (role : LeadingRole) (change : LeadingByte → LeadingByte) :
    Leading :=
  { leading with bytes := leading.bytes.map fun entry =>
      if entry.role = role && entry.inForce then change entry else entry }

/-- Hides the byte of a role that is in force, because the operands tell the
same. -/
def hide (leading : Leading) (role : LeadingRole) : Leading :=
  leading.modify role fun entry => { entry with hidden := true }

/-- Shows the byte of a role that is in force. -/
def reveal (leading : Leading) (role : LeadingRole) : Leading :=
  leading.modify role fun entry => { entry with hidden := false }

/-- Gives another label to the last byte that passes a test. -/
def relabelLast (leading : Leading) (test : LeadingByte → Bool) (label : LeadingByte → String) :
    Leading :=
  let rec go : List LeadingByte → List LeadingByte
    | [] => []
    | entry :: rest =>
        if test entry then { entry with label := label entry, hidden := false } :: rest
        else entry :: go rest
  { leading with bytes := (go leading.bytes.reverse).reverse }

/-- The labels that the text of an instruction shows. -/
def marks (leading : Leading) : List String :=
  (leading.bytes.filter fun entry => !entry.hidden).map LeadingByte.label

/-- Reads leading bytes off the front of a text of bytes.  There is no result
if there are too many of them. -/
def read (leading : Leading) : List UInt8 → Option (Leading × List UInt8)
  | [] => some (leading, [])
  | byte :: rest =>
      match leadingByte? leading.mode byte with
      | none => some (leading, byte :: rest)
      | some entry =>
          if leading.bytes.length < leadingLimit then (leading.push entry).read rest
          else none

/-- Reads the extension byte, which stands right before the operation in
64-bit code. -/
def readExtension (leading : Leading) : List UInt8 → Option (Leading × List UInt8)
  | byte :: rest =>
      if leading.mode == 64 && byte &&& 0xf0 == 0x40 then
        if leading.bytes.length < leadingLimit then some (leading.extend byte, rest) else none
      else some (leading, byte :: rest)
  | [] => some (leading, [])

end Leading

end Machine

end AsmListing
