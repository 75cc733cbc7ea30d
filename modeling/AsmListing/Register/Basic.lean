/-!
# Registers

A register is a named piece of processor storage.  It may be a part of one
wider register, which may be a part of another, so the registers of a
processor form a forest.

Two registers can have the same name, width and parent and still be
different registers.  Each register therefore carries a serial number that is
given to it when it is made, and equality of registers is equality of all
they carry.
-/

namespace AsmListing

inductive Width where
  | byte
  | word
  | doubleword
  | quadword
deriving DecidableEq, Repr

namespace Width

def bits : Width → Nat
  | .byte => 8
  | .word => 16
  | .doubleword => 32
  | .quadword => 64

def ofBits? (size : Int) : Option Width :=
  [byte, word, doubleword, quadword].find? fun width => (width.bits : Int) == size

end Width

/-- A register: one that stands alone, or a part of another register. -/
inductive Register where
  | root (serial : Nat) (name : String) (width : Width) (aliases : List String)
  | part (serial : Nat) (name : String) (width : Width) (aliases : List String)
      (whole : Register)
deriving DecidableEq, Repr

/-- The reasons for which a register cannot be made. -/
inductive RegisterError where
  | invalidSize (name : String) (size : Int)
  | narrowParent (name : String) (parent : String)
deriving DecidableEq, Repr

def RegisterError.message : RegisterError → String
  | .invalidSize name size =>
      s!"invalid register size: {size} bits for {name}; must be 8, 16, 32 or 64 bits"
  | .narrowParent name parent =>
      s!"register {name} must be narrower than its parent {parent}"

namespace Register

/-- The number that tells a register from all others. -/
def serial : Register → Nat
  | root serial _ _ _ => serial
  | part serial _ _ _ _ => serial

def name : Register → String
  | root _ name _ _ => name
  | part _ name _ _ _ => name

def width : Register → Width
  | root _ _ width _ => width
  | part _ _ width _ _ => width

/-- The further names of a register, each once. -/
def aliases : Register → List String
  | root _ _ _ aliases => aliases
  | part _ _ _ aliases _ => aliases

/-- The register that this one is a part of. -/
def parent? : Register → Option Register
  | root _ _ _ _ => none
  | part _ _ _ _ whole => some whole

def size (register : Register) : Nat :=
  register.width.bits

/-- The names under which a register is found: its own, then its aliases. -/
def keys (register : Register) : List String :=
  register.name :: register.aliases

/-- Makes a register with a fresh serial number.  The size is checked before
the parent, and repeated aliases are dropped. -/
def make (serial : Nat) (name : String) (size : Int) (aliases : List String)
    (parent? : Option Register) : Except RegisterError Register :=
  match Width.ofBits? size with
  | none => .error (.invalidSize name size)
  | some width =>
      match parent? with
      | none => .ok (root serial name width aliases.eraseDups)
      | some whole =>
          if whole.size ≤ width.bits then .error (.narrowParent name whole.name)
          else .ok (part serial name width aliases.eraseDups whole)

/-- The register and everything it is a part of, from the inside out. -/
def hierarchy : Register → List Register
  | root serial name width aliases => [root serial name width aliases]
  | part serial name width aliases whole =>
      part serial name width aliases whole :: whole.hierarchy

/-- The outermost register that this one is a part of. -/
def outermost : Register → Register
  | root serial name width aliases => root serial name width aliases
  | part _ _ _ _ whole => whole.outermost

/-- Whether the other register is this one or a part of it.  Nothing at all is
not. -/
def contains (register : Register) (other? : Option Register) : Bool :=
  match other? with
  | none => false
  | some other => other.hierarchy.contains register

end Register

end AsmListing
