import AsmListing.Register.Set
import AsmListing.Sequence.Push

/-!
# Register catalogs

The registers of a mode are written down as entries that name their parents.
Building a catalog turns each entry into a register, in order, and looks a
parent up among the entries before it.
-/

namespace AsmListing

/-- One line of a register catalog.  An empty parent name means that the
register stands alone. -/
structure CatalogEntry where
  name : String
  size : Int
  parent : String
  aliases : List String
deriving DecidableEq, Repr

inductive CatalogError where
  | undefinedParent (name : String) (parent : String)
  | register (cause : RegisterError)
deriving DecidableEq, Repr

namespace Catalog

/-- The most recent register of a name, among registers listed with the most
recent one first. -/
def recent? (name : String) (built : List Register) : Option Register :=
  built.find? fun register => register.name == name

def parentOf (entry : CatalogEntry) (built : List Register) :
    Except CatalogError (Option Register) :=
  if entry.parent.isEmpty then .ok none
  else
    match recent? entry.parent built with
    | some parent => .ok (some parent)
    | none => .error (.undefinedParent entry.name entry.parent)

/-- Builds the registers of a list of entries.  The registers built so far
come with the most recent one first, and serial numbers are given in order. -/
def buildAll (built : List Register) (serial : Nat) :
    List CatalogEntry → Except CatalogError (List Register)
  | [] => .ok built.reverse
  | entry :: rest =>
      match parentOf entry built with
      | .error cause => .error cause
      | .ok parent? =>
          match Register.make serial entry.name entry.size entry.aliases parent? with
          | .error cause => .error (.register cause)
          | .ok register => buildAll (register :: built) (serial + 1) rest

/-- Builds the register set of a list of entries, numbering the registers
from the given serial number on. -/
def build (mode : Mode) (serial : Nat) (entries : List CatalogEntry) :
    Except CatalogError RegisterSet :=
  (buildAll [] serial entries).map (RegisterSet.ofList mode)

/-- Entries of one size that stand alone. -/
def alone (size : Int) (names : List String) : PushSequence Id CatalogEntry :=
  .ofList (names.map fun name => ⟨name, size, "", []⟩)

/-- Entries of one size, each with the name of its parent. -/
def parts (size : Int) (pairs : List (String × String)) : PushSequence Id CatalogEntry :=
  .ofList (pairs.map fun pair => ⟨pair.1, size, pair.2, []⟩)

/-- A single entry that stands alone and has aliases. -/
def aliased (name : String) (size : Int) (aliases : List String) : PushSequence Id CatalogEntry :=
  .ofList [⟨name, size, "", aliases⟩]

/-- The numbers of the extended general registers. -/
def extendedNumbers : List Nat := [8, 9, 10, 11, 12, 13, 14, 15]

/-- The name of an extended register, with the letter that tells its width. -/
def extendedName (letter : String) (number : Nat) : String :=
  s!"R{number}{letter}"

/-- The extended registers of one width, each with the name of its parent. -/
def extendedParts (size : Int) (letter parentLetter : String) : PushSequence Id CatalogEntry :=
  parts size (extendedNumbers.map fun number =>
    (extendedName letter number, extendedName parentLetter number))

/-- The low and high bytes of the four registers that have both. -/
def bytePairs : List (String × String) :=
  [("AL", "AX"), ("AH", "AX"), ("CL", "CX"), ("CH", "CX"),
   ("DL", "DX"), ("DH", "DX"), ("BL", "BX"), ("BH", "BX")]

/-- The low halves of the eight 32-bit general registers. -/
def wordPairs : List (String × String) :=
  [("AX", "EAX"), ("CX", "ECX"), ("DX", "EDX"), ("BX", "EBX"),
   ("SP", "ESP"), ("BP", "EBP"), ("SI", "ESI"), ("DI", "EDI")]

def entries16 : List CatalogEntry :=
  Id.run <| PushSequence.take none <| .concat
    [aliased "AX" 16 ["AX_ALIAS"],
     alone 16 ["CX", "DX", "BX", "SP", "BP", "SI", "DI"],
     parts 8 bytePairs,
     alone 16 ["CS", "DS", "ES", "SS"]]

def entries32 : List CatalogEntry :=
  Id.run <| PushSequence.take none <| .concat
    [aliased "EAX" 32 ["EAX_ALIAS"],
     alone 32 ["ECX", "EDX", "EBX", "ESP", "EBP", "ESI", "EDI"],
     parts 16 wordPairs,
     parts 8 bytePairs,
     alone 16 ["CS", "DS", "ES", "SS", "FS", "GS"],
     alone 32 ["CR0", "CR2", "CR3", "CR4"]]

def entries64 : List CatalogEntry :=
  Id.run <| PushSequence.take none <| .concat
    [aliased "RAX" 64 ["RAX_ALIAS"],
     alone 64 ["RCX", "RDX", "RBX", "RSP", "RBP", "RSI", "RDI"],
     alone 64 (extendedNumbers.map (extendedName "")),
     parts 32
       [("EAX", "RAX"), ("ECX", "RCX"), ("EDX", "RDX"), ("EBX", "RBX"),
        ("ESP", "RSP"), ("EBP", "RBP"), ("ESI", "RSI"), ("EDI", "RDI")],
     extendedParts 32 "D" "",
     parts 16 wordPairs,
     extendedParts 16 "W" "D",
     parts 8
       [("AL", "AX"), ("CL", "CX"), ("DL", "DX"), ("BL", "BX"),
        ("SPL", "SP"), ("BPL", "BP"), ("SIL", "SI"), ("DIL", "DI")],
     extendedParts 8 "B" "W",
     alone 16 ["CS", "DS", "ES", "SS", "FS", "GS"],
     alone 64 ["CR0", "CR2", "CR3", "CR4", "CR8"]]

/-- The entries of a mode, if it is supported. -/
def entries? (mode : Mode) : Option (List CatalogEntry) :=
  if mode = .bits16 then some entries16
  else if mode = .bits32 then some entries32
  else if mode = .bits64 then some entries64
  else none

end Catalog

namespace RegisterSet

/-- The registers of a mode, numbered from the given serial number on, if
the mode is supported. -/
def ofMode? (serial : Nat) (mode : Mode) : Option RegisterSet :=
  (Catalog.entries? mode).bind fun entries => (Catalog.build mode serial entries).toOption

def ofText? (serial : Nat) (text : String) : Option RegisterSet :=
  (Mode.ofText? text).bind (ofMode? serial)

end RegisterSet

end AsmListing
