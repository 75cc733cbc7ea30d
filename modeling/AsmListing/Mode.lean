/-!
# Architecture modes

A mode is the word size, in bits, that code is written for.  Any number can
be carried around as a mode, and three of them are supported.
-/

namespace AsmListing

/-- An architecture mode, named by its word size in bits. -/
structure Mode where
  number : Int
deriving DecidableEq, Repr, Inhabited

namespace Mode

def bits16 : Mode := ⟨16⟩

def bits32 : Mode := ⟨32⟩

def bits64 : Mode := ⟨64⟩

/-- The supported modes, from the narrowest to the widest. -/
def all : List Mode := [bits16, bits32, bits64]

def supported (mode : Mode) : Bool :=
  all.contains mode

/-- The text of a mode: the bare number of a supported one, and a marked
number otherwise. -/
def text (mode : Mode) : String :=
  if mode.supported then toString mode.number
  else s!"Mode({mode.number})"

def ofText? (text : String) : Option Mode :=
  all.find? fun mode => mode.text == text

end Mode

end AsmListing
