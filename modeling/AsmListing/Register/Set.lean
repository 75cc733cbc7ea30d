import AsmListing.Mode
import AsmListing.Register.Basic
import AsmListing.Text.Case

/-!
# Register sets

A register set lists registers and finds them by key.  Every name and every
alias is a key.  Keys keep the order of their first occurrence, and a key
that occurs more than once finds the register that took it last.
-/

namespace AsmListing

/-- The failure to find a key in the set of a mode. -/
structure RegisterNotFound where
  key : String
  mode : Mode
deriving DecidableEq, Repr

def RegisterNotFound.message (failure : RegisterNotFound) : String :=
  let mode := failure.mode.text
  let key := failure.key
  s!"register '{key}' not found in {mode}-bit mode"

/-- Registers of one mode, in the order they were listed, with the keys in the
order of their first occurrence.  A key stands for the register at its
position, and of several positions of one key the first one counts. -/
structure RegisterSet where
  mode : Mode
  registers : List Register
  keys : List String
  positions : List (String × Nat)
deriving DecidableEq, Repr

namespace RegisterSet

def empty (mode : Mode) : RegisterSet :=
  ⟨mode, [], [], []⟩

/-- The position that a key stands for, spelled exactly. -/
def position? (set : RegisterSet) (key : String) : Option Nat :=
  set.positions.lookup key

/-- Lets a key stand for a position.  A key that is known keeps its place
among the keys. -/
def bind (position : Nat) (set : RegisterSet) (key : String) : RegisterSet :=
  { set with
    keys := if (set.position? key).isSome then set.keys else set.keys ++ [key]
    positions := (key, position) :: set.positions }

/-- Lists a register and lets each of its keys stand for it. -/
def enter (set : RegisterSet) (register : Register) : RegisterSet :=
  register.keys.foldl (bind set.registers.length)
    { set with registers := set.registers ++ [register] }

def ofList (mode : Mode) (registers : List Register) : RegisterSet :=
  registers.foldl enter (empty mode)

def size (set : RegisterSet) : Nat :=
  set.keys.length

/-- The register that a key stands for, spelled exactly. -/
def find? (set : RegisterSet) (key : String) : Option Register :=
  (set.position? key).bind fun position => set.registers[position]?

/-- The register that a key stands for, or the reason why there is none. -/
def index (set : RegisterSet) (key : String) : Except RegisterNotFound Register :=
  match set.find? key with
  | some register => .ok register
  | none => .error ⟨key, set.mode⟩

/-- The keys with the registers they stand for. -/
def entries (set : RegisterSet) : List (String × Register) :=
  set.keys.filterMap fun key => (set.find? key).map fun register => (key, register)

/-- The register of a name in any case of letters, or the given one if the
name is no key. -/
def get (set : RegisterSet) (name : String) (default? : Option Register) : Option Register :=
  match set.position? (Text.upper name) with
  | some position => set.registers[position]?
  | none => default?

/-- The register of a name in any case of letters. -/
def get? (set : RegisterSet) (name : String) : Option Register :=
  set.get name none

/-- Whether a name, in any case of letters, is a key. -/
def contains (set : RegisterSet) (name : String) : Bool :=
  (set.position? (Text.upper name)).isSome

/-- The listed registers that are direct parts of the given one, or those
that are no part of anything. -/
def children (set : RegisterSet) (parent? : Option Register) : List Register :=
  set.registers.filter fun register => register.parent? == parent?

/-- The listed registers that are no part of another. -/
def roots (set : RegisterSet) : List Register :=
  set.children none

end RegisterSet

end AsmListing
