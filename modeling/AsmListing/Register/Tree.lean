import AsmListing.Register.Set

/-!
# Trees of registers

The registers of a set form a forest, in which every register stands below the
one it is a part of.  A forest is drawn with one register on a line.
-/

namespace AsmListing

/-- A register with its parts. -/
inductive RegisterTree where
  | node (register : Register) (parts : List RegisterTree)

/-- A register with its parts in a set.  A part has a longer hierarchy than
what it is a part of, so there are no more levels than registers. -/
def RegisterSet.branch (set : RegisterSet) : Nat → Register → RegisterTree
  | 0, register => .node register []
  | levels + 1, register =>
      .node register ((set.children (some register)).map (set.branch levels))

def RegisterSet.forest (set : RegisterSet) : List RegisterTree :=
  set.roots.map (set.branch set.registers.length)

/-- What a drawing says about a register: its name, its size, and its further
names. -/
def Register.description (register : Register) : String :=
  let name := register.name
  let size := register.size
  let aliases :=
    if register.aliases.isEmpty then ""
    else " = " ++ ", ".intercalate register.aliases
  s!"{name} ({size})" ++ aliases

namespace RegisterTree

mutual

/-- The lines of a tree.  The last of several trees ends the line that runs
down beside them. -/
def lines (margin : String) (last : Bool) : RegisterTree → List String
  | node register parts =>
      (margin ++ (if last then "└── " else "├── ") ++ register.description) ::
        forestLines (margin ++ if last then "    " else "│   ") parts

def forestLines (margin : String) : List RegisterTree → List String
  | [] => []
  | tree :: rest => tree.lines margin rest.isEmpty ++ forestLines margin rest

end

end RegisterTree

/-- The drawing of a set, below a line with its mode. -/
def RegisterSet.drawing (set : RegisterSet) : String :=
  let title := set.mode.text ++ "-bit"
  String.join ((title :: RegisterTree.forestLines "" set.forest).map (· ++ "\n"))

end AsmListing
