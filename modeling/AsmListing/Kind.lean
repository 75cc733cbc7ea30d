import AsmListing.Text.Case
import AsmListing.Text.Template

/-!
# Kinds of instructions

A kind says how many operands an instruction takes and how its default
comment reads.  A kind table gives kinds to instruction names, in lower case,
and every name is given a kind at most once.
-/

namespace AsmListing

/-- A kind of instruction.  The generic kind takes any operands; a fixed one
takes a given number and words its comment by a template.  These are the kinds
that the library makes.  A kind that someone else defines, with a check and a
wording of its own, is not among them, and nothing is said about it. -/
inductive Kind where
  | generic
  | fixed (operands : Int) (template : String)
deriving DecidableEq, Repr, Inhabited

/-- An instruction with a number of operands that its kind does not take. -/
structure OperandCountError where
  name : String
  required : Int
  given : Int
deriving DecidableEq, Repr

def OperandCountError.message (failure : OperandCountError) : String :=
  let name := Text.upper failure.name
  let required := failure.required
  let given := failure.given
  s!"mnemonic {name} requires {required} operands, but got {given}"

namespace Kind

/-- Checks the number of operands of an instruction. -/
def validate (kind : Kind) (name : String) (count : Int) : Except OperandCountError Unit :=
  match kind with
  | generic => .ok ()
  | fixed operands _ =>
      if count = operands then .ok () else .error ⟨name, operands, count⟩

/-- The comment of an instruction of no particular kind. -/
def genericComment (name : String) (operands : List String) : String :=
  let instruction := Text.upper name
  match operands with
  | [] => instruction ++ " operation."
  | [operand] => instruction ++ " operand " ++ operand ++ "."
  | [target, source] => instruction ++ " from " ++ source ++ " to " ++ target ++ "."
  | _ => instruction ++ " with " ++ toString operands.length ++ " operands."

/-- The default comment of an instruction with the given operand texts. -/
def comment (kind : Kind) (name : String) (operands : List String) : String :=
  match kind with
  | generic => genericComment name operands
  | fixed _ template =>
      Text.Template.render Text.commentStyle template (operands.map Text.Argument.text)

end Kind

/-- The reasons for which a kind cannot be added to a table. -/
inductive KindError where
  | invalid
  | duplicate
deriving DecidableEq, Repr

def KindError.message : KindError → String
  | .invalid => "mnemonic kind invalid"
  | .duplicate => "mnemonic kind duplicated"

/-- The kinds of instruction names, sorted by name. -/
structure KindTable where
  entries : List (String × Kind)
deriving DecidableEq, Repr

namespace KindTable

/-- The nine kinds that are always there. -/
def standard : KindTable where
  entries :=
    [("add", .fixed 2 "Adding the %[2]v value to the %[1]v"),
     ("dec", .fixed 1 "Decrement %[1]v"),
     ("div", .fixed 2 "Dividing the %[2]v value to the %[1]v"),
     ("inc", .fixed 1 "Increment %[1]v"),
     ("mov", .fixed 2 "Moving the %[2]v value into the %[1]v"),
     ("mul", .fixed 2 "Multiplying the %[2]v value to the %[1]v"),
     ("pop", .fixed 1 "Popping the stack into %[1]v"),
     ("push", .fixed 1 "Pushing %[1]v onto the stack"),
     ("sub", .fixed 2 "Subtract the %[2]v value from the %[1]v")]

/-- The kind that a name is given in the table, spelled exactly. -/
def find? (table : KindTable) (name : String) : Option Kind :=
  table.entries.lookup name

/-- The kind of an instruction name in any case of letters.  A name without
an entry is of the generic kind. -/
def lookup (table : KindTable) (name : String) : Kind :=
  (table.find? (Text.lower name)).getD .generic

/-- The names that have an entry, in increasing order. -/
def names (table : KindTable) : List String :=
  table.entries.map Prod.fst

/-- Puts an entry at its place in a sorted list of entries. -/
def place (name : String) (kind : Kind) : List (String × Kind) → List (String × Kind)
  | [] => [(name, kind)]
  | (other, held) :: rest =>
      if name < other then (name, kind) :: (other, held) :: rest
      else (other, held) :: place name kind rest

/-- Gives a kind to a name that has none yet.  The name is put into lower
case first. -/
def register (table : KindTable) (name : String) (kind? : Option Kind) :
    Except KindError KindTable :=
  match kind? with
  | none => .error .invalid
  | some kind =>
      if name.isEmpty then .error .invalid
      else
        match table.find? (Text.lower name) with
        | some _ => .error .duplicate
        | none => .ok ⟨place (Text.lower name) kind table.entries⟩

end KindTable

end AsmListing
