import AsmListing.Datum
import AsmListing.Kind

/-!
# Mnemonics

A mnemonic is one instruction of a listing: a name, operands, and a comment
that may be switched off.  Operands may be data of any type, and one that
cannot be written stops the instruction from being written.
-/

namespace AsmListing

/-- An operand that cannot be written, by its position counted from one and
its type. -/
structure OperandTypeError where
  position : Nat
  type : String
deriving DecidableEq, Repr

def OperandTypeError.message (failure : OperandTypeError) : String :=
  let position := failure.position
  let type := failure.type
  s!"operand {position} has invalid type {type}; allowed types: register, string, integer"

namespace Datum

/-- The text of a datum as an operand.  Registers, texts and integers can be
operands, and everything else is reported by its type. -/
def operandText : Datum → Except String String
  | register value => .ok value.name
  | noRegister => .error "nil register"
  | text value => .ok value
  | integer .uintptr _ => .error IntegerType.uintptr.name
  | integer _ value => .ok (toString value)
  | other => .error other.typeName

end Datum

/-- One instruction of a listing.  An empty comment stands for the default
comment of the kind. -/
structure Mnemonic where
  name : String
  operands : List Datum
  kind : Kind
  comment : String
  commentEnabled : Bool
deriving Inhabited

namespace Mnemonic

/-- Makes an instruction of a kind, with its comment enabled, if the kind
takes that many operands.  Without a kind it is generic. -/
def make (kind? : Option Kind) (name : String) (operands : List Datum) :
    Except OperandCountError Mnemonic :=
  let kind := kind?.getD .generic
  match kind.validate name operands.length with
  | .error failure => .error failure
  | .ok () => .ok ⟨name, operands, kind, "", true⟩

/-- Makes an instruction of the generic kind. -/
def basic (name : String) (operands : List Datum) : Mnemonic :=
  ⟨name, operands, .generic, "", true⟩

/-- Makes an instruction of the kind that a table gives to its name. -/
def named (kinds : KindTable) (name : String) (operands : List Datum) :
    Except OperandCountError Mnemonic :=
  make (some (kinds.lookup name)) name operands

/-- The texts of operands, the first of which has the given position. -/
def operandTexts (position : Nat) : List Datum → Except OperandTypeError (List String)
  | [] => .ok []
  | operand :: rest =>
      match operand.operandText with
      | .error type => .error ⟨position, type⟩
      | .ok text => (operandTexts (position + 1) rest).map (text :: ·)

/-- The default comment.  An operand that cannot be written shows its
printed text. -/
def defaultComment (mnemonic : Mnemonic) : String :=
  mnemonic.kind.comment mnemonic.name <| mnemonic.operands.map fun operand =>
    match operand.operandText with
    | .ok text => text
    | .error _ => operand.print

/-- The instruction without indent and comment. -/
def code (name : String) (operands : List String) : String :=
  if operands.isEmpty then name
  else name ++ " " ++ ", ".intercalate operands

/-- The comment behind an instruction. -/
def remark (mnemonic : Mnemonic) (operands : List String) : String :=
  if mnemonic.commentEnabled then
    "  ; " ++
      if mnemonic.comment.isEmpty then mnemonic.kind.comment mnemonic.name operands
      else mnemonic.comment
  else ""

def construct (mnemonic : Mnemonic) (indent : String) : Except OperandTypeError String :=
  (operandTexts 1 mnemonic.operands).map fun operands =>
    indent ++ code mnemonic.name operands ++ mnemonic.remark operands

end Mnemonic

end AsmListing
