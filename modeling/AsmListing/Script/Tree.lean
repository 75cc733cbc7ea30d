import AsmListing.Script.Token

/-!
# Syntax trees of scripts

The trees are parametric in what stands for a name.  A script that has just
been read has identifiers with their places, and a script that can be run has
the storage that each name stands for.
-/

namespace AsmListing

namespace Script

structure Identifier where
  text : String
  position : Position
deriving DecidableEq, Repr

inductive Literal where
  | none
  | integer (value : Int)
  | float (value : Float)
  | text (value : String)
  | bytes (value : List UInt8)

inductive UnaryOperator where
  | plus
  | minus
  | complement
  | negation
deriving DecidableEq, Repr

/-- An operator with two operands, both of which are always evaluated. -/
inductive BinaryOperator where
  | add
  | subtract
  | multiply
  | divide
  | floorDivide
  | remainder
  | bitAnd
  | bitOr
  | bitXor
  | shiftLeft
  | shiftRight
  | equal
  | unequal
  | less
  | greater
  | lessEqual
  | greaterEqual
  | isIn
  | isNotIn
deriving DecidableEq, Repr

def BinaryOperator.text : BinaryOperator → String
  | .add => "+"
  | .subtract => "-"
  | .multiply => "*"
  | .divide => "/"
  | .floorDivide => "//"
  | .remainder => "%"
  | .bitAnd => "&"
  | .bitOr => "|"
  | .bitXor => "^"
  | .shiftLeft => "<<"
  | .shiftRight => ">>"
  | .equal => "=="
  | .unequal => "!="
  | .less => "<"
  | .greater => ">"
  | .lessEqual => "<="
  | .greaterEqual => ">="
  | .isIn => "in"
  | .isNotIn => "not in"

def UnaryOperator.text : UnaryOperator → String
  | .plus => "+"
  | .minus => "-"
  | .complement => "~"
  | .negation => "not"

mutual

/-- An expression.  The places are where the expression starts. -/
inductive Expr (Name : Type) where
  | name (name : Name)
  | literal (start : Position) (value : Literal)
  | list (start : Position) (items : List (Expr Name))
  | tuple (start : Position) (items : List (Expr Name))
  | dict (start : Position) (entries : List (Entry Name))
  | listOf (start : Position) (body : Expr Name) (clauses : List (Clause Name))
  | dictOf (start : Position) (entry : Entry Name) (clauses : List (Clause Name))
  | paren (start : Position) (inside : Expr Name)
  | unary (start : Position) (operator : UnaryOperator) (operand : Expr Name)
  | binary (operator : BinaryOperator) (left right : Expr Name)
  | both (left right : Expr Name)
  | either (left right : Expr Name)
  | conditional (test yes no : Expr Name)
  | field (object : Expr Name) (name : String)
  | index (object key : Expr Name)
  | slice (object low high step : Expr Name)
  | call (function : Expr Name) (arguments : List (Argument Name))
  | lambda (start : Position) (parameters : List (Parameter Name)) (body : Expr Name)

inductive Entry (Name : Type) where
  | entry (key value : Expr Name)

/-- A clause of a comprehension: a loop or a condition. -/
inductive Clause (Name : Type) where
  | each (target source : Expr Name)
  | only (test : Expr Name)

inductive Argument (Name : Type) where
  | positional (value : Expr Name)
  | named (label : Identifier) (value : Expr Name)
  | spread (start : Position) (value : Expr Name)
  | spreadNamed (start : Position) (value : Expr Name)

/-- A parameter of a function.  A bare star has no name. -/
inductive Parameter (Name : Type) where
  | required (label : Identifier) (name : Name)
  | optional (label : Identifier) (sign : Position) (name : Name) (value : Expr Name)
  | bareStar (start : Position)
  | rest (start : Position) (label : Identifier) (name : Name)
  | restNamed (start : Position) (label : Identifier) (name : Name)

end

inductive Statement (Name : Type) where
  | expression (value : Expr Name)
  | assign (target value : Expr Name)
  | augment (target : Expr Name) (operator : BinaryOperator) (value : Expr Name)
  | branch (test : Expr Name) (yes no : List (Statement Name))
  | each (target source : Expr Name) (body : List (Statement Name))
  | loop (test : Expr Name) (body : List (Statement Name))
  | define (start : Position) (label : Identifier) (name : Name)
      (parameters : List (Parameter Name)) (body : List (Statement Name))
  | exit (start : Position) (value : Expr Name)
  | leave (start : Position)
  | next (start : Position)
  | skip
  | load (start : Position) (names : List (Identifier × Identifier))

def Expr.start : Expr Identifier → Position
  | .name identifier => identifier.position
  | .literal start _ | .list start _ | .tuple start _ | .dict start _ => start
  | .listOf start _ _ | .dictOf start _ _ | .paren start _ | .unary start _ _ => start
  | .lambda start _ _ => start
  | .binary _ left _ | .both left _ | .either left _ => left.start
  | .conditional _ yes _ => yes.start
  | .field object _ | .index object _ | .slice object _ _ _ | .call object _ => object.start

/-- What an expression that cannot be assigned to is called. -/
def Expr.shape {Name : Type} : Expr Name → String
  | .name _ => "ident"
  | .literal _ _ => "literal"
  | .list _ _ => "listexpr"
  | .tuple _ _ => "tupleexpr"
  | .dict _ _ => "dictexpr"
  | .listOf _ _ _ | .dictOf _ _ _ => "comprehension"
  | .paren _ _ => "parenexpr"
  | .unary _ _ _ => "unaryexpr"
  | .binary _ _ _ | .both _ _ | .either _ _ => "binaryexpr"
  | .conditional _ _ _ => "condexpr"
  | .field _ _ => "dotexpr"
  | .index _ _ => "indexexpr"
  | .slice _ _ _ _ => "sliceexpr"
  | .call _ _ => "callexpr"
  | .lambda _ _ _ => "lambdaexpr"

end Script

end AsmListing
