import AsmListing.Script.Tree

/-!
# Grammar of scripts

Tokens are read into syntax trees by descent.  Every reader takes fuel that
bounds how deeply readers call each other.
-/

namespace AsmListing

namespace Script

namespace Grammar

/-- A reader takes tokens off the front of a list. -/
abbrev Reader := StateT (List Lexeme) (Except SyntaxError)

/-- An expression that has just been read. -/
abbrev RawExpr := Expr Identifier

abbrev RawStatement := Statement Identifier

def position : Reader Position := do
  return (← get).head?.map Lexeme.position |>.getD ⟨0, 0⟩

def peek : Reader Token := do
  return (← get).head?.map Lexeme.token |>.getD .finish

def advance : Reader Unit :=
  modify List.tail

def fail {Result : Type} (problem : String) : Reader Result := do
  throw ⟨← position, problem⟩

def atSymbol (text : String) : Reader Bool := do
  match ← peek with
  | .symbol found => return found == text
  | _ => return false

def atKeyword (text : String) : Reader Bool := do
  match ← peek with
  | .keyword found => return found == text
  | _ => return false

/-- Takes a symbol if it is next. -/
def takeSymbol (text : String) : Reader Bool := do
  if ← atSymbol text then
    advance
    return true
  else return false

/-- Takes a keyword if it is next. -/
def takeKeyword (text : String) : Reader Bool := do
  if ← atKeyword text then
    advance
    return true
  else return false

def needSymbol (text : String) : Reader Unit := do
  unless ← takeSymbol text do fail ("want " ++ text)

def needKeyword (text : String) : Reader Unit := do
  unless ← takeKeyword text do fail ("want " ++ text)

def needName : Reader Identifier := do
  let place ← position
  match ← peek with
  | .name text =>
      advance
      return ⟨text, place⟩
  | _ => fail "want name"

/-- Whether the next token ends a list of expressions. -/
def atListEnd : Reader Bool := do
  match ← peek with
  | .finish | .newline => return true
  | .symbol text => return ["=", ")", "]", "\x7d", ";"].contains text
  | _ => return false

/-- The binary operators by level, from the loosest on. -/
def operatorLevel (text : String) : Option (Nat × BinaryOperator) :=
  match text with
  | "==" => some (3, .equal)
  | "!=" => some (3, .unequal)
  | "<" => some (3, .less)
  | ">" => some (3, .greater)
  | "<=" => some (3, .lessEqual)
  | ">=" => some (3, .greaterEqual)
  | "|" => some (4, .bitOr)
  | "^" => some (5, .bitXor)
  | "&" => some (6, .bitAnd)
  | "<<" => some (7, .shiftLeft)
  | ">>" => some (7, .shiftRight)
  | "+" => some (8, .add)
  | "-" => some (8, .subtract)
  | "*" => some (9, .multiply)
  | "/" => some (9, .divide)
  | "//" => some (9, .floorDivide)
  | "%" => some (9, .remainder)
  | _ => none

/-- The level of comparisons, which do not chain. -/
def comparisonLevel : Nat := 3

/-- The first level beyond the binary operators. -/
def primaryLevel : Nat := 10

/-- What an infix operator makes of its operands. -/
inductive Infix where
  | both
  | either
  | binary (operator : BinaryOperator)

def Infix.join (operator : Infix) (left right : RawExpr) : RawExpr :=
  match operator with
  | .both => .both left right
  | .either => .either left right
  | .binary operator => .binary operator left right

/-- The infix operator that is next, with its level and the number of tokens
it takes. -/
def peekInfix : Reader (Option (Nat × Infix × Nat)) := do
  match ← peek with
  | .symbol text =>
      return (operatorLevel text).map fun (level, operator) => (level, .binary operator, 1)
  | .keyword "or" => return some (0, .either, 1)
  | .keyword "and" => return some (1, .both, 1)
  | .keyword "in" => return some (comparisonLevel, .binary .isIn, 1)
  | .keyword "not" =>
      match (← get).tail.head?.map Lexeme.token with
      | some (.keyword "in") => return some (comparisonLevel, .binary .isNotIn, 2)
      | _ => fail "want in"
  | _ => return none

def augmentOperator (text : String) : Option BinaryOperator :=
  match text with
  | "+=" => some .add
  | "-=" => some .subtract
  | "*=" => some .multiply
  | "/=" => some .divide
  | "//=" => some .floorDivide
  | "%=" => some .remainder
  | "&=" => some .bitAnd
  | "|=" => some .bitOr
  | "^=" => some .bitXor
  | "<<=" => some .shiftLeft
  | ">>=" => some .shiftRight
  | _ => none

def absent (place : Position) : RawExpr :=
  .literal place .none

mutual

/-- Reads an expression without commas. -/
def readTest : Nat → Reader RawExpr
  | 0 => fail "nesting too deep"
  | fuel + 1 => do
      if ← atKeyword "lambda" then readLambda fuel true
      else
        let yes ← readLevel fuel 0
        if ← takeKeyword "if" then
          let test ← readLevel fuel 0
          unless ← takeKeyword "else" do fail "conditional expression without else clause"
          let no ← readTest fuel
          return .conditional test yes no
        else return yes

/-- Reads an expression without commas and without a bare condition. -/
def readTestNoCondition : Nat → Reader RawExpr
  | 0 => fail "nesting too deep"
  | fuel + 1 => do
      if ← atKeyword "lambda" then readLambda fuel false
      else readLevel fuel 0

def readLambda : Nat → Bool → Reader RawExpr
  | 0, _ => fail "nesting too deep"
  | fuel + 1, conditionAllowed => do
      let place ← position
      needKeyword "lambda"
      let parameters ← if ← atSymbol ":" then pure [] else readParameters fuel ":"
      needSymbol ":"
      let body ← if conditionAllowed then readTest fuel else readTestNoCondition fuel
      return .lambda place parameters body

/-- Reads operands and operators of at least the given level. -/
def readLevel : Nat → Nat → Reader RawExpr
  | 0, _ => fail "nesting too deep"
  | fuel + 1, level => do
      if primaryLevel ≤ level then readSuffixed fuel
      else if level == 2 && (← atKeyword "not") then
        let place ← position
        advance
        let operand ← readLevel fuel level
        return .unary place .negation operand
      else
        let left ← readLevel fuel (level + 1)
        readInfix fuel level true left

/-- Reads the operators of at least the given level behind an operand. -/
def readInfix : Nat → Nat → Bool → RawExpr → Reader RawExpr
  | 0, _, _, _ => fail "nesting too deep"
  | fuel + 1, level, first, left => do
      match ← peekInfix with
      | none => return left
      | some (found, operator, width) =>
          if found < level then return left
          else if !first && found == comparisonLevel then fail "comparisons do not associate"
          else
            modify fun tokens => tokens.drop width
            let right ← readLevel fuel (found + 1)
            readInfix fuel level false (operator.join left right)

/-- Reads a primary expression and what is attached to it. -/
def readSuffixed : Nat → Reader RawExpr
  | 0 => fail "nesting too deep"
  | fuel + 1 => do
      let primary ← readPrimary fuel
      readSuffixes fuel primary

/-- Reads fields, indices and calls behind an expression. -/
def readSuffixes : Nat → RawExpr → Reader RawExpr
  | 0, _ => fail "nesting too deep"
  | fuel + 1, object => do
      if ← takeSymbol "." then
        let name ← needName
        readSuffixes fuel (.field object name.text)
      else if ← takeSymbol "[" then
        let indexed ← readSubscript fuel object
        readSuffixes fuel indexed
      else if ← takeSymbol "(" then
        let arguments ← readArguments fuel
        needSymbol ")"
        readSuffixes fuel (.call object arguments)
      else return object

/-- Reads an index or slice behind its bracket. -/
def readSubscript : Nat → RawExpr → Reader RawExpr
  | 0, _ => fail "nesting too deep"
  | fuel + 1, object => do
      let place ← position
      let low ← if ← atSymbol ":" then pure none else (readExpr fuel false).map some
      if ← takeSymbol "]" then
        match low with
        | some key => return .index object key
        | none => fail "want index"
      else
        let high ←
          if ← takeSymbol ":" then
            if (← atSymbol ":") || (← atSymbol "]") then pure none
            else (readTest fuel).map some
          else pure none
        let step ←
          if ← takeSymbol ":" then
            if ← atSymbol "]" then pure none else (readTest fuel).map some
          else pure none
        needSymbol "]"
        return .slice object (low.getD (absent place)) (high.getD (absent place))
          (step.getD (absent place))

def readArguments : Nat → Reader (List (Argument Identifier))
  | 0 => fail "nesting too deep"
  | fuel + 1 => do
      if ← atSymbol ")" then return []
      else
        let place ← position
        let argument ←
          if ← takeSymbol "*" then (readTest fuel).map (Argument.spread place)
          else if ← takeSymbol "**" then (readTest fuel).map (Argument.spreadNamed place)
          else do
            let value ← readTest fuel
            if ← takeSymbol "=" then
              match value with
              | .name label => (readTest fuel).map (Argument.named label)
              | _ => fail "keyword argument must have form name=expr"
            else pure (Argument.positional value)
        if ← takeSymbol "," then
          let rest ← readArguments fuel
          return argument :: rest
        else return [argument]

/-- Reads parameters up to the given symbol. -/
def readParameters : Nat → String → Reader (List (Parameter Identifier))
  | 0, _ => fail "nesting too deep"
  | fuel + 1, ending => do
      if ← atSymbol ending then return []
      else
        let place ← position
        let parameter ←
          if ← takeSymbol "*" then do
            if (← atSymbol ",") || (← atSymbol ending) then pure (Parameter.bareStar place)
            else
              let label ← needName
              pure (Parameter.rest place label label)
          else if ← takeSymbol "**" then do
            let label ← needName
            pure (Parameter.restNamed place label label)
          else do
            let label ← needName
            let sign ← position
            if ← takeSymbol "=" then
              let value ← readTest fuel
              pure (Parameter.optional label sign label value)
            else pure (Parameter.required label label)
        if ← takeSymbol "," then
          let rest ← readParameters fuel ending
          return parameter :: rest
        else return [parameter]

/-- Reads an expression that nothing is attached to yet. -/
def readPrimary : Nat → Reader RawExpr
  | 0 => fail "nesting too deep"
  | fuel + 1 => do
      let place ← position
      match ← peek with
      | .name text =>
          advance
          return .name ⟨text, place⟩
      | .integer value =>
          advance
          return .literal place (.integer value)
      | .float value =>
          advance
          return .literal place (.float value)
      | .text value =>
          advance
          return .literal place (.text value)
      | .bytes value =>
          advance
          return .literal place (.bytes value)
      | .symbol "[" =>
          advance
          readList fuel place
      | .symbol "\x7b" =>
          advance
          readDict fuel place
      | .symbol "(" =>
          advance
          if ← takeSymbol ")" then return .tuple place []
          else
            let inside ← readExpr fuel true
            needSymbol ")"
            match inside with
            | .tuple _ items => return .tuple place items
            | _ => return .paren place inside
      | .symbol "-" =>
          advance
          (readSuffixed fuel).map (Expr.unary place .minus)
      | .symbol "+" =>
          advance
          (readSuffixed fuel).map (Expr.unary place .plus)
      | .symbol "~" =>
          advance
          (readSuffixed fuel).map (Expr.unary place .complement)
      | _ => fail "want primary expression"

/-- Reads a list or list comprehension behind its bracket. -/
def readList : Nat → Position → Reader RawExpr
  | 0, _ => fail "nesting too deep"
  | fuel + 1, place => do
      if ← takeSymbol "]" then return .list place []
      else
        let first ← readTest fuel
        if ← atKeyword "for" then
          let clauses ← readClauses fuel
          needSymbol "]"
          return .listOf place first clauses
        else
          let items ← if ← takeSymbol "," then readItems fuel "]" else pure []
          needSymbol "]"
          return .list place (first :: items)

/-- Reads expressions between commas up to the given symbol. -/
def readItems : Nat → String → Reader (List RawExpr)
  | 0, _ => fail "nesting too deep"
  | fuel + 1, ending => do
      if ← atSymbol ending then return []
      else
        let item ← readTest fuel
        if ← takeSymbol "," then
          let rest ← readItems fuel ending
          return item :: rest
        else return [item]

/-- Reads a dictionary or dictionary comprehension behind its bracket. -/
def readDict : Nat → Position → Reader RawExpr
  | 0, _ => fail "nesting too deep"
  | fuel + 1, place => do
      if ← takeSymbol "\x7d" then return .dict place []
      else
        let first ← readEntry fuel
        if ← atKeyword "for" then
          let clauses ← readClauses fuel
          needSymbol "\x7d"
          return .dictOf place first clauses
        else
          let entries ← if ← takeSymbol "," then readEntries fuel else pure []
          needSymbol "\x7d"
          return .dict place (first :: entries)

def readEntry : Nat → Reader (Entry Identifier)
  | 0 => fail "nesting too deep"
  | fuel + 1 => do
      let key ← readTest fuel
      needSymbol ":"
      let value ← readTest fuel
      return .entry key value

def readEntries : Nat → Reader (List (Entry Identifier))
  | 0 => fail "nesting too deep"
  | fuel + 1 => do
      if ← atSymbol "\x7d" then return []
      else
        let entry ← readEntry fuel
        if ← takeSymbol "," then
          let rest ← readEntries fuel
          return entry :: rest
        else return [entry]

def readClauses : Nat → Reader (List (Clause Identifier))
  | 0 => fail "nesting too deep"
  | fuel + 1 => do
      if ← takeKeyword "for" then
        let target ← readTargets fuel
        needKeyword "in"
        let source ← readLevel fuel 0
        let rest ← readClauses fuel
        return .each target source :: rest
      else if ← takeKeyword "if" then
        let test ← readTestNoCondition fuel
        let rest ← readClauses fuel
        return .only test :: rest
      else return []

def readTargets : Nat → Reader RawExpr
  | 0 => fail "nesting too deep"
  | fuel + 1 => do
      let place ← position
      let first ← readSuffixed fuel
      if ← atSymbol "," then
        let rest ← readMoreTargets fuel
        return .tuple place (first :: rest)
      else return first

/-- Reads the variables of a loop behind the first. -/
def readMoreTargets : Nat → Reader (List RawExpr)
  | 0 => fail "nesting too deep"
  | fuel + 1 => do
      if ← takeSymbol "," then
        if (← atListEnd) || (← atKeyword "in") then return []
        else
          let target ← readSuffixed fuel
          let rest ← readMoreTargets fuel
          return target :: rest
      else return []

/-- Reads an expression that may be a tuple.  A comma at the end is only
allowed between brackets. -/
def readExpr : Nat → Bool → Reader RawExpr
  | 0, _ => fail "nesting too deep"
  | fuel + 1, bracketed => do
      let first ← readTest fuel
      if ← atSymbol "," then
        let rest ← readMore fuel bracketed
        return .tuple first.start (first :: rest)
      else return first

/-- Reads the expressions of a tuple behind the first. -/
def readMore : Nat → Bool → Reader (List RawExpr)
  | 0, _ => fail "nesting too deep"
  | fuel + 1, bracketed => do
      if ← takeSymbol "," then
        if ← atListEnd then
          if bracketed then return [] else fail "unparenthesized tuple with trailing comma"
        else
          let item ← readTest fuel
          let rest ← readMore fuel bracketed
          return item :: rest
      else return []

end

/-- Reads the names of a load statement behind its bracket. -/
def readLoadNames : Nat → Reader (List (Identifier × Identifier))
  | 0 => fail "nesting too deep"
  | fuel + 1 => do
      if ← atSymbol ")" then return []
      else
        let place ← position
        let pair ←
          match ← peek with
          | .text text =>
              advance
              pure (⟨text, place⟩, ⟨text, place⟩)
          | .name _ => do
              let label ← needName
              needSymbol "="
              let source ← position
              match ← peek with
              | .text text =>
                  advance
                  pure ((⟨text, source⟩ : Identifier), label)
              | _ => fail "original name of loaded symbol must be quoted"
          | _ => fail "load operand must be a name or a string"
        if ← takeSymbol "," then
          let rest ← readLoadNames fuel
          return pair :: rest
        else return [pair]

def readLoad (fuel : Nat) (place : Position) : Reader RawStatement := do
  needSymbol "("
  match ← peek with
  | .text _ => advance
  | _ => fail "first operand of load statement must be a string literal"
  let names ← if ← takeSymbol "," then readLoadNames fuel else pure []
  if names.isEmpty then fail "load statement must import at least 1 symbol"
  needSymbol ")"
  return .load place names

/-- Reads a statement that fits on a line. -/
def readSmall (fuel : Nat) : Reader RawStatement := do
  let place ← position
  if ← takeKeyword "return" then
    match ← peek with
    | .newline | .finish | .symbol ";" => return .exit place (absent place)
    | _ => (readExpr fuel false).map (Statement.exit place)
  else if ← takeKeyword "break" then return .leave place
  else if ← takeKeyword "continue" then return .next place
  else if ← takeKeyword "pass" then return .skip
  else if ← takeKeyword "load" then readLoad fuel place
  else
    let target ← readExpr fuel false
    match ← peek with
    | .symbol "=" =>
        advance
        (readExpr fuel false).map (Statement.assign target)
    | .symbol text =>
        match augmentOperator text with
        | some operator =>
            advance
            (readExpr fuel false).map (Statement.augment target operator)
        | none => return .expression target
    | _ => return .expression target

/-- Reads statements on one line, up to its end. -/
def readLine : Nat → Reader (List RawStatement)
  | 0 => fail "nesting too deep"
  | fuel + 1 => do
      let statement ← readSmall fuel
      if ← takeSymbol ";" then
        match ← peek with
        | .newline =>
            advance
            return [statement]
        | .finish => return [statement]
        | _ =>
            let rest ← readLine fuel
            return statement :: rest
      else
        match ← peek with
        | .newline =>
            advance
            return [statement]
        | .finish => return [statement]
        | _ => fail "want newline"

mutual

/-- Reads a statement, or several on one line. -/
def readStatement : Nat → Reader (List RawStatement)
  | 0 => fail "nesting too deep"
  | fuel + 1 => do
      let place ← position
      if ← takeKeyword "def" then
        let name ← needName
        needSymbol "("
        let parameters ← readParameters fuel ")"
        needSymbol ")"
        needSymbol ":"
        let body ← readSuite fuel
        return [.define place name name parameters body]
      else if ← takeKeyword "if" then
        let statement ← readBranch fuel
        return [statement]
      else if ← takeKeyword "for" then
        let target ← readTargets fuel
        needKeyword "in"
        let source ← readExpr fuel false
        needSymbol ":"
        let body ← readSuite fuel
        return [.each target source body]
      else if ← takeKeyword "while" then
        let test ← readTest fuel
        needSymbol ":"
        let body ← readSuite fuel
        return [.loop test body]
      else readLine fuel

def readBranch : Nat → Reader RawStatement
  | 0 => fail "nesting too deep"
  | fuel + 1 => do
      let test ← readTest fuel
      needSymbol ":"
      let yes ← readSuite fuel
      if ← takeKeyword "elif" then
        let no ← readBranch fuel
        return .branch test yes [no]
      else if ← takeKeyword "else" then
        needSymbol ":"
        let no ← readSuite fuel
        return .branch test yes no
      else return .branch test yes []

/-- Reads the statements that belong to the line before. -/
def readSuite : Nat → Reader (List RawStatement)
  | 0 => fail "nesting too deep"
  | fuel + 1 => do
      match ← peek with
      | .newline =>
          advance
          match ← peek with
          | .indent =>
              advance
              let statements ← readBlock fuel
              match ← peek with
              | .outdent =>
                  advance
                  return statements
              | _ => fail "want outdent"
          | _ => fail "want indent"
      | _ => readLine fuel

def readBlock : Nat → Reader (List RawStatement)
  | 0 => fail "nesting too deep"
  | fuel + 1 => do
      match ← peek with
      | .outdent | .finish => return []
      | _ =>
          let statements ← readStatement fuel
          let rest ← readBlock fuel
          return statements ++ rest

end

def readFile : Nat → Reader (List RawStatement)
  | 0 => fail "nesting too deep"
  | fuel + 1 => do
      match ← peek with
      | .finish => return []
      | .newline =>
          advance
          readFile fuel
      | _ =>
          let statements ← readStatement fuel
          let rest ← readFile fuel
          return statements ++ rest

end Grammar

def parse (source : String) : Except SyntaxError (List (Statement Identifier)) := do
  let tokens ← tokenize source
  let (statements, _) ← (Grammar.readFile (32 * (tokens.length + 8))).run tokens
  return statements

end Script

end AsmListing
