import AsmListing.Datum
import AsmListing.Decimal.Numeral
import AsmListing.Text.Utf8

/-!
# Statements of TOML

A TOML text is a sequence of table headers and assignments, one on a line.
-/

namespace AsmListing

namespace Toml

/-- A key with the parts that points divide. -/
abbrev Key := List String

inductive Value where
  | scalar (value : Datum)
  | array (items : List Value)
  | table (entries : List (Key × Value))

/-- A statement: the header of a table, the header of one more table in a list
of tables, or an assignment. -/
inductive Statement where
  | table (key : Key)
  | element (key : Key)
  | assign (key : Key) (value : Value)

/-- Drops blanks within a line. -/
def skipBlanks (text : List Char) : List Char :=
  text.dropWhile fun character => character == ' ' || character == '\t'

def skipComment (text : List Char) : List Char :=
  match text with
  | '#' :: rest => rest.dropWhile fun character => character != '\n' && character != '\r'
  | other => other

/-- Drops blanks, line ends and comments. -/
def skipSpace : Nat → List Char → List Char
  | 0, text => text
  | fuel + 1, text =>
      match skipComment (skipBlanks text) with
      | '\n' :: rest => skipSpace fuel rest
      | '\r' :: rest => skipSpace fuel rest
      | rest => rest

/-- Drops what may stand behind a statement, and requires that the line ends
there. -/
def endLine (text : List Char) : Option (List Char) :=
  match skipComment (skipBlanks text) with
  | [] => some []
  | '\n' :: rest => some rest
  | '\r' :: '\n' :: rest => some rest
  | _ => none

/-- Whether a character can stand in a key without quotes. -/
def isBare (character : Char) : Bool :=
  character.isAlphanum || character == '_' || character == '-'

/-- The character that a letter behind a backslash stands for. -/
def escaped? : Char → Option Char
  | 'b' => some '\x08'
  | 't' => some '\t'
  | 'n' => some '\n'
  | 'f' => some '\x0c'
  | 'r' => some '\r'
  | '"' => some '"'
  | '\\' => some '\\'
  | _ => none

/-- Reads a character that is given by a number of hexadecimal digits. -/
def takeCode (count : Nat) (text : List Char) : Option (Char × List Char) :=
  let digits := text.take count
  if digits.length = count then
    (Decimal.numberOf? 16 digits).bind fun code =>
      if code.isValidChar then some (Char.ofNat code, text.drop count) else none
  else none

/-- Reads an escape behind its backslash. -/
def takeEscape (text : List Char) : Option (Char × List Char) :=
  match text with
  | 'u' :: rest => takeCode 4 rest
  | 'U' :: rest => takeCode 8 rest
  | letter :: rest => (escaped? letter).map fun character => (character, rest)
  | [] => none

/-- Reads a string on one line behind its opening quote. -/
def takeBasic : Nat → List Char → Option (List Char × List Char)
  | 0, _ => none
  | _, [] => none
  | _ + 1, '"' :: rest => some ([], rest)
  | fuel + 1, '\\' :: rest => do
      let (character, rest) ← takeEscape rest
      let (inside, after) ← takeBasic fuel rest
      return (character :: inside, after)
  | fuel + 1, character :: rest =>
      if character == '\n' || character == '\r' then none
      else do
        let (inside, after) ← takeBasic fuel rest
        return (character :: inside, after)

/-- Reads a string without escapes behind its opening quote. -/
def takeLiteral (text : List Char) : Option (List Char × List Char) :=
  let inside := text.takeWhile fun character => character != '\'' && character != '\n'
  match text.drop inside.length with
  | '\'' :: rest => if inside.contains '\r' then none else some (inside, rest)
  | _ => none

/-- Reads the end of a string on several lines: three quotes, before which up
to two more belong to the string. -/
def takeClosing (quote : Char) (text : List Char) : Option (List Char × List Char) :=
  let quotes := text.takeWhile (· == quote)
  let count := quotes.length
  if count < 3 then none
  else if 5 < count then some (List.replicate 2 quote, text.drop 5)
  else some (List.replicate (count - 3) quote, text.drop count)

/-- What follows a backslash at the end of a line: the next character that is
neither blank nor a line end.  There has to be a line end. -/
def skipJoin (text : List Char) : Option (List Char) :=
  match skipBlanks text with
  | '\n' :: rest | '\r' :: rest =>
      some (rest.dropWhile fun character =>
        character == ' ' || character == '\t' || character == '\n' || character == '\r')
  | _ => none

/-- Reads a string on several lines behind its opening quotes. -/
def takeMultiline : Nat → List Char → Option (List Char × List Char)
  | 0, _ => none
  | _, [] => none
  | fuel + 1, '"' :: rest =>
      match takeClosing '"' ('"' :: rest) with
      | some closed => some closed
      | none => do
          let (inside, after) ← takeMultiline fuel rest
          return ('"' :: inside, after)
  | fuel + 1, '\\' :: rest =>
      match skipJoin rest with
      | some rest => takeMultiline fuel rest
      | none => do
          let (character, rest) ← takeEscape rest
          let (inside, after) ← takeMultiline fuel rest
          return (character :: inside, after)
  | fuel + 1, character :: rest => do
      let (inside, after) ← takeMultiline fuel rest
      return (character :: inside, after)

/-- Reads a string on several lines and without escapes behind its opening
quotes. -/
def takeMultilineLiteral : Nat → List Char → Option (List Char × List Char)
  | 0, _ => none
  | _, [] => none
  | fuel + 1, '\'' :: rest =>
      match takeClosing '\'' ('\'' :: rest) with
      | some closed => some closed
      | none => do
          let (inside, after) ← takeMultilineLiteral fuel rest
          return ('\'' :: inside, after)
  | fuel + 1, character :: rest => do
      let (inside, after) ← takeMultilineLiteral fuel rest
      return (character :: inside, after)

/-- Drops a line end right behind the opening quotes. -/
def dropFirstLineEnd : List Char → List Char
  | '\n' :: rest => rest
  | '\r' :: '\n' :: rest => rest
  | text => text

def takeString (text : List Char) : Option (String × List Char) :=
  let fuel := text.length + 1
  let finish (read : Option (List Char × List Char)) : Option (String × List Char) :=
    read.map fun (inside, rest) => (String.ofList inside, rest)
  match text with
  | '"' :: '"' :: '"' :: rest => finish (takeMultiline fuel (dropFirstLineEnd rest))
  | '\'' :: '\'' :: '\'' :: rest => finish (takeMultilineLiteral fuel (dropFirstLineEnd rest))
  | '"' :: rest => finish (takeBasic fuel rest)
  | '\'' :: rest => finish (takeLiteral rest)
  | _ => none

def takeKeyPart (text : List Char) : Option (String × List Char) :=
  match text with
  | '"' :: rest =>
      (takeBasic (text.length + 1) rest).map fun (inside, after) => (String.ofList inside, after)
  | '\'' :: rest => (takeLiteral rest).map fun (inside, after) => (String.ofList inside, after)
  | other =>
      let part := other.takeWhile isBare
      if part.isEmpty then none else some (String.ofList part, other.drop part.length)

def takeKey : Nat → List Char → Option (Key × List Char)
  | 0, _ => none
  | fuel + 1, text => do
      let (part, rest) ← takeKeyPart (skipBlanks text)
      match skipBlanks rest with
      | '.' :: rest => do
          let (parts, rest) ← takeKey fuel rest
          return (part :: parts, rest)
      | rest => return ([part], rest)

/-- Whether underscores stand between digits only. -/
def underscoresFit (digit : Char → Bool) : List Char → Bool
  | [] => true
  | '_' :: _ => false
  | character :: '_' :: next :: rest =>
      digit character && digit next && underscoresFit digit (next :: rest)
  | [_, '_'] => false
  | _ :: rest => underscoresFit digit rest

def hasLeadingZero (digits : List Char) : Bool :=
  digits.head? == some '0' && 1 < digits.length

def basedInteger? (base : Nat) (digits : List Char) : Option Datum :=
  if underscoresFit (Decimal.isDigitOf base) digits then
    (Decimal.numberOf? base (digits.filter (· != '_'))).bind fun number =>
      if fitsInt64 number then some (.integer .int64 number) else none
  else none

def decimalInteger? (negative : Bool) (digits : List Char) : Option Datum :=
  let plain := digits.filter (· != '_')
  if underscoresFit Char.isDigit digits && !hasLeadingZero plain then
    (Decimal.numberOf? 10 plain).bind fun magnitude =>
      let number := Decimal.signed negative magnitude
      if fitsInt64 number then some (.integer .int64 number) else none
  else none

def float? (negative : Bool) (text : List Char) : Option Datum := do
  let numeral ← Decimal.Numeral.ofText? (text.filter (· != '_'))
  if !underscoresFit Char.isDigit text || numeral.whole.isEmpty ||
      hasLeadingZero numeral.whole || (numeral.point && numeral.fraction.isEmpty) then none
  else
    let value := numeral.float
    if value.isFinite then some (.float64 (if negative then -value else value)) else none

def number? (word : List Char) : Option Datum :=
  match word with
  | '0' :: 'x' :: digits => basedInteger? 16 digits
  | '0' :: 'o' :: digits => basedInteger? 8 digits
  | '0' :: 'b' :: digits => basedInteger? 2 digits
  | _ =>
      let (negative, digits) := Decimal.splitSign word
      match String.ofList digits with
      | "inf" => some (.float64 (if negative then -1.0 / 0.0 else 1.0 / 0.0))
      | "nan" => some (.float64 (0.0 / 0.0))
      | _ =>
          if digits.all fun character => character.isDigit || character == '_' then
            decimalInteger? negative digits
          else float? negative digits

/-- Reads a truth value or a number. -/
def takeScalar (text : List Char) : Option (Value × List Char) :=
  let word := text.takeWhile fun character =>
    isBare character || character == '+' || character == '.'
  let rest := text.drop word.length
  match String.ofList word with
  | "" => none
  | "true" => some (.scalar (.bool true), rest)
  | "false" => some (.scalar (.bool false), rest)
  | _ => (number? word).map fun value => (.scalar value, rest)

mutual

/-- Reads a value.  Every step takes a character, so the length is fuel
enough. -/
def takeValue : Nat → List Char → Option (Value × List Char)
  | 0, _ => none
  | fuel + 1, text =>
      match skipBlanks text with
      | '[' :: rest => takeItems fuel [] rest
      | '\x7b' :: rest =>
          match skipBlanks rest with
          | '\x7d' :: after => some (.table [], after)
          | rest => takeEntries fuel [] rest
      | '"' :: rest =>
          (takeString ('"' :: rest)).map fun (inside, after) => (.scalar (.text inside), after)
      | '\'' :: rest =>
          (takeString ('\'' :: rest)).map fun (inside, after) => (.scalar (.text inside), after)
      | other => takeScalar other

def takeItems : Nat → List Value → List Char → Option (Value × List Char)
  | 0, _, _ => none
  | fuel + 1, items, text =>
      match skipSpace text.length text with
      | ']' :: rest => some (.array items.reverse, rest)
      | rest => do
          let (item, rest) ← takeValue fuel rest
          match skipSpace rest.length rest with
          | ',' :: rest => takeItems fuel (item :: items) rest
          | ']' :: rest => return (.array (item :: items).reverse, rest)
          | _ => none

/-- Reads the entries of a table on one line that has some. -/
def takeEntries : Nat → List (Key × Value) → List Char → Option (Value × List Char)
  | 0, _, _ => none
  | fuel + 1, entries, text => do
      let (key, rest) ← takeKey (text.length + 1) text
      match skipBlanks rest with
      | '=' :: rest => do
          let (value, rest) ← takeValue fuel rest
          match skipBlanks rest with
          | ',' :: rest => takeEntries fuel ((key, value) :: entries) rest
          | '\x7d' :: rest => return (.table ((key, value) :: entries).reverse, rest)
          | _ => none
      | _ => none

end

/-- Reads a statement and the end of its line. -/
def takeStatement (text : List Char) : Option (Statement × List Char) :=
  let fuel := text.length + 1
  match text with
  | '[' :: '[' :: rest => do
      let (key, rest) ← takeKey fuel rest
      match skipBlanks rest with
      | ']' :: ']' :: rest => return (.element key, ← endLine rest)
      | _ => none
  | '[' :: rest => do
      let (key, rest) ← takeKey fuel rest
      match skipBlanks rest with
      | ']' :: rest => return (.table key, ← endLine rest)
      | _ => none
  | other => do
      let (key, rest) ← takeKey fuel other
      match skipBlanks rest with
      | '=' :: rest => do
          let (value, rest) ← takeValue fuel rest
          return (.assign key value, ← endLine rest)
      | _ => none

/-- Reads all statements.  Every statement takes a character, so the length is
fuel enough. -/
def takeStatements : Nat → List Char → Option (List Statement)
  | 0, _ => none
  | fuel + 1, text =>
      match skipSpace text.length text with
      | [] => some []
      | rest => do
          let (statement, rest) ← takeStatement rest
          let statements ← takeStatements fuel rest
          return statement :: statements

/-- Whether all characters are allowed.  A carriage return has to stand before
a line feed. -/
def allAllowed : List Char → Bool
  | [] => true
  | '\r' :: '\n' :: rest => allAllowed rest
  | character :: rest =>
      (character == '\t' || character == '\n' ||
        (32 ≤ character.toNat && character.toNat != 127)) && allAllowed rest

/-- The statements of a text.  A mark of the byte order is passed over. -/
def statements (bytes : List UInt8) : Option (List Statement) := do
  let text ← Text.decodeValid? bytes
  let text :=
    match text with
    | '\ufeff' :: rest => rest
    | other => other
  if allAllowed text then takeStatements (text.length + 1) text else none

end Toml

end AsmListing
