import AsmListing.Decimal.Numeral
import AsmListing.Text.Letter
import AsmListing.Text.Utf8

/-!
# Tokens of a script

A script is read as a list of tokens.  Lines are grouped by their indentation:
a line that is indented more than the one before opens a block, and one that
is indented less closes blocks.  Inside brackets, line ends and indentation
mean nothing.
-/

namespace AsmListing

namespace Script

/-- A place in a script.  Lines and columns count from one, and columns count
characters. -/
structure Position where
  line : Nat
  column : Nat
deriving DecidableEq, Repr, Inhabited

/-- Whether a place comes before another. -/
def Position.before (left right : Position) : Bool :=
  left.line < right.line || (left.line == right.line && left.column < right.column)

inductive Token where
  | newline
  | indent
  | outdent
  | finish
  | name (text : String)
  | keyword (text : String)
  | symbol (text : String)
  | integer (value : Nat)
  | float (value : Float)
  | text (value : String)
  | bytes (value : List UInt8)

/-- A token with the place where it starts. -/
structure Lexeme where
  token : Token
  position : Position

/-- A script that is not well formed, with the place and the problem. -/
structure SyntaxError where
  position : Position
  problem : String
deriving DecidableEq, Repr

def keywords : List String :=
  ["and", "break", "continue", "def", "elif", "else", "for", "if", "in", "lambda", "load",
   "not", "or", "pass", "return", "while"]

def reservedWords : List String :=
  ["as", "class", "del", "except", "finally", "from", "global", "import", "is", "nonlocal",
   "raise", "try", "with", "yield"]

/-- The symbols, with longer ones before the shorter ones they start with. -/
def symbols : List String :=
  ["<<=", ">>=", "//=", "+=", "-=", "*=", "/=", "%=", "&=", "|=", "^=", "==", "!=", "<=", ">=",
   "<<", ">>", "//", "**", "+", "-", "*", "/", "%", "=", "<", ">", "&", "|", "^", "~", ".",
   ",", ";", ":", "(", ")", "[", "]", "\x7b", "\x7d"]

def isNameStart (character : Char) : Bool :=
  character == '_' || Text.isLetter character

def isNamePart (character : Char) : Bool :=
  isNameStart character || character.isDigit

namespace Lexer

/-- Gives every line the same end. -/
def unifyLines : List Char → List Char
  | [] => []
  | '\r' :: '\n' :: rest => '\n' :: unifyLines rest
  | '\r' :: rest => '\n' :: unifyLines rest
  | character :: rest => character :: unifyLines rest

def advance (position : Position) (character : Char) : Position :=
  if character == '\n' then ⟨position.line + 1, 1⟩
  else ⟨position.line, position.column + 1⟩

def advanceAll (position : Position) (characters : List Char) : Position :=
  characters.foldl advance position

/-- The raw inside of a string that ends with its quote, and what follows. -/
def takeSingle (quote : Char) : List Char → Option (List Char × List Char)
  | [] => none
  | '\n' :: _ => none
  | '\\' :: character :: rest =>
      (takeSingle quote rest).map fun (inside, after) => ('\\' :: character :: inside, after)
  | character :: rest =>
      if character == quote then some ([], rest)
      else (takeSingle quote rest).map fun (inside, after) => (character :: inside, after)

/-- The raw inside of a string that ends with three quotes, and what
follows. -/
def takeTriple (quote : Char) : List Char → Option (List Char × List Char)
  | [] => none
  | '\\' :: character :: rest =>
      (takeTriple quote rest).map fun (inside, after) => ('\\' :: character :: inside, after)
  | first :: second :: third :: rest =>
      if first == quote && second == quote && third == quote then some ([], rest)
      else
        (takeTriple quote (second :: third :: rest)).map fun (inside, after) =>
          (first :: inside, after)
  | character :: rest =>
      (takeTriple quote rest).map fun (inside, after) => (character :: inside, after)

def charBytes (character : Char) : List UInt8 :=
  (String.singleton character).toUTF8.toList

/-- A piece of an unescaped string: a character, or a byte of a byte
string. -/
def pieceOf (bytes : Bool) (code : Nat) : Option (List UInt8) :=
  if bytes then if code < 256 then some [UInt8.ofNat code] else none
  else if code < 128 then some [UInt8.ofNat code] else none

def pieceOfCode (digits : List Char) (count : Nat) : Option (List UInt8) :=
  let code := Decimal.numberOf 16 digits
  if digits.length = count && digits.all (Decimal.isDigitOf 16) && code.isValidChar then
    some (charBytes (Char.ofNat code))
  else none

/-- Resolves the escapes of a raw string.  Every step takes a character, so
the length is fuel enough. -/
def unescape (bytes : Bool) : Nat → List Char → Option (List UInt8)
  | 0, _ => some []
  | _ + 1, [] => some []
  | fuel + 1, '\\' :: rest =>
      match rest with
      | [] => none
      | '\n' :: after => unescape bytes fuel after
      | 'x' :: after =>
          let digits := after.take 2
          if digits.length = 2 && digits.all (Decimal.isDigitOf 16) then do
            let piece ← pieceOf bytes (Decimal.numberOf 16 digits)
            let tail ← unescape bytes fuel (after.drop 2)
            return piece ++ tail
          else none
      | 'u' :: after => do
          let piece ← pieceOfCode (after.take 4) 4
          let tail ← unescape bytes fuel (after.drop 4)
          return piece ++ tail
      | 'U' :: after => do
          let piece ← pieceOfCode (after.take 8) 8
          let tail ← unescape bytes fuel (after.drop 8)
          return piece ++ tail
      | character :: after =>
          if Decimal.isDigitOf 8 character then do
            let digits := (rest.take 3).takeWhile (Decimal.isDigitOf 8)
            let piece ← pieceOf bytes (Decimal.numberOf 8 digits)
            let tail ← unescape bytes fuel (rest.drop digits.length)
            return piece ++ tail
          else do
            let code ←
              match character with
              | 'a' => some 7
              | 'b' => some 8
              | 't' => some 9
              | 'n' => some 10
              | 'v' => some 11
              | 'f' => some 12
              | 'r' => some 13
              | '\\' => some 92
              | '\'' => some 39
              | '"' => some 34
              | _ => none
            let tail ← unescape bytes fuel after
            return UInt8.ofNat code :: tail
  | fuel + 1, character :: rest => do
      let tail ← unescape bytes fuel rest
      return charBytes character ++ tail

/-- The marks before the quote of a string: raw, and bytes. -/
def stringMarks : List Char → Option (Bool × Bool × List Char)
  | 'r' :: 'b' :: quote :: rest =>
      if quote == '"' || quote == '\'' then some (true, true, quote :: rest) else none
  | 'r' :: quote :: rest =>
      if quote == '"' || quote == '\'' then some (true, false, quote :: rest) else none
  | 'b' :: quote :: rest =>
      if quote == '"' || quote == '\'' then some (false, true, quote :: rest) else none
  | quote :: rest =>
      if quote == '"' || quote == '\'' then some (false, false, quote :: rest) else none
  | [] => none

/-- Reads a string behind its marks. -/
def takeString (raw bytes : Bool) (text : List Char) : Option (Token × List Char) := do
  let (inside, rest) ←
    match text with
    | first :: second :: third :: rest =>
        if second == first && third == first then takeTriple first rest
        else takeSingle first (second :: third :: rest)
    | quote :: rest => takeSingle quote rest
    | [] => none
  let content ←
    if raw then some (String.ofList inside).toUTF8.toList
    else unescape bytes inside.length inside
  if bytes then return (.bytes content, rest)
  else return (.text (String.ofList (Text.decodeLossy content)), rest)

/-- Reads a number in a base behind its mark. -/
def takeBased (base : Nat) (text : List Char) : Option (Token × List Char) :=
  let digits := text.takeWhile (Decimal.isDigitOf base)
  if digits.isEmpty then none
  else some (.integer (Decimal.numberOf base digits), text.drop digits.length)

/-- Reads a decimal number.  A number with a point or an exponent is a float,
and another must not start with a zero. -/
def takeDecimal (text : List Char) : Option (Token × List Char) := do
  let (numeral, rest) ← Decimal.Numeral.take text
  if numeral.point || numeral.exponent?.isSome then
    if numeral.float.isFinite then return (.float numeral.float, rest) else none
  else
    if numeral.whole.head? == some '0' && numeral.whole.any (· != '0') then none
    else return (.integer (Decimal.numberOf 10 numeral.whole), rest)

def takeNumber (text : List Char) : Option (Token × List Char) :=
  match text with
  | '0' :: mark :: rest =>
      if mark == 'x' || mark == 'X' then takeBased 16 rest
      else if mark == 'o' || mark == 'O' then takeBased 8 rest
      else if mark == 'b' || mark == 'B' then takeBased 2 rest
      else takeDecimal text
  | _ => takeDecimal text

def takeWord (text : List Char) : Option (Token × List Char) :=
  let word := text.takeWhile isNamePart
  let spelled := String.ofList word
  let rest := text.drop word.length
  if keywords.contains spelled then some (.keyword spelled, rest)
  else if reservedWords.contains spelled then none
  else some (.name spelled, rest)

def takeSymbol (text : List Char) : Option (Token × List Char) :=
  (symbols.find? fun symbol => symbol.toList.isPrefixOf text).map fun symbol =>
    (.symbol symbol, text.drop symbol.length)

/-- Reads one token that is no line end. -/
def takeToken (text : List Char) : Option (Token × List Char) :=
  match stringMarks text with
  | some (raw, bytes, quoted) => takeString raw bytes quoted
  | none =>
      match text with
      | [] => none
      | character :: rest =>
          let digitNext := (rest.head?.map Char.isDigit).getD false
          if isNameStart character then takeWord text
          else if character.isDigit || (character == '.' && digitNext) then takeNumber text
          else takeSymbol text

structure State where
  rest : List Char
  position : Position
  indents : List Nat
  depth : Nat
  lineStart : Bool

/-- The width of blanks at the front of a line, behind the given number of
characters.  A tab is as wide as the way from its column to the next multiple
of eight. -/
def indentation (width column : Nat) : List Char → Nat × List Char
  | ' ' :: rest => indentation (width + 1) (column + 1) rest
  | '\t' :: rest => indentation (width + (8 - column % 8)) (column + 1) rest
  | rest => (width, rest)

/-- Closes the blocks that a line of the given width ends. -/
def closeBlocks (width : Nat) : List Nat → Nat × List Nat
  | [] => (0, [])
  | level :: outer =>
      if width < level then
        let (closed, left) := closeBlocks width outer
        (closed + 1, left)
      else (0, level :: outer)

/-- Whether nothing but a comment is left on a line. -/
def lineIsBlank : List Char → Bool
  | [] => true
  | character :: _ => character == '#' || character == '\n'

/-- Reads all tokens.  Every step takes a character or closes the text, so
the length is fuel enough. -/
def run : Nat → State → Except SyntaxError (List Lexeme)
  | 0, state => .error ⟨state.position, "script too long"⟩
  | fuel + 1, state =>
      let position := state.position
      if state.lineStart then
        let (width, rest) := indentation 0 0 state.rest
        let moved : State :=
          { state with
            rest, lineStart := false
            position := advanceAll position (state.rest.take (state.rest.length - rest.length)) }
        if lineIsBlank rest then
          match rest.dropWhile (· != '\n') with
          | [] =>
              let closing := List.replicate (state.indents.length - 1) Token.outdent
              .ok ((closing ++ [Token.finish]).map fun token => ⟨token, moved.position⟩)
          | _ :: after =>
              run fuel { moved with
                rest := after, position := ⟨position.line + 1, 1⟩, lineStart := true }
        else if state.depth > 0 then run fuel moved
        else
          let level := state.indents.headD 0
          if level < width then
            (run fuel { moved with indents := width :: state.indents }).map
              fun tokens => ⟨.indent, moved.position⟩ :: tokens
          else
            let (closed, indents) := closeBlocks width state.indents
            if indents.headD 0 == width then
              (run fuel { moved with indents }).map fun tokens =>
                List.replicate closed ⟨.outdent, moved.position⟩ ++ tokens
            else .error ⟨moved.position, "unindent does not match any outer level"⟩
      else
        match state.rest with
        | [] =>
            let ending : List Token :=
              if state.indents.length > 1 then
                .newline :: List.replicate (state.indents.length - 1) .outdent ++ [.finish]
              else [.finish]
            .ok (ending.map fun token => ⟨token, position⟩)
        | '\n' :: rest =>
            let next : State :=
              { state with rest, position := ⟨position.line + 1, 1⟩, lineStart := true }
            if state.depth > 0 then run fuel next
            else (run fuel next).map fun tokens => ⟨.newline, position⟩ :: tokens
        | '\\' :: '\n' :: rest =>
            run fuel { state with rest, position := ⟨position.line + 1, 1⟩ }
        | character :: rest =>
            if character == ' ' || character == '\t' then
              run fuel { state with rest, position := advance position character }
            else if character == '#' then
              let comment := state.rest.takeWhile (· != '\n')
              run fuel { state with
                rest := state.rest.drop comment.length
                position := advanceAll position comment }
            else
              match takeToken state.rest with
              | none => .error ⟨position, "unexpected input"⟩
              | some (token, rest) =>
                  let consumed := state.rest.take (state.rest.length - rest.length)
                  let opens :=
                    match token with
                    | .symbol text => ["(", "[", "\x7b"].contains text
                    | _ => false
                  let closes :=
                    match token with
                    | .symbol text => [")", "]", "\x7d"].contains text
                    | _ => false
                  if closes && state.depth == 0 then .error ⟨position, "unexpected bracket"⟩
                  else
                    let depth :=
                      if opens then state.depth + 1
                      else if closes then state.depth - 1 else state.depth
                    (run fuel { state with
                      rest, depth, position := advanceAll position consumed }).map
                      fun tokens => ⟨token, position⟩ :: tokens

end Lexer

def tokenize (source : String) : Except SyntaxError (List Lexeme) :=
  let characters := Lexer.unifyLines source.toList
  Lexer.run (2 * characters.length + 2) ⟨characters, ⟨1, 1⟩, [0], 0, true⟩

end Script

end AsmListing
