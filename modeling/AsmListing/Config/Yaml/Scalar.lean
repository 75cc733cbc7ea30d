import AsmListing.Config.Yaml.Cursor
import AsmListing.Decimal.Numeral

/-!
# Scalars of YAML

A scalar is plain, stands between quotes, or is a block of lines.
-/

namespace AsmListing

namespace Yaml

def endsPlain (inFlow : Bool) : List Char → Bool
  | [] => true
  | ':' :: rest => atSpace rest
  | character :: _ => inFlow && [',', '?', '[', ']', '\x7b', '\x7d'].contains character

/-- Reads characters of a plain scalar up to the next blank. -/
def takePlainWord (inFlow : Bool) : Nat → Cursor → List Char × Cursor
  | 0, cursor => ([], cursor)
  | fuel + 1, cursor =>
      match cursor.rest with
      | [] => ([], cursor)
      | character :: _ =>
          if isBlank character || isBreak character || endsPlain inFlow cursor.rest then
            ([], cursor)
          else
            let (word, after) := takePlainWord inFlow fuel cursor.next
            (character :: word, after)

/-- Reads a plain scalar, of which the given text has been read.  The flag
says whether the scalar ended behind a line end. -/
def takePlain (inFlow : Bool) (leftmost : Nat) :
    Nat → List Char → Gap → Cursor → Option (List Char × Bool × Cursor)
  | 0, _, _, _ => none
  | fuel + 1, text, gap, cursor =>
      if cursor.atDocument || cursor.rest.head? == some '#' then some (text, gap.broken, cursor)
      else
        let (word, after) := takePlainWord inFlow cursor.rest.length cursor
        let (text, gap) :=
          if word.isEmpty then (text, gap) else (text ++ gap.folded ++ word, Gap.none)
        match after.rest with
        | [] => some (text, gap.broken, after)
        | character :: _ =>
            if isBlank character || isBreak character then do
              let (gap, after) ← takeGap leftmost (after.rest.length + 1) gap after
              if !inFlow && after.column < leftmost then some (text, gap.broken, after)
              else takePlain inFlow leftmost fuel text gap after
            else some (text, gap.broken, after)

/-- The character that a letter behind a backslash stands for. -/
def escaped? : Char → Option Char
  | '0' => some '\x00'
  | 'a' => some '\x07'
  | 'b' => some '\x08'
  | 't' | '\t' => some '\t'
  | 'n' => some '\n'
  | 'v' => some '\x0b'
  | 'f' => some '\x0c'
  | 'r' => some '\r'
  | 'e' => some '\x1b'
  | ' ' => some ' '
  | '"' => some '"'
  | '\'' => some '\''
  | '/' => some '/'
  | '\\' => some '\\'
  | 'N' => some '\u0085'
  | '_' => some '\u00a0'
  | 'L' => some '\u2028'
  | 'P' => some '\u2029'
  | _ => none

/-- The number of hexadecimal digits behind a letter that stands for a
character by its code. -/
def codeLength? : Char → Option Nat
  | 'x' => some 2
  | 'u' => some 4
  | 'U' => some 8
  | _ => none

/-- Reads an escape behind its backslash. -/
def takeEscape (cursor : Cursor) : Option (Char × Cursor) :=
  match cursor.rest with
  | [] => none
  | letter :: rest =>
      match codeLength? letter with
      | some count =>
          let digits := rest.take count
          if digits.length = count then
            (Decimal.numberOf? 16 digits).bind fun code =>
              if code.isValidChar then some (Char.ofNat code, cursor.skip (count + 1)) else none
          else none
      | none => (escaped? letter).map fun character => (character, cursor.next)

/-- Reads characters of a scalar between quotes up to the next blank or the
closing quote.  The flag says that a line end was joined. -/
def takeQuotedWord (single : Bool) : Nat → Cursor → Option (List Char × Bool × Cursor)
  | 0, cursor => some ([], false, cursor)
  | fuel + 1, cursor =>
      match cursor.rest with
      | [] => some ([], false, cursor)
      | character :: rest =>
          if isBlank character || isBreak character then some ([], false, cursor)
          else if single then
            if character == '\'' then
              if rest.head? == some '\'' then do
                let (word, joined, after) ← takeQuotedWord single fuel (cursor.skip 2)
                return ('\'' :: word, joined, after)
              else some ([], false, cursor)
            else do
              let (word, joined, after) ← takeQuotedWord single fuel cursor.next
              return (character :: word, joined, after)
          else if character == '"' then some ([], false, cursor)
          else if character == '\\' then
            if !rest.isEmpty && atBreak rest then some ([], true, cursor.next.nextLine)
            else do
              let (character, after) ← takeEscape cursor.next
              let (word, joined, after) ← takeQuotedWord single fuel after
              return (character :: word, joined, after)
          else do
            let (word, joined, after) ← takeQuotedWord single fuel cursor.next
            return (character :: word, joined, after)

/-- Reads a scalar between quotes behind its opening quote, of which the given
text has been read. -/
def takeQuoted (single : Bool) : Nat → List Char → Cursor → Option (List Char × Cursor)
  | 0, _, _ => none
  | fuel + 1, text, cursor =>
      if cursor.atDocument || cursor.rest.isEmpty then none
      else do
        let (word, joined, after) ← takeQuotedWord single (cursor.rest.length + 1) cursor
        let text := text ++ word
        if after.rest.head? == some (if single then '\'' else '"') then
          return (text, after.next)
        else
          let gap := if joined then Gap.joined else Gap.none
          let (gap, after) ← takeGap 0 (after.rest.length + 1) gap after
          takeQuoted single fuel (text ++ gap.folded) after

/-- How the end of a block of lines is treated: line ends are dropped, the
first one is kept, or all are kept. -/
inductive Chomping where
  | strip
  | clip
  | keep
deriving DecidableEq, Repr

/-- Reads the header of a block of lines: how its end is treated and how far
it is indented. -/
def takeHeader (cursor : Cursor) : Option (Chomping × Nat × Cursor) :=
  let chomping? : Option Char → Option Chomping
    | some '-' => some .strip
    | some '+' => some .keep
    | _ => none
  let depth? : Option Char → Option (Option Nat)
    | some '0' => none
    | some character =>
        if character.isDigit then some (some (character.toNat - 48)) else some none
    | none => some none
  match chomping? cursor.rest.head? with
  | some chomping => do
      let after := cursor.next
      match ← depth? after.rest.head? with
      | some depth => return (chomping, depth, after.next)
      | none => return (chomping, 0, after)
  | none => do
      match ← depth? cursor.rest.head? with
      | some depth =>
          let after := cursor.next
          match chomping? after.rest.head? with
          | some chomping => return (chomping, depth, after.next)
          | none => return (.clip, depth, after)
      | none => return (.clip, 0, cursor)

/-- Drops what may stand behind the header of a block of lines, and requires
that the line ends there. -/
def endHeader (cursor : Cursor) : Option Cursor :=
  let after := cursor.skipWhile isBlank
  let after :=
    if after.rest.head? == some '#' then after.skipWhile fun character => !isBreak character
    else after
  if after.rest.isEmpty then some after
  else if atBreak after.rest then some after.nextLine
  else none

/-- Reads indentation and line ends.  An indent of zero is not known yet. -/
def takeBreaks (indent : Nat) :
    Nat → Nat → List Char → Cursor → Option (Nat × List Char × Cursor)
  | 0, deepest, breaks, cursor => some (deepest, breaks, cursor)
  | fuel + 1, deepest, breaks, cursor =>
      let blanks := cursor.rest.takeWhile (· == ' ')
      let count :=
        if indent = 0 then blanks.length else min blanks.length (indent - cursor.column)
      let after := cursor.skip count
      let deepest := max deepest after.column
      if (indent = 0 || after.column < indent) && after.rest.head? == some '\t' then none
      else if !after.rest.isEmpty && atBreak after.rest then
        takeBreaks indent fuel deepest (breaks ++ after.lineEnd) after.nextLine
      else some (deepest, breaks, after)

/-- Reads the lines of a block, of which the given text has been read.  The
line end before the next line and the empty lines behind it are kept apart. -/
def takeLines (literal : Bool) (indent : Nat) :
    Nat → List Char → List Char → List Char → Bool → Cursor →
      Option (List Char × List Char × List Char × Cursor)
  | 0, text, ending, breaks, _, cursor => some (text, ending, breaks, cursor)
  | fuel + 1, text, ending, breaks, blankBefore, cursor =>
      if cursor.column == indent && !cursor.rest.isEmpty then
        let startsBlank :=
          match cursor.rest with
          | character :: _ => isBlank character
          | [] => false
        let text :=
          if !literal && !blankBefore && !startsBlank && ending == ['\n'] then
            if breaks.isEmpty then text ++ [' '] else text
          else text ++ ending
        let text := text ++ breaks
        let line := cursor.rest.takeWhile fun character => !isBreak character
        let after := cursor.skip line.length
        let ending := if after.rest.isEmpty then [] else after.lineEnd
        let after := after.nextLine
        match takeBreaks indent (after.rest.length + 1) 0 [] after with
        | some (_, breaks, after) =>
            takeLines literal indent fuel (text ++ line) ending breaks startsBlank after
        | none => none
      else some (text, ending, breaks, cursor)

/-- Reads a block of lines behind its mark, inside something of the given
indent. -/
def takeBlock (literal : Bool) (outer : Int) (cursor : Cursor) :
    Option (List Char × Cursor) := do
  let (chomping, depth, after) ← takeHeader cursor
  let after ← endHeader after
  let given : Nat :=
    if depth = 0 then 0 else if 0 ≤ outer then outer.toNat + depth else depth
  let fuel := after.rest.length + 1
  let (deepest, breaks, after) ← takeBreaks given fuel 0 [] after
  let indent :=
    if given = 0 then max deepest (max (outer + 1).toNat 1) else given
  let (text, ending, breaks, after) ← takeLines literal indent fuel [] [] breaks false after
  match chomping with
  | .strip => return (text, after)
  | .clip => return (text ++ ending, after)
  | .keep => return (text ++ ending ++ breaks, after)

end Yaml

end AsmListing
