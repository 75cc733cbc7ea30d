/-!
# Places in a YAML text

A cursor is what is left of a text together with its place.  Lines can end in
five ways, and all but two of them count as a line feed.
-/

namespace AsmListing

namespace Yaml

/-- A place in a text: what is left of it, and where that starts. -/
structure Cursor where
  rest : List Char
  index : Nat
  line : Nat
  column : Nat

def isBreak (character : Char) : Bool :=
  character == '\n' || character == '\r' || character == '\u0085' ||
    character == '\u2028' || character == '\u2029'

def isBlank (character : Char) : Bool :=
  character == ' ' || character == '\t'

/-- Whether a text starts with a line end, or is over. -/
def atBreak : List Char → Bool
  | [] => true
  | character :: _ => isBreak character

/-- Whether a text starts with a blank or a line end, or is over. -/
def atSpace : List Char → Bool
  | [] => true
  | character :: _ => isBlank character || isBreak character

namespace Cursor

def start (text : List Char) : Cursor := ⟨text, 0, 0, 0⟩

/-- The place behind a character of a line. -/
def next (cursor : Cursor) : Cursor :=
  ⟨cursor.rest.tail, cursor.index + 1, cursor.line, cursor.column + 1⟩

/-- The place behind a number of characters of a line. -/
def skip (cursor : Cursor) (count : Nat) : Cursor :=
  ⟨cursor.rest.drop count, cursor.index + count, cursor.line, cursor.column + count⟩

def nextLine (cursor : Cursor) : Cursor :=
  match cursor.rest with
  | '\r' :: '\n' :: rest => ⟨rest, cursor.index + 2, cursor.line + 1, 0⟩
  | _ :: rest => ⟨rest, cursor.index + 1, cursor.line + 1, 0⟩
  | [] => cursor

/-- What a line end counts as. -/
def lineEnd (cursor : Cursor) : List Char :=
  match cursor.rest with
  | '\u2028' :: _ => ['\u2028']
  | '\u2029' :: _ => ['\u2029']
  | _ => ['\n']

/-- The place behind the characters of a line that pass a test. -/
def skipWhile (cursor : Cursor) (test : Char → Bool) : Cursor :=
  cursor.skip (cursor.rest.takeWhile test).length

/-- Whether the mark of a document stands at the start of a line here. -/
def atMarker (cursor : Cursor) (marker : List Char) : Bool :=
  cursor.column == 0 && marker.isPrefixOf cursor.rest && atSpace (cursor.rest.drop 3)

/-- Whether a document starts or ends here. -/
def atDocument (cursor : Cursor) : Bool :=
  cursor.atMarker ['-', '-', '-'] || cursor.atMarker ['.', '.', '.']

end Cursor

/-- A gap between words of a scalar: the blanks before the first line end, and
the line ends. -/
structure Gap where
  blanks : List Char
  broken : Bool
  first : List Char
  more : List Char

namespace Gap

def none : Gap := ⟨[], false, [], []⟩

/-- A gap behind a line end that is not kept. -/
def joined : Gap := ⟨[], true, [], []⟩

/-- What a gap is read as: a single line end becomes a blank, and of several
line ends the first is dropped. -/
def folded (gap : Gap) : List Char :=
  if !gap.broken then gap.blanks
  else if gap.first == ['\n'] then
    if gap.more.isEmpty then [' '] else gap.more
  else gap.first ++ gap.more

end Gap

/-- Reads a gap.  A tab at the start of a line has to stand right of the given
column.  Every step takes a character, so the length is fuel enough. -/
def takeGap (leftmost : Nat) : Nat → Gap → Cursor → Option (Gap × Cursor)
  | 0, gap, cursor => some (gap, cursor)
  | fuel + 1, gap, cursor =>
      match cursor.rest with
      | [] => some (gap, cursor)
      | character :: _ =>
          if isBlank character then
            if gap.broken then
              if character == '\t' && cursor.column < leftmost then Option.none
              else takeGap leftmost fuel gap cursor.next
            else takeGap leftmost fuel { gap with blanks := gap.blanks ++ [character] } cursor.next
          else if isBreak character then
            let ending := cursor.lineEnd
            let gap :=
              if gap.broken then { gap with more := gap.more ++ ending }
              else { gap with blanks := [], broken := true, first := ending }
            takeGap leftmost fuel gap cursor.nextLine
          else some (gap, cursor)

end Yaml

end AsmListing
