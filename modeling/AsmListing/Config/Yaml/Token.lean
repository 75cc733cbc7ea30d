import AsmListing.Config.Yaml.Scalar

/-!
# Tokens of YAML

The tokens of a text show its structure: where blocks start and end, where
keys and values stand.  A key is recognised only by the colon behind it, so
places where a key may start are remembered until it shows whether one does.
-/

namespace AsmListing

namespace Yaml

inductive Token where
  | version (text : String)
  | tagMeaning (handle meaning : String)
  | documentStart
  | documentEnd
  | sequenceStart
  | mappingStart
  | blockEnd
  | flowSequenceStart
  | flowSequenceEnd
  | flowMappingStart
  | flowMappingEnd
  | entry
  | flowEntry
  | key
  | value
  | reference (name : String)
  | anchor (name : String)
  | tag (handle suffix : String)
  | scalar (text : String) (plain : Bool)
  | streamEnd
  | broken
deriving DecidableEq, Repr

/-- A place where a key may start.  A required one has to be a key. -/
structure KeyPlace where
  required : Bool
  number : Nat
  index : Nat
  line : Nat
  column : Nat

/-- What is known while tokens are read.  There is one possible key for every
level of brackets around the place, the innermost first. -/
structure Scan where
  cursor : Cursor
  flow : Nat
  indent : Int
  indents : List Int
  keyAllowed : Bool
  keys : List (Option KeyPlace)
  tokens : Array Token

namespace Scan

def start (text : List Char) : Scan :=
  ⟨.start text, 0, -1, [], true, [none], #[]⟩

def push (scan : Scan) (token : Token) : Scan :=
  { scan with tokens := scan.tokens.push token }

/-- Adds a token and moves behind its characters. -/
def pushAt (scan : Scan) (token : Token) (cursor : Cursor) : Scan :=
  { scan with tokens := scan.tokens.push token, cursor := cursor }

def insertAt (scan : Scan) (number : Nat) (token : Token) : Scan :=
  let (front, back) := scan.tokens.toList.splitAt number
  { scan with tokens := (front ++ token :: back).toArray }

/-- Closes the blocks that are further indented than a column. -/
def unroll (scan : Scan) (column : Int) : List Int → Scan
  | [] => scan
  | outer :: rest =>
      if scan.flow = 0 && column < scan.indent then
        unroll ({ scan with indent := outer, indents := rest }.push .blockEnd) column rest
      else scan

/-- Closes the blocks that are further indented than a column. -/
def closeTo (scan : Scan) (column : Int) : Scan :=
  scan.unroll column scan.indents

/-- Opens a block at a column, unless it is open there. -/
def openAt (scan : Scan) (column : Nat) (number : Nat) (token : Token) : Scan :=
  if scan.flow = 0 && scan.indent < column then
    { scan with indent := column, indents := scan.indent :: scan.indents }.insertAt number token
  else scan

/-- The possible key of the current level. -/
def key? (scan : Scan) : Option KeyPlace :=
  scan.keys.head?.join

/-- Forgets the possible key of the current level, which must not be
required. -/
def dropKey (scan : Scan) : Option Scan :=
  match scan.key? with
  | some place =>
      if place.required then none else some { scan with keys := none :: scan.keys.tail }
  | none => some scan

/-- Remembers that a key may start here. -/
def saveKey (scan : Scan) : Option Scan :=
  if scan.keyAllowed then do
    let required := scan.flow = 0 && scan.indent = scan.cursor.column
    let place : KeyPlace :=
      ⟨required, scan.tokens.size, scan.cursor.index, scan.cursor.line, scan.cursor.column⟩
    let scan ← scan.dropKey
    return { scan with keys := some place :: scan.keys.tail }
  else some scan

/-- Whether a key that started at a place can still end here: on the same line
and not too far away. -/
def reaches (scan : Scan) (place : KeyPlace) : Bool :=
  place.line == scan.cursor.line && scan.cursor.index ≤ place.index + 1024

def allowKey (scan : Scan) (allowed : Bool) : Scan :=
  { scan with keyAllowed := allowed }

def skipSpace : Nat → Scan → Scan
  | 0, scan => scan
  | fuel + 1, scan =>
      let cursor := scan.cursor
      let cursor :=
        if cursor.column = 0 && cursor.rest.head? == some '\ufeff' then cursor.next else cursor
      let cursor := cursor.skipWhile fun character =>
        character == ' ' || ((0 < scan.flow || !scan.keyAllowed) && character == '\t')
      let cursor :=
        if cursor.rest.head? == some '#' then
          cursor.skipWhile fun character => !isBreak character
        else cursor
      if !cursor.rest.isEmpty && atBreak cursor.rest then
        let scan := { scan with cursor := cursor.nextLine }
        skipSpace fuel (if scan.flow = 0 then scan.allowKey true else scan)
      else { scan with cursor := cursor }

def isNamePart (character : Char) : Bool :=
  character.isAlphanum || character == '_' || character == '-'

def takeName (cursor : Cursor) : Option (String × Cursor) :=
  let name := cursor.rest.takeWhile isNamePart
  let after := cursor.skip name.length
  let ends :=
    match after.rest with
    | [] => true
    | character :: _ =>
        atSpace after.rest || ['?', ':', ',', ']', '\x7d', '%', '@', '\x60'].contains character
  if name.isEmpty || !ends then none else some (String.ofList name, after)

def isTagPart (verbatim : Bool) (character : Char) : Bool :=
  isNamePart character ||
    [';', '/', '?', ':', '@', '&', '=', '+', '$', '.', '!', '~', '*', '\'', '(', ')',
     '%'].contains character ||
    (verbatim && [',', '[', ']'].contains character)

def takeTag (cursor : Cursor) : Option (Token × Cursor) := do
  let (token, after) ←
    match cursor.rest with
    | '!' :: '<' :: rest =>
        let name := rest.takeWhile (isTagPart true)
        match rest.drop name.length with
        | '>' :: _ =>
            if name.isEmpty then none
            else some (Token.tag "" (String.ofList name), cursor.skip (name.length + 3))
        | _ => none
    | '!' :: rest =>
        let word := rest.takeWhile isNamePart
        match rest.drop word.length with
        | '!' :: more =>
            let suffix := more.takeWhile (isTagPart false)
            if suffix.isEmpty then none
            else
              some (Token.tag (String.ofList ('!' :: word ++ ['!'])) (String.ofList suffix),
                cursor.skip (word.length + 2 + suffix.length))
        | _ =>
            let suffix := rest.takeWhile (isTagPart false)
            let token :=
              if suffix.isEmpty then Token.tag "" "!" else Token.tag "!" (String.ofList suffix)
            some (token, cursor.skip (suffix.length + 1))
    | _ => none
  if atSpace after.rest then return (token, after) else none

/-- Reads a directive behind its mark. -/
def takeDirective (cursor : Cursor) : Option (Token × Cursor) := do
  let name := cursor.rest.takeWhile isNamePart
  let after := (cursor.skip name.length).skipWhile isBlank
  let word (cursor : Cursor) : List Char :=
    cursor.rest.takeWhile fun character => !isBlank character && !isBreak character
  let (token, after) ←
    match String.ofList name with
    | "YAML" =>
        let version := word after
        some (Token.version (String.ofList version), after.skip version.length)
    | "TAG" =>
        let handle := word after
        let after := (after.skip handle.length).skipWhile isBlank
        let meaning := word after
        if handle.isEmpty || meaning.isEmpty then none
        else
          some (Token.tagMeaning (String.ofList handle) (String.ofList meaning),
            after.skip meaning.length)
    | _ => none
  let after ← endHeader after
  return (token, after)

/-- Reads the colon behind a key, or before a value without one. -/
def takeValue (scan : Scan) : Option Scan := do
  let valid ←
    match scan.key? with
    | none => some none
    | some place =>
        if scan.reaches place then some (some place)
        else if place.required then none
        else some none
  let scan ←
    match valid with
    | some place =>
        let scan := (scan.insertAt place.number .key).openAt place.column place.number .mappingStart
        some ({ scan with keys := none :: scan.keys.tail }.allowKey false)
    | none =>
        if scan.flow = 0 then
          if scan.keyAllowed then
            some ((scan.openAt scan.cursor.column scan.tokens.size .mappingStart).allowKey true)
          else none
        else some (scan.allowKey false)
  return scan.pushAt .value scan.cursor.next

/-- Reads a scalar that is not plain. -/
def pushScalar (scan : Scan) (read : Option (List Char × Cursor)) : Option Scan :=
  read.map fun (text, cursor) => scan.pushAt (.scalar (String.ofList text) false) cursor

def takePlainScalar (scan : Scan) : Option Scan := do
  let scan ← scan.saveKey
  let scan := scan.allowKey false
  let (text, broken, cursor) ← takePlain (0 < scan.flow) (scan.indent + 1).toNat
    (scan.cursor.rest.length + 1) [] Gap.none scan.cursor
  let scan := scan.pushAt (.scalar (String.ofList text) true) cursor
  return if broken then scan.allowKey true else scan

/-- Reads an entry of a sequence, or the mark of a key, in a block. -/
def openEntry (scan : Scan) (block token : Token) : Option Scan := do
  let scan ←
    if scan.flow = 0 then
      if scan.keyAllowed then
        some (scan.openAt scan.cursor.column scan.tokens.size block)
      else none
    else some scan
  let scan ← scan.dropKey
  return scan.pushAt token scan.cursor.next

/-- Closes everything before a mark of the document. -/
def closeAll (scan : Scan) : Option Scan :=
  (scan.closeTo (-1)).dropKey.map fun scan => scan.allowKey false

/-- The characters that cannot start a plain scalar. -/
def indicators : List Char :=
  ['-', '?', ':', ',', '[', ']', '\x7b', '\x7d', '#', '&', '*', '!', '|', '>', '\'', '"', '%',
   '@', '\x60']

def startsPlain (inFlow : Bool) : List Char → Bool
  | [] => false
  | character :: rest =>
      (!isBlank character && !isBreak character && !indicators.contains character) ||
        (character == '-' && !(rest.head?.any isBlank)) ||
        ((character == '?' || character == ':') && !inFlow && !atSpace rest)

/-- Reads the next token, which is not the end of the text. -/
def takeToken (scan : Scan) : Option Scan :=
  let cursor := scan.cursor
  let inFlow := 0 < scan.flow
  let opening (token : Token) : Option Scan := do
    let scan ← scan.saveKey
    let scan := { scan with flow := scan.flow + 1, keys := none :: scan.keys }
    return (scan.allowKey true).pushAt token cursor.next
  let closing (token : Token) : Option Scan := do
    let scan ← scan.dropKey
    let scan :=
      if 0 < scan.flow then { scan with flow := scan.flow - 1, keys := scan.keys.tail } else scan
    return (scan.allowKey false).pushAt token cursor.next
  let named (make : String → Token) : Option Scan := do
    let scan ← scan.saveKey
    let (name, after) ← takeName cursor.next
    return (scan.allowKey false).pushAt (make name) after
  let quoted (single : Bool) : Option Scan := do
    let scan ← scan.saveKey
    (scan.allowKey false).pushScalar
      (takeQuoted single (cursor.rest.length + 1) [] cursor.next)
  let block (literal : Bool) : Option Scan := do
    let scan ← scan.dropKey
    (scan.allowKey true).pushScalar (takeBlock literal scan.indent cursor.next)
  if cursor.column = 0 && cursor.rest.head? == some '%' then do
    let scan ← scan.closeAll
    let (token, after) ← takeDirective cursor.next
    return scan.pushAt token after
  else if cursor.atMarker ['-', '-', '-'] then do
    let scan ← scan.closeAll
    return scan.pushAt .documentStart (cursor.skip 3)
  else if cursor.atMarker ['.', '.', '.'] then do
    let scan ← scan.closeAll
    return scan.pushAt .documentEnd (cursor.skip 3)
  else
    match cursor.rest with
    | [] => some scan
    | '[' :: _ => opening .flowSequenceStart
    | '\x7b' :: _ => opening .flowMappingStart
    | ']' :: _ => closing .flowSequenceEnd
    | '\x7d' :: _ => closing .flowMappingEnd
    | ',' :: _ => do
        let scan ← scan.dropKey
        return (scan.allowKey true).pushAt .flowEntry cursor.next
    | character :: rest =>
        if character == '-' && atSpace rest then
          (scan.openEntry .sequenceStart .entry).map fun scan => scan.allowKey true
        else if character == '?' && (inFlow || atSpace rest) then
          (scan.openEntry .mappingStart .key).map fun scan => scan.allowKey (scan.flow = 0)
        else if character == ':' && (inFlow || atSpace rest) then scan.takeValue
        else if character == '*' then named .reference
        else if character == '&' then named .anchor
        else if character == '!' then do
          let scan ← scan.saveKey
          let (token, after) ← takeTag cursor
          return (scan.allowKey false).pushAt token after
        else if character == '|' && !inFlow then block true
        else if character == '>' && !inFlow then block false
        else if character == '\'' then quoted true
        else if character == '"' then quoted false
        else if startsPlain inFlow cursor.rest then scan.takePlainScalar
        else none

/-- How many tokens behind a token have to be readable before it is taken. -/
def lookahead : Nat := 2

/-- Reads all tokens.  Where a text cannot be read further, the tokens end
early.  Every token takes a character, so the length is fuel enough. -/
def run : Nat → Scan → List Token
  | 0, scan => scan.tokens.toList
  | fuel + 1, scan =>
      let cut : List Token :=
        scan.tokens.toList.take (scan.tokens.size - lookahead) ++ [.broken]
      let scan := scan.skipSpace (scan.cursor.rest.length + 1)
      let scan := scan.closeTo scan.cursor.column
      if scan.cursor.rest.isEmpty then
        match scan.closeAll with
        | some scan => (scan.push .streamEnd).tokens.toList
        | none => cut
      else
        match scan.takeToken with
        | some scan => run fuel scan
        | none => cut

end Scan

/-- Whether a character can stand in a text. -/
def isAllowed (character : Char) : Bool :=
  let code := character.toNat
  code == 9 || code == 10 || code == 13 || (0x20 ≤ code && code ≤ 0x7e) || code == 0x85 ||
    (0xa0 ≤ code && code ≤ 0xd7ff) || (0xe000 ≤ code && code ≤ 0xfffd) || 0x10000 ≤ code

def tokens (text : List Char) : List Token :=
  (Scan.start text).run (2 * text.length + 2)

end Yaml

end AsmListing
