import AsmListing.Text.Quoted

/-!
# Templates

A template is a text with directives that are filled from a list of
arguments.  A directive starts with a percent sign and ends with a verb; in
between it may carry flags, a number of an argument in brackets, a width and a
precision.  A template is first split into pieces, which does not depend on
the arguments, and then filled.

A directive that cannot be filled leaves a mark in the result and never stops
the rest from being filled.
-/

namespace AsmListing

namespace Text

structure DirectiveFlags where
  left : Bool
  plus : Bool
  sharp : Bool
  blank : Bool
  zero : Bool
deriving DecidableEq, Repr

def DirectiveFlags.none : DirectiveFlags := ⟨false, false, false, false, false⟩

/-- A width or precision: absent, written out, or taken from an argument. -/
inductive Extent where
  | absent
  | literal (count : Nat)
  | argument
deriving DecidableEq, Repr

/-- A number in brackets that selects an argument, counted from one.  It is
absent, well formed, or unreadable. -/
inductive Selection where
  | absent
  | number (position : Nat)
  | unreadable
deriving DecidableEq, Repr

/-- A complete directive.  Up to three selections may stand in it: before the
width, before the precision and before the verb. -/
structure Directive where
  flags : DirectiveFlags
  selection : Selection
  width : Extent
  precise : Bool
  precisionSelection : Selection
  precision : Extent
  verbSelection : Selection
  verb : Char
deriving DecidableEq, Repr

/-- A piece of a template.  A directive that ends before its verb still
consumes the selections and extents it has, and ends the template. -/
inductive Piece where
  | literal (character : Char)
  | directive (directive : Directive)
  | unfinished (directive : Directive)
deriving DecidableEq, Repr

namespace Template

/-- Reads flags off the front of a text. -/
def takeFlags (flags : DirectiveFlags) : List Char → DirectiveFlags × List Char
  | [] => (flags, [])
  | character :: rest =>
      if character == '#' then takeFlags { flags with sharp := true } rest
      else if character == '0' then takeFlags { flags with zero := true } rest
      else if character == '+' then takeFlags { flags with plus := true } rest
      else if character == '-' then takeFlags { flags with left := true } rest
      else if character == ' ' then takeFlags { flags with blank := true } rest
      else (flags, character :: rest)

/-- The largest value after which a number may not go on. -/
def numberLimit : Nat := 1000000

/-- Reads a number off the front of a text, given the value of the digits
before it.  A number that is too large is absent, and nothing of the text is
left. -/
def takeNumber (value? : Option Nat) : List Char → Option Nat × List Char
  | [] => (value?, [])
  | character :: rest =>
      if character.isDigit then
        if numberLimit < value?.getD 0 then (none, [])
        else takeNumber (some (10 * value?.getD 0 + (character.toNat - '0'.toNat))) rest
      else (value?, character :: rest)

/-- Reads a selection off the front of a text.  Without a closing bracket,
or with too little text for a number, only the opening one is consumed. -/
def takeSelection : List Char → Selection × List Char
  | '[' :: rest =>
      if rest.length < 2 then (.unreadable, rest) else
      let inside := rest.takeWhile (· != ']')
      match rest.dropWhile (· != ']') with
      | [] => (.unreadable, rest)
      | _ :: after =>
          match takeNumber none inside with
          | (some position, []) => (.number position, after)
          | _ => (.unreadable, after)
  | text => (.absent, text)

/-- Reads a width or precision off the front of a text. -/
def takeExtent : List Char → Extent × List Char
  | '*' :: rest => (.argument, rest)
  | text =>
      match takeNumber none text with
      | (some count, rest) => (.literal count, rest)
      | (none, rest) => (.absent, rest)

/-- Reads a precision with the selection before it, if a point is next. -/
def takePrecision : List Char → (Bool × Selection × Extent) × List Char
  | '.' :: rest =>
      let (selection, rest) := takeSelection rest
      let (precision, rest) := takeExtent rest
      ((true, selection, precision), rest)
  | text => ((false, .absent, .absent), text)

/-- Whether a selection is the last thing that was read before the verb. -/
def selectionStands (selection : Selection) (extent : Extent) : Bool :=
  match selection, extent with
  | .number _, .argument => false
  | .number _, _ => true
  | _, _ => false

/-- Reads the rest of a directive, behind its percent sign. -/
def takeDirective (text : List Char) : Piece × List Char :=
  let (flags, text) := takeFlags .none text
  let (selection, text) := takeSelection text
  let (width, text) := takeExtent text
  let ((precise, precisionSelection, precision), text) := takePrecision text
  let stands :=
    if precise then selectionStands precisionSelection precision
    else selectionStands selection width
  let (verbSelection, text) := if stands then (.absent, text) else takeSelection text
  let directive (verb : Char) : Directive :=
    ⟨flags, selection, width, precise, precisionSelection, precision, verbSelection, verb⟩
  match text with
  | [] => (.unfinished (directive '%'), [])
  | verb :: rest => (.directive (directive verb), rest)

/-- Splits a template into pieces.  Every piece takes at least one character,
so the length of the text is fuel enough. -/
def split : Nat → List Char → List Piece
  | 0, _ => []
  | _ + 1, [] => []
  | fuel + 1, '%' :: rest =>
      let (piece, rest) := takeDirective rest
      piece :: split fuel rest
  | fuel + 1, character :: rest => .literal character :: split fuel rest

def pieces (template : String) : List Piece :=
  split template.length template.toList

end Template

inductive Argument where
  | text (value : String)
  | integer (value : Int)
deriving DecidableEq, Repr

/-- How integers are written and left-over arguments reported. -/
structure TemplateStyle where
  groupDigits : Bool
  reportUntouched : Bool
deriving DecidableEq, Repr

/-- A directive with its extents resolved. -/
structure Layout where
  flags : DirectiveFlags
  width : Option Nat
  precision : Option Nat
deriving DecidableEq, Repr

namespace Layout

def plain : Layout := ⟨.none, none, none⟩

/-- The filling that brings a text of the given length to the width. -/
def padding (layout : Layout) (length : Nat) : List Char :=
  let character := if layout.flags.zero && !layout.flags.left then '0' else ' '
  List.replicate (layout.width.getD 0 - length) character

def pad (layout : Layout) (text : List Char) : List Char :=
  if layout.flags.left then text ++ layout.padding text.length
  else layout.padding text.length ++ text

/-- A text cut to the precision. -/
def cut (layout : Layout) (text : List Char) : List Char :=
  match layout.precision with
  | none => text
  | some count => text.take count

def verbatim (layout : Layout) (text : String) : List Char :=
  layout.pad (layout.cut text.toList)

/-- Whether a text can stand between back quotes. -/
def canBackquote (text : List Char) : Bool :=
  text.all fun character =>
    !(character.toNat == 0xfeff || character == '\x60' || character.toNat == 0x7f ||
      (character.toNat < 0x20 && character != '\t'))

/-- A text laid out between quotes. -/
def quoted (layout : Layout) (text : String) : List Char :=
  let cut := layout.cut text.toList
  if layout.flags.sharp && canBackquote cut then layout.pad ('\x60' :: cut ++ ['\x60'])
  else if layout.flags.plus then layout.pad (quoteAscii (String.ofList cut)).toList
  else layout.pad (quote (String.ofList cut)).toList

def byteDigits (capital : Bool) (byte : UInt8) : List Char :=
  let digits := hexDigits 2 byte.toNat
  if capital then digits.map Char.toUpper else digits

/-- The bytes of a text laid out in hexadecimal. -/
def hexadecimal (layout : Layout) (capital : Bool) (text : String) : List Char :=
  let bytes := text.toUTF8.toList
  let bytes :=
    match layout.precision with
    | none => bytes
    | some count => bytes.take count
  let mark := if layout.flags.sharp then ['0', if capital then 'X' else 'x'] else []
  let encoded := bytes.map (byteDigits capital)
  let joined :=
    if bytes.isEmpty then []
    else if layout.flags.blank then
      List.intercalate [' '] (encoded.map fun digits => mark ++ digits)
    else mark ++ encoded.flatten
  layout.pad joined

/-- Digits with a comma between groups of three. -/
def grouped (digits : List Char) : List Char :=
  let rec go : List Char → Nat → List Char
    | [], _ => []
    | digit :: rest, count =>
        if count != 0 && count % 3 == 0 then digit :: ',' :: go rest (count - 1)
        else digit :: go rest (count - 1)
  go digits (digits.length - 1)

/-- The sign of an integer, as the flags ask for it. -/
def sign (layout : Layout) (value : Int) : List Char :=
  if value < 0 then ['-']
  else if layout.flags.plus then ['+']
  else if layout.flags.blank then [' ']
  else []

/-- An integer laid out in a base, with a mark in front of its digits. -/
def based (layout : Layout) (base : Nat) (mark : List Char) (capital : Bool)
    (value : Int) : List Char :=
  let sign := layout.sign value
  let digits := Nat.toDigits base value.natAbs
  let digits := if capital then digits.map Char.toUpper else digits
  let least :=
    match layout.precision with
    | some count => count
    | none =>
        if layout.flags.zero && !layout.flags.left then layout.width.getD 0 - sign.length
        else 0
  let padded := List.replicate (least - digits.length) '0' ++ digits
  let mark := if layout.flags.sharp then mark else []
  ({ layout with flags := { layout.flags with zero := false } } : Layout).pad
    (sign ++ mark ++ padded)

/-- A decimal integer laid out with or without groups of digits. -/
def decimal (layout : Layout) (groupDigits : Bool) (value : Int) : List Char :=
  if groupDigits && !layout.flags.sharp then
    layout.pad (layout.sign value ++ grouped (Nat.toDigits 10 value.natAbs))
  else layout.based 10 [] false value

end Layout

namespace Argument

def typeName : Argument → String
  | text _ => "string"
  | integer _ => "int"

/-- An argument laid out in the general way. -/
def general (style : TemplateStyle) (layout : Layout) : Argument → List Char
  | text value => layout.verbatim value
  | integer value => layout.decimal style.groupDigits value

/-- The mark of a verb that an argument does not have. -/
def badVerb (style : TemplateStyle) (layout : Layout) (verb : Char) (argument : Argument) :
    List Char :=
  '%' :: '!' :: verb :: '(' :: argument.typeName.toList ++ '=' ::
    (argument.general style layout ++ [')'])

/-- An argument laid out as a verb asks. -/
def fill (style : TemplateStyle) (layout : Layout) (verb : Char) (argument : Argument) :
    List Char :=
  if verb == 'T' then layout.verbatim argument.typeName
  else
    match argument with
    | text value =>
        if verb == 'v' then
          if layout.flags.sharp then
            ({ layout with flags := { layout.flags with sharp := false, plus := false } } :
              Layout).quoted value
          else layout.verbatim value
        else if verb == 's' then layout.verbatim value
        else if verb == 'q' then layout.quoted value
        else if verb == 'x' then layout.hexadecimal false value
        else if verb == 'X' then layout.hexadecimal true value
        else argument.badVerb style layout verb
    | integer value =>
        if verb == 'v' then
          ({ layout with flags := { layout.flags with sharp := false, plus := false } } :
            Layout).decimal style.groupDigits value
        else if verb == 'd' then layout.decimal style.groupDigits value
        else if verb == 'x' then layout.based 16 ['0', 'x'] false value
        else if verb == 'X' then layout.based 16 ['0', 'X'] true value
        else if verb == 'o' then layout.based 8 ['0'] false value
        else if verb == 'b' then layout.based 2 ['0', 'b'] false value
        else argument.badVerb style layout verb

end Argument

namespace Template

/-- The place in the argument list while a template is filled: the next
argument, whether selections have been sound in the current directive, and
whether any selection occurred at all. -/
structure Cursor where
  next : Nat
  sound : Bool
  reordered : Bool
deriving DecidableEq, Repr

/-- Follows a selection.  One that is out of range leaves the next argument
as it was. -/
def Cursor.select (cursor : Cursor) (count : Nat) : Selection → Cursor
  | .absent => cursor
  | .unreadable => { cursor with sound := false, reordered := true }
  | .number position =>
      if 1 ≤ position && position ≤ count then
        { cursor with next := position - 1, reordered := true }
      else { cursor with sound := false, reordered := true }

/-- A width or precision taken from an integer argument. -/
def extentOf? (arguments : List Argument) (next : Nat) : Option Int :=
  match arguments[next]? with
  | some (.integer value) => if value.natAbs ≤ numberLimit then some value else none
  | _ => none

/-- Resolves the width of a directive.  The marks written on the way come
first in the result. -/
def resolveWidth (arguments : List Argument) (flags : DirectiveFlags) (cursor : Cursor)
    (selection : Selection) : Extent → List Char × DirectiveFlags × Option Nat × Cursor
  | .absent => ([], flags, none, cursor)
  | .literal count =>
      let after := match selection with
        | .number _ => { cursor with sound := false }
        | _ => cursor
      ([], flags, some count, after)
  | .argument =>
      let after := { cursor with next := min (cursor.next + 1) (max cursor.next arguments.length) }
      match extentOf? arguments cursor.next with
      | none => ("%!(BADWIDTH)".toList, flags, none, after)
      | some width =>
          if width < 0 then ([], { flags with left := true }, some width.natAbs, after)
          else ([], flags, some width.natAbs, after)

def resolvePrecision (arguments : List Argument) (directive : Directive) (cursor : Cursor) :
    List Char × Option Nat × Cursor :=
  if directive.precise then
    let cursor :=
      if selectionStands directive.selection directive.width then
        { cursor with sound := false }
      else cursor
    let cursor := cursor.select arguments.length directive.precisionSelection
    match directive.precision with
    | .absent => ([], some 0, cursor)
    | .literal count => ([], some count, cursor)
    | .argument =>
        let after :=
          { cursor with next := min (cursor.next + 1) (max cursor.next arguments.length) }
        match extentOf? arguments cursor.next with
        | some precision =>
            if precision < 0 then ("%!(BADPREC)".toList, none, after)
            else ([], some precision.natAbs, after)
        | none => ("%!(BADPREC)".toList, none, after)
  else ([], none, cursor)

/-- Fills one directive.  The flag says that the directive ends before its
verb. -/
def fillDirective (style : TemplateStyle) (arguments : List Argument) (cursor : Cursor)
    (directive : Directive) (unfinished : Bool) : List Char × Cursor :=
  let cursor := { cursor with sound := true }
  let cursor := cursor.select arguments.length directive.selection
  let (widthMark, flags, width, cursor) :=
    resolveWidth arguments directive.flags cursor directive.selection directive.width
  let (precisionMark, precision, cursor) := resolvePrecision arguments directive cursor
  let cursor := cursor.select arguments.length directive.verbSelection
  let marks := widthMark ++ precisionMark
  if unfinished then (marks ++ "%!(NOVERB)".toList, cursor)
  else
    let verb := directive.verb
    if verb == '%' then (marks ++ ['%'], cursor)
    else if !cursor.sound then (marks ++ '%' :: '!' :: verb :: "(BADINDEX)".toList, cursor)
    else
      match arguments[cursor.next]? with
      | none => (marks ++ '%' :: '!' :: verb :: "(MISSING)".toList, cursor)
      | some argument =>
          (marks ++ argument.fill style ⟨flags, width, precision⟩ verb,
            { cursor with next := cursor.next + 1 })

/-- The report of the arguments that no directive used. -/
def leftover (style : TemplateStyle) (arguments : List Argument) : List Char :=
  let reports := arguments.map fun argument =>
    argument.typeName.toList ++ '=' :: argument.general style .plain
  "%!(EXTRA ".toList ++ List.intercalate [',', ' '] reports ++ [')']

def fillPieces (style : TemplateStyle) (arguments : List Argument) (cursor : Cursor) :
    List Piece → List Char
  | [] =>
      let rest := arguments.drop cursor.next
      if cursor.reordered || rest.isEmpty then []
      else if cursor.next == 0 && !style.reportUntouched then []
      else leftover style rest
  | .literal character :: rest => character :: fillPieces style arguments cursor rest
  | .directive directive :: rest =>
      let (text, cursor) := fillDirective style arguments cursor directive false
      text ++ fillPieces style arguments cursor rest
  | .unfinished directive :: rest =>
      let (text, cursor) := fillDirective style arguments cursor directive true
      text ++ fillPieces style arguments cursor rest

def render (style : TemplateStyle) (template : String) (arguments : List Argument) : String :=
  String.ofList (fillPieces style arguments ⟨0, true, false⟩ (pieces template))

end Template

/-- Comments write integers plainly and report every argument left over. -/
def commentStyle : TemplateStyle := ⟨false, true⟩

/-- Messages group the digits of integers, and stay silent about arguments if
they use none. -/
def messageStyle : TemplateStyle := ⟨true, false⟩

end Text

end AsmListing
