import AsmListing.Script.Value

/-!
# Formatted texts of a script

A text can be filled with values in two ways: by conversions that start with a
percent sign, and by fields between braces.
-/

namespace AsmListing

namespace Script

/-- The exact whole part of a finite float, toward zero. -/
def wholePart (value : Float) : Option Int :=
  match Decimal.Reading.ofFloat value with
  | .finite negative magnitude =>
      let whole : Int := magnitude.ratio.floor
      some (if negative then -whole else whole)
  | _ => none

def Value.toInteger : Value → Except String Int
  | .integer value => .ok value
  | .float value =>
      match wholePart value with
      | .some whole => .ok whole
      | .none =>
          .error (if value.isNaN then "cannot convert float NaN to integer"
            else "cannot convert float infinity to integer")
  | value => .error ("cannot convert " ++ value.typeName ++ " to int")

def Value.toFloat? : Value → Option Float
  | .integer value => some (Float.ofInt value)
  | .float value => some value
  | _ => Option.none

def basedText (base : Nat) (capital : Bool) (value : Int) : String :=
  let digits := Nat.toDigits base value.natAbs
  let digits := if capital then digits.map Char.toUpper else digits
  String.ofList (if value < 0 then '-' :: digits else digits)

def sixPlaces (scientific : Bool) (value : Float) : String :=
  if value.isNaN then "nan"
  else if value.isInf then if value < 0.0 then "-inf" else "+inf"
  else
    (Decimal.Reading.ofFloat value).text fun magnitude =>
      if scientific then magnitude.fixedScientific 6 else magnitude.fixed 6

/-- A value as a conversion letter asks for it. -/
def Heap.convert (heap : Heap) (letter : Char) (value : Value) : Except String String :=
  let integer (write : Int → String) : Except String String :=
    match value.toInteger with
    | .ok number => .ok (write number)
    | .error problem => .error s!"%{letter} format requires integer: {problem}"
  let float (write : Float → String) : Except String String :=
    match value.toFloat? with
    | some number => .ok (write number)
    | none =>
        let type := value.typeName
        .error s!"%{letter} format requires float, not {type}"
  match letter with
  | 's' => .ok (heap.str value)
  | 'r' => .ok (heap.repr value)
  | 'd' | 'i' => integer toString
  | 'o' => integer (basedText 8 false)
  | 'x' => integer (basedText 16 false)
  | 'X' => integer (basedText 16 true)
  | 'e' => float (sixPlaces true)
  | 'E' => float fun number => (sixPlaces true number).map Char.toUpper
  | 'f' | 'F' => float (sixPlaces false)
  | 'g' => float floatText
  | 'G' => float fun number => (floatText number).map Char.toUpper
  | 'c' =>
      match value with
      | .integer code =>
          if 0 ≤ code && code ≤ 0x10ffff then
            .ok (String.singleton (Char.ofNat code.toNat))
          else .error s!"%c format requires a valid Unicode code point, got {code}"
      | .text text =>
          if text.length = 1 then .ok text
          else .error "%c format requires a single-character string"
      | _ =>
          let type := value.typeName
          .error s!"%c format requires int or single-character string, not {type}"
  | '%' => .ok "%"
  | _ => .error s!"unknown conversion %{letter}"

def Heap.textEntry? (heap : Heap) (address : Nat) (key : String) : Option Value :=
  ((heap.dictAt address).entries.find? fun entry =>
    match entry.1 with
    | .text text => text == key
    | _ => false).map Prod.snd

/-- Fills the conversions of a text.  Every step takes a character, so the
length is fuel enough. -/
def Heap.interpolateFrom (heap : Heap) (given : Value) (items : List Value) :
    Nat → Nat → List Char → Except String String
  | 0, _, _ => .ok ""
  | fuel + 1, index, text =>
      let plain := text.takeWhile (· != '%')
      let front := String.ofList plain
      match text.drop plain.length with
      | [] =>
          let mapping :=
            match given with
            | .dict _ => true
            | _ => false
          if index < items.length && !mapping then
            .error "too many arguments for format string"
          else .ok front
      | _ :: '%' :: rest =>
          (heap.interpolateFrom given items fuel index rest).map fun tail => front ++ "%" ++ tail
      | _ :: '(' :: rest =>
          let key := rest.takeWhile (· != ')')
          match rest.drop key.length, given with
          | [], _ => .error "incomplete format key"
          | _ :: after, .dict address =>
              let name := String.ofList key
              match heap.textEntry? address name, after with
              | none, _ => .error ("key not found: " ++ name)
              | some _, [] => .error "incomplete format"
              | some value, letter :: after => do
                  let shown ← heap.convert letter value
                  let tail ← heap.interpolateFrom given items fuel (index + 1) after
                  return front ++ shown ++ tail
          | _ :: _, _ => .error "format requires a mapping"
      | _ :: rest =>
          match items[index]?, rest with
          | none, _ => .error "not enough arguments for format string"
          | some _, [] => .error "incomplete format"
          | some value, letter :: after => do
              let shown ← heap.convert letter value
              let tail ← heap.interpolateFrom given items fuel (index + 1) after
              return front ++ shown ++ tail

/-- Fills the conversions of a text with a value, or with the items of a
tuple. -/
def Heap.interpolate (heap : Heap) (text : String) (given : Value) : Except String Value :=
  let items :=
    match given with
    | .tuple items => items
    | other => [other]
  (heap.interpolateFrom given items (text.length + 1) 0 text.toList).map Value.text

/-- The plain front of a text with fields, with doubled closing braces made
single. -/
def unbrace : List Char → Except String (List Char)
  | [] => .ok []
  | '\x7d' :: '\x7d' :: rest => (unbrace rest).map ('\x7d' :: ·)
  | '\x7d' :: _ => .error "format: single '\x7d' in format"
  | character :: rest => (unbrace rest).map (character :: ·)

/-- How the fields of a text have been numbered so far. -/
inductive Numbering where
  | undecided
  | automatic
  | manual
deriving DecidableEq, Repr

def fieldValue (positional : List Value) (named : List (String × Value))
    (numbering : Numbering) (index : Nat) (name : String) :
    Except String (Value × Numbering × Nat) :=
  if name.isEmpty then
    if numbering = .manual then
      .error ("format: cannot switch from manual field specification to " ++
        "automatic field numbering")
    else
      match positional[index]? with
      | some value => .ok (value, .automatic, index + 1)
      | none => .error "format: tuple index out of range"
  else if name.all Char.isDigit then
    if numbering = .automatic then
      .error ("format: cannot switch from automatic field numbering to " ++
        "manual field specification")
    else
      match positional[name.toNat?.getD positional.length]? with
      | some value => .ok (value, .manual, index)
      | none => .error "format: tuple index out of range"
  else
    match named.lookup name with
    | some value => .ok (value, numbering, index)
    | none =>
        if name.contains '.' then
          .error ("format: attribute syntax x.y is not supported in replacement fields: " ++ name)
        else if name.contains '[' then
          .error ("format: element syntax a[i] is not supported in replacement fields: " ++ name)
        else if name.contains '\x7b' then
          .error "format: nested replacement fields not supported"
        else .error ("format: keyword " ++ name ++ " not found")

/-- The name, conversion and specification of a field. -/
def fieldParts (inside : List Char) : String × String × String :=
  let name := inside.takeWhile (· != '!')
  match inside.drop name.length with
  | [] =>
      let name := inside.takeWhile (· != ':')
      (String.ofList name, "s", String.ofList ((inside.drop name.length).drop 1))
  | _ :: rest =>
      let conversion := rest.takeWhile (· != ':')
      (String.ofList name, String.ofList conversion,
        String.ofList ((rest.drop conversion.length).drop 1))

/-- Fills the fields of a text.  Every step takes a character, so the length
is fuel enough. -/
def Heap.formatFrom (heap : Heap) (positional : List Value) (named : List (String × Value)) :
    Nat → Numbering → Nat → List Char → Except String String
  | 0, _, _, _ => .ok ""
  | fuel + 1, numbering, index, text => do
      let plain := text.takeWhile (· != '\x7b')
      let front := String.ofList (← unbrace plain)
      match text.drop plain.length with
      | [] => return front
      | _ :: '\x7b' :: rest =>
          let tail ← heap.formatFrom positional named fuel numbering index rest
          return front ++ "\x7b" ++ tail
      | _ :: rest =>
          let inside := rest.takeWhile (· != '\x7d')
          match rest.drop inside.length with
          | [] => .error "format: unmatched '\x7b' in format"
          | _ :: after =>
              let (name, conversion, specification) := fieldParts inside
              let (value, numbering, index) ←
                fieldValue positional named numbering index name
              if !specification.isEmpty then
                .error ("format spec features not supported in replacement fields: " ++
                  specification)
              else
                let shown ←
                  if conversion == "s" then .ok (heap.str value)
                  else if conversion == "r" then .ok (heap.repr value)
                  else .error ("format: unknown conversion " ++ Text.quote conversion)
                let tail ← heap.formatFrom positional named fuel numbering index after
                return front ++ shown ++ tail

def Heap.format (heap : Heap) (text : String) (positional : List Value)
    (named : List (String × Value)) : Except String Value :=
  (heap.formatFrom positional named (text.length + 1) .undecided 0 text.toList).map Value.text

end Script

end AsmListing
