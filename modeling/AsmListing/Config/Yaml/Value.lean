import AsmListing.Config.Yaml.Node
import AsmListing.Datum
import AsmListing.Text.Utf8

/-!
# Values of YAML

A plain scalar is a null, a truth value, an integer or a float if it is written
like one, and a text otherwise.  A mapping with texts as keys only is a table.
Two entries of a mapping must not have the same key.
-/

namespace AsmListing

namespace Yaml

/-- What the standard tags start with. -/
def standardTag : String := "tag:yaml.org,2002:"

def shortTag (tag : String) : String :=
  if standardTag.toList.isPrefixOf tag.toList then
    "!!" ++ String.ofList (tag.toList.drop standardTag.length)
  else tag

/-- The scalars that are known by their spelling. -/
def knownScalar? (text : String) : Option (String × Datum) :=
  if ["true", "True", "TRUE"].contains text then some ("!!bool", .bool true)
  else if ["false", "False", "FALSE"].contains text then some ("!!bool", .bool false)
  else if ["", "~", "null", "Null", "NULL"].contains text then some ("!!null", .null)
  else if [".nan", ".NaN", ".NAN"].contains text then some ("!!float", .float64 (0.0 / 0.0))
  else if [".inf", ".Inf", ".INF", "+.inf", "+.Inf", "+.INF"].contains text then
    some ("!!float", .float64 (1.0 / 0.0))
  else if ["-.inf", "-.Inf", "-.INF"].contains text then
    some ("!!float", .float64 (-1.0 / 0.0))
  else if text == "<<" then some ("!!merge", .text "<<")
  else none

/-- The magnitude of an integer in the base that its front tells. -/
def magnitude? (digits : List Char) : Option Nat :=
  match digits with
  | '0' :: mark :: rest =>
      if mark == 'x' || mark == 'X' then Decimal.numberOf? 16 rest
      else if mark == 'o' || mark == 'O' then Decimal.numberOf? 8 rest
      else if mark == 'b' || mark == 'B' then Decimal.numberOf? 2 rest
      else Decimal.numberOf? 8 (mark :: rest)
  | _ => Decimal.numberOf? 10 digits

/-- Reads an integer.  One that needs all of 64 bits has no sign. -/
def integer? (text : List Char) : Option Datum :=
  let (negative, digits) := Decimal.splitSign text
  (magnitude? digits).bind fun magnitude =>
    let number := Decimal.signed negative magnitude
    if fitsInt64 number then some (.integer .int number)
    else if digits.length = text.length && number < Nat.pow 2 64 then
      some (.integer .uint64 number)
    else none

def float? (text : List Char) : Option Datum :=
  let (negative, digits) := Decimal.splitSign text
  (Decimal.Numeral.ofText? digits).bind fun numeral =>
    let value := numeral.float
    if value.isFinite then some (.float64 (if negative then -value else value)) else none

/-- Reads an integer whose sign stands behind the mark of its base. -/
def markedInteger? (text : List Char) : Option Datum :=
  let signedIn (base : Nat) (rest : List Char) : Option Datum :=
    let (negative, digits) := Decimal.splitSign rest
    (Decimal.numberOf? base digits).bind fun magnitude =>
      let number := Decimal.signed negative magnitude
      if fitsInt64 number then some (.integer .int number) else none
  match text with
  | '0' :: 'b' :: rest => signedIn 2 rest
  | '0' :: 'o' :: rest => signedIn 8 rest
  | _ => none

def startsNumber (text : List Char) : Bool :=
  match text.head? with
  | some character => character.isDigit || character == '+' || character == '-'
  | none => false

def plainValue (text : String) : String × Datum :=
  match knownScalar? text with
  | some known => known
  | none =>
      let characters := text.toList
      let plain := characters.filter (· != '_')
      if startsNumber characters then
        match integer? plain, float? plain, markedInteger? plain with
        | some value, _, _ => ("!!int", value)
        | none, some value, _ => ("!!float", value)
        | none, none, some value => ("!!int", value)
        | none, none, none => ("!!str", .text text)
      else if characters.head? == some '.' then
        match float? characters with
        | some value => ("!!float", value)
        | none => ("!!str", .text text)
      else ("!!str", .text text)

def scalarTag (tag text : String) (plain : Bool) : String :=
  if tag.isEmpty || tag == "!" then
    if plain then (plainValue text).1 else "!!str"
  else shortTag tag

/-- The float of an integer that fits into 64 bits with its sign. -/
def floatOfInteger? : Datum → Option Datum
  | .integer .int value => some (.float64 (Float.ofInt value))
  | _ => none

/-- The value of a scalar.  A tag has to fit the way it is written. -/
def scalarValue (tag text : String) (plain : Bool) : Option Datum :=
  let tag := scalarTag tag text plain
  if tag == "!!str" then some (.text text)
  else
    let (found, value) := plainValue text
    if tag == found then some value
    else if tag == "!!float" && found == "!!int" then floatOfInteger? value
    else none

namespace Node

/-- The tag of a node, seen through other names for it. -/
def tag : Node → String
  | scalar tag text plain => scalarTag tag text plain
  | sequence _ => "!!seq"
  | mapping _ => "!!map"
  | reference _ target => target.tag

/-- Whether a node stands for the entries of other mappings. -/
def isMerge : Node → Bool
  | scalar given text plain => text == "<<" && scalarTag given text plain == "!!merge"
  | _ => false

def sameKey : Node → Node → Bool
  | scalar _ text _, scalar _ other _ => text == other
  | reference name _, reference other _ => name == other
  | sequence _, sequence _ => true
  | mapping _, mapping _ => true
  | _, _ => false

/-- The text of a key that is a scalar. -/
def keyText : Node → String
  | scalar _ text _ => text
  | reference _ target => target.keyText
  | _ => ""

end Node

/-- Whether a key occurs again among others. -/
def hasRepeats : List Node → Bool
  | [] => false
  | key :: rest => rest.any key.sameKey || hasRepeats rest

/-- Whether two keys of a table whose keys are data are the same. -/
def sameDatum (left right : Datum) : Bool :=
  left.typeName == right.typeName && left.print == right.print

/-- Puts an entry into a table whose keys are data.  An entry that is there
stays if the new one is merged in. -/
def putAny (merged : Bool) (key value : Datum) :
    List (Datum × Datum) → List (Datum × Datum)
  | [] => [(key, value)]
  | (other, held) :: rest =>
      if sameDatum other key then (other, if merged then held else value) :: rest
      else (other, held) :: putAny merged key value rest

/-- An entry of a mapping that has been read: its key as a text and as a
datum, its value, and whether it was merged in. -/
structure ReadEntry where
  label : String
  key : Datum
  value : Datum
  merged : Bool

def isNull : Datum → Bool
  | .null => true
  | _ => false

/-- The table of entries.  A table with texts as keys takes every key as it is
written, and leaves out a null. -/
def tableOf (texts : Bool) (entries : List ReadEntry) : Datum :=
  let put (data : List (Datum × Datum)) (key : Datum) (entry : ReadEntry) :=
    putAny entry.merged key entry.value data
  if texts then
    let named := (entries.filter fun entry => !isNull entry.key).foldl
      (fun data entry => put data (.text entry.label) entry) []
    .table (named.map fun (key, value) => (key.print, value))
  else .anyTable (entries.foldl (fun data entry => put data entry.key entry) [])

def isKey : Datum → Bool
  | .list _ | .table _ | .anyTable _ => false
  | _ => true

mutual

/-- The value of a node.  Every step goes into the node, so its depth is fuel
enough. -/
def valueOf : Nat → Node → Option Datum
  | 0, _ => none
  | fuel + 1, node =>
      match node with
      | .scalar tag text plain => scalarValue tag text plain
      | .reference _ target => valueOf fuel target
      | .sequence items => (items.mapM (valueOf fuel)).map Datum.list
      | .mapping entries => do
          let texts := entries.all fun entry =>
            entry.1.tag == "!!str" || entry.1.tag == "!!merge"
          let read ← entriesOf fuel false (.mapping entries)
          return tableOf texts read

/-- The entries of a mapping, followed by those that it merges in. -/
def entriesOf : Nat → Bool → Node → Option (List ReadEntry)
  | 0, _, _ => none
  | fuel + 1, merged, node =>
      match node with
      | .reference _ target => entriesOf fuel merged target
      | .mapping entries =>
          if hasRepeats (entries.map Prod.fst) then none
          else do
            let own ← (entries.filter fun entry => !entry.1.isMerge).mapM fun entry => do
              let key ← valueOf fuel entry.1
              if isKey key then
                let value ← valueOf fuel entry.2
                return (⟨entry.1.keyText, key, value, merged⟩ : ReadEntry)
              else none
            match (entries.find? fun entry => entry.1.isMerge).map Prod.snd with
            | none => return own
            | some (.sequence sources) => do
                let others ← sources.mapM (entriesOf fuel true)
                return own ++ others.flatten
            | some source => do
                let others ← entriesOf fuel true source
                return own ++ others
      | _ => none

end

/-- Reads a text.  A text without a document is a null. -/
def read (bytes : List UInt8) : Option Datum := do
  let characters ← Text.decodeValid? bytes
  let characters :=
    match characters with
    | '\ufeff' :: rest => rest
    | other => other
  if characters.all isAllowed then
    match ← document characters with
    | none => return .null
    | some node => valueOf (2 * bytes.length + 4) node
  else none

end Yaml

end AsmListing
