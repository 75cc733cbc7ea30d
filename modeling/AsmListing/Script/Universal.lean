import AsmListing.Script.Method

/-!
# Functions that every script knows

The functions here neither print nor call functions of the script.
-/

namespace AsmListing

namespace Script

/-- The text of a value as the language's own conversion gives it: bytes are
decoded. -/
def Heap.converted (heap : Heap) : Value → String
  | .bytes bytes => textOfBytes bytes
  | value => heap.str value

/-- The base that a mark before digits stands for. -/
def markedBase? : List Char → Option (Nat × List Char)
  | '0' :: mark :: rest =>
      if mark == 'x' || mark == 'X' then some (16, rest)
      else if mark == 'o' || mark == 'O' then some (8, rest)
      else if mark == 'b' || mark == 'B' then some (2, rest)
      else none
  | _ => none

/-- Reads an integer in a base.  Base zero takes the base of the mark. -/
def readInteger? (base : Nat) (text : List Char) : Option Int :=
  let (negative, digits) := Decimal.splitSign text
  let (base, digits) :=
    match markedBase? digits with
    | some (marked, rest) =>
        if base = 0 || base = marked then (marked, rest) else (base, digits)
    | none => (if base = 0 then 10 else base, digits)
  (Decimal.numberOf? base digits).map (Decimal.signed negative)

def integerOf (value : Value) (base? : Option Value) : Except String Value :=
  match value, base? with
  | .text text, base? => do
      let base ←
        match base? with
        | none => pure 10
        | some (.integer base) =>
            if base = 0 || (2 ≤ base && base ≤ 36) then pure base.toNat
            else throw "int: base must be an integer >= 2 && <= 36"
        | some other =>
            let type := other.typeName
            throw s!"int: for base, got {type}, want int"
      match readInteger? base text.toList with
      | some number => return .integer number
      | none => .error s!"int: invalid literal with base {base}: {text}"
  | _, some _ => .error "int: can't convert non-string with explicit base"
  | .bool value, none => .ok (.integer (if value then 1 else 0))
  | value, none => blame "int" (value.toInteger.map Value.integer)

def readFloat? (text : String) : Option Float :=
  let (negative, digits) := Decimal.splitSign text.toList
  let signed (value : Float) : Float := if negative then -value else value
  let word := Text.lower (String.ofList digits)
  if word == "inf" || word == "infinity" then some (signed (1.0 / 0.0))
  else if word == "nan" then some (0.0 / 0.0)
  else (Decimal.Numeral.ofText? digits).map fun numeral => signed numeral.float

def floatOfValue : Value → Except String Value
  | .bool value => .ok (.float (if value then 1.0 else 0.0))
  | .integer value => (finiteFloat value).map Value.float
  | .float value => .ok (.float value)
  | .text text =>
      if text.isEmpty then .error "float: empty string"
      else
        match readFloat? text with
        | some value =>
            let named := text.any fun character => character == 'n' || character == 'N'
            if value.isInf && !named then
              .error ("floating-point number too large: " ++ text)
            else .ok (.float value)
        | none => .error ("invalid float literal: " ++ Text.quote text)
  | value => .error ("float: " ++ wrongType value "number or string")

/-- The rows of sequences that are walked side by side.  The shortest one ends
the walk. -/
def sideBySide (columns : List (List Value)) : Nat → List Value
  | 0 => []
  | fuel + 1 =>
      if columns.isEmpty || columns.any List.isEmpty then []
      else
        .tuple (columns.filterMap List.head?) :: sideBySide (columns.map List.tail) fuel

def noNames (function : String) (given : Arguments Value) : Except String Unit :=
  if given.named.isEmpty then .ok ()
  else .error (function ++ " does not accept keyword arguments")

def onlyArgument (function wanted : String) (given : Arguments Value) : Except String Value := do
  noNames function given
  match given.positional with
  | [value] => return value
  | items =>
      let count := items.length
      .error s!"{function}: got {count} arguments, want {wanted}"

/-- The items of an argument that is known to have some. -/
def Heap.itemsOf (heap : Heap) (value? : Option Value) : List Value :=
  (value?.bind heap.items?).getD []

def Heap.failText (heap : Heap) (given : Arguments Value) : Except String String := do
  let taken ← Arguments.byName ⟨[], given.named⟩ "fail" [⟨"sep", false, Want.text⟩]
  let separator :=
    match taken with
    | [some (.text separator)] => separator
    | _ => " "
  return "fail: " ++ separator.intercalate (given.positional.map heap.str)

/-- The hash of a text: a polynomial in its UTF-16 units, in signed 32 bits. -/
def textHash (text : String) : Int :=
  let units := text.toList.flatMap fun character =>
    let code := character.toNat
    if code < 0x10000 then [code]
    else [0xd800 + (code - 0x10000) / 1024, 0xdc00 + (code - 0x10000) % 1024]
  Int.bmod (units.foldl (fun hash unit => (hash * 31 + unit) % Nat.pow 2 32) 0 : Nat) (Nat.pow 2 32)

/-- The hash of bytes: multiply and mix, in 32 bits. -/
def bytesHash (bytes : List UInt8) : Nat :=
  bytes.foldl (fun hash byte => (hash ^^^ byte.toNat) * 16777619 % Nat.pow 2 32) 2166136261

def rangeOf (items : List Value) : Except String Value :=
  match items with
  | [.integer stop] => .ok (.range 0 stop 1)
  | [.integer start, .integer stop] => .ok (.range start stop 1)
  | [.integer start, .integer stop, .integer step] =>
      if step = 0 then .error "range: step argument must not be zero"
      else .ok (.range start stop step)
  | _ => .ok (.range 0 0 1)

/-- Calls a function that every script knows. -/
def Heap.universal (heap : Heap) (name : String) (given : Arguments Value) :
    Except String (Value × Heap) :=
  let answer (value : Value) : Except String (Value × Heap) := .ok (value, heap)
  match name with
  | "abs" => do
      let items ← given.byPosition name 1 [Want.any]
      match items.head?.getD .none with
      | .integer value => answer (.integer value.natAbs)
      | .float value => answer (.float value.abs)
      | other => .error ("abs: " ++ wrongType other "int or float")
  | "all" => do
      let items ← given.byPosition name 1 [Want.iterable]
      answer (.bool ((heap.itemsOf items.head?).all heap.truth))
  | "any" => do
      let items ← given.byPosition name 1 [Want.iterable]
      answer (.bool ((heap.itemsOf items.head?).any heap.truth))
  | "bool" => do
      let items ← given.byPosition name 0 [Want.any]
      answer (.bool (heap.truth (items.head?.getD (.bool false))))
  | "bytes" => do
      noNames name given
      match given.positional with
      | [.bytes bytes] => answer (.bytes bytes)
      | [.text text] => answer (.bytes text.toUTF8.toList)
      | [other] =>
          match heap.items? other with
          | none => .error ("bytes: " ++ wrongType other "string, bytes, or iterable of ints")
          | some items => do
              let bytes ← items.zipIdx.mapM fun (item, index) =>
                match item with
                | .integer value =>
                    if 0 ≤ value && value < 256 then (.ok value.toNat.toUInt8 : Except String UInt8)
                    else .error s!"bytes: at index {index}, {value} out of range (want value in unsigned 8-bit range)"
                | item =>
                    let problem := wrongType item "int"
                    .error s!"bytes: at index {index}, {problem}"
              answer (.bytes bytes)
      | items =>
          let count := items.length
          .error s!"bytes: got {count} arguments, want exactly 1"
  | "chr" => do
      noNames name given
      match given.positional with
      | [.integer code] =>
          if code < 0 then .error s!"chr: Unicode code point {code} out of range (<0)"
          else if 0x10ffff < code then
            let digits := basedText 16 true code
            .error s!"chr: Unicode code point U+{digits} out of range (>0x10FFFF)"
          else answer (.text (String.singleton (Char.ofNat code.toNat)))
      | [other] => .error ("chr: " ++ wrongType other "int")
      | items =>
          let count := items.length
          .error s!"chr: got {count} arguments, want 1"
  | "dict" => do
      let count := given.positional.length
      if 1 < count then .error s!"dict: got {count} arguments, want at most 1"
      else
        let (value, heap) := heap.newDict #[]
        match value with
        | .dict address => do
            let heap ← blame name (heap.updateDict address given)
            return (value, heap)
        | _ => return (value, heap)
  | "dir" => do
      let value ← onlyArgument name "1" given
      return heap.newList (value.fieldNames.map Value.text).toArray
  | "enumerate" => do
      let items ← given.byPosition name 1 [Want.iterable, Want.integer]
      let start : Int :=
        match items with
        | [_, .integer start] => start
        | _ => 0
      let rows := (heap.itemsOf items.head?).zipIdx.map fun (item, index) =>
        Value.tuple [.integer (start + (index : Nat)), item]
      return heap.newList rows.toArray
  | "fail" => do
      let problem ← heap.failText given
      .error problem
  | "float" => do
      noNames name given
      match given.positional with
      | [] => answer (.float 0.0)
      | [value] => do
          let value ← floatOfValue value
          answer value
      | items =>
          let count := items.length
          .error s!"float got {count} arguments, wants 1"
  | "getattr" => do
      let items ← given.byPosition name 2 [Want.any, Want.text, Want.any]
      match items with
      | object :: .text field :: rest =>
          match heap.field? object field, rest with
          | some found, _ => .ok found
          | none, absent :: _ => answer absent
          | none, [] =>
              let type := object.typeName
              .error s!"getattr: {type} has no .{field} field or method"
      | _ => answer .none
  | "hasattr" => do
      let items ← given.byPosition name 2 [Want.any, Want.text]
      match items with
      | [object, .text field] => answer (.bool (heap.field? object field).isSome)
      | _ => answer (.bool false)
  | "hash" => do
      let items ← given.byPosition name 1 [Want.any]
      match items.head?.getD .none with
      | .text text => answer (.integer (textHash text))
      | .bytes bytes => answer (.integer (bytesHash bytes))
      | other => .error ("hash: " ++ wrongType other "string or bytes")
  | "int" => do
      let taken ← given.byName name [⟨"x", true, Want.any⟩, ⟨"base", false, Want.any⟩]
      match taken with
      | [some value, base?] => do
          let value ← integerOf value base?
          answer value
      | _ => answer (.integer 0)
  | "len" => do
      let items ← given.byPosition name 1 [Want.any]
      let value := items.head?.getD .none
      match heap.length? value with
      | some length => answer (.integer length)
      | none =>
          let type := value.typeName
          .error s!"len: value of type {type} has no len"
  | "list" => do
      let items ← given.byPosition name 0 [Want.iterable]
      return heap.newList (heap.itemsOf items.head?).toArray
  | "ord" => do
      noNames name given
      match given.positional with
      | [.text text] =>
          match text.toList with
          | [character] => answer (.integer character.toNat)
          | characters =>
              let count := characters.length
              .error s!"ord: string encodes {count} Unicode code points, want 1"
      | [.bytes bytes] =>
          match bytes with
          | [byte] => answer (.integer byte.toNat)
          | bytes =>
              let count := bytes.length
              .error s!"ord: bytes has length {count}, want 1"
      | [other] => .error ("ord: " ++ wrongType other "string or bytes")
      | items =>
          let count := items.length
          .error s!"ord: got {count} arguments, want 1"
  | "range" => do
      let items ← given.byPosition name 1 [Want.integer, Want.integer, Want.integer]
      let value ← rangeOf items
      answer value
  | "repr" => do
      let items ← given.byPosition name 1 [Want.any]
      answer (.text (heap.repr (items.head?.getD .none)))
  | "reversed" => do
      let items ← given.byPosition name 1 [Want.iterable]
      return heap.newList (heap.itemsOf items.head?).reverse.toArray
  | "str" => do
      let value ← onlyArgument name "exactly 1" given
      answer (.text (heap.converted value))
  | "tuple" => do
      let items ← given.byPosition name 0 [Want.iterable]
      answer (.tuple (heap.itemsOf items.head?))
  | "type" => do
      let value ← onlyArgument name "exactly 1" given
      answer (.text value.typeName)
  | "zip" => do
      noNames name given
      let columns ← given.positional.zipIdx.mapM fun (item, index) =>
        match heap.items? item with
        | some items => (.ok items : Except String (List Value))
        | none =>
            let type := item.typeName
            let position := index + 1
            .error s!"zip: argument #{position} is not iterable: {type}"
      let longest := columns.foldl (fun most column => max most column.length) 0
      return heap.newList (sideBySide columns longest).toArray
  | _ => .error ("invalid call of " ++ name)

end Script

end AsmListing
