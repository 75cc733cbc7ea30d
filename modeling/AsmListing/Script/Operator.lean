import AsmListing.Script.Format

/-!
# Operators of a script

Comparison, arithmetic, membership, indexing and slicing of values.
-/

namespace AsmListing

namespace Script

/-- Whether an ordering answers a comparison. -/
def orders (operator : BinaryOperator) (ordering : Ordering) : Bool :=
  match operator with
  | .equal => ordering == .eq
  | .unequal => ordering != .eq
  | .less => ordering == .lt
  | .greater => ordering == .gt
  | .lessEqual => ordering != .gt
  | .greaterEqual => ordering != .lt
  | _ => false

/-- The order of floats, with what is not a number above all others. -/
def floatOrder (left right : Float) : Ordering :=
  if left < right then .lt
  else if right < left then .gt
  else if left == right then .eq
  else if !left.isNaN then .lt
  else if !right.isNaN then .gt
  else .eq

/-- The exact order of an integer and a float. -/
def mixedOrder (left : Int) (right : Float) : Ordering :=
  match Decimal.Reading.ofFloat right with
  | .notANumber => .lt
  | .infinite negative => if negative then .gt else .lt
  | .finite negative magnitude =>
      let ratio := magnitude.ratio
      let numerator : Int := if negative then -(ratio.numerator : Int) else ratio.numerator
      compare (left * ratio.denominator) numerator

/-- The answer to a comparison that a type does not have. -/
def notComparable (operator : BinaryOperator) (left right : Value) (same : Bool) :
    Except String Bool :=
  match operator with
  | .equal => .ok same
  | .unequal => .ok !same
  | _ =>
      let leftType := left.typeName
      let rightType := right.typeName
      let sign := operator.text
      .error s!"{leftType} {sign} {rightType} not implemented"

def comparisonDepth : Nat := 10

/-- Compares items in order, by a comparison of two of them. -/
def compareItems (compare : BinaryOperator → Value → Value → Except String Bool)
    (operator : BinaryOperator) (left right : List Value) : Except String Bool :=
  if left.length != right.length && (operator = .equal || operator = .unequal) then
    .ok (operator = .unequal)
  else do
    let difference ← (left.zip right).findM? fun pair => do
      let same ← compare .equal pair.1 pair.2
      return !same
    match difference with
    | none => return orders operator (Ord.compare left.length right.length)
    | some (first, second) =>
        match operator with
        | .equal => return false
        | .unequal => return true
        | _ => compare operator first second

/-- Whether all entries have an equal entry among others, by a test of two
values. -/
def entriesWithin (equal : Value → Value → Except String Bool)
    (entries others : List (Value × Value)) : Except String Bool :=
  entries.allM fun entry => do
    let found ← others.findM? fun other => equal entry.1 other.1
    match found with
    | some other => equal entry.2 other.2
    | none => return false

/-- Compares two values.  The depth bounds the nesting. -/
def Heap.compare (heap : Heap) :
    Nat → BinaryOperator → Value → Value → Except String Bool
  | 0, _, _, _ => .error "comparison exceeded maximum recursion depth"
  | depth + 1, operator, left, right =>
      match left, right with
      | .bool left, .bool right => .ok (orders operator (Ord.compare left.toNat right.toNat))
      | .integer left, .integer right => .ok (orders operator (Ord.compare left right))
      | .float left, .float right => .ok (orders operator (floatOrder left right))
      | .integer left, .float right => .ok (orders operator (mixedOrder left right))
      | .float left, .integer right => .ok (orders operator (mixedOrder right left).swap)
      | .text left, .text right => .ok (orders operator (Ord.compare left right))
      | .bytes left, .bytes right => .ok (orders operator (Ord.compare left right))
      | .tuple left, .tuple right => compareItems (heap.compare depth) operator left right
      | .list left, .list right =>
          compareItems (heap.compare depth) operator (heap.listAt left).items.toList
            (heap.listAt right).items.toList
      | .dict leftAddress, .dict rightAddress =>
          let entries := (heap.dictAt leftAddress).entries.toList
          let others := (heap.dictAt rightAddress).entries.toList
          match operator with
          | .equal | .unequal =>
              if entries.length != others.length then .ok (operator = .unequal)
              else do
                let same ← entriesWithin (heap.compare depth .equal) entries others
                return same == (operator = .equal)
          | _ => notComparable operator left right false
      | .range start stop step, .range otherStart otherStop otherStep =>
          let count := rangeLength start stop step
          let same := count = rangeLength otherStart otherStop otherStep &&
            (count = 0 || (start == otherStart && (count = 1 || step == otherStep)))
          notComparable operator left right same
      | .none, .none => notComparable operator left right true
      | .register value, .register other => notComparable operator left right (value == other)
      | .function address, .function other =>
          notComparable operator left right (address == other)
      | .builtin origin name, .builtin otherOrigin otherName =>
          notComparable operator left right (origin == otherOrigin && name == otherName)
      | .elements kind (.text text), .elements otherKind (.text other) =>
          notComparable operator left right (kind == otherKind && text == other)
      | _, _ => notComparable operator left right false

def Heap.equal (heap : Heap) (left right : Value) : Except String Bool :=
  heap.compare comparisonDepth .equal left right

/-- Checks that a value can be a key of a dictionary. -/
def hashable : Value → Except String Unit
  | .list _ => .error "unhashable type: list"
  | .dict _ => .error "unhashable type: dict"
  | .range _ _ _ => .error "unhashable: range"
  | .elements kind whole => .error ("unhashable: " ++ (Value.elements kind whole).typeName)
  | .tuple items => allHashable items
  | _ => .ok ()
where
  /-- Checks that all values can be keys of a dictionary. -/
  allHashable : List Value → Except String Unit
    | [] => .ok ()
    | item :: rest =>
        match hashable item with
        | .ok () => allHashable rest
        | .error problem => .error problem

def Heap.findKey? (heap : Heap) (entries : Array (Value × Value)) (key : Value) :
    Option Nat :=
  entries.findIdx? fun entry =>
    match heap.equal entry.1 key with
    | .ok same => same
    | .error _ => false

def Heap.lookup (heap : Heap) (address : Nat) (key : Value) : Except String (Option Value) := do
  hashable key
  let entries := (heap.dictAt address).entries
  return (heap.findKey? entries key).bind fun index => entries[index]?.map Prod.snd

/-- Entries with a key set to a value: in place if the key is there, and at
the end otherwise. -/
def Heap.entriesWith (heap : Heap) (entries : Array (Value × Value)) (key value : Value) :
    Array (Value × Value) :=
  match heap.findKey? entries key with
  | some index => entries.modify index fun entry => (entry.1, value)
  | none => entries.push (key, value)

def Heap.insert (heap : Heap) (address : Nat) (key value : Value) : Except String Heap := do
  let cell := heap.dictAt address
  if cell.loops != 0 then .error "cannot insert into hash table during iteration"
  else
    hashable key
    return heap.setDict address { cell with
      entries := heap.entriesWith cell.entries key value }

/-- The failure of an operator on types it does not have. -/
def unknownBinary {Result : Type} (operator : BinaryOperator) (left right : Value) :
    Except String Result :=
  let leftType := left.typeName
  let rightType := right.typeName
  let sign := operator.text
  .error s!"unknown binary op: {leftType} {sign} {rightType}"

def indexLimit : Int := 2147483648

/-- An integer that fits an index. -/
def Value.toIndex : Value → Except String Int
  | .integer value =>
      if -indexLimit ≤ value && value < indexLimit then .ok value
      else .error s!"{value} out of range"
  | value =>
      let type := value.typeName
      .error s!"got {type}, want int"

/-- The number of items above which nothing is repeated. -/
def repeatLimit : Int := 1073741824

/-- How often something of a length is repeated. -/
def repeatCount (length : Nat) (count : Int) : Except String Nat :=
  if length = 0 then .ok 0
  else if count < -indexLimit || indexLimit ≤ count then
    .error s!"repeat count {count} too large"
  else if repeatLimit ≤ length * count then
    .error s!"excessive repeat ({length} * {count} elements)"
  else .ok count.toNat

def repeatItems {Item : Type} (items : List Item) (count : Int) : Except String (List Item) :=
  (repeatCount items.length count).map fun count => (List.replicate count items).flatten

def repeatText (text : String) (count : Int) : Except String String :=
  (repeatCount text.utf8ByteSize count).map fun count =>
    String.join (List.replicate count text)

/-- The exact remainder of magnitudes. -/
def magnitudeRemainder (left right : Decimal.Binary) : Float :=
  let power := min left.exponent right.exponent
  let unscaled (magnitude : Decimal.Binary) : Nat :=
    magnitude.significand * Nat.pow 2 (magnitude.exponent - power).toNat
  (Float.ofNat (unscaled left % unscaled right)).scaleB power

/-- The remainder of floats that has the sign of the divisor. -/
def floatRemainder (left right : Float) : Float :=
  match Decimal.Reading.ofFloat left, Decimal.Reading.ofFloat right with
  | .finite negative magnitude, .finite _ divisor =>
      let plain := magnitudeRemainder magnitude divisor
      let signed := if negative then -plain else plain
      if (left < 0.0) != (right < 0.0) && signed != 0.0 then signed + right else signed
  | .finite negative _, .infinite divisorNegative =>
      if negative != divisorNegative && left != 0.0 then left + right else left
  | _, _ => 0.0 / 0.0

def finiteFloat (value : Int) : Except String Float :=
  let converted := Float.ofInt value
  if converted.isInf then .error "int too large to convert to float" else .ok converted

/-- Arithmetic on two numbers, one of which is a float. -/
def floatArithmetic (operator : BinaryOperator) (left right : Value) (first second : Float) :
    Except String Value :=
  match operator with
  | .add => .ok (.float (first + second))
  | .subtract => .ok (.float (first - second))
  | .multiply => .ok (.float (first * second))
  | .divide =>
      if second == 0.0 then .error "floating-point division by zero"
      else .ok (.float (first / second))
  | .floorDivide =>
      if second == 0.0 then .error "floored division by zero"
      else .ok (.float (first / second).floor)
  | .remainder =>
      if second == 0.0 then .error "floating-point modulo by zero"
      else .ok (.float (floatRemainder first second))
  | _ => unknownBinary operator left right

/-- A bitwise operation on integers of any size, by that of one bit.  Negative
integers count as having endless ones above. -/
def bitwise (operation : Bool → Bool → Bool) (left right : Int) : Int :=
  let width := left.natAbs.log2 + right.natAbs.log2 + 3
  let modulus : Int := Nat.pow 2 width
  let low (value : Int) : Nat := (value % modulus).toNat
  let bits := Nat.bitwise operation (low left) (low right)
  if bits.testBit (width - 1) then (bits : Int) - modulus else bits

def integerArithmetic (operator : BinaryOperator) (left right : Int) : Except String Value :=
  match operator with
  | .add => .ok (.integer (left + right))
  | .subtract => .ok (.integer (left - right))
  | .multiply => .ok (.integer (left * right))
  | .divide =>
      if right == 0 then .error "floating-point division by zero"
      else do
        let first ← finiteFloat left
        let second ← finiteFloat right
        return .float (first / second)
  | .floorDivide =>
      if right == 0 then .error "floored division by zero"
      else .ok (.integer (left.fdiv right))
  | .remainder =>
      if right == 0 then .error "integer modulo by zero"
      else .ok (.integer (left.fmod right))
  | .bitAnd => .ok (.integer (bitwise Bool.and left right))
  | .bitOr => .ok (.integer (bitwise Bool.or left right))
  | .bitXor => .ok (.integer (bitwise Bool.xor left right))
  | .shiftLeft =>
      if right < 0 then .error s!"negative shift count: {right}"
      else if 512 ≤ right then .error s!"shift count too large: {right}"
      else .ok (.integer (left * Nat.pow 2 right.toNat))
  | .shiftRight =>
      if right < 0 then .error s!"negative shift count: {right}"
      else .ok (.integer (left.fdiv (Nat.pow 2 right.toNat)))
  | _ => unknownBinary operator (.integer left) (.integer right)

def bytesOccur (needle : List UInt8) : List UInt8 → Bool
  | [] => needle.isEmpty
  | byte :: rest => needle.isPrefixOf (byte :: rest) || bytesOccur needle rest

def Heap.member (heap : Heap) (item container : Value) : Except String Bool :=
  match container with
  | .list address => (heap.listAt address).items.toList.anyM fun other => heap.equal item other
  | .tuple items => items.anyM fun other => heap.equal item other
  | .dict address =>
      match heap.lookup address item with
      | .ok found => .ok found.isSome
      | .error _ => .ok false
  | .text text =>
      match item with
      | .text needle => .ok (bytesOccur needle.toUTF8.toList text.toUTF8.toList)
      | _ =>
          let type := item.typeName
          .error s!"'in <string>' requires string as left operand, not {type}"
  | .bytes bytes =>
      match item with
      | .bytes needle => .ok (bytesOccur needle bytes)
      | .integer value => .ok (bytes.any fun byte => (byte.toNat : Int) == value)
      | _ =>
          let type := item.typeName
          .error s!"'in <bytes>' requires bytes or int as left operand, not {type}"
  | .range start stop step =>
      match item.toInteger with
      | .ok value =>
          let steps := (value - start).fdiv step
          .ok (start + steps * step == value && 0 ≤ steps &&
            steps < (rangeLength start stop step : Int))
      | .error _ =>
          let type := item.typeName
          .error s!"'in <range>' requires integer as left operand, not {type}"
  | _ => unknownBinary .isIn item container

def Heap.binary (heap : Heap) (operator : BinaryOperator) (left right : Value) :
    Except String (Value × Heap) :=
  let pure (value : Value) : Except String (Value × Heap) := .ok (value, heap)
  match operator with
  | .equal | .unequal | .less | .greater | .lessEqual | .greaterEqual => do
      let answer ← heap.compare comparisonDepth operator left right
      pure (.bool answer)
  | .isIn => do
      let answer ← heap.member left right
      pure (.bool answer)
  | .isNotIn => do
      let answer ← heap.member left right
      pure (.bool !answer)
  | _ =>
      match operator, left, right with
      | _, .integer first, .integer second =>
          (integerArithmetic operator first second).map fun value => (value, heap)
      | _, .float first, .float second =>
          (floatArithmetic operator left right first second).map fun value => (value, heap)
      | _, .integer first, .float second => do
            let first ← finiteFloat first
            let value ← floatArithmetic operator left right first second
            pure value
      | _, .float first, .integer second => do
            let second ← finiteFloat second
            let value ← floatArithmetic operator left right first second
            pure value
      | .add, .text first, .text second => pure (.text (first ++ second))
      | .add, .bytes first, .bytes second => pure (.bytes (first ++ second))
      | .add, .tuple first, .tuple second => pure (.tuple (first ++ second))
      | .add, .list first, .list second =>
          .ok (heap.newList ((heap.listAt first).items ++ (heap.listAt second).items))
      | .multiply, .text text, .integer count | .multiply, .integer count, .text text =>
          (repeatText text count).map fun text => (.text text, heap)
      | .multiply, .bytes bytes, .integer count | .multiply, .integer count, .bytes bytes =>
          (repeatItems bytes count).map fun bytes => (.bytes bytes, heap)
      | .multiply, .tuple items, .integer count | .multiply, .integer count, .tuple items =>
          (repeatItems items count).map fun items => (.tuple items, heap)
      | .multiply, .list address, .integer count | .multiply, .integer count, .list address =>
          (repeatItems (heap.listAt address).items.toList count).map fun items =>
            heap.newList items.toArray
      | .remainder, .text text, given =>
          (heap.interpolate text given).map fun value => (value, heap)
      | .bitOr, .dict first, .dict second =>
          let entries := (heap.dictAt second).entries.foldl
            (fun entries entry => heap.entriesWith entries entry.1 entry.2)
            (heap.dictAt first).entries
          .ok (heap.newDict entries)
      | _, _, _ => unknownBinary operator left right

def Heap.unary (heap : Heap) (operator : UnaryOperator) (operand : Value) :
    Except String Value :=
  match operator, operand with
  | .negation, value => .ok (.bool !(heap.truth value))
  | .plus, .integer value => .ok (.integer value)
  | .plus, .float value => .ok (.float value)
  | .minus, .integer value => .ok (.integer (-value))
  | .minus, .float value => .ok (.float (-value))
  | .complement, .integer value => .ok (.integer (-value - 1))
  | _, value =>
      let sign := operator.text
      let type := value.typeName
      .error s!"unknown unary op: {sign} {type}"

def outOfRange {Result : Type} (index : Int) (length : Nat) (value : Value) :
    Except String Result :=
  let type := value.typeName
  if length = 0 then .error s!"index {index} out of range: empty {type}"
  else
    let low := -(length : Int)
    let high := (length : Int) - 1
    .error s!"{type} index {index} out of range [{low}:{high}]"

def Heap.itemAt? (heap : Heap) (value : Value) (index : Nat) : Option Value :=
  match value with
  | .text text => text.toUTF8.toList[index]?.map fun byte => .text (textOfBytes [byte])
  | .bytes bytes => bytes[index]?.map fun byte => .integer byte.toNat
  | other => (heap.items? other).bind fun items => items[index]?

def Value.isSequence : Value → Bool
  | .text _ | .bytes _ | .list _ | .tuple _ | .range _ _ _ => true
  | .elements .elements (.text _) | .elements .elementNumbers (.text _) => true
  | _ => false

def Heap.index (heap : Heap) (object key : Value) : Except String Value :=
  match object with
  | .dict address =>
      match heap.lookup address key with
      | .error problem => .error problem
      | .ok (some value) => .ok value
      | .ok none => .error ("key " ++ heap.repr key ++ " not in dict")
  | _ =>
      let type := object.typeName
      if object.isSequence then
        match key.toIndex with
        | .error problem => .error s!"{type} index: {problem}"
        | .ok index =>
            let length := (heap.length? object).getD 0
            let moved := if index < 0 then index + length else index
            if moved < 0 then outOfRange index length object
            else
              match heap.itemAt? object moved.toNat with
              | some item => .ok item
              | none => outOfRange index length object
      else
        let keyType := key.typeName
        .error s!"unhandled index operation {type}[{keyType}]"

def Heap.setIndex (heap : Heap) (object key value : Value) : Except String Heap :=
  match object with
  | .dict address => heap.insert address key value
  | .list address =>
      match key.toIndex with
      | .error problem => .error problem
      | .ok index =>
          let cell := heap.listAt address
          let length := cell.items.size
          let moved := if index < 0 then index + length else index
          if moved < 0 || (length : Int) ≤ moved then outOfRange index length object
          else if cell.loops != 0 then
            .error "cannot assign to element of list during iteration"
          else
            .ok (heap.setList address { cell with
              items := cell.items.setIfInBounds moved.toNat value })
  | _ =>
      let type := object.typeName
      .error s!"{type} value does not support item assignment"

/-- A bound of a slice, with negative ones counted from the end. -/
def sliceBound (what : String) (bound : Value) (length : Nat) (absent : Int) :
    Except String Int :=
  match bound with
  | .none => .ok absent
  | value =>
      match value.toIndex with
      | .ok index => .ok (if index < 0 then index + length else index)
      | .error problem => .error s!"invalid {what} index: {problem}"

/-- Where a slice starts and stops, and its step. -/
def sliceBounds (length : Nat) (low high step : Value) : Except String (Int × Int × Int) := do
  let step ←
    match step with
    | .none => .ok 1
    | value =>
        match value.toIndex with
        | .ok 0 => .error "zero is not a valid slice step"
        | .ok step => .ok step
        | .error problem => .error ("invalid slice step: " ++ problem)
  let size : Int := length
  if 0 < step then
    let start ← sliceBound "start" low length 0
    let stop ← sliceBound "end" high length size
    let start := max 0 (min size start)
    return (start, max start (min size stop), step)
  else
    let start ← sliceBound "start" low length (size - 1)
    let stop ← sliceBound "end" high length (-1)
    let stop := max stop (-1)
    return (max stop (min start (size - 1)), stop, step)

/-- The items at the positions of a slice. -/
def sliceItems {Item : Type} (items : Array Item) (bounds : Int × Int × Int) : List Item :=
  let (start, stop, step) := bounds
  (List.range (rangeLength start stop step)).filterMap fun (index : Nat) =>
    items[(start + (index : Int) * step).toNat]?

def Heap.slice (heap : Heap) (object low high step : Value) : Except String (Value × Heap) :=
  let bounds (length : Nat) := sliceBounds length low high step
  match object with
  | .text text => do
      let bytes := text.toUTF8.toList.toArray
      return (.text (textOfBytes (sliceItems bytes (← bounds bytes.size))), heap)
  | .bytes bytes => do
      return (.bytes (sliceItems bytes.toArray (← bounds bytes.length)), heap)
  | .tuple items => do
      return (.tuple (sliceItems items.toArray (← bounds items.length)), heap)
  | .list address => do
      let items := (heap.listAt address).items
      return heap.newList (sliceItems items (← bounds items.size)).toArray
  | .range first last stride => do
      let (start, stop, step) ← bounds (rangeLength first last stride)
      return (.range (first + stride * start) (first + stride * stop) (stride * step), heap)
  | _ =>
      let type := object.typeName
      .error s!"invalid slice operand {type}"

end Script

end AsmListing
