import AsmListing.Decimal.Written
import AsmListing.Register.Basic
import AsmListing.Script.Scope
import AsmListing.Text.Quoted

/-!
# Values of a script

Values that can change, and functions, live in a heap and are known by their
addresses.  All other values are what they hold.
-/

namespace AsmListing

namespace Script

/-- Where a built-in function comes from: the host of the script, or the
language itself. -/
inductive Origin where
  | host
  | language
deriving DecidableEq, Repr

/-- The ways to take a text or bytes apart. -/
inductive ElementKind where
  | elements
  | elementNumbers
  | points
  | pointNumbers
deriving DecidableEq, Repr

/-- The name of the method that takes a text apart. -/
def ElementKind.method : ElementKind → String
  | .elements => "elems"
  | .elementNumbers => "elem_ords"
  | .points => "codepoints"
  | .pointNumbers => "codepoint_ords"

inductive Value where
  | none
  | bool (value : Bool)
  | integer (value : Int)
  | float (value : Float)
  | text (value : String)
  | bytes (value : List UInt8)
  | register (value : Register)
  | tuple (items : List Value)
  | range (start stop step : Int)
  | list (address : Nat)
  | dict (address : Nat)
  | function (address : Nat)
  | builtin (origin : Origin) (name : String)
  | method (receiver : Value) (name : String)
  | elements (kind : ElementKind) (whole : Value)
deriving Inhabited

def Value.typeName : Value → String
  | .none => "NoneType"
  | .bool _ => "bool"
  | .integer _ => "int"
  | .float _ => "float"
  | .text _ => "string"
  | .bytes _ => "bytes"
  | .register _ => "register"
  | .tuple _ => "tuple"
  | .range _ _ _ => "range"
  | .list _ => "list"
  | .dict _ => "dict"
  | .function _ => "function"
  | .builtin _ _ | .method _ _ => "builtin_function_or_method"
  | .elements _ (.bytes _) => "bytes.elems"
  | .elements .elements _ | .elements .elementNumbers _ => "string.elems"
  | .elements .points _ | .elements .pointNumbers _ => "string.codepoints"

/-- A list in the heap.  While it is looped over, it cannot change. -/
structure ListCell where
  items : Array Value
  loops : Nat
deriving Inhabited

/-- A dictionary in the heap, in the order of insertion.  While it is looped
over, it cannot change. -/
structure DictCell where
  entries : Array (Value × Value)
  loops : Nat
deriving Inhabited

inductive Body where
  | expression (value : Expr Place)
  | block (statements : List (Statement Place))

/-- A function with the default values of its parameters and the frame it was
made in.  The place of its definition tells functions apart that are made by
different definitions. -/
structure Closure where
  name : String
  definition : Position
  parameters : List (Parameter Place)
  defaults : List (Option Value)
  body : Body
  frame : Nat

/-- The variables of one call, inside the frame where the function was
made. -/
structure Frame where
  parent : Nat
  slots : Array (Option Value)
deriving Inhabited

/-- The changing part of a running script. -/
structure Heap where
  lists : Array ListCell
  dicts : Array DictCell
  closures : Array Closure
  frames : Array Frame
  globals : List (String × Value)

namespace Heap

def initial : Heap :=
  ⟨#[], #[], #[], #[⟨0, #[]⟩], []⟩

def newList (heap : Heap) (items : Array Value) : Value × Heap :=
  (.list heap.lists.size, { heap with lists := heap.lists.push ⟨items, 0⟩ })

def newDict (heap : Heap) (entries : Array (Value × Value)) : Value × Heap :=
  (.dict heap.dicts.size, { heap with dicts := heap.dicts.push ⟨entries, 0⟩ })

def listAt (heap : Heap) (address : Nat) : ListCell :=
  heap.lists[address]?.getD ⟨#[], 0⟩

def dictAt (heap : Heap) (address : Nat) : DictCell :=
  heap.dicts[address]?.getD ⟨#[], 0⟩

def setList (heap : Heap) (address : Nat) (cell : ListCell) : Heap :=
  { heap with lists := heap.lists.setIfInBounds address cell }

def setDict (heap : Heap) (address : Nat) (cell : DictCell) : Heap :=
  { heap with dicts := heap.dicts.setIfInBounds address cell }

/-- The frame around a frame, a number of steps out. -/
def frameOut (heap : Heap) (frame : Nat) : Nat → Nat
  | 0 => frame
  | steps + 1 =>
      frameOut heap (heap.frames[frame]?.map Frame.parent |>.getD 0) steps

def slot? (heap : Heap) (frame slot : Nat) : Option Value :=
  (heap.frames[frame]?.bind fun frame => frame.slots[slot]?).join

def setSlot (heap : Heap) (frame slot : Nat) (value : Value) : Heap :=
  { heap with
    frames := heap.frames.modify frame fun frame =>
      let missing := slot + 1 - frame.slots.size
      let slots := frame.slots ++ Array.replicate missing none
      { frame with slots := slots.setIfInBounds slot (some value) } }

def setGlobal (heap : Heap) (label : String) (value : Value) : Heap :=
  if heap.globals.any fun entry => entry.1 == label then
    { heap with
      globals := heap.globals.map fun entry =>
        if entry.1 == label then (label, value) else entry }
  else { heap with globals := heap.globals ++ [(label, value)] }

end Heap

def rangeLength (start stop step : Int) : Nat :=
  if 0 < step then
    if start < stop then ((stop - start - 1) / step + 1).toNat else 0
  else if step < 0 then
    if stop < start then ((start - stop - 1) / (-step) + 1).toNat else 0
  else 0

def rangeItems (start stop step : Int) : List Value :=
  (List.range (rangeLength start stop step)).map fun (index : Nat) =>
    .integer (start + (index : Int) * step)

def textOfBytes (bytes : List UInt8) : String :=
  String.ofList (Text.decodeLossy bytes)

/-- The items of a text that is taken apart. -/
def textElements (kind : ElementKind) (text : String) : List Value :=
  match kind with
  | .elements => text.toUTF8.toList.map fun byte => .text (textOfBytes [byte])
  | .elementNumbers => text.toUTF8.toList.map fun byte => .integer byte.toNat
  | .points => text.toList.map fun character => .text (String.singleton character)
  | .pointNumbers => text.toList.map fun character => .integer character.toNat

/-- The items of a value that can be looped over. -/
def Heap.items? (heap : Heap) : Value → Option (List Value)
  | .list address => some (heap.listAt address).items.toList
  | .tuple items => some items
  | .dict address => some ((heap.dictAt address).entries.toList.map Prod.fst)
  | .range start stop step => some (rangeItems start stop step)
  | .elements kind (.text text) => some (textElements kind text)
  | .elements _ (.bytes bytes) => some (bytes.map fun byte => .integer byte.toNat)
  | _ => none

/-- The length of a value that has one.  Texts count bytes. -/
def Heap.length? (heap : Heap) : Value → Option Nat
  | .list address => some (heap.listAt address).items.size
  | .tuple items => some items.length
  | .dict address => some (heap.dictAt address).entries.size
  | .range start stop step => some (rangeLength start stop step)
  | .text value => some value.utf8ByteSize
  | .bytes value => some value.length
  | .elements .elements (.text text) => some text.utf8ByteSize
  | .elements .elementNumbers (.text text) => some text.utf8ByteSize
  | _ => none

/-- Whether a value counts as true. -/
def Heap.truth (heap : Heap) : Value → Bool
  | .none => false
  | .bool value => value
  | .integer value => value != 0
  | .float value => value != 0.0
  | .register _ | .function _ | .builtin _ _ | .method _ _ | .elements _ _ => true
  | value => heap.length? value != some 0

/-- The text of a float, which always shows that it is one. -/
def floatText (value : Float) : String :=
  if value.isNaN then "nan"
  else if value.isInf then if value < 0.0 then "-inf" else "+inf"
  else
    let shown := (Decimal.Reading.ofFloat value).general
    if shown.any fun character => character == 'e' || character == '.' then shown
    else shown ++ ".0"

def bracketedText (opening closing : String) (items : List String) : String :=
  opening ++ ", ".intercalate items ++ closing

/-- The written form of a value.  A list or dictionary that holds itself is
cut short.  The fuel bounds the nesting. -/
def Heap.show (heap : Heap) : Nat → List (Bool × Nat) → Value → String
  | 0, _, _ => "..."
  | fuel + 1, path, value =>
      match value with
      | .none => "None"
      | .bool value => if value then "True" else "False"
      | .integer value => toString value
      | .float value => floatText value
      | .text value => Text.quote value
      | .bytes value => "b" ++ Text.quoteBytes value
      | .register value => value.name
      | .tuple [item] => "(" ++ heap.show fuel path item ++ ",)"
      | .tuple items => bracketedText "(" ")" (items.map (heap.show fuel path))
      | .range start stop step =>
          if step != 1 then s!"range({start}, {stop}, {step})"
          else if start != 0 then s!"range({start}, {stop})"
          else s!"range({stop})"
      | .list address =>
          if path.contains (true, address) then "[...]"
          else
            let path := (true, address) :: path
            bracketedText "[" "]" ((heap.listAt address).items.toList.map (heap.show fuel path))
      | .dict address =>
          if path.contains (false, address) then "\x7b...\x7d"
          else
            let path := (false, address) :: path
            bracketedText "\x7b" "\x7d" ((heap.dictAt address).entries.toList.map fun entry =>
              heap.show fuel path entry.1 ++ ": " ++ heap.show fuel path entry.2)
      | .function address =>
          "<function " ++ (heap.closures[address]?.map Closure.name |>.getD "") ++ ">"
      | .builtin _ name => "<built-in function " ++ name ++ ">"
      | .method receiver name =>
          "<built-in method " ++ name ++ " of " ++ receiver.typeName ++ " value>"
      | .elements kind whole => heap.show fuel path whole ++ "." ++ kind.method ++ "()"

def displayDepth : Nat := 1000000

def Heap.repr (heap : Heap) (value : Value) : String :=
  heap.show displayDepth [] value

/-- The text of a value: a text is its own text. -/
def Heap.str (heap : Heap) : Value → String
  | .text value => value
  | value => heap.repr value

end Script

end AsmListing
