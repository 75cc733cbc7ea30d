import AsmListing.Datum
import AsmListing.Script.Arguments
import AsmListing.Script.Operator
import AsmListing.Text.Letter

/-!
# Methods of values

Lists, dictionaries, texts and bytes have methods, and registers have fields.
-/

namespace AsmListing

namespace Script

def Want.any : Want Value := fun _ => none

def wrongType (value : Value) (wanted : String) : String :=
  let type := value.typeName
  s!"got {type}, want {wanted}"

def Want.text : Want Value
  | .text _ => none
  | value => some (wrongType value "string")

def Want.integer : Want Value
  | .integer value =>
      if fitsInt64 value then none
      else some s!"{value} out of range (want value in signed 64-bit range)"
  | value => some (wrongType value "int")

def Want.bool : Want Value
  | .bool _ => none
  | value => some (wrongType value "bool")

def Value.isIterable : Value → Bool
  | .list _ | .tuple _ | .dict _ | .range _ _ _ | .elements _ _ => true
  | _ => false

/-- A value that can be looped over fits. -/
def Want.iterable : Want Value := fun value =>
  if value.isIterable then none else some (wrongType value "iterable")

def Value.isCallable : Value → Bool
  | .function _ | .builtin _ _ | .method _ _ => true
  | _ => false

def Want.callable : Want Value := fun value =>
  if value.isCallable then none else some (wrongType value "callable")

def registerFields : List String :=
  ["aliases", "hierarchy", "name", "parent", "size"]

def listMethods : List String :=
  ["append", "clear", "extend", "index", "insert", "pop", "remove"]

def dictMethods : List String :=
  ["clear", "get", "items", "keys", "pop", "popitem", "setdefault", "update", "values"]

def textMethods : List String :=
  ["capitalize", "codepoint_ords", "codepoints", "count", "elem_ords", "elems", "endswith",
   "find", "format", "index", "isalnum", "isalpha", "isdigit", "islower", "isspace", "istitle",
   "isupper", "join", "lower", "lstrip", "partition", "removeprefix", "removesuffix", "replace",
   "rfind", "rindex", "rpartition", "rsplit", "rstrip", "split", "splitlines", "startswith",
   "strip", "title", "upper"]

/-- The names of the fields and methods of a value, in increasing order. -/
def Value.fieldNames : Value → List String
  | .register _ => registerFields
  | .list _ => listMethods
  | .dict _ => dictMethods
  | .text _ => textMethods
  | .bytes _ => ["elems"]
  | _ => []

def Heap.registerField? (heap : Heap) (register : Register) (name : String) :
    Option (Value × Heap) :=
  match name with
  | "name" => some (.text register.name, heap)
  | "size" => some (.integer register.size, heap)
  | "parent" =>
      match register.parent? with
      | some parent => some (.register parent, heap)
      | none => some (.none, heap)
  | "aliases" => some (heap.newList (register.aliases.map Value.text).toArray)
  | "hierarchy" => some (heap.newList (register.hierarchy.map Value.register).toArray)
  | _ => none

def Heap.field? (heap : Heap) (value : Value) (name : String) : Option (Value × Heap) :=
  match value with
  | .register register => heap.registerField? register name
  | other =>
      if other.fieldNames.contains name then some (.method other name, heap) else none

/-- A field or method of a value, with a hint if there is none of that
name. -/
def Heap.field (heap : Heap) (value : Value) (name : String) : Except String (Value × Heap) :=
  match heap.field? value name with
  | some found => .ok found
  | none =>
      let type := value.typeName
      let hint :=
        match nearest? name value.fieldNames with
        | some near => s!" (did you mean .{near}?)"
        | none => ""
      .error s!"{type} has no .{name} field or method{hint}"

def ListCell.checkFree (cell : ListCell) (verb : String) : Except String Unit :=
  if cell.loops = 0 then .ok () else .error s!"cannot {verb} list during iteration"

def DictCell.checkFree (cell : DictCell) (verb : String) : Except String Unit :=
  if cell.loops = 0 then .ok () else .error s!"cannot {verb} hash table during iteration"

/-- Puts the name of a function before a problem. -/
def blame {Result : Type} (function : String) (result : Except String Result) :
    Except String Result :=
  result.mapError fun problem => s!"{function}: {problem}"

/-- A bound of a part of a sequence, between zero and the length. -/
def partBound (length : Nat) (bound? : Option Value) (absent : Nat) : Except String Nat :=
  match bound? with
  | none | some .none => .ok absent
  | some value =>
      value.toIndex.map fun (index : Int) =>
        let moved := if index < 0 then index + length else index
        (max 0 (min (length : Int) moved)).toNat

def partBounds (function : String) (length : Nat) (low? high? : Option Value) :
    Except String (Nat × Nat) := do
  let bound (what : String) (bound : Except String Nat) : Except String Nat :=
    bound.mapError fun problem => s!"{function}: invalid {what} index: {problem}"
  let low ← bound "start" (partBound length low? 0)
  let high ← bound "end" (partBound length high? length)
  return (low, high)

def Heap.listMethod (heap : Heap) (address : Nat) (name : String) (given : Arguments Value) :
    Except String (Value × Heap) :=
  let cell := heap.listAt address
  let size := cell.items.size
  let changed (items : Array Value) : Heap := heap.setList address { cell with items := items }
  match name with
  | "append" => do
      let items ← given.byPosition name 1 [Want.any]
      blame name (cell.checkFree "append to")
      return (.none, changed (cell.items ++ items.toArray))
  | "clear" => do
      let _ ← given.byPosition name 0 []
      blame name (cell.checkFree "clear")
      return (.none, changed #[])
  | "extend" => do
      let items ← given.byPosition name 1 [Want.iterable]
      blame name (cell.checkFree "extend")
      let added := (items.head?.bind heap.items?).getD []
      return (.none, changed (cell.items ++ added.toArray))
  | "index" => do
      let items ← given.byPosition name 1 [Want.any, Want.any, Want.any]
      let wanted := items.head?.getD .none
      let (low, high) ← partBounds name size items[1]? items[2]?
      let part := ((cell.items.toList.take high).drop low).zipIdx low
      let found ← part.findM? fun entry => blame name (heap.equal entry.1 wanted)
      match found with
      | some (_, index) => return (.integer index, heap)
      | none => .error "index: value not in list"
  | "insert" => do
      let items ← given.byPosition name 2 [Want.integer, Want.any]
      blame name (cell.checkFree "insert into")
      match items with
      | [.integer index, value] =>
          let moved := if index < 0 then index + size else index
          let place := (max 0 (min (size : Int) moved)).toNat
          let front := cell.items.toList.take place
          return (.none, changed (front ++ value :: cell.items.toList.drop place).toArray)
      | _ => return (.none, heap)
  | "pop" => do
      let items ← given.byPosition name 0 [Want.integer]
      let index : Int :=
        match items with
        | [.integer index] => index
        | _ => (size : Int) - 1
      let moved := if index < 0 then index + size else index
      if moved < 0 || (size : Int) ≤ moved then
        blame name (outOfRange index size (.list address))
      else
        blame name (cell.checkFree "pop from")
        let value := cell.items[moved.toNat]?.getD .none
        return (value, changed (cell.items.toList.eraseIdx moved.toNat).toArray)
  | "remove" => do
      let items ← given.byPosition name 1 [Want.any]
      blame name (cell.checkFree "remove from")
      let wanted := items.head?.getD .none
      let found ← cell.items.toList.zipIdx.findM? fun entry =>
        blame name (heap.equal entry.1 wanted)
      match found with
      | some (_, index) => return (.none, changed (cell.items.toList.eraseIdx index).toArray)
      | none => .error "remove: element not found"
  | _ => .error ("list has no method " ++ name)

/-- The key and value of an element that a dictionary is made of. -/
def Heap.pairOf (heap : Heap) (element : Value) (index : Nat) : Except String (Value × Value) :=
  match heap.items? element with
  | none =>
      let type := element.typeName
      .error s!"dictionary update sequence element #{index} is not iterable ({type})"
  | some [key, value] => .ok (key, value)
  | some items =>
      let length := items.length
      .error s!"dictionary update sequence element #{index} has length {length}, want 2"

/-- Adds the entries of a mapping or of a sequence of pairs, and then named
arguments, to a dictionary. -/
def Heap.updateDict (heap : Heap) (address : Nat) (given : Arguments Value) :
    Except String Heap := do
  let entries ←
    match given.positional with
    | [] => pure []
    | .dict other :: _ => pure (heap.dictAt other).entries.toList
    | other :: _ =>
        match heap.items? other with
        | none =>
            let type := other.typeName
            throw s!"got {type}, want iterable"
        | some items => items.zipIdx.mapM fun (element, index) => heap.pairOf element index
  let heap ← entries.foldlM (fun heap entry => heap.insert address entry.1 entry.2) heap
  given.named.foldlM (fun heap entry => heap.insert address (.text entry.1) entry.2) heap

def Heap.dictMethod (heap : Heap) (address : Nat) (name : String) (given : Arguments Value) :
    Except String (Value × Heap) :=
  let cell := heap.dictAt address
  let entries := cell.entries.toList
  let changed (entries : Array (Value × Value)) : Heap :=
    heap.setDict address { cell with entries := entries }
  match name with
  | "clear" => do
      let _ ← given.byPosition name 0 []
      blame name (cell.checkFree "clear")
      return (.none, changed #[])
  | "get" => do
      let items ← given.byPosition name 1 [Want.any, Want.any]
      let found ← blame name (heap.lookup address (items.head?.getD .none))
      return (found.getD (items[1]?.getD .none), heap)
  | "items" => do
      let _ ← given.byPosition name 0 []
      return heap.newList (entries.map fun entry => Value.tuple [entry.1, entry.2]).toArray
  | "keys" => do
      let _ ← given.byPosition name 0 []
      return heap.newList (entries.map Prod.fst).toArray
  | "values" => do
      let _ ← given.byPosition name 0 []
      return heap.newList (entries.map Prod.snd).toArray
  | "pop" => do
      let items ← given.byPosition name 1 [Want.any, Want.any]
      let key := items.head?.getD .none
      blame name (cell.checkFree "delete from")
      let found ← blame name (heap.lookup address key)
      match found, items[1]? with
      | some value, _ =>
          let index := (heap.findKey? cell.entries key).getD entries.length
          return (value, changed (entries.eraseIdx index).toArray)
      | none, some value => return (value, heap)
      | none, none => .error "pop: missing key"
  | "popitem" => do
      let _ ← given.byPosition name 0 []
      match entries with
      | [] => .error "popitem: empty dict"
      | (key, value) :: rest =>
          blame name (cell.checkFree "delete from")
          return (.tuple [key, value], changed rest.toArray)
  | "setdefault" => do
      let items ← given.byPosition name 1 [Want.any, Want.any]
      let key := items.head?.getD .none
      let value := items[1]?.getD .none
      let found ← blame name (heap.lookup address key)
      match found with
      | some held => return (held, heap)
      | none =>
          let heap ← blame name (heap.insert address key value)
          return (value, heap)
  | "update" => do
      let count := given.positional.length
      if 1 < count then .error s!"update: got {count} arguments, want at most 1"
      else
        let heap ← blame name (heap.updateDict address given)
        return (.none, heap)
  | _ => .error ("dict has no method " ++ name)

def blankRanges : List (Nat × Nat) :=
  [(9, 13), (32, 32), (0x85, 0x85), (0xa0, 0xa0), (0x1680, 0x1680), (0x2000, 0x200a),
   (0x2028, 0x2029), (0x202f, 0x202f), (0x205f, 0x205f), (0x3000, 0x3000)]

def isBlank (character : Char) : Bool :=
  Text.inRanges character.toNat blankRanges

/-- Whether a character has an upper-case form of its own. -/
def isLowerCase (character : Char) : Bool :=
  Text.isLetter character && Text.upperChar character != character

/-- Whether a character has a lower-case form of its own. -/
def isUpperCase (character : Char) : Bool :=
  Text.isLetter character && Text.lowerChar character != character

/-- A text with every word in title case. -/
def titled (inWord : Bool) : List Char → List Char
  | [] => []
  | character :: rest =>
      if Text.isLetter character then
        (if inWord then Text.lowerChar character else Text.upperChar character) ::
          titled true rest
      else character :: titled false rest

/-- Whether every word of a text is in title case. -/
def isTitled (inWord seen : Bool) : List Char → Bool
  | [] => seen
  | character :: rest =>
      if isUpperCase character then !inWord && isTitled true true rest
      else if isLowerCase character then inWord && isTitled true true rest
      else isTitled false seen rest

/-- Drops from both ends what passes a test. -/
def stripText (left right : Bool) (drop : Char → Bool) (text : List Char) : List Char :=
  let text := if left then text.dropWhile drop else text
  if right then (text.reverse.dropWhile drop).reverse else text

/-- What stands before and after the first place where something occurs. -/
def breakAt? {Item : Type} [BEq Item] (needle : List Item) :
    List Item → Option (List Item × List Item)
  | [] => if needle.isEmpty then some ([], []) else none
  | item :: rest =>
      if needle.isPrefixOf (item :: rest) then some ([], (item :: rest).drop needle.length)
      else (breakAt? needle rest).map fun (before, after) => (item :: before, after)

/-- What stands before and after the last place where something occurs. -/
def breakAtLast? {Item : Type} [BEq Item] (needle text : List Item) :
    Option (List Item × List Item) :=
  (breakAt? needle.reverse text.reverse).map fun (after, before) =>
    (before.reverse, after.reverse)

/-- Splits at a separator, at most so often.  Every step takes the separator
away, so the length is fuel enough. -/
def splitAt (separator : List Char) : Nat → List Char → List (List Char)
  | 0, text => [text]
  | fuel + 1, text =>
      match breakAt? separator text with
      | none => [text]
      | some (before, after) => before :: splitAt separator fuel after

/-- Splits at a separator from the end, at most so often. -/
def splitAtLast (separator : List Char) : Nat → List Char → List (List Char)
  | 0, text => [text]
  | fuel + 1, text =>
      match breakAtLast? separator text with
      | none => [text]
      | some (before, after) => splitAtLast separator fuel before ++ [after]

/-- Splits at blanks, at most so often.  What is left over keeps its inner
blanks. -/
def splitBlank : Nat → List Char → List (List Char)
  | fuel, text =>
      match text.dropWhile isBlank with
      | [] => []
      | start :: rest =>
          match fuel with
          | 0 => [(stripText false true isBlank (start :: rest))]
          | fuel + 1 =>
              let word := (start :: rest).takeWhile fun character => !isBlank character
              word :: splitBlank fuel ((start :: rest).drop word.length)

/-- Splits at blanks from the end, at most so often. -/
def splitBlankLast (most : Nat) (text : List Char) : List (List Char) :=
  ((splitBlank most text.reverse).map List.reverse).reverse

def splitLines (keepEnds : Bool) : Nat → List Char → List (List Char)
  | 0, _ => []
  | _, [] => []
  | fuel + 1, text =>
      let line := text.takeWhile fun character => character != '\n' && character != '\r'
      match text.drop line.length with
      | [] => [line]
      | '\r' :: '\n' :: rest =>
          (if keepEnds then line ++ ['\r', '\n'] else line) :: splitLines keepEnds fuel rest
      | ending :: rest =>
          (if keepEnds then line ++ [ending] else line) :: splitLines keepEnds fuel rest

/-- Replaces a text by another, at most so often. -/
def replaceText (old new : List Char) : Nat → List Char → List Char
  | 0, text => text
  | fuel + 1, text =>
      if old.isEmpty then
        match text with
        | [] => new
        | character :: rest => new ++ character :: replaceText old new fuel rest
      else
        match breakAt? old text with
        | none => text
        | some (before, after) => before ++ new ++ replaceText old new fuel after

/-- How often bytes occur without overlap. -/
def occurrences (needle : List UInt8) : Nat → List UInt8 → Nat
  | 0, _ => 0
  | fuel + 1, text =>
      match breakAt? needle text with
      | none => 0
      | some (_, after) => occurrences needle fuel after + 1

def textValue (text : List Char) : Value :=
  .text (String.ofList text)

/-- How often something is done: as often as an argument says, and without
bound if there is none or it is negative. -/
def repetitions (bound : Nat) : Option Value → Nat
  | some (.integer count) => if count < 0 then bound else count.toNat
  | _ => bound

def textsOf (items : List Value) : List String :=
  items.filterMap fun item =>
    match item with
    | .text text => some text
    | _ => none

/-- Whether a text starts or ends with another, or with one of several. -/
def Heap.affixed (name : String) (test : String → Bool) (affix : Value) : Except String Value :=
  match affix with
  | .text text => .ok (.bool (test text))
  | .tuple items => do
      let answers ← items.zipIdx.mapM fun (item, index) =>
        match item with
        | .text text => (.ok (test text) : Except String Bool)
        | other =>
            let type := other.typeName
            .error s!"{name}: want string, got {type}, for element {index}"
      return .bool (answers.contains true)
  | other =>
      let type := other.typeName
      .error s!"{name}: got {type}, want string or tuple of string"

def searchText (name : String) (last mustFind : Bool) (text : String) (items : List Value) :
    Except String Value := do
  let bytes := text.toUTF8.toList
  let (low, high) ← partBounds name bytes.length items[1]? items[2]?
  let needle := ((textsOf items).head?.getD "").toUTF8.toList
  let part := (bytes.take high).drop low
  let found := if last then breakAtLast? needle part else breakAt? needle part
  match found with
  | some (before, _) => return .integer (before.length + low)
  | none => if mustFind then throw s!"{name}: substring not found" else return .integer (-1)

def Heap.joinItems (heap : Heap) (separator : String) (source : Value) :
    Except String Value := do
  let items := (heap.items? source).getD []
  let texts ← items.zipIdx.mapM fun (item, index) =>
    match item with
    | .text text => (.ok text : Except String String)
    | other =>
        let type := other.typeName
        .error s!"join: in list, want string, got {type}, for element {index}"
  return .text (separator.intercalate texts)

def Heap.splitText (heap : Heap) (name : String) (last : Bool) (text : String)
    (given : Arguments Value) : Except String (Value × Heap) := do
  let items ← given.byPosition name 0 [Want.any, Want.integer]
  let most := repetitions (text.length + 1) items[1]?
  let parts ←
    match items.head?.getD .none with
    | .none =>
        pure (if last then splitBlankLast most text.toList else splitBlank most text.toList)
    | .text separator =>
        if separator.isEmpty then throw s!"{name}: empty separator"
        else
          pure (if last then splitAtLast separator.toList most text.toList
            else splitAt separator.toList most text.toList)
    | other =>
        let type := other.typeName
        throw s!"{name}: got {type} for separator, want string"
  return heap.newList (parts.map textValue).toArray

def Heap.textMethod (heap : Heap) (text : String) (name : String) (given : Arguments Value) :
    Except String (Value × Heap) :=
  let characters := text.toList
  let none (value : Value) : Except String (Value × Heap) := do
    let _ ← given.byPosition name 0 []
    return (value, heap)
  let strip (left right : Bool) : Except String (Value × Heap) := do
    let items ← given.byPosition name 0 [Want.text]
    let drop (character : Char) : Bool :=
      match (textsOf items).head? with
      | some set => set.toList.contains character
      | Option.none => isBlank character
    return (textValue (stripText left right drop characters), heap)
  let search (last mustFind : Bool) : Except String (Value × Heap) := do
    let items ← given.byPosition name 1 [Want.text, Want.any, Want.any]
    return (← searchText name last mustFind text items, heap)
  let affix (test : List Char → String → Bool) : Except String (Value × Heap) := do
    let items ← given.byPosition name 1 [Want.any, Want.any, Want.any]
    let bytes := text.toUTF8.toList
    let (low, high) ← partBounds name bytes.length items[1]? items[2]?
    let part := (textOfBytes ((bytes.take high).drop low)).toList
    return (← Heap.affixed name (test part) (items.head?.getD .none), heap)
  let cut (last : Bool) : Except String (Value × Heap) := do
    let items ← given.byPosition name 1 [Want.text]
    let separator := (textsOf items).head?.getD ""
    if separator.isEmpty then .error s!"{name}: empty separator"
    else
      let found :=
        if last then breakAtLast? separator.toList characters
        else breakAt? separator.toList characters
      match found with
      | some (before, after) =>
          return (.tuple [textValue before, .text separator, textValue after], heap)
      | Option.none =>
          return (if last then .tuple [.text "", .text "", .text text]
            else .tuple [.text text, .text "", .text ""], heap)
  let all (test : Char → Bool) : Bool := !characters.isEmpty && characters.all test
  match name with
  | "capitalize" =>
      match characters with
      | [] => none (.text "")
      | first :: rest =>
          none (textValue (Text.upperChar first :: rest.map Text.lowerChar))
  | "codepoint_ords" => none (.elements .pointNumbers (.text text))
  | "codepoints" => none (.elements .points (.text text))
  | "elem_ords" => none (.elements .elementNumbers (.text text))
  | "elems" => none (.elements .elements (.text text))
  | "count" => do
      let items ← given.byPosition name 1 [Want.text, Want.any, Want.any]
      let bytes := text.toUTF8.toList
      let (low, high) ← partBounds name bytes.length items[1]? items[2]?
      let needle := ((textsOf items).head?.getD "").toUTF8.toList
      let part := (bytes.take high).drop low
      let count :=
        if needle.isEmpty then (textOfBytes part).length + 1
        else occurrences needle (part.length + 1) part
      return (.integer count, heap)
  | "endswith" => affix fun part ending => ending.toList.isSuffixOf part
  | "startswith" => affix fun part start => start.toList.isPrefixOf part
  | "find" => search false false
  | "index" => search false true
  | "rfind" => search true false
  | "rindex" => search true true
  | "format" =>
      (heap.format text given.positional given.named).map fun value => (value, heap)
  | "isalnum" =>
      none (.bool (all fun character => Text.isLetter character || character.isDigit))
  | "isalpha" => none (.bool (all Text.isLetter))
  | "isdigit" => none (.bool (all Char.isDigit))
  | "isspace" => none (.bool (all isBlank))
  | "islower" => none (.bool (characters.any isLowerCase && !characters.any isUpperCase))
  | "isupper" => none (.bool (characters.any isUpperCase && !characters.any isLowerCase))
  | "istitle" => none (.bool (isTitled false false characters))
  | "title" => none (textValue (titled false characters))
  | "lower" => none (.text (Text.lower text))
  | "upper" => none (.text (Text.upper text))
  | "join" => do
      let items ← given.byPosition name 1 [Want.iterable]
      return (← heap.joinItems text (items.head?.getD .none), heap)
  | "strip" => strip true true
  | "lstrip" => strip true false
  | "rstrip" => strip false true
  | "partition" => cut false
  | "rpartition" => cut true
  | "removeprefix" => do
      let items ← given.byPosition name 1 [Want.text]
      let part := ((textsOf items).head?.getD "").toList
      return (textValue (if part.isPrefixOf characters then characters.drop part.length
        else characters), heap)
  | "removesuffix" => do
      let items ← given.byPosition name 1 [Want.text]
      let part := ((textsOf items).head?.getD "").toList
      return (textValue (if part.isSuffixOf characters then
        characters.take (characters.length - part.length) else characters), heap)
  | "replace" => do
      let items ← given.byPosition name 2 [Want.text, Want.text, Want.integer]
      let most := repetitions (text.length + 1) items[2]?
      match textsOf items with
      | old :: new :: _ =>
          return (textValue (replaceText old.toList new.toList most characters), heap)
      | _ => return (.text text, heap)
  | "split" => heap.splitText name false text given
  | "rsplit" => heap.splitText name true text given
  | "splitlines" => do
      let items ← given.byPosition name 0 [Want.bool]
      let keepEnds :=
        match items.head? with
        | some (.bool value) => value
        | _ => false
      let lines := splitLines keepEnds (characters.length + 1) characters
      return heap.newList (lines.map textValue).toArray
  | _ => .error ("string has no method " ++ name)

def Heap.method (heap : Heap) (receiver : Value) (name : String) (given : Arguments Value) :
    Except String (Value × Heap) :=
  match receiver with
  | .list address => heap.listMethod address name given
  | .dict address => heap.dictMethod address name given
  | .text text => heap.textMethod text name given
  | .bytes bytes => do
      let _ ← given.byPosition name 0 []
      return (.elements .elements (.bytes bytes), heap)
  | other =>
      let type := other.typeName
      .error s!"{type} has no method {name}"

end Script

end AsmListing
