import AsmListing.Script.Action
import AsmListing.Script.Universal

/-!
# Evaluation of scripts

The meaning of a resolved script is an action over the heap.  Nesting is
bounded by fuel, and so is the number of turns of a loop that runs while a
condition holds.
-/

namespace AsmListing

namespace Script

def Eval (Result : Type) : Type :=
  Heap → Action Heap Result

instance : Monad Eval where
  pure result := fun heap => .done heap result
  bind step next := fun heap => (step heap).bind fun heap result => next result heap

namespace Eval

def fail {Result : Type} (problem : String) : Eval Result :=
  fun heap => .failed heap (.other problem)

def exhausted {Result : Type} : Eval Result :=
  fun heap => .exhausted heap

def reading {Result : Type} (read : Heap → Except String Result) : Eval Result :=
  fun heap =>
    match read heap with
    | .ok result => .done heap result
    | .error problem => .failed heap (.other problem)

def changing {Result : Type} (change : Heap → Except String (Result × Heap)) : Eval Result :=
  fun heap =>
    match change heap with
    | .ok (result, changed) => .done changed result
    | .error problem => .failed heap (.other problem)

def setting (change : Heap → Except String Heap) : Eval Unit :=
  changing fun heap => (change heap).map fun changed => ((), changed)

def print (text : String) : Eval Unit :=
  fun heap => .print text (.done heap ())

end Eval

/-- Where the evaluation stands: the bindings of the host, the frame of the
current call, and the definitions of the functions that are being called. -/
structure Site where
  bindings : List (String × Binding)
  frame : Nat
  active : List Position

inductive Flow where
  | normal
  | left
  | skipped
  | returned (value : Value)

/-- The name that the type of a value has outside of scripts. -/
def Value.hostType : Value → String
  | .none => "starlark.NoneType"
  | .bool _ => "starlark.Bool"
  | .integer _ => "starlark.Int"
  | .float _ => "starlark.Float"
  | .text _ => "starlark.String"
  | .bytes _ => "starlark.Bytes"
  | .register _ => "script.Register"
  | .tuple _ => "starlark.Tuple"
  | .range _ _ _ => "starlark.rangeValue"
  | .list _ => "*starlark.List"
  | .dict _ => "*starlark.Dict"
  | .function _ => "*starlark.Function"
  | .builtin _ _ | .method _ _ => "*starlark.Builtin"
  | .elements _ (.bytes _) => "starlark.bytesIterable"
  | .elements .elements _ | .elements .elementNumbers _ => "starlark.stringElems"
  | .elements .points _ | .elements .pointNumbers _ => "starlark.stringCodepoints"

def Heap.hostValue (heap : Heap) : Value → HostValue
  | .none => .none
  | .bool value => .bool value
  | .integer value => .integer value
  | .text value => .text value
  | .register value => .register value
  | other => .other other.typeName other.hostType (heap.repr other)

def Reply.value : Reply → Value
  | .nothing => .none
  | .register value => .register value

def Binding.value : Binding → Value
  | .register value => .register value
  | .function name => .builtin .host name
  | .mode value => .integer value.number

def universalValue : String → Value
  | "None" => .none
  | "True" => .bool true
  | "False" => .bool false
  | name => .builtin .language name

def callHost (function : String) (given : Arguments Value) : Eval Value :=
  fun heap =>
    let arguments : Arguments HostValue :=
      ⟨given.positional.map heap.hostValue,
       given.named.map fun entry => (entry.1, heap.hostValue entry.2)⟩
    .call heap ⟨function, arguments⟩ fun reply => .done heap reply.value

def readPlace (site : Site) : Place → Eval Value
  | .variable depth slot label =>
      Eval.reading fun heap =>
        match heap.slot? (heap.frameOut site.frame depth) slot with
        | some value => .ok value
        | none => .error s!"local variable {label} referenced before assignment"
  | .global label =>
      Eval.reading fun heap =>
        match heap.globals.lookup label with
        | some value => .ok value
        | none => .error s!"global variable {label} referenced before assignment"
  | .predeclared label =>
      match Host.find? site.bindings label with
      | some binding => pure binding.value
      | none => Eval.fail s!"internal error: predeclared variable {label} is uninitialized"
  | .universal label => pure (universalValue label)

def writePlace (site : Site) (value : Value) : Place → Eval Unit
  | .variable depth slot _ =>
      Eval.setting fun heap => .ok (heap.setSlot (heap.frameOut site.frame depth) slot value)
  | .global label => Eval.setting fun heap => .ok (heap.setGlobal label value)
  | _ => pure ()

/-- Changes the number of loops over a value. -/
def Heap.countLoops (heap : Heap) (count : Nat → Nat) : Value → Heap
  | .list address =>
      let cell := heap.listAt address
      heap.setList address { cell with loops := count cell.loops }
  | .dict address =>
      let cell := heap.dictAt address
      heap.setDict address { cell with loops := count cell.loops }
  | _ => heap

/-- Loops over items until the body leaves the loop. -/
def forEach (body : Value → Eval Flow) : List Value → Eval Flow
  | [] => pure .normal
  | item :: rest => do
      match ← body item with
      | .normal | .skipped => forEach body rest
      | .left => return .normal
      | .returned value => return .returned value

/-- Loops over the items of a value, which cannot change meanwhile. -/
def forEachIn (source : Value) (body : Value → Eval Flow) : Eval Flow := do
  let items ← Eval.reading fun heap =>
    match heap.items? source with
    | some items => .ok items
    | none =>
        let type := source.typeName
        .error s!"{type} value is not iterable"
  Eval.setting fun heap => .ok (heap.countLoops (· + 1) source)
  let flow ← forEach body items
  Eval.setting fun heap => .ok (heap.countLoops (· - 1) source)
  return flow

def whileTrue (test : Eval Value) (body : Eval Flow) : Nat → Eval Flow
  | 0 => Eval.exhausted
  | fuel + 1 => do
      let value ← test
      let goOn ← Eval.reading fun heap => .ok (heap.truth value)
      if goOn then
        match ← body with
        | .normal | .skipped => whileTrue test body fuel
        | .left => return .normal
        | .returned value => return .returned value
      else return .normal

/-- How many turns a loop takes at most. -/
def turnLimit : Nat := 1000000000

/-- How deeply a script is nested at most. -/
def nestingLimit : Nat := 1000000

/-- The arguments of a function as they are bound to its parameters: the
parameters with their default values, and what has been bound so far. -/
structure Signature where
  name : String
  ordinary : List (String × Option Value)
  keywordOnly : Nat
  rest : Bool
  restNamed : Bool

/-- The parameters that take one argument each. -/
def ordinaryNames : List (Parameter Place) → List String
  | [] => []
  | .required label _ :: rest => label.text :: ordinaryNames rest
  | .optional label _ _ _ :: rest => label.text :: ordinaryNames rest
  | _ :: rest => ordinaryNames rest

/-- The number of parameters behind a star that take one argument each. -/
def keywordOnlyCount (starred : Bool) : List (Parameter Place) → Nat
  | [] => 0
  | .required _ _ :: rest | .optional _ _ _ _ :: rest =>
      (if starred then 1 else 0) + keywordOnlyCount starred rest
  | .bareStar _ :: rest | .rest _ _ _ :: rest => keywordOnlyCount true rest
  | .restNamed _ _ _ :: rest => keywordOnlyCount starred rest

def Closure.signature (closure : Closure) : Signature where
  name := closure.name
  ordinary := (ordinaryNames closure.parameters).zip closure.defaults
  keywordOnly := keywordOnlyCount false closure.parameters
  rest := closure.parameters.any fun parameter =>
    match parameter with
    | .rest _ _ _ => true
    | _ => false
  restNamed := closure.parameters.any fun parameter =>
    match parameter with
    | .restNamed _ _ _ => true
    | _ => false

/-- Binds named arguments to parameters.  What no parameter takes is left
over. -/
def Signature.bindNamed (signature : Signature) :
    List (String × Value) → List (Option Value) → List (String × Value) →
      Except String (List (Option Value) × List (String × Value))
  | [], bound, leftOver => .ok (bound, leftOver)
  | (label, value) :: rest, bound, leftOver =>
      let name := signature.name
      let shown := Text.quote label
      match signature.ordinary.findIdx? fun parameter => parameter.1 == label with
      | some index =>
          if (bound[index]?.join).isSome then
            .error s!"function {name} got multiple values for parameter {shown}"
          else signature.bindNamed rest (bound.set index (some value)) leftOver
      | none =>
          if !signature.restNamed then
            .error s!"function {name} got an unexpected keyword argument {shown}"
          else if leftOver.any fun entry => entry.1 == label then
            .error s!"function {name} got multiple values for parameter {shown}"
          else signature.bindNamed rest bound (leftOver ++ [(label, value)])

def pluralEnding (count : Nat) : String :=
  if count = 1 then "" else "s"

/-- What the parameters of a function are bound to: the values of the ordinary
ones in order, and what is left over. -/
structure BoundArguments where
  ordinary : List Value
  positional : List Value
  named : List (String × Value)

/-- Binds arguments to the parameters of a function. -/
def Signature.bind (signature : Signature) (given : Arguments Value) :
    Except String BoundArguments := do
  let name := signature.name
  let count := given.positional.length
  if signature.ordinary.isEmpty && !signature.rest && !signature.restNamed then
    let total := count + given.named.length
    if total = 0 then return ⟨[], [], []⟩
    else throw s!"function {name} accepts no arguments ({total} given)"
  else
    let most := signature.ordinary.length - signature.keywordOnly
    if most < count && !signature.rest then
      let optional := (signature.ordinary.take most).any fun parameter => parameter.2.isSome
      let bound := if optional then "at most " else ""
      let ending := pluralEnding most
      throw s!"function {name} accepts {bound}{most} positional argument{ending} ({count} given)"
    else
      let taken := given.positional.take most
      let start := taken.map some ++
        List.replicate (signature.ordinary.length - taken.length) none
      let (bound, leftOver) ← signature.bindNamed given.named start []
      let filled := (bound.zip signature.ordinary).map fun (value?, parameter) =>
        (parameter.1, value?.or parameter.2)
      let missing := (filled.filter fun entry => entry.2.isNone).map Prod.fst
      if missing.isEmpty then
        return ⟨filled.filterMap Prod.snd, given.positional.drop most, leftOver⟩
      else
        let lacking := missing.length
        let ending := pluralEnding lacking
        let list := ", ".intercalate missing
        throw s!"function {name} missing {lacking} argument{ending} ({list})"

/-- Makes the frame of a call, with the parameters bound. -/
def enterFrame (closure : Closure) (bound : BoundArguments) : Eval Nat :=
  Eval.changing fun heap =>
    let signature := closure.signature
    let slots := bound.ordinary ++ if signature.rest then [.tuple bound.positional] else []
    let (slots, heap) :=
      if signature.restNamed then
        let (value, heap) :=
          heap.newDict (bound.named.map fun entry => (Value.text entry.1, entry.2)).toArray
        (slots ++ [value], heap)
      else (slots, heap)
    let frame : Frame := ⟨closure.frame, (slots.map some).toArray⟩
    .ok (heap.frames.size, { heap with frames := heap.frames.push frame })

def makeFunction (site : Site) (name : String) (definition : Position)
    (parameters : List (Parameter Place)) (defaults : List (Option Value)) (body : Body) :
    Eval Value :=
  Eval.changing fun heap =>
    let closure : Closure := ⟨name, definition, parameters, defaults, body, site.frame⟩
    .ok (.function heap.closures.size, { heap with closures := heap.closures.push closure })

def unpackItems (count : Nat) (value : Value) : Eval (List Value) :=
  Eval.reading fun heap =>
    match heap.items? value with
    | none =>
        let type := value.typeName
        .error s!"got {type} in sequence assignment"
    | some items =>
        let given := items.length
        if count < given then
          match heap.length? value with
          | some _ => .error s!"too many values to unpack (got {given}, want {count})"
          | none => .error s!"too many values to unpack (got -1, want {count})"
        else if given < count then
          .error s!"too few values to unpack (got {given}, want {count})"
        else .ok items

/-- The named arguments in a mapping that is spread. -/
def spreadNames (value : Value) : Eval (List (String × Value)) :=
  Eval.reading fun heap =>
    match value with
    | .dict address =>
        (heap.dictAt address).entries.toList.mapM fun entry =>
          match entry.1 with
          | .text label => (.ok (label, entry.2) : Except String (String × Value))
          | other =>
              let type := other.typeName
              .error s!"keywords must be strings, not {type}"
    | other =>
        let type := other.typeName
        .error s!"argument after ** must be a mapping, not {type}"

/-- The positional arguments in a sequence that is spread. -/
def spreadItems (value : Value) : Eval (List Value) :=
  Eval.reading fun heap =>
    match heap.items? value with
    | some items => .ok items
    | none =>
        let type := value.typeName
        .error s!"argument after * must be iterable, not {type}"

/-- An operator that changes its left operand in place if it can. -/
def augmentValue (operator : BinaryOperator) (left right : Value) : Eval Value :=
  Eval.changing fun heap =>
    match operator, left, right with
    | .add, .list address, _ =>
        match heap.items? right with
        | some items => do
            let cell := heap.listAt address
            cell.checkFree "apply += to"
            return (left, heap.setList address { cell with items := cell.items ++ items.toArray })
        | none => heap.binary operator left right
    | .bitOr, .dict address, .dict other => do
        let cell := heap.dictAt address
        cell.checkFree "apply |= to"
        let entries := (heap.dictAt other).entries.foldl
          (fun entries entry => heap.entriesWith entries entry.1 entry.2) cell.entries
        return (left, heap.setDict address { cell with entries := entries })
    | _, _, _ => heap.binary operator left right

/-- Puts an item in front of those that it is not less than.  The last failure
of a comparison is kept. -/
def sortInto (less : Value → Value → Except String Bool) (item : Value × Value) :
    List (Value × Value) → Option String → List (Value × Value) × Option String
  | [], problem? => ([item], problem?)
  | last :: before, problem? =>
      match less item.1 last.1 with
      | .ok true =>
          let (rest, problem?) := sortInto less item before problem?
          (last :: rest, problem?)
      | .ok false => (item :: last :: before, problem?)
      | .error problem => (item :: last :: before, some problem)

/-- Sorts values by their keys, and keeps the order of values with equal
keys. -/
def sortByKeys (less : Value → Value → Except String Bool) (items : List (Value × Value)) :
    Except String (List Value) :=
  let (sorted, problem?) := items.foldl
    (fun (sorted, problem?) item => sortInto less item sorted problem?) ([], none)
  match problem? with
  | some problem => .error problem
  | none => .ok (sorted.reverse.map Prod.snd)

def extremeValue (beyond : Value → Value → Except String Bool) :
    Value × Value → List (Value × Value) → Except String Value
  | best, [] => .ok best.2
  | best, item :: rest => do
      if ← beyond item.1 best.1 then extremeValue beyond item rest
      else extremeValue beyond best rest

def printValues (given : Arguments Value) : Eval Value := do
  let taken ← Eval.reading fun _ =>
    Arguments.byName ⟨[], given.named⟩ "print" [⟨"sep", false, Want.text⟩]
  let separator :=
    match taken with
    | [some (.text separator)] => separator
    | _ => " "
  let text ← Eval.reading fun heap =>
    .ok (separator.intercalate (given.positional.map heap.converted))
  Eval.print text
  return .none

/-- Sorts the items of a value, by a function that finds their keys. -/
def sortValues (callKey : Value → Value → Eval Value) (given : Arguments Value) :
    Eval Value := do
  let taken ← Eval.reading fun _ => given.byName "sorted"
    [⟨"iterable", true, Want.iterable⟩, ⟨"key", false, Want.callable⟩,
     ⟨"reverse", false, Want.bool⟩]
  let items ← Eval.reading fun heap => .ok (heap.itemsOf (taken.head?.join))
  let keyed ←
    match taken[1]?.join with
    | some function => items.mapM fun item => do return (← callKey function item, item)
    | none => pure (items.map fun item => (item, item))
  let reverse :=
    match taken with
    | [_, _, some (.bool value)] => value
    | _ => false
  Eval.changing fun heap => do
    let less (left right : Value) : Except String Bool :=
      if reverse then heap.compare comparisonDepth .less right left
      else heap.compare comparisonDepth .less left right
    let sorted ← sortByKeys less keyed
    return heap.newList sorted.toArray

/-- The least or greatest of values, by a function that finds their keys. -/
def findExtreme (callKey : Value → Value → Eval Value) (name : String)
    (given : Arguments Value) : Eval Value := do
  if given.positional.isEmpty then
    Eval.fail (name ++ " requires at least one positional argument")
  else
    let taken ← Eval.reading fun _ =>
      Arguments.byName ⟨[], given.named⟩ name [⟨"key", false, Want.callable⟩]
    let source :=
      match given.positional with
      | [value] => value
      | values => .tuple values
    let items ← Eval.reading fun heap =>
      match heap.items? source with
      | some items => .ok items
      | none =>
          let type := source.typeName
          .error s!"{name}: {type} value is not iterable"
    let keyed ←
      match taken.head?.join with
      | some function => items.mapM fun item => do return (← callKey function item, item)
      | none => pure (items.map fun item => (item, item))
    let operator : BinaryOperator := if name == "max" then .greater else .less
    match keyed with
    | [] => Eval.fail (name ++ ": argument is an empty sequence")
    | first :: rest =>
        Eval.reading fun heap =>
          blame name (extremeValue (heap.compare comparisonDepth operator) first rest)

def Literal.value : Literal → Value
  | .none => .none
  | .integer value => .integer value
  | .float value => .float value
  | .text value => .text value
  | .bytes value => .bytes value

/-- Puts an entry into a dictionary that is being made.  A key can be required
to be new. -/
def putEntry (isNew : Bool) (dict key value : Value) : Eval Unit :=
  Eval.setting fun heap =>
    match dict with
    | .dict address => do
        let size := (heap.dictAt address).entries.size
        let changed ← heap.insert address key value
        if isNew && (changed.dictAt address).entries.size = size then
          .error ("duplicate key: " ++ heap.repr key)
        else return changed
    | _ => .ok heap

/-- Puts an item at the end of a list that is being made. -/
def putItem (list item : Value) : Eval Unit :=
  Eval.setting fun heap =>
    match list with
    | .list address =>
        let cell := heap.listAt address
        .ok (heap.setList address { cell with items := cell.items.push item })
    | _ => .ok heap

mutual

def evalExpr : Nat → Site → Expr Place → Eval Value
  | 0, _, _ => Eval.exhausted
  | fuel + 1, site, expression =>
      match expression with
      | .name place => readPlace site place
      | .literal _ value => pure value.value
      | .list _ items => do
          let values ← items.mapM (evalExpr fuel site)
          Eval.changing fun heap => .ok (heap.newList values.toArray)
      | .tuple _ items => do
          let values ← items.mapM (evalExpr fuel site)
          return .tuple values
      | .dict _ entries => do
          let dict ← Eval.changing fun heap => .ok (heap.newDict #[])
          entries.forM fun (.entry key value) => do
            let key ← evalExpr fuel site key
            let value ← evalExpr fuel site value
            putEntry true dict key value
          return dict
      | .listOf _ body clauses => do
          let list ← Eval.changing fun heap => .ok (heap.newList #[])
          comprehend fuel site clauses do
            let item ← evalExpr fuel site body
            putItem list item
          return list
      | .dictOf _ (.entry key value) clauses => do
          let dict ← Eval.changing fun heap => .ok (heap.newDict #[])
          comprehend fuel site clauses do
            let key ← evalExpr fuel site key
            let value ← evalExpr fuel site value
            putEntry false dict key value
          return dict
      | .paren _ inside => evalExpr fuel site inside
      | .unary _ operator operand => do
          let value ← evalExpr fuel site operand
          Eval.reading fun heap => heap.unary operator value
      | .binary operator left right => do
          let left ← evalExpr fuel site left
          let right ← evalExpr fuel site right
          Eval.changing fun heap => heap.binary operator left right
      | .both left right => do
          let value ← evalExpr fuel site left
          let holds ← Eval.reading fun heap => .ok (heap.truth value)
          if holds then evalExpr fuel site right else return value
      | .either left right => do
          let value ← evalExpr fuel site left
          let holds ← Eval.reading fun heap => .ok (heap.truth value)
          if holds then return value else evalExpr fuel site right
      | .conditional test yes no => do
          let value ← evalExpr fuel site test
          let holds ← Eval.reading fun heap => .ok (heap.truth value)
          if holds then evalExpr fuel site yes else evalExpr fuel site no
      | .field object name => do
          let value ← evalExpr fuel site object
          Eval.changing fun heap => heap.field value name
      | .index object key => do
          let object ← evalExpr fuel site object
          let key ← evalExpr fuel site key
          Eval.reading fun heap => heap.index object key
      | .slice object low high step => do
          let object ← evalExpr fuel site object
          let low ← evalExpr fuel site low
          let high ← evalExpr fuel site high
          let step ← evalExpr fuel site step
          Eval.changing fun heap => heap.slice object low high step
      | .call function arguments => do
          let function ← evalExpr fuel site function
          let given ← evalArguments fuel site arguments
          callValue fuel site function given
      | .lambda start parameters body => do
          let defaults ← evalDefaults fuel site parameters
          makeFunction site "lambda" start parameters defaults (.expression body)

def evalArguments : Nat → Site → List (Argument Place) → Eval (Arguments Value)
  | 0, _, _ => Eval.exhausted
  | fuel + 1, site, arguments => do
      let values ← arguments.mapM fun argument =>
        match argument with
        | .positional value | .named _ value | .spread _ value | .spreadNamed _ value =>
            evalExpr fuel site value
      let given := arguments.zip values
      let named := given.filterMap fun (argument, value) =>
        match argument with
        | .named label _ => some (label.text, value)
        | _ => none
      let positional := given.filterMap fun (argument, value) =>
        match argument with
        | .positional _ => some value
        | _ => none
      let moreNamed ← (given.mapM fun (argument, value) =>
        match argument with
        | .spreadNamed _ _ => spreadNames value
        | _ => pure [])
      let morePositional ← (given.mapM fun (argument, value) =>
        match argument with
        | .spread _ _ => spreadItems value
        | _ => pure [])
      return ⟨positional ++ morePositional.flatten, named ++ moreNamed.flatten⟩

/-- Evaluates the default values of the parameters that take one argument
each. -/
def evalDefaults : Nat → Site → List (Parameter Place) → Eval (List (Option Value))
  | 0, _, _ => Eval.exhausted
  | fuel + 1, site, parameters => do
      let values ← parameters.mapM fun parameter =>
        match parameter with
        | .optional _ _ _ value => do
            let value ← evalExpr fuel site value
            return [some value]
        | .required _ _ => return [none]
        | _ => return []
      return values.flatten

/-- Runs the clauses of a comprehension around its body. -/
def comprehend : Nat → Site → List (Clause Place) → Eval Unit → Eval Unit
  | 0, _, _, _ => Eval.exhausted
  | _ + 1, _, [], body => body
  | fuel + 1, site, .only test :: rest, body => do
      let value ← evalExpr fuel site test
      let holds ← Eval.reading fun heap => .ok (heap.truth value)
      if holds then comprehend fuel site rest body else return
  | fuel + 1, site, .each target source :: rest, body => do
      let source ← evalExpr fuel site source
      let _ ← forEachIn source fun item => do
        assign fuel site target item
        comprehend fuel site rest body
        return .normal

def assign : Nat → Site → Expr Place → Value → Eval Unit
  | 0, _, _, _ => Eval.exhausted
  | fuel + 1, site, target, value =>
      match target with
      | .name place => writePlace site value place
      | .paren _ inside => assign fuel site inside value
      | .tuple _ targets | .list _ targets => do
          let items ← unpackItems targets.length value
          (targets.zip items).forM fun (target, item) => assign fuel site target item
      | .index object key => do
          let object ← evalExpr fuel site object
          let key ← evalExpr fuel site key
          Eval.setting fun heap => heap.setIndex object key value
      | .field object name => do
          let object ← evalExpr fuel site object
          let type := object.typeName
          Eval.fail s!"can't assign to .{name} field of {type}"
      | _ => return

def callValue : Nat → Site → Value → Arguments Value → Eval Value
  | 0, _, _, _ => Eval.exhausted
  | fuel + 1, site, function, given =>
      match function with
      | .function address => do
          let closure? ← Eval.reading fun heap => .ok heap.closures[address]?
          match closure? with
          | none => return .none
          | some closure =>
              let name := closure.name
              if site.active.contains closure.definition then
                Eval.fail s!"function {name} called recursively"
              else
                let bound ← Eval.reading fun _ => closure.signature.bind given
                let frame ← enterFrame closure bound
                let inner : Site :=
                  { site with frame := frame, active := closure.definition :: site.active }
                match closure.body with
                | .expression value => evalExpr fuel inner value
                | .block statements => do
                    match ← execBlock fuel inner statements with
                    | .returned value => return value
                    | _ => return .none
      | .builtin .host name => callHost name given
      | .builtin .language name =>
          let callKey (key item : Value) : Eval Value := callValue fuel site key ⟨[item], []⟩
          match name with
          | "print" => printValues given
          | "sorted" => sortValues callKey given
          | "min" | "max" => findExtreme callKey name given
          | _ => Eval.changing fun heap => heap.universal name given
      | .method receiver name => Eval.changing fun heap => heap.method receiver name given
      | other =>
          let type := other.typeName
          Eval.fail s!"invalid call of non-function ({type})"

def execStatement : Nat → Site → Statement Place → Eval Flow
  | 0, _, _ => Eval.exhausted
  | fuel + 1, site, statement =>
      match statement with
      | .expression value => do
          let _ ← evalExpr fuel site value
          return .normal
      | .assign target value => do
          let value ← evalExpr fuel site value
          assign fuel site target value
          return .normal
      | .augment target operator value => do
          augment fuel site target operator value
          return .normal
      | .branch test yes no => do
          let value ← evalExpr fuel site test
          let holds ← Eval.reading fun heap => .ok (heap.truth value)
          execBlock fuel site (if holds then yes else no)
      | .each target source body => do
          let source ← evalExpr fuel site source
          forEachIn source fun item => do
            assign fuel site target item
            execBlock fuel site body
      | .loop test body =>
          whileTrue (evalExpr fuel site test) (execBlock fuel site body) turnLimit
      | .define start label place parameters body => do
          let defaults ← evalDefaults fuel site parameters
          let function ← makeFunction site label.text start parameters defaults (.block body)
          writePlace site function place
          return .normal
      | .exit _ value => do
          let value ← evalExpr fuel site value
          return .returned value
      | .leave _ => return .left
      | .next _ => return .skipped
      | .skip => return .normal
      | .load _ _ => Eval.fail "load not implemented by this application"

/-- Applies an operator to a target and a value, and assigns the result. -/
def augment : Nat → Site → Expr Place → BinaryOperator → Expr Place → Eval Unit
  | 0, _, _, _, _ => Eval.exhausted
  | fuel + 1, site, target, operator, value =>
      match target with
      | .paren _ inside => augment fuel site inside operator value
      | .name place => do
          let left ← readPlace site place
          let right ← evalExpr fuel site value
          let result ← augmentValue operator left right
          writePlace site result place
      | .index object key => do
          let object ← evalExpr fuel site object
          let key ← evalExpr fuel site key
          let left ← Eval.reading fun heap => heap.index object key
          let right ← evalExpr fuel site value
          let result ← augmentValue operator left right
          Eval.setting fun heap => heap.setIndex object key result
      | .field object name => do
          let object ← evalExpr fuel site object
          let left ← Eval.changing fun heap => heap.field object name
          let right ← evalExpr fuel site value
          let _ ← augmentValue operator left right
          let type := object.typeName
          Eval.fail s!"can't assign to .{name} field of {type}"
      | _ => return

/-- Executes statements in order, until one of them leaves the block. -/
def execBlock : Nat → Site → List (Statement Place) → Eval Flow
  | 0, _, _ => Eval.exhausted
  | _ + 1, _, [] => return .normal
  | fuel + 1, site, statement :: rest => do
      match ← execStatement fuel site statement with
      | .normal => execBlock fuel site rest
      | other => return other

end

def evaluate (bindings : List (String × Binding)) (script : List (Statement Place)) :
    Action Heap Unit :=
  (execBlock nestingLimit ⟨bindings, 0, []⟩ script Heap.initial).bind
    fun heap _ => .done heap ()

end Script

end AsmListing
