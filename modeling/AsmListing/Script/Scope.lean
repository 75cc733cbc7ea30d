import AsmListing.Script.Tree

/-!
# Scopes of names

Before a script runs, every name in it is resolved to the storage it stands
for.  A function has a block of its own, and so has a comprehension.  A name
that is bound anywhere in a block is local to it.  Uses directly in the file
see what has been bound before them, and uses inside functions and
comprehensions see everything that the file binds.
-/

namespace AsmListing

namespace Script

/-- The storage that a name stands for.  A local variable is found by the
number of functions between its use and its block, and by its slot there. -/
inductive Place where
  | variable (depth slot : Nat) (label : String)
  | global (label : String)
  | predeclared (label : String)
  | universal (label : String)
deriving DecidableEq, Repr

/-- A problem that is found before a script runs. -/
structure ScopeError where
  position : Position
  problem : String
deriving DecidableEq, Repr

def ScopeError.text (failure : ScopeError) : String :=
  let line := failure.position.line
  let column := failure.position.column
  let problem := failure.problem
  s!"{line}:{column}: {problem}"

def universalNames : List String :=
  ["None", "True", "False", "abs", "all", "any", "bool", "bytes", "chr", "dict", "dir",
   "enumerate", "fail", "float", "getattr", "hasattr", "hash", "int", "len", "list", "max",
   "min", "ord", "print", "range", "repr", "reversed", "set", "sorted", "str", "tuple", "type",
   "zip"]

namespace Scope

def targetNames : Expr Identifier → List Identifier
  | .name identifier => [identifier]
  | .paren _ inside => targetNames inside
  | .tuple _ items | .list _ items => allTargetNames items
  | _ => []
where
  /-- The names that an assignment to several expressions binds. -/
  allTargetNames : List (Expr Identifier) → List Identifier
    | [] => []
    | item :: rest => targetNames item ++ allTargetNames rest

mutual

def boundNames : Statement Identifier → List Identifier
  | .assign target _ | .augment target _ _ => targetNames target
  | .branch _ yes no => allBoundNames yes ++ allBoundNames no
  | .each target _ body => targetNames target ++ allBoundNames body
  | .loop _ body => allBoundNames body
  | .define _ label _ _ _ => [label]
  | .load _ names => names.map Prod.snd
  | _ => []

/-- The names that statements bind in their block. -/
def allBoundNames : List (Statement Identifier) → List Identifier
  | [] => []
  | statement :: rest => boundNames statement ++ allBoundNames rest

end

/-- A block of a function or a comprehension, with the slots of its names. -/
structure Block where
  id : Nat
  isFunction : Bool
  slots : List (String × Nat)

/-- A use of a name that is not found anywhere, with the blocks around it. -/
structure LostUse where
  identifier : Identifier
  blocks : List Nat

/-- What is fixed while names are resolved: the names of the host and all
names that the file binds. -/
structure Setting where
  predeclared : List String
  globals : List String

/-- What changes while names are resolved.  Slots are counted per function,
and lost uses are kept apart for the current function and the ones inside
it. -/
structure State where
  errors : List ScopeError
  boundSoFar : List String
  nextSlot : Nat
  nextBlock : Nat
  lost : List LostUse
  lostInside : List LostUse
  setReported : Bool
  loops : Nat
  branches : Nat

abbrev Resolve := ReaderT Setting (StateM State)

def report (position : Position) (problem : String) : Resolve Unit :=
  modify fun state => { state with errors := ⟨position, problem⟩ :: state.errors }

/-- The storage of a name in the blocks around a use, the innermost first. -/
def findLocal (label : String) (depth : Nat) : List Block → Option Place
  | [] => none
  | block :: outer =>
      match block.slots.lookup label with
      | some slot => some (.variable depth slot label)
      | none => findLocal label (if block.isFunction then depth + 1 else depth) outer

/-- The storage of a name that no block binds. -/
def findOuter (identifier : Identifier) (globals : List String) (blocks : List Block) :
    Resolve Place := do
  let label := identifier.text
  let setting ← read
  if globals.contains label then return .global label
  else if setting.predeclared.contains label then return .predeclared label
  else if universalNames.contains label then
    if label == "set" && !(← get).setReported then
      modify fun state => { state with setReported := true }
      report identifier.position "this Starlark dialect does not support sets"
    return .universal label
  else
    if blocks.isEmpty then report identifier.position ("undefined: " ++ label)
    else
      modify fun state =>
        { state with lost := state.lost ++ [⟨identifier, blocks.map Block.id⟩] }
    return .universal label

def use (blocks : List Block) (identifier : Identifier) : Resolve Place := do
  match findLocal identifier.text 0 blocks with
  | some place => return place
  | none =>
      if blocks.isEmpty then findOuter identifier (← get).boundSoFar blocks
      else findOuter identifier (← read).globals blocks

def bind (blocks : List Block) (identifier : Identifier) : Resolve Place := do
  match blocks with
  | [] =>
      modify fun state =>
        { state with boundSoFar := identifier.text :: state.boundSoFar }
      return .global identifier.text
  | block :: _ =>
      match block.slots.lookup identifier.text with
      | some slot => return .variable 0 slot identifier.text
      | none => return .global identifier.text

/-- Gives slots of the current function to names. -/
def allot (names : List String) : Resolve (List (String × Nat)) := do
  let first := (← get).nextSlot
  modify fun state => { state with nextSlot := first + names.length }
  return names.zipIdx first

def freshBlock : Resolve Nat := do
  let id := (← get).nextBlock
  modify fun state => { state with nextBlock := id + 1 }
  return id

/-- What parameters have come before one, while they are checked. -/
structure ParameterCheck where
  seen : List String
  optional : Bool
  star : Option (Position × Bool)
  named : Option String
  keywordOnly : Nat

def checkOrder (check : ParameterCheck) :
    Parameter Identifier → Resolve ParameterCheck
  | .required label _ => do
      match check.named, check.star with
      | some named, _ =>
          report label.position ("required parameter may not follow **" ++ named)
          return check
      | none, some _ => return { check with keywordOnly := check.keywordOnly + 1 }
      | none, none =>
          if check.optional then
            report label.position "required parameter may not follow optional"
          return check
  | .optional _ sign _ _ => do
      match check.named, check.star with
      | some named, _ =>
          report sign ("optional parameter may not follow **" ++ named)
          return { check with optional := true }
      | none, some _ =>
          return { check with optional := true, keywordOnly := check.keywordOnly + 1 }
      | none, none => return { check with optional := true }
  | .bareStar start => checkStar start false
  | .rest start _ _ => checkStar start true
  | .restNamed start label _ => do
      match check.named with
      | some _ =>
          report start "multiple ** parameters not allowed"
          return check
      | none => return { check with named := some label.text }
where
  /-- Checks a star among the parameters. -/
  checkStar (start : Position) (hasName : Bool) : Resolve ParameterCheck := do
    match check.named, check.star with
    | some named, _ =>
        report start ("* parameter may not follow **" ++ named)
        return check
    | none, some _ =>
        report start "multiple * parameters not allowed"
        return check
    | none, none => return { check with star := some (start, hasName) }

/-- The name of a parameter with the place where a repetition is reported. -/
def parameterName? : Parameter Identifier → Option (String × Position)
  | .required label _ => some (label.text, label.position)
  | .optional label sign _ _ => some (label.text, sign)
  | .bareStar _ => none
  | .rest _ label _ => some (label.text, label.position)
  | .restNamed _ label _ => some (label.text, label.position)

/-- Whether a parameter collects what is left over. -/
def collects : Parameter Identifier → Bool
  | .rest .. | .restNamed .. => true
  | _ => false

/-- Reports repeated names. -/
def checkRepeats (seen : List String) : List (String × Position) → Resolve Unit
  | [] => return
  | (label, position) :: rest => do
      if seen.contains label then report position ("duplicate parameter: " ++ label)
      checkRepeats (label :: seen) rest

def checkParameters (parameters : List (Parameter Identifier)) : Resolve Unit := do
  let check ← parameters.foldlM checkOrder ⟨[], false, none, none, 0⟩
  let (collecting, ordinary) := parameters.partition collects
  checkRepeats [] ((ordinary ++ collecting).filterMap parameterName?)
  match check.star with
  | some (start, false) =>
      if check.keywordOnly = 0 then
        report start "bare * must be followed by keyword-only parameters"
  | _ => return

/-- What arguments have come before one, while they are checked. -/
structure ArgumentCheck where
  spread : Bool
  spreadNamed : Bool
  names : List String

def checkArgument (check : ArgumentCheck) : Argument Identifier → Resolve ArgumentCheck
  | .spreadNamed start _ => do
      if check.spreadNamed then report start "multiple **kwargs not allowed"
      return { check with spreadNamed := true }
  | .spread start _ => do
      if check.spreadNamed then report start "*args may not follow **kwargs"
      else if check.spread then report start "multiple *args not allowed"
      return { check with spread := true }
  | .named label _ => do
      if check.spreadNamed then
        report label.position "keyword argument may not follow **kwargs"
      else if check.spread then report label.position "keyword argument may not follow *args"
      if check.names.contains label.text then
        let name := label.text
        report label.position s!"keyword argument \"{name}\" is repeated"
        return check
      else return { check with names := label.text :: check.names }
  | .positional value => do
      if check.spread then report value.start "positional argument may not follow *args"
      else if check.spreadNamed then
        report value.start "positional argument may not follow **kwargs"
      else if !check.names.isEmpty then
        report value.start "positional argument may not follow named"
      return check

/-- Runs the resolution of a function body in a fresh function, and gives the
lost uses of the body to the function around it. -/
def inFunction {Result : Type} (names : List String) (blocks : List Block)
    (body : List Block → Resolve Result) : Resolve Result := do
  let outer ← get
  let id ← freshBlock
  modify fun state => { state with nextSlot := 0, lost := [], lostInside := [] }
  let slots ← allot names
  let result ← body (⟨id, true, slots⟩ :: blocks)
  modify fun state =>
    { state with
      nextSlot := outer.nextSlot
      lost := outer.lost
      lostInside := outer.lostInside ++ state.lostInside ++ state.lost }
  return result

/-- The names of parameters in the order of their slots: those that collect
what is left over come last. -/
def parameterNames (parameters : List (Parameter Identifier)) : List String :=
  let (collecting, ordinary) := parameters.partition collects
  ((ordinary ++ collecting).filterMap parameterName?).map Prod.fst

/-- The names that the loops of a comprehension bind. -/
def clauseNames : List (Clause Identifier) → List String
  | [] => []
  | .each target _ :: rest => (targetNames target).map Identifier.text ++ clauseNames rest
  | .only _ :: rest => clauseNames rest

mutual

def expr (blocks : List Block) : Expr Identifier → Resolve (Expr Place)
  | .name identifier => return .name (← use blocks identifier)
  | .literal start value => return .literal start value
  | .list start items => return .list start (← exprs blocks items)
  | .tuple start items => return .tuple start (← exprs blocks items)
  | .dict start items => return .dict start (← entries blocks items)
  | .listOf start body clauses => do
      let (inner, resolved) ← comprehension blocks clauses
      return .listOf start (← expr inner body) resolved
  | .dictOf start body clauses => do
      let (inner, resolved) ← comprehension blocks clauses
      return .dictOf start (← entry inner body) resolved
  | .paren start inside => return .paren start (← expr blocks inside)
  | .unary start operator operand => return .unary start operator (← expr blocks operand)
  | .binary operator left right => do
      let left ← expr blocks left
      return .binary operator left (← expr blocks right)
  | .both left right => do
      let left ← expr blocks left
      return .both left (← expr blocks right)
  | .either left right => do
      let left ← expr blocks left
      return .either left (← expr blocks right)
  | .conditional test yes no => do
      let test ← expr blocks test
      let yes ← expr blocks yes
      return .conditional test yes (← expr blocks no)
  | .field object name => return .field (← expr blocks object) name
  | .index object key => do
      let object ← expr blocks object
      return .index object (← expr blocks key)
  | .slice object low high step => do
      let object ← expr blocks object
      let low ← expr blocks low
      let high ← expr blocks high
      return .slice object low high (← expr blocks step)
  | .call function given => do
      let function ← expr blocks function
      return .call function (← arguments blocks ⟨false, false, []⟩ given)
  | .lambda start given body => do
      let defaults ← parameters blocks given
      checkParameters given
      inFunction (parameterNames given) blocks fun inner => do
        let bound ← bindParameters inner given defaults
        return .lambda start bound (← expr inner body)

def exprs (blocks : List Block) : List (Expr Identifier) → Resolve (List (Expr Place))
  | [] => return []
  | item :: rest => do
      let item ← expr blocks item
      return item :: (← exprs blocks rest)

def entry (blocks : List Block) : Entry Identifier → Resolve (Entry Place)
  | .entry key value => do
      let key ← expr blocks key
      return .entry key (← expr blocks value)

def entries (blocks : List Block) : List (Entry Identifier) → Resolve (List (Entry Place))
  | [] => return []
  | item :: rest => do
      let item ← entry blocks item
      return item :: (← entries blocks rest)

def arguments (blocks : List Block) (check : ArgumentCheck) :
    List (Argument Identifier) → Resolve (List (Argument Place))
  | [] => return []
  | .positional value :: rest => do
      let check ← checkArgument check (.positional value)
      let value ← expr blocks value
      return .positional value :: (← arguments blocks check rest)
  | .named label value :: rest => do
      let check ← checkArgument check (.named label value)
      let value ← expr blocks value
      return .named label value :: (← arguments blocks check rest)
  | .spread start value :: rest => do
      let check ← checkArgument check (.spread start value)
      let value ← expr blocks value
      return .spread start value :: (← arguments blocks check rest)
  | .spreadNamed start value :: rest => do
      let check ← checkArgument check (.spreadNamed start value)
      let value ← expr blocks value
      return .spreadNamed start value :: (← arguments blocks check rest)

/-- Resolves the default values of parameters, which belong to the block
around the function. -/
def parameters (blocks : List Block) :
    List (Parameter Identifier) → Resolve (List (Option (Expr Place)))
  | [] => return []
  | .optional _ _ _ value :: rest => do
      let value ← expr blocks value
      return some value :: (← parameters blocks rest)
  | .required _ _ :: rest => return none :: (← parameters blocks rest)
  | .bareStar _ :: rest => return none :: (← parameters blocks rest)
  | .rest _ _ _ :: rest => return none :: (← parameters blocks rest)
  | .restNamed _ _ _ :: rest => return none :: (← parameters blocks rest)

/-- Joins parameters with their resolved default values. -/
def bindParameters (blocks : List Block) :
    List (Parameter Identifier) → List (Option (Expr Place)) →
      Resolve (List (Parameter Place))
  | [], _ => return []
  | .required label identifier :: rest, defaults => do
      let place ← bind blocks identifier
      return .required label place :: (← bindParameters blocks rest defaults.tail)
  | .optional label sign identifier _ :: rest, defaults => do
      let place ← bind blocks identifier
      let value := (defaults.head?.join).getD (.literal sign .none)
      return .optional label sign place value :: (← bindParameters blocks rest defaults.tail)
  | .bareStar start :: rest, defaults =>
      return .bareStar start :: (← bindParameters blocks rest defaults.tail)
  | .rest start label identifier :: rest, defaults => do
      let place ← bind blocks identifier
      return .rest start label place :: (← bindParameters blocks rest defaults.tail)
  | .restNamed start label identifier :: rest, defaults => do
      let place ← bind blocks identifier
      return .restNamed start label place :: (← bindParameters blocks rest defaults.tail)

/-- Resolves the clauses of a comprehension.  The first source belongs to the
block around it. -/
def comprehension (blocks : List Block) :
    List (Clause Identifier) → Resolve (List Block × List (Clause Place))
  | [] => return (blocks, [])
  | .only test :: rest => do
      let test ← expr blocks test
      let (inner, resolved) ← comprehension blocks rest
      return (inner, .only test :: resolved)
  | .each loopTarget source :: rest => do
      let source ← expr blocks source
      let id ← freshBlock
      let names := (targetNames loopTarget).map Identifier.text ++ clauseNames rest
      let slots ← allot names.eraseDups
      let inner := ⟨id, false, slots⟩ :: blocks
      let loopTarget ← target inner false loopTarget
      return (inner, .each loopTarget source :: (← clauses inner rest))

def clauses (blocks : List Block) : List (Clause Identifier) → Resolve (List (Clause Place))
  | [] => return []
  | .only test :: rest => do
      let test ← expr blocks test
      return .only test :: (← clauses blocks rest)
  | .each loopTarget source :: rest => do
      let loopTarget ← target blocks false loopTarget
      let source ← expr blocks source
      return .each loopTarget source :: (← clauses blocks rest)

def target (blocks : List Block) (augmented : Bool) :
    Expr Identifier → Resolve (Expr Place)
  | .name identifier => return .name (← bind blocks identifier)
  | .paren start inside => return .paren start (← target blocks augmented inside)
  | .index object key => do
      let object ← expr blocks object
      return .index object (← expr blocks key)
  | .field object name => return .field (← expr blocks object) name
  | .tuple start items => do
      if augmented then
        report start "can't use tuple expression in augmented assignment"
      return .tuple start (← targets blocks augmented items)
  | .list start items => do
      if augmented then
        report start "can't use list expression in augmented assignment"
      return .list start (← targets blocks augmented items)
  | other => do
      report other.start ("can't assign to " ++ other.shape)
      return .literal other.start .none

/-- Resolves several things that are assigned to. -/
def targets (blocks : List Block) (augmented : Bool) :
    List (Expr Identifier) → Resolve (List (Expr Place))
  | [] => return []
  | item :: rest => do
      let item ← target blocks augmented item
      return item :: (← targets blocks augmented rest)

end

/-- Whether a use is inside a function. -/
def inAnyFunction (blocks : List Block) : Bool :=
  blocks.any Block.isFunction

def inLoop {Result : Type} (step : Resolve Result) : Resolve Result := do
  modify fun state => { state with loops := state.loops + 1 }
  let result ← step
  modify fun state => { state with loops := state.loops - 1 }
  return result

def inBranch {Result : Type} (step : Resolve Result) : Resolve Result := do
  modify fun state => { state with branches := state.branches + 1 }
  let result ← step
  modify fun state => { state with branches := state.branches - 1 }
  return result

/-- Checks where a load statement stands and binds its names. -/
def checkLoad (blocks : List Block) (start : Position)
    (names : List (Identifier × Identifier)) : Resolve Unit := do
  if inAnyFunction blocks then report start "load statement within a function"
  else if (← get).loops > 0 then report start "load statement within a loop"
  else if (← get).branches > 0 then report start "load statement within a conditional"
  for (source, label) in names do
    if source.text.isEmpty then report source.position "load: empty identifier"
    else
      if source.text.startsWith "_" then
        report source.position
          ("load: names with leading underscores are not exported: " ++ source.text)
      let _ ← bind blocks label

mutual

def statement (blocks : List Block) : Statement Identifier → Resolve (Statement Place)
  | .expression value => return .expression (← expr blocks value)
  | .assign assigned value => do
      let value ← expr blocks value
      return .assign (← target blocks false assigned) value
  | .augment assigned operator value => do
      let value ← expr blocks value
      return .augment (← target blocks true assigned) operator value
  | .branch test yes no => do
      let test ← expr blocks test
      let yes ← inBranch (statements blocks yes)
      return .branch test yes (← inBranch (statements blocks no))
  | .each loopTarget source body => do
      let source ← expr blocks source
      let loopTarget ← target blocks false loopTarget
      return .each loopTarget source (← inLoop (statements blocks body))
  | .loop test body => do
      let test ← expr blocks test
      return .loop test (← inLoop (statements blocks body))
  | .define start label identifier given body => do
      let place ← bind blocks identifier
      let defaults ← parameters blocks given
      checkParameters given
      let names := parameterNames given ++ (allBoundNames body).map Identifier.text
      inFunction names.eraseDups blocks fun inner => do
        let bound ← bindParameters inner given defaults
        return .define start label place bound (← statements inner body)
  | .exit start value => do
      unless inAnyFunction blocks do
        report start "return statement not within a function"
      return .exit start (← expr blocks value)
  | .leave start => do
      if (← get).loops = 0 then report start "break not in a loop"
      return .leave start
  | .next start => do
      if (← get).loops = 0 then report start "continue not in a loop"
      return .next start
  | .skip => return .skip
  | .load start names => do
      checkLoad blocks start names
      return .load start names

def statements (blocks : List Block) :
    List (Statement Identifier) → Resolve (List (Statement Place))
  | [] => return []
  | first :: rest => do
      let first ← statement blocks first
      return first :: (← statements blocks rest)

end

/-- The errors of lost uses.  Once a name is lost in a block, it is not
reported there again. -/
def lostErrors (known : List (Nat × String)) : List LostUse → List ScopeError
  | [] => []
  | lostUse :: rest =>
      let label := lostUse.identifier.text
      let marks := lostUse.blocks.map fun id => (id, label)
      if marks.any known.contains then lostErrors (marks ++ known) rest
      else
        ⟨lostUse.identifier.position, "undefined: " ++ label⟩ ::
          lostErrors (marks ++ known) rest

end Scope

/-- Resolves the names of a script, given the names of its host.  The errors
are in the order of their places. -/
def resolve (predeclared : List String) (script : List (Statement Identifier)) :
    Except (List ScopeError) (List (Statement Place)) :=
  let setting : Scope.Setting :=
    ⟨predeclared, (Scope.allBoundNames script).map Identifier.text⟩
  let start : Scope.State := ⟨[], [], 0, 0, [], [], false, 0, 0⟩
  let (resolved, state) := ((Scope.statements [] script).run setting).run start
  let errors :=
    state.errors.reverse ++ Scope.lostErrors [] (state.lostInside ++ state.lost)
  if errors.isEmpty then .ok resolved
  else
    .error (errors.mergeSort fun left right => !right.position.before left.position)

end Script

end AsmListing
