import AsmListing.Attempt
import AsmListing.Datum
import AsmListing.Text.Case
import AsmListing.Text.Quoted
import AsmListing.Text.Utf8

/-!
# Options of a listing

Options are read from a table.  Scalars are converted loosely, a null leaves
an option alone, and a key that names no option is an error.  All values are
converted before any of them is taken over, and the mode, which may not exist,
is taken over first.
-/

namespace AsmListing

/-- How a listing is made: the mode, the text before every instruction,
whether there are comments, the name of the listing file, and whether every
line is logged. -/
structure Options where
  mode : Mode
  indent : String
  comments : Bool
  output : String
  verbose : Bool
deriving DecidableEq, Repr

inductive OptionsError where
  | table (problems : List String)
  | mode
deriving DecidableEq, Repr

/-- The wording of an options error.  The problems of a table are sorted. -/
def OptionsError.message : OptionsError → String
  | .table problems =>
      let count := problems.length
      let points := (problems.map fun problem => "* " ++ problem).mergeSort
        fun left right => decide (left ≤ right)
      s!"{count} error(s) decoding:\n\n" ++ "\n".intercalate points
  | .mode => "architecture mode invalid"

namespace Options

def default : Options := ⟨.bits64, "", true, "", false⟩

/-- No options at all. -/
def blank : Options := ⟨⟨0⟩, "", false, "", false⟩

/-- The name of the type that a conversion reports.  A register counts as what
it refers to. -/
def reportedType : Datum → String
  | .register _ => "register.Register"
  | value => value.typeName

/-- The problem of a value that cannot be converted. -/
def unconvertible (name wanted : String) (value : Datum) : String :=
  let type := reportedType value
  let shown := value.print
  s!"'{name}' expected type '{wanted}', got unconvertible type '{type}', value: '{shown}'"

/-- The text that a value is converted to.  A null is no text. -/
def toText (name : String) (value : Datum) : Except String (Option String) :=
  match value with
  | .null | .noRegister => .ok none
  | .text text => .ok (some text)
  | .bool value => .ok (some (if value then "1" else "0"))
  | .integer .uintptr _ => .error (unconvertible name "string" value)
  | .integer _ number => .ok (some (toString number))
  | .mode mode => .ok (some (toString mode.number))
  | .float64 number => .ok (some (Decimal.Reading.ofFloat number).positional)
  | .float32 number => .ok (some (Decimal.Reading.ofFloat number.toFloat).positional)
  | .bytes bytes => .ok (some (String.ofList (Text.decodeLossy bytes)))
  | other => .error (unconvertible name "string" other)

/-- The truth values that texts stand for. -/
def truthOfText? (text : String) : Option Bool :=
  if ["1", "t", "T", "TRUE", "true", "True"].contains text then some true
  else if ["0", "f", "F", "FALSE", "false", "False"].contains text then some false
  else none

def notTruth (text : String) : String :=
  let shown := Text.quote text
  s!"strconv.ParseBool: parsing {shown}: invalid syntax"

/-- The truth value that a value is converted to.  A null is none. -/
def toBool (name : String) (value : Datum) : Except String (Option Bool) :=
  match value with
  | .null | .noRegister => .ok none
  | .bool value => .ok (some value)
  | .integer .uintptr _ => .error (unconvertible name "bool" value)
  | .integer _ number => .ok (some (number != 0))
  | .mode mode => .ok (some (mode.number != 0))
  | .float64 number => .ok (some (number != 0.0))
  | .float32 number => .ok (some (number.toFloat != 0.0))
  | .text text =>
      if text.isEmpty then .ok (some false)
      else
        match truthOfText? text with
        | some value => .ok (some value)
        | none =>
            let problem := notTruth text
            .error s!"cannot parse '{name}' as bool: {problem}"
  | other => .error (unconvertible name "bool" other)

def names : List String := ["mode", "indent", "comments", "output", "verbose"]

/-- The key that sets an option: its exact name, or else the first key that
differs in the case of letters only. -/
def keyOf? (table : List (String × Datum)) (name : String) : Option String :=
  let keys := table.map Prod.fst
  if keys.contains name then some name
  else keys.find? fun key => Text.sameFold key name

def valueOf (table : List (String × Datum)) (name : String) : Datum :=
  ((keyOf? table name).bind fun key => table.lookup key).getD .null

/-- The keys of a table that set no option. -/
def unusedKeys (table : List (String × Datum)) : List String :=
  let used := names.filterMap (keyOf? table)
  (table.map Prod.fst).filter fun key => !used.contains key

/-- The problem of keys that set no option. -/
def unusedProblem (keys : List String) : List String :=
  if keys.isEmpty then []
  else
    let sorted := keys.mergeSort fun left right => decide (left ≤ right)
    ["'' has invalid keys: " ++ ", ".intercalate sorted]

def problemOf {Result : Type} : Except String Result → List String
  | .ok _ => []
  | .error problem => [problem]

def resultOf {Result : Type} : Except String (Option Result) → Option Result
  | .ok result? => result?
  | .error _ => none

/-- What a table says about the options.  A text that it does not have is
empty. -/
structure Reading where
  mode : String
  indent : String
  comments? : Option Bool
  output : String
  verbose : Bool
deriving DecidableEq, Repr

/-- The text for the mode, unless it is empty. -/
def Reading.mode? (reading : Reading) : Option String :=
  if reading.mode.isEmpty then none else some reading.mode

/-- Converts the values of a table.  All that is wrong with the table is
reported together. -/
def Reading.ofTable (table : List (String × Datum)) : Except OptionsError Reading :=
  let mode := toText "mode" (valueOf table "mode")
  let indent := toText "indent" (valueOf table "indent")
  let comments := toBool "comments" (valueOf table "comments")
  let output := toText "output" (valueOf table "output")
  let verbose := toBool "verbose" (valueOf table "verbose")
  let problems := problemOf mode ++ problemOf indent ++ problemOf comments ++
    problemOf output ++ problemOf verbose ++ unusedProblem (unusedKeys table)
  if problems.isEmpty then
    .ok ⟨(resultOf mode).getD "", (resultOf indent).getD "", resultOf comments,
      (resultOf output).getD "", (resultOf verbose).getD false⟩
  else .error (.table problems)

def setMode (text : String) : Attempt Options OptionsError Unit :=
  match Mode.ofText? text with
  | some mode => modify fun options => { options with mode := mode }
  | none => throw .mode

/-- Takes over what a table says, one option after another. -/
def adopt (reading : Reading) : Attempt Options OptionsError Unit := do
  reading.mode?.forM setMode
  modify fun options => { options with indent := reading.indent }
  reading.comments?.forM fun comments =>
    modify fun options => { options with comments := comments }
  modify fun options => { options with output := reading.output }
  modify fun options => { options with verbose := reading.verbose }

/-- Changes options to what a table says. -/
def read (table : List (String × Datum)) : Attempt Options OptionsError Unit := do
  let reading ← Attempt.ofExcept (Reading.ofTable table)
  adopt reading

/-- Reads options from a table, starting from the default ones. -/
def decode (table : List (String × Datum)) : Options × Option OptionsError :=
  (read table).outcome default

/-- The options in a table, if there is nothing wrong with it. -/
def ofTable (table : List (String × Datum)) : Except OptionsError Options :=
  (read table).settle default

end Options

end AsmListing
