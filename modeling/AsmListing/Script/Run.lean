import AsmListing.Script.Evaluate
import AsmListing.Script.Grammar

/-!
# Running scripts on programs

A script is read, its names are resolved, and then it is run.  Only the run
changes the program.
-/

namespace AsmListing

namespace Script

/-- The reasons for which a script does not run to its end. -/
inductive ScriptError where
  | noRegisters
  | malformed
  | unresolved (errors : List ScopeError)
  | stopped (failure : Failure)
  | exhausted

/-- The wording of a script error.  Problems with the text of a script are
told apart by their places only. -/
def ScriptError.message : ScriptError → String
  | .noRegisters => "program has no register set"
  | .malformed => "malformed script"
  | .unresolved errors => "\n".intercalate (errors.map ScopeError.text)
  | .stopped failure => failure.message
  | .exhausted => "script ran for too long"

/-- A global of a script, by its name, its type and its written form. -/
structure GlobalReport where
  name : String
  type : String
  text : String
deriving DecidableEq, Repr

structure Outcome where
  program : Program
  log : List String
  globals : List GlobalReport
  error? : Option ScriptError

/-- The globals in a heap. -/
def Heap.reports (heap : Heap) : List GlobalReport :=
  heap.globals.map fun (name, value) => ⟨name, value.typeName, heap.repr value⟩

def Outcome.ofTrace (trace : Action.Trace Heap) : Outcome where
  program := trace.program
  log := trace.log
  globals := trace.state.reports
  error? :=
    match trace.ending with
    | .finished => none
    | .failed failure => some (.stopped failure)
    | .exhausted => some .exhausted

/-- What a script that does not run leaves behind. -/
def Outcome.refused (program : Program) (failure : ScriptError) : Outcome :=
  ⟨program, [], [], some failure⟩

def prepare (bindings : List (String × Binding)) (source : String) :
    Except ScriptError (Action Heap Unit) :=
  match parse source with
  | .error _ => .error .malformed
  | .ok script =>
      match resolve (bindings.map Prod.fst) script with
      | .error errors => .error (.unresolved errors)
      | .ok resolved => .ok (evaluate bindings resolved)

def exec (host : Host) (program : Program) (name source : String) : Outcome :=
  match program.registers with
  | none => .refused program .noRegisters
  | some registers =>
      match prepare (host.bindings registers program.mode) source with
      | .error failure => .refused program failure
      | .ok action => .ofTrace (action.run host name program)

end Script

end AsmListing
