import AsmListing.Attempt
import AsmListing.Program
import AsmListing.Script.Arguments
import AsmListing.Script.Failure

/-!
# The host of a script

A script works on a program through calls of the functions that its host
binds for it.  One function for every kind of instruction, and one for
instructions by name, append an instruction.  Another sets the indent, and
another finds a register.  A call checks its arguments before it changes
anything.
-/

namespace AsmListing

namespace Script

/-- A value of a script as its host sees it.  A value that the host has no
counterpart for is known by the names of its types and its text. -/
inductive HostValue where
  | none
  | bool (value : Bool)
  | text (value : String)
  | integer (value : Int)
  | register (value : Register)
  | other (scriptType hostType text : String)

namespace HostValue

def typeName : HostValue → String
  | none => "NoneType"
  | bool _ => "bool"
  | text _ => "string"
  | integer _ => "int"
  | register _ => "register"
  | other scriptType _ _ => scriptType

/-- The value as an operand.  An integer of more than 64 bits becomes its
decimal text. -/
def datum : HostValue → Datum
  | none => .null
  | bool value => .foreign "starlark.Bool" (if value then "True" else "False")
  | text value => .text value
  | integer value =>
      if fitsInt64 value then .integer .int value else .text (toString value)
  | register value => .register value
  | other _ hostType shown => .foreign hostType shown

def wantAny : Want HostValue := fun _ => Option.none

def wantBool : Want HostValue
  | bool _ => Option.none
  | value => some ("got " ++ value.typeName ++ ", want bool")

def wantText : Want HostValue
  | text _ => Option.none
  | value => some ("got " ++ value.typeName ++ ", want string")

end HostValue

structure Call where
  function : String
  arguments : Arguments HostValue

inductive Reply where
  | nothing
  | register (value : Register)

def Reply.ofRegister? : Option Register → Reply
  | some found => .register found
  | none => .nothing

/-- What the calls of a script work on: a program, and what was logged so
far. -/
structure Work where
  program : Program
  log : List String

inductive Binding where
  | register (value : Register)
  | function (name : String)
  | mode (value : Mode)

/-- A host: the kinds of instructions it knows, and whether it logs every
instruction that is appended. -/
structure Host where
  kinds : KindTable
  verbose : Bool

namespace Host

def emitName : String := "emit"

def indentName : String := "indent"

def findName : String := "reg"

def modeName : String := "MODE"

/-- The functions of a host: those for kinds, and its own. -/
def functions (host : Host) : PushSequence Id (String × Binding) :=
  .ofList ((host.kinds.names ++ [emitName, indentName, findName]).map fun name =>
    (name, .function name))

/-- What a host binds for a script, in order.  Of several bindings of one name
the last one counts. -/
def bindings (host : Host) (registers : RegisterSet) (mode : Mode) :
    List (String × Binding) :=
  Id.run <| PushSequence.take none <| .concat
    [.mapValues (fun register => pure (.register register)) (.ofList registers.entries),
     host.functions,
     .ofList [(modeName, .mode mode)]]

def find? (bindings : List (String × Binding)) (name : String) : Option Binding :=
  bindings.reverse.lookup name

/-- What the named arguments of an instruction say: its comment and whether
it is shown. -/
def remarks (function : String) (named : List (String × HostValue)) :
    Except Failure (HostValue × Bool) :=
  let parameters : List (Arguments.Parameter HostValue) :=
    [⟨"comment", false, HostValue.wantAny⟩, ⟨"enable_comment", false, HostValue.wantBool⟩]
  match Arguments.byName ⟨[], named⟩ function parameters with
  | .error problem => .error (.other problem)
  | .ok [comment?, enabled?] =>
      let enabled :=
        match enabled? with
        | some (.bool value) => value
        | _ => true
      .ok (comment?.getD .none, enabled)
  | .ok _ => .ok (.none, true)

def commentText : HostValue → Except Failure String
  | .none => .ok ""
  | .text value => .ok value
  | _ => .error .commentType

def instruction (host : Host) (function name : String) (operands : List HostValue)
    (named : List (String × HostValue)) : Except Failure Mnemonic := do
  let (comment, enabled) ← remarks function named
  match Mnemonic.named host.kinds name (operands.map HostValue.datum) with
  | .error failure => .error (.operandCount failure)
  | .ok mnemonic =>
      let text ← commentText comment
      return { mnemonic with comment := text, commentEnabled := enabled }

/-- What a verbose host logs about an instruction. -/
def notice (filename : String) (mnemonic : Mnemonic) : String :=
  let name := mnemonic.name
  let operands := Datum.bracketed (mnemonic.operands.map Datum.print)
  s!"{filename}: {name} {operands}"

/-- Enters an instruction into the log, if the host is verbose. -/
def announce (host : Host) (mnemonic : Mnemonic) (work : Work) : Work :=
  if host.verbose then { work with log := work.log ++ [notice work.program.filename mnemonic] }
  else work

/-- Appends the instruction that a call asks for. -/
def insert (host : Host) (function name : String) (operands : List HostValue)
    (named : List (String × HostValue)) : Attempt Work Failure Reply := do
  let mnemonic ← Attempt.ofExcept (host.instruction function name operands named)
  modify (host.announce mnemonic)
  modify fun work => { work with program := work.program.append mnemonic }
  return .nothing

def onlyText (call : Call) : Except Failure String :=
  match call.arguments.byPosition call.function 1 [HostValue.wantText] with
  | .error problem => .error (.other problem)
  | .ok [.text text] => .ok text
  | .ok _ => .ok ""

/-- Appends an instruction that is given by name. -/
def emit (host : Host) (call : Call) : Attempt Work Failure Reply :=
  match call.arguments.positional with
  | .text name :: operands =>
      if name.isEmpty then throw .nameMissing
      else host.insert call.function name operands call.arguments.named
  | _ => throw .nameMissing

def setIndent (call : Call) : Attempt Work Failure Reply := do
  let text ← Attempt.ofExcept (onlyText call)
  modify fun work => { work with program := { work.program with indent := text } }
  return .nothing

/-- Finds a register by its name in any case of letters. -/
def findRegister (call : Call) : Attempt Work Failure Reply := do
  let name ← Attempt.ofExcept (onlyText call)
  let work ← get
  return .ofRegister? (work.program.registers.bind fun registers => registers.get? name)

def apply (host : Host) (call : Call) : Attempt Work Failure Reply :=
  if call.function == emitName then host.emit call
  else if call.function == indentName then setIndent call
  else if call.function == findName then findRegister call
  else
    host.insert call.function call.function call.arguments.positional call.arguments.named

/-- Answers a call on a program, with a log of its own.  A failure, too, comes
with the program and the log that it leaves. -/
def answer (host : Host) (program : Program) (call : Call) :
    EStateM.Result Failure Work Reply :=
  (host.apply call).run ⟨program, []⟩

end Host

end Script

end AsmListing
