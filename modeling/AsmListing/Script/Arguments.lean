import AsmListing.Script.Spelling
import AsmListing.Text.Quoted

/-!
# Arguments of built-in functions

A built-in function takes its arguments by position only, or by position and
name.  Both ways report the first argument that does not fit.
-/

namespace AsmListing

namespace Script

structure Arguments (Item : Type) where
  positional : List Item
  named : List (String × Item)

/-- What a parameter asks of its argument: a text that says what is wrong
with it, if anything. -/
abbrev Want (Item : Type) := Item → Option String

namespace Arguments

/-- The first argument by position that does not fit. -/
def misfit? {Item : Type} (label : Nat → String) (index : Nat) :
    List (Want Item) → List Item → Option (String × String)
  | want :: wants, item :: items =>
      match want item with
      | some problem => some (label index, problem)
      | none => misfit? label (index + 1) wants items
  | _, _ => none

/-- Takes arguments by position only, at least so many of them. -/
def byPosition {Item : Type} (arguments : Arguments Item) (function : String) (least : Nat)
    (wants : List (Want Item)) : Except String (List Item) :=
  let given := arguments.positional.length
  let most := wants.length
  if !arguments.named.isEmpty then .error (function ++ ": unexpected keyword arguments")
  else if given < least then
    let bound := if least < most then "at least " else ""
    .error s!"{function}: got {given} arguments, want {bound}{least}"
  else if most < given then
    let bound := if least < most then "at most " else ""
    .error s!"{function}: got {given} arguments, want {bound}{most}"
  else
    match misfit? (fun index => toString (index + 1)) 0 wants arguments.positional with
    | some (label, problem) => .error s!"{function}: for parameter {label}: {problem}"
    | none => .ok arguments.positional

/-- A parameter that can be given by name. -/
structure Parameter (Item : Type) where
  name : String
  required : Bool
  want : Want Item

/-- The parameters that a hint can offer: the first half. -/
def offered {Item : Type} (parameters : List (Parameter Item)) : List String :=
  (parameters.take ((parameters.length + 1) / 2)).map Parameter.name

def takeNamed {Item : Type} (function : String) (parameters : List (Parameter Item)) :
    List (String × Item) → List (Option Item) → Except String (List (Option Item))
  | [], taken => .ok taken
  | (name, item) :: rest, taken =>
      let shown := Text.quote name
      match parameters.findIdx? fun parameter => parameter.name == name with
      | none =>
          let hint :=
            match nearest? name (offered parameters) with
            | some near => s!" (did you mean {near}?)"
            | none => ""
          .error s!"{function}: unexpected keyword argument {shown}{hint}"
      | some index =>
          if (taken[index]?.join).isSome then
            .error s!"{function}: got multiple values for keyword argument {shown}"
          else
            match parameters[index]?.bind fun parameter => parameter.want item with
            | some problem => .error s!"{function}: for parameter {shown}: {problem}"
            | none => takeNamed function parameters rest (taken.set index (some item))

def byName {Item : Type} (arguments : Arguments Item) (function : String)
    (parameters : List (Parameter Item)) : Except String (List (Option Item)) :=
  let given := arguments.positional.length
  let most := parameters.length
  if most < given then .error s!"{function}: got {given} arguments, want at most {most}"
  else
    let label (index : Nat) : String := (parameters[index]?.map Parameter.name).getD ""
    match misfit? label 0 (parameters.map Parameter.want) arguments.positional with
    | some (name, problem) => .error s!"{function}: for parameter {name}: {problem}"
    | none => do
        let start :=
          arguments.positional.map some ++ List.replicate (most - given) none
        let taken ← takeNamed function parameters arguments.named start
        match (parameters.zip taken).find? fun entry => entry.1.required && entry.2.isNone with
        | some (parameter, _) =>
            let name := parameter.name
            .error s!"{function}: missing argument for {name}"
        | none => return taken

end Arguments

end Script

end AsmListing
