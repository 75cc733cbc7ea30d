import AsmListing.Command.Flag
import AsmListing.Config.File
import AsmListing.Disassembly
import AsmListing.Script.Run

/-!
# Tasks

A task says what a command does to its surroundings, step by step: it reads
files, logs, prints and creates files.  It can be carried out on a file tree,
which leaves nothing else to depend on.
-/

namespace AsmListing

namespace Command

/-- What is wrong with the words of a command line. -/
inductive LineError where
  | flag (failure : FlagError)
  | notExactly (wanted received : Nat)
  | moreThan (most received : Nat)
  | unknownCommand (name context : String) (suggestions : List String)
deriving DecidableEq, Repr

def LineError.message : LineError → String
  | .flag failure => failure.message
  | .notExactly wanted received => s!"accepts {wanted} arg(s), received {received}"
  | .moreThan most received => s!"accepts at most {most} arg(s), received {received}"
  | .unknownCommand name context suggestions =>
      let hints :=
        if suggestions.isEmpty then ""
        else "\n\nDid you mean this?\n" ++
          String.join (suggestions.map fun suggestion => "\t" ++ suggestion ++ "\n")
      "unknown command " ++ Text.quote name ++ " for " ++ Text.quote context ++ hints

inductive CommandError where
  | line (failure : LineError)
  | load (failure : LoadError)
  | options (failure : OptionsError)
  | path (failure : PathError)
  | script (failure : Script.ScriptError)
  | instruction (failure : InstructionError)
  | disassembly (failure : DisassemblyError)

def CommandError.message : CommandError → String
  | .line failure => failure.message
  | .load failure => failure.message
  | .options failure => failure.message
  | .path failure => failure.message
  | .script failure => failure.message
  | .instruction failure => failure.message
  | .disassembly failure => failure.message

/-- What a command does to its surroundings. -/
inductive Task where
  | finish (failure? : Option CommandError)
  | log (entries : List String) (next : Task)
  | print (text : String) (next : Task)
  | read (name : String) (next : Except PathError (List UInt8) → Task)
  | create (name contents : String) (next : Option PathError → Task)

/-- What a task leaves behind: the files, what was printed and logged, and why
it failed. -/
structure Result where
  tree : FileTree
  printed : String
  log : List String
  failure? : Option CommandError

namespace Task

def fail (failure : CommandError) : Task := finish (some failure)

def say (text : String) : Task := print text (finish none)

/-- The task that logs what rendering a program logs, and goes on with the text
that is written for it. -/
def rendering (program : Program) (next : String → Task) : Task :=
  let (text, entries) := program.written.run []
  log entries <|
    match text with
    | .error failure => fail (.instruction failure)
    | .ok text => next text

def run : Task → FileTree → Result
  | finish failure?, tree => ⟨tree, "", [], failure?⟩
  | log entries next, tree =>
      let result := next.run tree
      { result with log := entries ++ result.log }
  | print text next, tree =>
      let result := next.run tree
      { result with printed := text ++ result.printed }
  | read name next, tree => (next (tree.read name)).run tree
  | create name contents next, tree =>
      match tree.create name contents.toUTF8.toList with
      | .ok changed => (next none).run changed
      | .error failure => (next (some failure)).run tree

end Task

end Command

end AsmListing
