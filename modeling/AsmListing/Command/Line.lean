import AsmListing.Command.Build
import AsmListing.Command.Disassemble
import AsmListing.Command.Suggestion
import AsmListing.Register.Tree

/-!
# Command lines

The first word of a command line that is neither a flag nor the text of one
names a command.  All other words are flags and arguments of that command.
-/

namespace AsmListing

namespace Command

inductive Verb where
  | build
  | disassemble
  | registers
  | modes
  | help
deriving DecidableEq, Repr

def programName : String := "ngpasm"

namespace Verb

def name : Verb → String
  | build => "build"
  | disassemble => "disasm"
  | registers => "regs"
  | modes => "modes"
  | help => "help"

def all : List Verb := [build, disassemble, registers, modes, help]

def ofName? (name : String) : Option Verb :=
  all.find? fun verb => verb.name == name

/-- The names that are suggested in place of an unknown one. -/
def suggested : List String :=
  [build, disassemble, registers, modes].map name

end Verb

def helpFlag : Flag := ⟨"help", some 'h', .switch⟩

def listingFlags : List Flag :=
  [⟨"mode", some 'm', .text⟩, ⟨"indent", some 'i', .text⟩, ⟨"no-comments", none, .switch⟩,
   ⟨"verbose", some 'v', .switch⟩]

def Verb.flags : Verb → List Flag
  | build => helpFlag :: ⟨"config", some 'c', .text⟩ :: ⟨"output", some 'o', .text⟩ :: listingFlags
  | disassemble => helpFlag :: listingFlags
  | registers | modes | help => [helpFlag]

def usage : String :=
  "Usage:\n" ++
  "  ngpasm build [flags] script.star\n" ++
  "  ngpasm disasm [flags] code.bin\n" ++
  "  ngpasm regs [mode]\n" ++
  "  ngpasm modes\n"

def startsWithDash (word : String) : Bool :=
  word.toList.head? == some '-'

/-- Whether a word is a flag whose text would be the next word, as long as it
is not known which flags there are. -/
def takesNext (word : String) : Bool :=
  !word.toList.contains '=' && startsWithDash word &&
    (word.utf8ByteSize == 2 || "--".toList.isPrefixOf word.toList)

/-- The words that are neither flags nor texts of flags. -/
def bareWords : List String → List String
  | [] => []
  | word :: rest =>
      if word == "--" then []
      else if takesNext word then
        match rest with
        | _ :: next :: more => bareWords (next :: more)
        | _ => []
      else if word == "" || startsWithDash word then bareWords rest
      else word :: bareWords rest

/-- The words without the first one that names the command. -/
def withoutName (name : String) : List String → List String
  | [] => []
  | word :: rest =>
      if word == "--" then word :: rest
      else if takesNext word then
        match rest with
        | [] => [word]
        | value :: more => word :: value :: withoutName name more
      else if word == name then rest
      else word :: withoutName name rest

/-- Goes on with the words of a command, unless they ask for help. -/
def withWords (flags : List Flag) (line : List String) (next : Words → Task) : Task :=
  match Words.read flags line with
  | .error failure => .fail (.line (.flag failure))
  | .ok words => if words.switch? "help" = some true then .say usage else next words

def drawRegisters (mode : String) : Task :=
  match RegisterSet.ofText? 0 mode with
  | none => .fail (.options .mode)
  | some set => .say set.drawing

/-- What is said about a mode. -/
def modeLine (mode : Mode) : String :=
  let count := (RegisterSet.ofMode? 0 mode).map RegisterSet.size |>.getD 0
  let name := mode.text
  s!"{name}\t{count} registers\n"

def Verb.task (environment : Environment) (words : Words) : Verb → Task
  | build =>
      match words.arguments with
      | [filename] => Build.task filename environment (.ofWords words)
      | arguments => .fail (.line (.notExactly 1 arguments.length))
  | disassemble =>
      match words.arguments with
      | [filename] => Disassemble.task filename words
      | arguments => .fail (.line (.notExactly 1 arguments.length))
  | registers =>
      match words.arguments with
      | [] => drawRegisters Mode.bits64.text
      | [mode] => drawRegisters mode
      | arguments => .fail (.line (.moreThan 1 arguments.length))
  | modes =>
      match words.arguments with
      | [] => .say (String.join (Mode.all.map modeLine))
      | word :: _ =>
          .fail (.line (.unknownCommand word (programName ++ " " ++ Verb.modes.name) []))
  | help => .say usage

def task (environment : Environment) (line : List String) : Task :=
  match bareWords line with
  | [] => withWords [helpFlag] line fun _ => .say usage
  | name :: _ =>
      match Verb.ofName? name with
      | some verb => withWords verb.flags (withoutName name line) fun words =>
          verb.task environment words
      | none =>
          .fail (.line (.unknownCommand name programName (suggestions Verb.suggested name)))

end Command

end AsmListing
