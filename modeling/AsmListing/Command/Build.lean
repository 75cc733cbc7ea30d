import AsmListing.Command.Task
import AsmListing.Config.Environment

/-!
# Building listings

A script is run, and the listing of its program is written to a file or
printed.  Flags win over the environment, and the environment over the
configuration file.  Nothing is written before the whole listing is known.
-/

namespace AsmListing

namespace Command

namespace Build

/-- What flags say about a listing. -/
structure Choices where
  config : String
  mode? : Option String
  output? : Option String
  indent? : Option String
  verbose? : Option Bool
  noComments : Bool
deriving DecidableEq, Repr

/-- The choices that a command line makes. -/
def Choices.ofWords (words : Words) : Choices where
  config := (words.text? "config").getD ""
  mode? := words.text? "mode"
  output? := words.text? "output"
  indent? := words.text? "indent"
  verbose? := words.switch? "verbose"
  noComments := (words.switch? "no-comments").getD false

def Choices.override (choices : Choices) : Attempt Options OptionsError Unit := do
  choices.mode?.forM Options.setMode
  choices.output?.forM fun text => modify fun options => { options with output := text }
  choices.indent?.forM fun text => modify fun options => { options with indent := text }
  choices.verbose?.forM fun verbose => modify fun options => { options with verbose := verbose }
  if choices.noComments then modify fun options => { options with comments := false }

/-- The options that a configuration, an environment and choices result in. -/
def resolve (loaded : Except LoadError Options) (environment : Environment)
    (choices : Choices) : Except CommandError Options :=
  match loaded with
  | .error failure => .error (.load failure)
  | .ok options =>
      match environment.override.settle options with
      | .error failure => .error (.options failure)
      | .ok options =>
          match choices.override.settle options with
          | .error failure => .error (.options failure)
          | .ok options => .ok options

/-- The options in a configuration file, given what reading it resulted in. -/
def loadedFrom (name : String) (read : Except PathError (List UInt8)) :
    Except LoadError Options :=
  match Config.load name read with
  | (options, none) => .ok options
  | (_, some failure) => .error failure

def isFile (output : String) : Bool :=
  output != "" && output != "-"

/-- The name of the listing of a script: that of the output file, or else that
of the script with another ending. -/
def listingName (filename output : String) : String :=
  if isFile output then output
  else
    let ending := ".star".toList.reverse
    let backward := filename.toList.reverse
    let stem :=
      if ending.isPrefixOf backward then (backward.drop ending.length).reverse
      else filename.toList
    String.ofList stem ++ ".asm"

/-- Writes a text to where options say. -/
def deliver (options : Options) (text : String) : Task :=
  if isFile options.output then
    .create options.output text fun failure? => .finish (failure?.map CommandError.path)
  else .say text

def emptyProgram (filename : String) (options : Options) : Program :=
  { Program.new 0 (listingName filename options.output) options.mode with
    indent := options.indent
    verbose := options.verbose }

/-- Writes the listing of a program that a script has made. -/
def conclude (options : Options) (program : Program) : Task :=
  let program := if options.comments then program else program.setComments false
  .rendering program (deliver options)

/-- Runs the text of a script and writes its listing. -/
def ofSource (filename : String) (options : Options) (source : String) : Task :=
  let outcome := Script.exec ⟨.standard, options.verbose⟩ (emptyProgram filename options)
    filename source
  .log outcome.log <|
    match outcome.error? with
    | some failure => .fail (.script failure)
    | none => conclude options outcome.program

/-- Reads a script, runs it and writes its listing.  The script is not read if
there are no registers for it. -/
def ofScript (filename : String) (options : Options) : Task :=
  if (emptyProgram filename options).registers.isNone then .fail (.script .noRegisters)
  else
    .read filename fun read =>
      match read with
      | .error failure => .fail (.path failure)
      | .ok bytes => ofSource filename options (String.ofList (Text.decodeLossy bytes))

/-- Goes on with the options that a configuration results in. -/
def configured (filename : String) (environment : Environment) (choices : Choices)
    (loaded : Except LoadError Options) : Task :=
  match resolve loaded environment choices with
  | .error failure => .fail failure
  | .ok options => ofScript filename options

def task (filename : String) (environment : Environment) (choices : Choices) : Task :=
  if choices.config.isEmpty then configured filename environment choices (.ok .default)
  else
    .read choices.config fun read =>
      configured filename environment choices (loadedFrom choices.config read)

end Build

end Command

end AsmListing
