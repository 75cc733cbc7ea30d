import AsmListing.Config.Options

/-!
# Options from the environment

A variable that is set to a text other than the empty one overrides an option.
-/

namespace AsmListing

structure Environment where
  bindings : List (String × String)

namespace Environment

def modeName : String := "NGPASM_MODE"

def indentName : String := "NGPASM_INDENT"

def commentsName : String := "NGPASM_COMMENTS"

def verboseName : String := "NGPASM_VERBOSE"

/-- The value of a variable that is set. -/
def get? (environment : Environment) (name : String) : Option String :=
  match environment.bindings.lookup name with
  | some value => if value.isEmpty then none else some value
  | none => none

def affirmations : List String :=
  ["1", "t", "T", "true", "True", "TRUE", "y", "Y", "yes", "Yes", "YES", "enable", "Enable",
   "ENABLE", "enabled", "Enabled", "ENABLED", "positive", "Positive", "POSITIVE", "affirmative",
   "Affirmative", "AFFIRMATIVE", "absolutely", "Absolutely", "ABSOLUTELY"]

/-- Whether a text stands for yes. -/
def affirms (text : String) : Bool :=
  affirmations.contains text

/-- Overrides options by the variables that are set, one after another. -/
def override (environment : Environment) : Attempt Options OptionsError Unit := do
  (environment.get? modeName).forM Options.setMode
  (environment.get? indentName).forM fun text =>
    modify fun options => { options with indent := text }
  (environment.get? commentsName).forM fun text =>
    modify fun options => { options with comments := affirms text }
  (environment.get? verboseName).forM fun text =>
    modify fun options => { options with verbose := affirms text }

/-- The options that an environment leaves, and what is wrong with it. -/
def apply (environment : Environment) (options : Options) : Options × Option OptionsError :=
  environment.override.outcome options

end Environment

end AsmListing
