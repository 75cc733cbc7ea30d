import AsmListing.Config.Options

/-!
# Flags

The words of a command line are flags and arguments, in any order.  A flag has
a name and maybe a letter.  Letters can be grouped behind one dash, and a word
of two dashes ends the flags.
-/

namespace AsmListing

namespace Command

/-- What a flag takes: a text, or a truth value that may be left out. -/
inductive FlagKind where
  | text
  | switch
deriving DecidableEq, Repr

structure Flag where
  name : String
  letter? : Option Char
  kind : FlagKind
deriving DecidableEq, Repr

/-- What is wrong with a flag.  Letters are given with those that follow in
their word. -/
inductive FlagError where
  | badForm (word : String)
  | unknownName (name : String)
  | unknownLetter (letter : Char) (rest : List Char)
  | nameNeedsArgument (word : String)
  | letterNeedsArgument (letter : Char) (rest : List Char)
  | notTruth (flag : Flag) (value : String)
deriving DecidableEq, Repr

def Flag.title (flag : Flag) : String :=
  match flag.letter? with
  | some letter => "-" ++ String.singleton letter ++ ", --" ++ flag.name
  | none => "--" ++ flag.name

/-- How a message shows a letter: by its first byte. -/
def shownLetter (letter : Char) : String :=
  match (String.singleton letter).toUTF8.toList with
  | byte :: _ => Text.quoteSingle (Char.ofNat byte.toNat)
  | [] => ""

def FlagError.message : FlagError → String
  | .badForm word => "bad flag syntax: " ++ word
  | .unknownName name => "unknown flag: --" ++ name
  | .unknownLetter letter rest =>
      "unknown shorthand flag: " ++ shownLetter letter ++ " in -" ++
        String.ofList (letter :: rest)
  | .nameNeedsArgument word => "flag needs an argument: " ++ word
  | .letterNeedsArgument letter rest =>
      "flag needs an argument: " ++ shownLetter letter ++ " in -" ++
        String.ofList (letter :: rest)
  | .notTruth flag value =>
      "invalid argument " ++ Text.quote value ++ " for " ++ Text.quote flag.title ++
        " flag: " ++ Options.notTruth value

inductive FlagValue where
  | text (value : String)
  | switch (value : Bool)
deriving DecidableEq, Repr

structure Setting where
  name : String
  value : FlagValue
deriving DecidableEq, Repr

def Flag.set (flag : Flag) (value : String) : Except FlagError Setting :=
  match flag.kind with
  | .text => .ok ⟨flag.name, .text value⟩
  | .switch =>
      match Options.truthOfText? value with
      | some truth => .ok ⟨flag.name, .switch truth⟩
      | none => .error (.notTruth flag value)

/-- What one word sets, and the flag that still waits for its text with what
is wrong if none follows. -/
structure WordReading where
  settings : List Setting
  pending? : Option (Flag × FlagError)

def WordReading.ofSetting (result : Except FlagError Setting) : Except FlagError WordReading :=
  result.map fun setting => ⟨[setting], none⟩

/-- Reads a word with the name of a flag, which follows two dashes. -/
def readName (flags : List Flag) (word : String) : Except FlagError WordReading :=
  let body := word.toList.drop 2
  match body with
  | [] | '-' :: _ | '=' :: _ => .error (.badForm word)
  | _ =>
      let name := String.ofList (body.takeWhile (· != '='))
      match flags.find? fun flag => flag.name == name with
      | none => .error (.unknownName name)
      | some flag =>
          match body.dropWhile (· != '='), flag.kind with
          | _ :: value, _ => WordReading.ofSetting (flag.set (String.ofList value))
          | [], .switch => .ok ⟨[⟨flag.name, .switch true⟩], none⟩
          | [], .text => .ok ⟨[], some (flag, .nameNeedsArgument word)⟩

/-- Reads the letters that follow one dash. -/
def readLetters (flags : List Flag) : List Char → Except FlagError WordReading
  | [] => .ok ⟨[], none⟩
  | letter :: rest =>
      match flags.find? fun flag => flag.letter? == some letter with
      | none => .error (.unknownLetter letter rest)
      | some flag =>
          match rest, flag.kind with
          | '=' :: first :: value, _ =>
              WordReading.ofSetting (flag.set (String.ofList (first :: value)))
          | [], .text => .ok ⟨[], some (flag, .letterNeedsArgument letter rest)⟩
          | value, .text => WordReading.ofSetting (flag.set (String.ofList value))
          | more, .switch =>
              (readLetters flags more).map fun reading =>
                { reading with settings := ⟨flag.name, .switch true⟩ :: reading.settings }

/-- What a command line says: the flags that were set, in order, and the
arguments. -/
structure Words where
  settings : List Setting
  arguments : List String

namespace Words

def addArgument (word : String) (words : Words) : Words :=
  { words with arguments := word :: words.arguments }

def addSettings (settings : List Setting) (words : Words) : Words :=
  { words with settings := settings ++ words.settings }

/-- Whether a word is made of flags. -/
def isFlag (word : String) : Bool :=
  match word.toList with
  | '-' :: _ :: _ => true
  | _ => false

def readWord (flags : List Flag) (word : String) : Except FlagError WordReading :=
  match word.toList with
  | '-' :: '-' :: _ => readName flags word
  | _ :: letters => readLetters flags letters
  | [] => .ok ⟨[], none⟩

def read (flags : List Flag) : List String → Except FlagError Words
  | [] => .ok ⟨[], []⟩
  | word :: rest =>
      if word == "--" then .ok ⟨[], rest⟩
      else if !isFlag word then (read flags rest).map (addArgument word)
      else
        match readWord flags word with
        | .error failure => .error failure
        | .ok ⟨settings, none⟩ => (read flags rest).map (addSettings settings)
        | .ok ⟨settings, some (flag, missing)⟩ =>
            match rest with
            | [] => .error missing
            | value :: more =>
                match flag.set value with
                | .error failure => .error failure
                | .ok setting => (read flags more).map (addSettings (settings ++ [setting]))

/-- The last value that a flag was set to. -/
def value? (words : Words) (name : String) : Option FlagValue :=
  (words.settings.reverse.find? fun setting => setting.name == name).map Setting.value

/-- The last text that a flag was set to. -/
def text? (words : Words) (name : String) : Option String :=
  (words.value? name).bind fun value =>
    match value with
    | .text text => some text
    | .switch _ => none

/-- The last truth value that a flag was set to. -/
def switch? (words : Words) (name : String) : Option Bool :=
  (words.value? name).bind fun value =>
    match value with
    | .text _ => none
    | .switch truth => some truth

end Words

end Command

end AsmListing
