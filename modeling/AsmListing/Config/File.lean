import AsmListing.Config.Format
import AsmListing.Config.Json
import AsmListing.Config.Options
import AsmListing.Config.Toml.Table
import AsmListing.Config.Yaml.Value
import AsmListing.FileTree

/-!
# Configuration files

A configuration is a table with texts as keys.  A file that is missing is an
empty configuration, and a file with anything but a table in it is an error.
-/

namespace AsmListing

abbrev Config := List (String × Datum)

inductive ConfigError where
  | malformed
  | notMapping
  | unknownFormat
deriving DecidableEq, Repr

def ConfigError.message : ConfigError → String
  | .malformed => "malformed configuration"
  | .notMapping => "configuration is not a mapping"
  | .unknownFormat => "configuration type invalid"

inductive LoadError where
  | path (failure : PathError)
  | contents (name : String) (format : ConfigFormat) (cause : ConfigError)
  | options (failure : OptionsError)
deriving DecidableEq, Repr

/-- The wording of why a configuration file gives no options. -/
def LoadError.message : LoadError → String
  | .path failure => failure.message
  | .contents name format cause => name ++ " (" ++ format.text ++ ") " ++ cause.message
  | .options failure => failure.message

namespace Config

/-- Reads a text in a format. -/
def datum (format : ConfigFormat) (bytes : List UInt8) : Except ConfigError Datum :=
  let read? : Except ConfigError (Option Datum) :=
    if format = .json then .ok (Json.read bytes)
    else if format = .yaml then .ok (Yaml.read bytes)
    else if format = .toml then .ok (Toml.read bytes)
    else .error .unknownFormat
  match read? with
  | .error failure => .error failure
  | .ok none => .error .malformed
  | .ok (some datum) => .ok datum

/-- Reads the configuration in a text. -/
def parse (format : ConfigFormat) (bytes : List UInt8) : Except ConfigError Config :=
  match datum format bytes with
  | .error failure => .error failure
  | .ok (.table entries) => .ok entries
  | .ok _ => .error .notMapping

/-- The configuration in a file, given what reading the file resulted in. -/
def ofFile (name : String) (format : ConfigFormat) (read : Except PathError (List UInt8)) :
    Except LoadError Config :=
  match read with
  | .error failure => if failure.cause = .missing then .ok [] else .error (.path failure)
  | .ok bytes =>
      match parse format bytes with
      | .ok config => .ok config
      | .error cause => .error (.contents name format cause)

/-- The options in a file whose name tells the format, given what reading the
file resulted in.  There are none at all if the file has no configuration. -/
def load (name : String) (read : Except PathError (List UInt8)) :
    Options × Option LoadError :=
  match ofFile name (.ofFilename name) read with
  | .error failure => (.blank, some failure)
  | .ok config =>
      let (options, failure?) := Options.decode config
      (options, failure?.map LoadError.options)

end Config

end AsmListing
