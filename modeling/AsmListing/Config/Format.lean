import AsmListing.Text.Case

/-!
# Formats of configuration files

A format has a number.  The format of a file follows from the extension of its
name.
-/

namespace AsmListing

/-- The format of a configuration file, by its number. -/
structure ConfigFormat where
  number : Int
deriving DecidableEq, Repr

namespace ConfigFormat

def json : ConfigFormat := ⟨0⟩

def yaml : ConfigFormat := ⟨1⟩

def toml : ConfigFormat := ⟨2⟩

def text (format : ConfigFormat) : String :=
  if format = json then "json"
  else if format = yaml then "yaml"
  else if format = toml then "toml"
  else
    let number := format.number
    s!"Type({number})"

/-- The format of an extension, in any case of letters and with or without a
point before it.  Every unknown extension stands for JSON. -/
def ofExtension (extension : String) : ConfigFormat :=
  let name :=
    match extension.toList with
    | '.' :: rest => String.ofList rest
    | _ => extension
  match Text.lower name with
  | "yaml" | "yml" => yaml
  | "toml" => toml
  | _ => json

/-- The extension of a file name: what follows the last point, with the point,
unless a slash follows it. -/
def extension (filename : String) : String :=
  let reversed := filename.toList.reverse
  let name := reversed.takeWhile (· != '/')
  let ending := name.takeWhile (· != '.')
  if ending.length < name.length then String.ofList ('.' :: ending.reverse) else ""

/-- The format of a file name. -/
def ofFilename (filename : String) : ConfigFormat :=
  ofExtension (extension filename)

end ConfigFormat

end AsmListing
