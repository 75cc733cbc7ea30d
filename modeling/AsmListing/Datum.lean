import AsmListing.Decimal.Written
import AsmListing.Mode
import AsmListing.Register.Basic

/-!
# Data

A datum is a value whose type is only known when the program runs: an operand
of an instruction, or an entry of a configuration.  Every datum has a type
name and a printed text, both of which occur in messages.
-/

namespace AsmListing

inductive IntegerType where
  | int
  | int8
  | int16
  | int32
  | int64
  | uint
  | uint8
  | uint16
  | uint32
  | uint64
  | uintptr
deriving DecidableEq, Repr

def IntegerType.name : IntegerType → String
  | .int => "int"
  | .int8 => "int8"
  | .int16 => "int16"
  | .int32 => "int32"
  | .int64 => "int64"
  | .uint => "uint"
  | .uint8 => "uint8"
  | .uint16 => "uint16"
  | .uint32 => "uint32"
  | .uint64 => "uint64"
  | .uintptr => "uintptr"

/-- Whether an integer fits into 64 bits with its sign. -/
def fitsInt64 (value : Int) : Bool :=
  -(Nat.pow 2 63 : Int) ≤ value && value < Nat.pow 2 63

/-- A value of a type that is only known when the program runs.  A foreign
datum is a value of a script that has no counterpart here; it is known by its
type name and its text only. -/
inductive Datum where
  | null
  | bool (value : Bool)
  | text (value : String)
  | integer (type : IntegerType) (value : Int)
  | float32 (value : Float32)
  | float64 (value : Float)
  | mode (value : Mode)
  | register (value : Register)
  | noRegister
  | bytes (value : List UInt8)
  | texts (value : List String)
  | list (items : List Datum)
  | table (entries : List (String × Datum))
  | anyTable (entries : List (Datum × Datum))
  | tables (items : List (List (String × Datum)))
  | foreign (type : String) (text : String)
deriving Inhabited

namespace Datum

def typeName : Datum → String
  | null => "<nil>"
  | bool _ => "bool"
  | text _ => "string"
  | integer type _ => type.name
  | float32 _ => "float32"
  | float64 _ => "float64"
  | mode _ => "register.Mode"
  | register _ => "*register.Register"
  | noRegister => "*register.Register"
  | bytes _ => "[]uint8"
  | texts _ => "[]string"
  | list _ => "[]interface {}"
  | table _ => "map[string]interface {}"
  | anyTable _ => "map[interface {}]interface {}"
  | tables _ => "[]map[string]interface {}"
  | foreign type _ => type

/-- Texts between brackets, with blanks between them. -/
def bracketed (items : List String) : String :=
  "[" ++ " ".intercalate items ++ "]"

/-- Printed entries of a table, sorted by key. -/
def tableText (entries : List (String × String)) : String :=
  let sorted := entries.mergeSort fun left right => decide (left.1 ≤ right.1)
  "map" ++ bracketed (sorted.map fun entry => entry.1 ++ ":" ++ entry.2)

mutual

def print : Datum → String
  | null => "<nil>"
  | bool value => if value then "true" else "false"
  | text value => value
  | integer _ value => toString value
  | float32 value => (Decimal.Reading.ofFloat32 value).general
  | float64 value => (Decimal.Reading.ofFloat value).general
  | mode value => value.text
  | register value => value.name
  | noRegister => "<nil>"
  | bytes value => bracketed (value.map fun byte => toString byte.toNat)
  | texts value => bracketed value
  | list items => bracketed (printAll items)
  | table entries => tableText (printEntries entries)
  | anyTable entries => tableText (printAnyEntries entries)
  | tables items => bracketed (printTables items)
  | foreign _ shown => shown

/-- The printed texts of a list of data. -/
def printAll : List Datum → List String
  | [] => []
  | item :: rest => item.print :: printAll rest

/-- The keys of a table with the printed texts of their values. -/
def printEntries : List (String × Datum) → List (String × String)
  | [] => []
  | (key, value) :: rest => (key, value.print) :: printEntries rest

/-- The printed keys and values of a table whose keys are data. -/
def printAnyEntries : List (Datum × Datum) → List (String × String)
  | [] => []
  | (key, value) :: rest => (key.print, value.print) :: printAnyEntries rest

def printTables : List (List (String × Datum)) → List String
  | [] => []
  | entries :: rest => tableText (printEntries entries) :: printTables rest

end

end Datum

end AsmListing
