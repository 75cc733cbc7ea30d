import AsmListing.Config.Toml.Statement

/-!
# Tables of TOML

Statements build one table.  A header opens a table that the following
assignments go into.  Tables that are only passed through on the way to others
are implied, and an implied table can still be opened once.
-/

namespace AsmListing

namespace Toml

/-- The table that is being built: its entries, where assignments go, the keys
of implied tables, and the keys whose latest value is an array. -/
structure Builder where
  root : List (String × Datum)
  context : Key
  implied : List Key
  arrays : List Key

/-- Puts a value under a name: in place if the name is there. -/
def put (name : String) (value : Datum) : List (String × Datum) → List (String × Datum)
  | [] => [(name, value)]
  | (other, held) :: rest =>
      if other == name then (name, value) :: rest else (other, held) :: put name value rest

/-- Changes the table at a key.  A list of tables stands for its last table,
and everything else that is no table is in the way. -/
def changeAt (change : List (String × Datum) → Option (List (String × Datum))) :
    Key → List (String × Datum) → Option (List (String × Datum))
  | [], entries => change entries
  | name :: rest, entries =>
      match entries.lookup name with
      | some (.table inner) =>
          (changeAt change rest inner).map fun changed => put name (.table changed) entries
      | some (.tables items) =>
          match items.getLast? with
          | some last =>
              (changeAt change rest last).map fun changed =>
                put name (.tables (items.dropLast ++ [changed])) entries
          | none => none
      | _ => none

namespace Builder

/-- Nothing built yet. -/
def empty : Builder := ⟨[], [], [], []⟩

def imply (builder : Builder) (key : Key) : Builder :=
  { builder with implied := key :: builder.implied }

def settle (builder : Builder) (key : Key) : Builder :=
  { builder with implied := builder.implied.filter (· != key) }

/-- Notes whether the latest value of a key is an array. -/
def noteArray (builder : Builder) (key : Key) (isArray : Bool) : Builder :=
  let others := builder.arrays.filter (· != key)
  { builder with arrays := if isArray then key :: others else others }

def hasEntry? (builder : Builder) (context : Key) (name : String) : Option Bool :=
  let rec find (entries : List (String × Datum)) : Key → Option Bool
    | [] => some (entries.lookup name).isSome
    | part :: rest =>
        match entries.lookup part with
        | some (.table inner) => find inner rest
        | some (.tables items) => items.getLast?.bind fun last => find last rest
        | _ => none
  find builder.root context

/-- Sets a value in a context.  A value that is there stays if it is an
implied table, is replaced by an array, and is in the way otherwise. -/
def set (builder : Builder) (context : Key) (name : String) (value : Datum) :
    Option Builder := do
  let key := context ++ [name]
  let present ← builder.hasEntry? context name
  let write (builder : Builder) : Option Builder := do
    let root ← changeAt (fun entries => some (put name value entries)) context builder.root
    return { builder with root := root }
  if present then
    if builder.arrays.contains key then write (builder.settle key)
    else if builder.implied.contains key then return builder.settle key
    else none
  else write builder

/-- Makes sure that the tables on the way to a key are there. -/
def passThrough (builder : Builder) (before : Key) : Key → Option Builder
  | [] => some builder
  | name :: rest => do
      let present ← builder.hasEntry? before name
      let key := before ++ [name]
      let builder ←
        if present then some builder
        else do
          let root ← changeAt (fun entries => some (put name (.table []) entries)) before
            builder.root
          some { builder.imply key with root := root }
      let _ ← builder.hasEntry? key ""
      builder.passThrough key rest

/-- Adds one more table to the list of tables under a name. -/
def addElement (name : String) (entries : List (String × Datum)) :
    Option (List (String × Datum)) :=
  match entries.lookup name with
  | none => some (put name (.tables [[]]) entries)
  | some (.tables items) => some (put name (.tables (items ++ [[]])) entries)
  | some _ => none

/-- Opens the table at a key, or one more table in the list of tables
there. -/
def enter (builder : Builder) (key : Key) (isElement : Bool) : Option Builder := do
  let parents := key.dropLast
  let name := key.getLast?.getD ""
  let builder ← builder.passThrough [] parents
  let builder ←
    if isElement then do
      let root ← changeAt (addElement name) parents builder.root
      some { builder with root := root }
    else builder.set parents name (.table [])
  return { builder with context := key }

/-- Opens the tables that the front of a dotted key passes through. -/
def enterAll (builder : Builder) : Key → Option Builder
  | [] => some builder
  | name :: rest => do
      let key := builder.context ++ [name]
      let builder ← (builder.imply key).enter key false
      builder.enterAll rest

mutual

/-- The datum of a value under a name.  Tables on one line are built in place
on the way, so that their keys are checked.  Every step goes into the value,
so its size is fuel enough. -/
def datum : Nat → Builder → String → Bool → Value → Option (Datum × Builder)
  | 0, _, _, _, _ => none
  | _ + 1, builder, _, _, .scalar value => some (value, builder)
  | fuel + 1, builder, name, _, .array items => do
      let builder := builder.noteArray (builder.context ++ [name]) true
      let (data, builder) ← dataOf fuel builder name items
      return (.list data, builder)
  | fuel + 1, builder, name, inArray, .table entries => do
      let outer := builder.context
      let key := outer ++ [name]
      let builder ← (builder.imply key).enter key inArray
      let (fields, builder) ← fieldsOf fuel builder key [] entries
      return (.table fields, { builder with context := outer })

def dataOf : Nat → Builder → String → List Value → Option (List Datum × Builder)
  | 0, _, _, _ => none
  | _ + 1, builder, _, [] => some ([], builder)
  | fuel + 1, builder, name, item :: rest => do
      let (value, builder) ← datum fuel builder name true item
      let (values, builder) ← dataOf fuel builder name rest
      return (value :: values, builder)

/-- The fields of a table on one line. -/
def fieldsOf : Nat → Builder → Key → List (String × Datum) → List (Key × Value) →
    Option (List (String × Datum) × Builder)
  | 0, _, _, _, _ => none
  | _ + 1, builder, _, fields, [] => some (fields, builder)
  | fuel + 1, builder, context, fields, (key, value) :: rest => do
      let (value, builder) ← assignIn fuel { builder with context := context } key value
      let fields ← placeField key value fields
      fieldsOf fuel builder context fields rest

/-- Assigns a value to a key in the current context, and gives the value
back. -/
def assignIn : Nat → Builder → Key → Value → Option (Datum × Builder)
  | 0, _, _, _ => none
  | fuel + 1, builder, key, value => do
      let outer := builder.context
      let name := key.getLast?.getD ""
      let builder ← builder.enterAll key.dropLast
      let (data, builder) ← datum fuel builder name false value
      let builder ← builder.set builder.context name data
      let isArray :=
        match value with
        | .array _ => true
        | _ => false
      let builder := builder.noteArray (builder.context ++ [name]) isArray
      return (data, { builder with context := outer })

/-- Puts a value under a dotted key into fields. -/
def placeField : Key → Datum → List (String × Datum) → Option (List (String × Datum))
  | [], _, fields => some fields
  | [name], value, fields => some (put name value fields)
  | name :: rest, value, fields =>
      match fields.lookup name with
      | none => (placeField rest value []).map fun inner => put name (.table inner) fields
      | some (.table inner) =>
          (placeField rest value inner).map fun inner => put name (.table inner) fields
      | some _ => none

end

def apply (fuel : Nat) (builder : Builder) : Statement → Option Builder
  | .table key => (builder.enter key false).map fun builder => builder.noteArray key false
  | .element key => (builder.enter key true).map fun builder => builder.noteArray key false
  | .assign key value => (assignIn fuel builder key value).map Prod.snd

end Builder

def read (bytes : List UInt8) : Option Datum := do
  let statements ← statements bytes
  let builder ← statements.foldlM (Builder.apply (2 * bytes.length + 4)) Builder.empty
  return .table builder.root

end Toml

end AsmListing
