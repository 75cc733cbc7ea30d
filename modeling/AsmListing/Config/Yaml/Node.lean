import AsmListing.Config.Yaml.Token

/-!
# Nodes of YAML

The first document of a text is a tree of scalars, sequences and mappings.  A
node can be given a name, and used again by that name further on.
-/

namespace AsmListing

namespace Yaml

/-- A node.  The tag of a scalar is empty if none is given. -/
inductive Node where
  | scalar (tag text : String) (plain : Bool)
  | sequence (items : List Node)
  | mapping (entries : List (Node × Node))
  | reference (name : String) (target : Node)
deriving Inhabited

/-- The scalar that stands where nothing is written. -/
def Node.empty : Node := .scalar "" "" true

/-- What is known while nodes are read: the tokens that are left, the named
nodes, and the meanings of tag handles. -/
structure Reading where
  tokens : List Token
  names : List (String × Node)
  meanings : List (String × String)

namespace Reading

def peek (reading : Reading) : Option Token :=
  match reading.tokens with
  | [] | .broken :: _ => none
  | token :: _ => some token

/-- Moves behind the next token. -/
def skip (reading : Reading) : Reading :=
  { reading with tokens := reading.tokens.tail }

/-- The full name of a tag. -/
def tagName? (reading : Reading) (handle suffix : String) : Option String :=
  if handle.isEmpty then some suffix
  else (reading.meanings.lookup handle).map fun meaning => meaning ++ suffix

/-- The properties of a node: its name and its tag. -/
structure Properties where
  anchor? : Option String
  tag? : Option String

/-- Reads the properties of a node, in either order. -/
def takeProperties (reading : Reading) : Option (Properties × Reading) := do
  let anchor (reading : Reading) : Option (Option String × Reading) := do
    match ← reading.peek with
    | .anchor name => some (some name, reading.skip)
    | _ => some (none, reading)
  let tag (reading : Reading) : Option (Option String × Reading) := do
    match ← reading.peek with
    | .tag handle suffix => do
        let name ← reading.tagName? handle suffix
        some (some name, reading.skip)
    | _ => some (none, reading)
  match ← reading.peek with
  | .anchor _ => do
      let (anchor?, reading) ← anchor reading
      let (tag?, reading) ← tag reading
      return (⟨anchor?, tag?⟩, reading)
  | .tag _ _ => do
      let (tag?, reading) ← tag reading
      let (anchor?, reading) ← anchor reading
      return (⟨anchor?, tag?⟩, reading)
  | _ => return (⟨none, none⟩, reading)

def remember (reading : Reading) (properties : Properties) (node : Node) : Reading :=
  match properties.anchor? with
  | some name => { reading with names := (name, node) :: reading.names }
  | none => reading

def nextIs (reading : Reading) (tokens : List Token) : Option Bool :=
  reading.peek.map tokens.contains

mutual

/-- Reads a node.  Blocks and sequences that are not indented are allowed only
in some places.  Every step takes a token, so their number is fuel enough. -/
def takeNode : Nat → Bool → Bool → Reading → Option (Node × Reading)
  | 0, _, _, _ => none
  | fuel + 1, block, indentless, reading => do
      match ← reading.peek with
      | .reference name => do
          let target ← reading.names.lookup name
          return (.reference name target, reading.skip)
      | _ => do
          let (properties, reading) ← reading.takeProperties
          let finish (result : Option (Node × Reading)) : Option (Node × Reading) :=
            result.map fun (node, reading) => (node, reading.remember properties node)
          let tag := properties.tag?.getD ""
          match ← reading.peek with
          | .scalar text plain => finish (some (.scalar tag text plain, reading.skip))
          | .flowSequenceStart => finish (takeFlowItems fuel true [] reading.skip)
          | .flowMappingStart => finish (takeFlowEntries fuel true [] reading.skip)
          | token =>
              if indentless && token = .entry then
                finish (takeLooseItems fuel [] reading)
              else if block && token = .sequenceStart then
                finish (takeItems fuel [] reading.skip)
              else if block && token = .mappingStart then
                finish (takeEntries fuel [] reading.skip)
              else if properties.anchor?.isSome || properties.tag?.isSome then
                finish (some (.scalar tag "" true, reading))
              else none

/-- Reads a node, unless one of some tokens comes next. -/
def takeOptional : Nat → Bool → Bool → List Token → Reading → Option (Node × Reading)
  | 0, _, _, _, _ => none
  | fuel + 1, block, indentless, stops, reading => do
      if ← reading.nextIs stops then return (.empty, reading)
      else takeNode fuel block indentless reading

def takeItems : Nat → List Node → Reading → Option (Node × Reading)
  | 0, _, _ => none
  | fuel + 1, items, reading => do
      match ← reading.peek with
      | .entry => do
          let (item, reading) ←
            takeOptional fuel true false [.entry, .blockEnd] reading.skip
          takeItems fuel (item :: items) reading
      | .blockEnd => return (.sequence items.reverse, reading.skip)
      | _ => none

/-- Reads the items of a sequence that is not indented. -/
def takeLooseItems : Nat → List Node → Reading → Option (Node × Reading)
  | 0, _, _ => none
  | fuel + 1, items, reading => do
      match ← reading.peek with
      | .entry => do
          let (item, reading) ←
            takeOptional fuel true false [.entry, .key, .value, .blockEnd] reading.skip
          takeLooseItems fuel (item :: items) reading
      | _ => return (.sequence items.reverse, reading)

def takeEntries : Nat → List (Node × Node) → Reading → Option (Node × Reading)
  | 0, _, _ => none
  | fuel + 1, entries, reading => do
      match ← reading.peek with
      | .key => do
          let stops : List Token := [.key, .value, .blockEnd]
          let (key, reading) ← takeOptional fuel true true stops reading.skip
          let (value, reading) ←
            match ← reading.peek with
            | .value => takeOptional fuel true true stops reading.skip
            | _ => some (.empty, reading)
          takeEntries fuel ((key, value) :: entries) reading
      | .blockEnd => return (.mapping entries.reverse, reading.skip)
      | _ => none

/-- Reads the items of a sequence between brackets. -/
def takeFlowItems : Nat → Bool → List Node → Reading → Option (Node × Reading)
  | 0, _, _, _ => none
  | fuel + 1, first, items, reading => do
      let finish (reading : Reading) : Option (Node × Reading) :=
        some (.sequence items.reverse, reading.skip)
      if (← reading.peek) = .flowSequenceEnd then finish reading
      else
        let reading ←
          if first then some reading
          else if (← reading.peek) = .flowEntry then some reading.skip
          else none
        match ← reading.peek with
        | .flowSequenceEnd => finish reading
        | .key => do
            let (pair, reading) ← takePair fuel reading.skip
            takeFlowItems fuel false (pair :: items) reading
        | _ => do
            let (item, reading) ← takeNode fuel false false reading
            takeFlowItems fuel false (item :: items) reading

/-- Reads a mapping of one entry that is an item between brackets. -/
def takePair : Nat → Reading → Option (Node × Reading)
  | 0, _ => none
  | fuel + 1, reading => do
      let (key, reading) ←
        if ← reading.nextIs [.value, .flowEntry, .flowSequenceEnd] then
          some (Node.empty, reading.skip)
        else takeNode fuel false false reading
      let (value, reading) ←
        match ← reading.peek with
        | .value => takeOptional fuel false false [.flowEntry, .flowSequenceEnd] reading.skip
        | _ => some (Node.empty, reading)
      return (.mapping [(key, value)], reading)

/-- Reads the entries of a mapping between braces. -/
def takeFlowEntries : Nat → Bool → List (Node × Node) → Reading → Option (Node × Reading)
  | 0, _, _, _ => none
  | fuel + 1, first, entries, reading => do
      let finish (reading : Reading) : Option (Node × Reading) :=
        some (.mapping entries.reverse, reading.skip)
      if (← reading.peek) = .flowMappingEnd then finish reading
      else
        let reading ←
          if first then some reading
          else if (← reading.peek) = .flowEntry then some reading.skip
          else none
        match ← reading.peek with
        | .flowMappingEnd => finish reading
        | .key => do
            let (key, reading) ←
              takeOptional fuel false false [.value, .flowEntry, .flowMappingEnd] reading.skip
            let (value, reading) ←
              match ← reading.peek with
              | .value => takeOptional fuel false false [.flowEntry, .flowMappingEnd] reading.skip
              | _ => some (Node.empty, reading)
            takeFlowEntries fuel false ((key, value) :: entries) reading
        | _ => do
            let (key, reading) ← takeNode fuel false false reading
            takeFlowEntries fuel false ((key, .empty) :: entries) reading

end

/-- The meanings that tag handles have without a directive. -/
def standardMeanings : List (String × String) :=
  [("!", "!"), ("!!", "tag:yaml.org,2002:")]

/-- Reads the directives before a document.  There is at most one version, and
it is a known one. -/
def takeDirectives : Nat → Bool → Reading → Option Reading
  | 0, _, _ => none
  | fuel + 1, seen, reading => do
      match ← reading.peek with
      | .version text =>
          if seen || text != "1.1" then none else takeDirectives fuel true reading.skip
      | .tagMeaning handle meaning =>
          takeDirectives fuel seen
            { reading.skip with meanings := (handle, meaning) :: reading.meanings }
      | .documentStart => return reading.skip
      | _ => none

/-- The tokens that end an empty document. -/
def documentStops : Token → Bool
  | .version _ | .tagMeaning _ _ | .documentStart | .documentEnd | .streamEnd => true
  | _ => false

/-- Reads the first document.  A text without any has none. -/
def takeDocument (reading : Reading) : Option (Option Node) := do
  let fuel := 2 * reading.tokens.length + 2
  let node (reading : Reading) : Option (Option Node) := do
    let (node, reading) ← takeNode fuel true false reading
    let _ ← reading.peek
    return some node
  match ← reading.peek with
  | .streamEnd => return none
  | .version _ | .tagMeaning _ _ | .documentStart => do
      let reading ← takeDirectives fuel false reading
      if documentStops (← reading.peek) then return some .empty else node reading
  | _ => node reading

end Reading

def document (text : List Char) : Option (Option Node) :=
  Reading.takeDocument ⟨tokens text, [], Reading.standardMeanings⟩

end Yaml

end AsmListing
