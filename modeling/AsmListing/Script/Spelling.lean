import AsmListing.Text.Case

/-!
# Near spellings

A name that is not known is compared with the known ones, and the message
about it offers the nearest.
-/

namespace AsmListing

namespace Script

/-- The next row of a table of edit distances, after its first entry.  The
entries above are those from the last column on. -/
def distanceRow {Item : Type} [BEq Item] (item : Item) (before corner : Nat) :
    List Item → List Nat → List Nat
  | other :: others, above :: rest =>
      let replaced := if item == other then corner else corner + 1
      let least := min replaced (min (before + 1) (above + 1))
      least :: distanceRow item least above others rest
  | _, _ => []

/-- The number of insertions, deletions and replacements that lead from one
list to another. -/
def editDistance {Item : Type} [BEq Item] (left right : List Item) : Nat :=
  let start := (List.range right.length).map (· + 1)
  let last := left.zipIdx.foldl
    (fun row (item, index) => distanceRow item (index + 1) index right row) start
  last.getLast?.getD left.length

/-- A name as spellings are compared: without underscores and in lower
case. -/
def foldedSpelling (name : String) : List UInt8 :=
  (Text.lower (String.ofList (name.toList.filter (· != '_')))).toUTF8.toList

/-- The candidate that is nearest to a name, if fewer than half of the letters
differ. -/
def nearest? (name : String) (candidates : List String) : Option String :=
  let folded := foldedSpelling name
  let (_, best) := candidates.foldl
    (fun (bound, best) candidate =>
      let distance := editDistance folded (foldedSpelling candidate)
      if distance < bound then (distance, some candidate) else (bound, best))
    ((folded.length + 1) / 2, none)
  best

end Script

end AsmListing
