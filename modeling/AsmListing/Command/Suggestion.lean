import AsmListing.Text.Case

/-!
# Suggestions

A name that is not known may be a misspelling of one that is, or the start of
one.  The distance of two texts is the least number of bytes to insert, remove
or replace.
-/

namespace AsmListing

namespace Command

/-- The distances of a text to all texts that start another one, from the
second of them on.  The distances of the text without its last item are known:
the first of them, and the rest. -/
def distanceRow (item : UInt8) (corner left : Nat) : List UInt8 → List Nat → List Nat
  | other :: text, above :: row =>
      let here := min (min above left + 1) (corner + if other = item then 0 else 1)
      here :: distanceRow item above here text row
  | _, _ => []

/-- The distances of a text with one more item at its end. -/
def nextRow (text : List UInt8) (row : List Nat) (item : UInt8) : List Nat :=
  match row with
  | [] => []
  | corner :: rest => (corner + 1) :: distanceRow item corner (corner + 1) text rest

def distance (left right : List UInt8) : Nat :=
  (left.foldl (nextRow right) (List.range (right.length + 1))).getLast?.getD 0

/-- How far a misspelling can be from what was meant. -/
def nearDistance : Nat := 2

/-- Whether a name may be meant by another one, in any case of letters. -/
def mayMean (name typed : String) : Bool :=
  let name := (Text.lower name).toUTF8.toList
  let typed := (Text.lower typed).toUTF8.toList
  distance typed name ≤ nearDistance || typed.isPrefixOf name

/-- The names that may be meant. -/
def suggestions (names : List String) (typed : String) : List String :=
  names.filter fun name => mayMean name typed

end Command

end AsmListing
