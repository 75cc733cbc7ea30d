import AsmListing.Text.CaseTable

/-!
# Upper case, lower case and case folding

Case mapping is done character by character with the simple mappings, so the
mapped text always has as many characters as the text it came from.
-/

namespace AsmListing

namespace Text

/-- The run of a table that holds a code point, if there is one. -/
def findRun? (code : Nat) : List CaseRun → Option CaseRun
  | [] => none
  | run :: rest =>
      if code < run.first then none
      else if code ≤ run.last && (code - run.first) % run.stride == 0 then some run
      else findRun? code rest

/-- The character that a table of runs maps a character to.  A character of
no run stays as it is. -/
def mapChar (runs : List CaseRun) (character : Char) : Char :=
  match findRun? character.toNat runs with
  | none => character
  | some run => Char.ofNat (character.toNat + run.offset).toNat

/-- The simple upper-case mapping of a character. -/
def upperChar (character : Char) : Char :=
  mapChar upperRuns character

/-- The simple lower-case mapping of a character. -/
def lowerChar (character : Char) : Char :=
  mapChar lowerRuns character

def upper (text : String) : String :=
  String.ofList (text.toList.map upperChar)

def lower (text : String) : String :=
  String.ofList (text.toList.map lowerChar)

/-- The representative of a character under simple case folding.  The dotted
capital I and the dotless small i fold to no other letter. -/
def foldChar (character : Char) : Char :=
  if character == 'İ' || character == 'ı' then character
  else lowerChar (upperChar character)

/-- Whether two texts are equal up to simple case folding. -/
def sameFold (left right : String) : Bool :=
  left.toList.map foldChar == right.toList.map foldChar

end Text

end AsmListing
