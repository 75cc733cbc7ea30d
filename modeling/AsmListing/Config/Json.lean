import AsmListing.Datum
import AsmListing.Decimal.Numeral
import AsmListing.Text.Utf8

/-!
# JSON

All numbers are floats, and one that is too large is refused.  Of several
entries with one key the last one counts.  Bytes that are no UTF-8, and halves
of surrogate pairs, are read as the replacement character.
-/

namespace AsmListing

/-- Puts an entry into a table: in place if the key is there, and at the end
otherwise. -/
def putEntry (key : String) (value : Datum) : List (String × Datum) → List (String × Datum)
  | [] => [(key, value)]
  | (other, held) :: rest =>
      if other == key then (key, value) :: rest else (other, held) :: putEntry key value rest

namespace Json

def skipBlanks (text : List Char) : List Char :=
  text.dropWhile fun character =>
    character == ' ' || character == '\t' || character == '\r' || character == '\n'

def replacement : Char := Char.ofNat 0xfffd

/-- Reads four hexadecimal digits. -/
def takeUnit (text : List Char) : Option (Nat × List Char) :=
  let digits := text.take 4
  if digits.length = 4 then
    (Decimal.numberOf? 16 digits).map fun unit => (unit, text.drop 4)
  else none

/-- The character of the first half of a surrogate pair and what follows it.
A half without the other one is replaced. -/
def pairWith (high : Nat) (rest : List Char) : Char × List Char :=
  match rest with
  | '\\' :: 'u' :: after =>
      match takeUnit after with
      | some (low, after) =>
          if 0xdc00 ≤ low && low < 0xe000 then
            (Char.ofNat (0x10000 + (high - 0xd800) * 1024 + (low - 0xdc00)), after)
          else (replacement, rest)
      | none => (replacement, rest)
  | _ => (replacement, rest)

/-- The character that a letter behind a backslash stands for. -/
def escaped? : Char → Option Char
  | '"' => some '"'
  | '\\' => some '\\'
  | '/' => some '/'
  | 'b' => some '\x08'
  | 'f' => some '\x0c'
  | 'n' => some '\n'
  | 'r' => some '\r'
  | 't' => some '\t'
  | _ => none

/-- Reads a string behind its opening quote.  Every step takes a character, so
the length is fuel enough. -/
def takeString : Nat → List Char → Option (List Char × List Char)
  | 0, _ => none
  | _, [] => none
  | _ + 1, '"' :: rest => some ([], rest)
  | fuel + 1, '\\' :: 'u' :: rest => do
      let (unit, rest) ← takeUnit rest
      let (character, rest) :=
        if 0xd800 ≤ unit && unit < 0xdc00 then pairWith unit rest
        else if 0xdc00 ≤ unit && unit < 0xe000 then (replacement, rest)
        else (Char.ofNat unit, rest)
      let (inside, after) ← takeString fuel rest
      return (character :: inside, after)
  | fuel + 1, '\\' :: letter :: rest => do
      let character ← escaped? letter
      let (inside, after) ← takeString fuel rest
      return (character :: inside, after)
  | fuel + 1, character :: rest =>
      if character.toNat < 32 || character == '\\' then none
      else do
        let (inside, after) ← takeString fuel rest
        return (character :: inside, after)

/-- Reads a string behind its opening quote. -/
def takeText (text : List Char) : Option (String × List Char) :=
  (takeString (text.length + 1) text).map fun (inside, rest) => (String.ofList inside, rest)

/-- Reads a number.  There are no zeros before others, and there are digits on
both sides of a point. -/
def takeNumber (text : List Char) : Option (Datum × List Char) := do
  let (negative, digits) :=
    match text with
    | '-' :: rest => (true, rest)
    | other => (false, other)
  let (numeral, rest) ← Decimal.Numeral.take digits
  if numeral.whole.isEmpty || (numeral.whole.head? == some '0' && 1 < numeral.whole.length) ||
      (numeral.point && numeral.fraction.isEmpty) then none
  else
    let value := numeral.float
    if value.isFinite then return (.float64 (if negative then -value else value), rest)
    else none

/-- Reads a word with a fixed value. -/
def takeWord (word : String) (value : Datum) (text : List Char) :
    Option (Datum × List Char) :=
  if word.toList.isPrefixOf text then some (value, text.drop word.length) else none

mutual

/-- Reads a value.  Every step takes a character, so the length is fuel
enough. -/
def takeValue : Nat → List Char → Option (Datum × List Char)
  | 0, _ => none
  | fuel + 1, text =>
      match skipBlanks text with
      | '\x7b' :: rest =>
          match skipBlanks rest with
          | '\x7d' :: after => some (.table [], after)
          | rest => takeEntries fuel [] rest
      | '[' :: rest =>
          match skipBlanks rest with
          | ']' :: after => some (.list [], after)
          | rest => takeItems fuel [] rest
      | '"' :: rest => (takeText rest).map fun (inside, after) => (.text inside, after)
      | 't' :: rest => takeWord "true" (.bool true) ('t' :: rest)
      | 'f' :: rest => takeWord "false" (.bool false) ('f' :: rest)
      | 'n' :: rest => takeWord "null" .null ('n' :: rest)
      | other => takeNumber other

def takeItems : Nat → List Datum → List Char → Option (Datum × List Char)
  | 0, _, _ => none
  | fuel + 1, items, text => do
      let (item, rest) ← takeValue fuel text
      match skipBlanks rest with
      | ',' :: rest => takeItems fuel (item :: items) rest
      | ']' :: rest => return (.list (item :: items).reverse, rest)
      | _ => none

/-- Reads the entries of a table that has some. -/
def takeEntries : Nat → List (String × Datum) → List Char → Option (Datum × List Char)
  | 0, _, _ => none
  | fuel + 1, entries, text =>
      match skipBlanks text with
      | '"' :: rest => do
          let (key, rest) ← takeText rest
          match skipBlanks rest with
          | ':' :: rest => do
              let (value, rest) ← takeValue fuel rest
              let entries := putEntry key value entries
              match skipBlanks rest with
              | ',' :: rest => takeEntries fuel entries rest
              | '\x7d' :: rest => return (.table entries, rest)
              | _ => none
          | _ => none
      | _ => none

end

/-- Reads a text that holds one value. -/
def read (bytes : List UInt8) : Option Datum :=
  let text := Text.decodeLossy bytes
  match takeValue (text.length + 1) text with
  | some (value, rest) => if (skipBlanks rest).isEmpty then some value else none
  | none => none

end Json

end AsmListing
