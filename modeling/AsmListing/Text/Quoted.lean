import AsmListing.Text.Printable
import AsmListing.Text.Utf8

/-!
# Quoted texts

A quoted text stands between double quotes.  Printable characters stand for
themselves, and all others are written as escapes.
-/

namespace AsmListing

namespace Text

/-- The lower-case hexadecimal digits of a number, padded with zeros to at
least the given width. -/
def hexDigits (width number : Nat) : List Char :=
  let digits := Nat.toDigits 16 number
  List.replicate (width - digits.length) '0' ++ digits

def escapeCode (character : Char) : List Char :=
  let code := character.toNat
  if code < 0x20 || code == 0x7f then '\\' :: 'x' :: hexDigits 2 code
  else if code < 0x10000 then '\\' :: 'u' :: hexDigits 4 code
  else '\\' :: 'U' :: hexDigits 8 code

/-- The letter that escapes a control character, if it has one. -/
def escapeLetter? (character : Char) : Option Char :=
  match character.toNat with
  | 7 => some 'a'
  | 8 => some 'b'
  | 9 => some 't'
  | 10 => some 'n'
  | 11 => some 'v'
  | 12 => some 'f'
  | 13 => some 'r'
  | _ => none

/-- A character as it stands in a quoted text.  The test says which
characters stand for themselves. -/
def quoteChar (plain : Char → Bool) (character : Char) : List Char :=
  if character == '"' || character == '\\' then ['\\', character]
  else if plain character then [character]
  else
    match escapeLetter? character with
    | some letter => ['\\', letter]
    | none => escapeCode character

/-- A text between double quotes, with everything that is not plain
escaped. -/
def quoteWith (plain : Char → Bool) (text : String) : String :=
  String.ofList ('"' :: text.toList.flatMap (quoteChar plain) ++ ['"'])

def quote (text : String) : String :=
  quoteWith isPrintable text

/-- A text between double quotes, in ASCII only. -/
def quoteAscii (text : String) : String :=
  quoteWith (fun character => character.toNat < 0x80 && isPrintable character) text

def quoteSingle (character : Char) : String :=
  let written :=
    if character == '\x27' then ['\\', character]
    else if character == '"' then [character]
    else quoteChar isPrintable character
  String.ofList ('\x27' :: written ++ ['\x27'])

/-- Bytes between double quotes.  Valid characters are written as in a quoted
text, and all other bytes by their numbers. -/
def quoteBytes (bytes : List UInt8) : String :=
  let written := (decodeBytes bytes).flatMap fun step =>
    match step with
    | .ok character => quoteChar isPrintable character
    | .error byte => '\\' :: 'x' :: hexDigits 2 byte.toNat
  String.ofList ('"' :: written ++ ['"'])

end Text

end AsmListing
