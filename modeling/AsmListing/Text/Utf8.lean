/-!
# Characters of byte texts

Bytes are read as UTF-8.  A byte that starts no valid character stands alone
and is read as an invalid one.
-/

namespace AsmListing

namespace Text

/-- The number of bytes that a first byte announces, with the payload of the
first byte. -/
def announced (byte : Nat) : Option (Nat × Nat) :=
  if byte < 0x80 then some (1, byte)
  else if 0xc2 ≤ byte && byte < 0xe0 then some (2, byte % 0x20)
  else if 0xe0 ≤ byte && byte < 0xf0 then some (3, byte % 0x10)
  else if 0xf0 ≤ byte && byte < 0xf5 then some (4, byte % 0x08)
  else none

/-- The code point of a payload followed by continuation bytes. -/
def continued (payload : Nat) : List UInt8 → Option Nat
  | [] => some payload
  | byte :: rest =>
      if byte.toNat / 0x40 = 2 then continued (payload * 0x40 + byte.toNat % 0x40) rest
      else none

/-- The least code point that needs the given number of bytes. -/
def leastCode (count : Nat) : Nat :=
  match count with
  | 1 => 0
  | 2 => 0x80
  | 3 => 0x800
  | _ => 0x10000

/-- The character at the front of bytes, with the number of bytes it takes.
There is none if the first byte starts no valid character. -/
def firstChar? (bytes : List UInt8) : Option (Char × Nat) :=
  match bytes with
  | [] => none
  | byte :: rest =>
      match announced byte.toNat with
      | none => none
      | some (count, payload) =>
          if rest.length < count - 1 then none
          else
            match continued payload (rest.take (count - 1)) with
            | none => none
            | some code =>
                if code < leastCode count || !decide code.isValidChar then none
                else some (Char.ofNat code, count)

/-- Bytes as characters.  Each byte that starts no valid character is
reported as itself.  Every step takes a byte, so the number of bytes is fuel
enough. -/
def decodeSteps : Nat → List UInt8 → List (Except UInt8 Char)
  | 0, _ => []
  | _ + 1, [] => []
  | fuel + 1, byte :: rest =>
      match firstChar? (byte :: rest) with
      | some (character, count) => .ok character :: decodeSteps fuel (rest.drop (count - 1))
      | none => .error byte :: decodeSteps fuel rest

/-- Bytes as characters, with invalid bytes reported. -/
def decodeBytes (bytes : List UInt8) : List (Except UInt8 Char) :=
  decodeSteps bytes.length bytes

/-- The characters of bytes, with the replacement character for every invalid
byte. -/
def decodeLossy (bytes : List UInt8) : List Char :=
  (decodeBytes bytes).map fun step =>
    match step with
    | .ok character => character
    | .error _ => '�'

/-- The characters of bytes that are valid throughout. -/
def decodeValid? (bytes : List UInt8) : Option (List Char) :=
  (decodeBytes bytes).mapM fun step =>
    match step with
    | .ok character => some character
    | .error _ => none

end Text

end AsmListing
