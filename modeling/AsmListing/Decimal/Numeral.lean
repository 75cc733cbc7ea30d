/-!
# Numerals

Digits in any base up to 36, and decimal numbers with a point and an exponent.
-/

namespace AsmListing

namespace Decimal

/-- The value of a digit in bases up to 36.  Letters count in either case. -/
def digitValue? (character : Char) : Option Nat :=
  if character.isDigit then some (character.toNat - 48)
  else if character.isLower then some (character.toNat - 87)
  else if character.isUpper then some (character.toNat - 55)
  else none

def isDigitOf (base : Nat) (character : Char) : Bool :=
  match digitValue? character with
  | some value => value < base
  | none => false

def numberOf (base : Nat) (digits : List Char) : Nat :=
  digits.foldl (fun number digit => number * base + (digitValue? digit).getD 0) 0

/-- The number that a text writes in a base, if it has digits of that base
only and at least one. -/
def numberOf? (base : Nat) (digits : List Char) : Option Nat :=
  if digits.isEmpty || !digits.all (isDigitOf base) then none else some (numberOf base digits)

/-- The sign before a number, and what follows it. -/
def splitSign : List Char → Bool × List Char
  | '-' :: rest => (true, rest)
  | '+' :: rest => (false, rest)
  | text => (false, text)

def signed (negative : Bool) (magnitude : Nat) : Int :=
  if negative then -(magnitude : Int) else magnitude

/-- The float of digits, of which the last few stand behind the point, times a
power of ten.  Powers far beyond the range of floats are cut short, which does
not change the result. -/
def floatOf (digits : List Char) (places : Nat) (exponent : Int) : Float :=
  let lowest : Int := -(400 + digits.length)
  let shift := max lowest (min 400 (exponent - places))
  Float.ofScientific (numberOf 10 digits) (shift < 0) shift.natAbs

/-- A decimal number as it is written: the digits before and behind the point,
whether there is a point, and the exponent. -/
structure Numeral where
  whole : List Char
  point : Bool
  fraction : List Char
  exponent? : Option Int
deriving DecidableEq, Repr

namespace Numeral

/-- Reads the exponent of a number.  An exponent mark without digits is no
number. -/
def takeExponent (text : List Char) : Option (Option Int × List Char) :=
  match text with
  | mark :: rest =>
      if mark == 'e' || mark == 'E' then
        let (negative, rest) := splitSign rest
        let digits := rest.takeWhile Char.isDigit
        if digits.isEmpty then none
        else some (some (signed negative (numberOf 10 digits)), rest.drop digits.length)
      else some (none, text)
  | [] => some (none, [])

/-- Reads the longest number at the front of a text, without a sign. -/
def take (text : List Char) : Option (Numeral × List Char) := do
  let whole := text.takeWhile Char.isDigit
  let rest := text.drop whole.length
  let (point, fraction, rest) :=
    match rest with
    | '.' :: after =>
        let fraction := after.takeWhile Char.isDigit
        (true, fraction, after.drop fraction.length)
    | after => (false, [], after)
  if whole.isEmpty && fraction.isEmpty then none
  else
    let (exponent?, rest) ← takeExponent rest
    return (⟨whole, point, fraction, exponent?⟩, rest)

/-- Reads a text that is a number and nothing else. -/
def ofText? (text : List Char) : Option Numeral :=
  match take text with
  | some (numeral, []) => some numeral
  | _ => none

def float (numeral : Numeral) : Float :=
  floatOf (numeral.whole ++ numeral.fraction) numeral.fraction.length
    (numeral.exponent?.getD 0)

end Numeral

end Decimal

end AsmListing
