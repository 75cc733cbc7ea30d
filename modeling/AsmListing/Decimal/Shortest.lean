/-!
# Shortest decimal digits of a binary float

A finite positive float is a significand times a power of two.  Its shortest
decimal is the one with the fewest digits among the decimals that round to
it, and the nearest to it among those of that many digits.  Everything is
computed exactly on natural numbers.
-/

namespace AsmListing

namespace Decimal

/-- The magnitude of a finite float: `significand * 2 ^ exponent`.  The flag
says that the next smaller float is only half as far away as the next larger
one. -/
structure Binary where
  significand : Nat
  exponent : Int
  narrowBelow : Bool
deriving DecidableEq, Repr

/-- What the bits of a float say. -/
inductive Reading where
  | finite (negative : Bool) (magnitude : Binary)
  | infinite (negative : Bool)
  | notANumber
deriving DecidableEq, Repr

/-- Reads the bits of a float with the given widths of fraction and exponent
fields. -/
def Reading.ofBits (fractionBits exponentBits bits : Nat) : Reading :=
  let fraction := bits % Nat.pow 2 fractionBits
  let biased := bits / Nat.pow 2 fractionBits % Nat.pow 2 exponentBits
  let negative := bits / Nat.pow 2 (fractionBits + exponentBits) % 2 == 1
  let bias : Int := (Nat.pow 2 (exponentBits - 1) : Int) - 1 + fractionBits
  if biased = Nat.pow 2 exponentBits - 1 then
    if fraction = 0 then .infinite negative else .notANumber
  else if biased = 0 then .finite negative ⟨fraction, 1 - bias, false⟩
  else
    .finite negative
      ⟨fraction + Nat.pow 2 fractionBits, biased - bias, fraction == 0 && 1 < biased⟩

def Reading.ofFloat (value : Float) : Reading :=
  .ofBits 52 11 value.toBits.toNat

def Reading.ofFloat32 (value : Float32) : Reading :=
  .ofBits 23 8 value.toBits.toNat

/-- A positive decimal: its digits, the first of which is not zero, and the
power of ten that the first digit counts. -/
structure Digits where
  digits : List Char
  exponent : Int
deriving DecidableEq, Repr

structure Ratio where
  numerator : Nat
  denominator : Nat
deriving DecidableEq, Repr

namespace Ratio

/-- A natural number times a power of a base, as a fraction. -/
def scaled (base count : Nat) (power : Int) : Ratio :=
  match power with
  | .ofNat power => ⟨count * Nat.pow base power, 1⟩
  | .negSucc power => ⟨count, Nat.pow base (power + 1)⟩

def times (left right : Ratio) : Ratio :=
  ⟨left.numerator * right.numerator, left.denominator * right.denominator⟩

def floor (ratio : Ratio) : Nat :=
  ratio.numerator / ratio.denominator

/-- The nearest whole number to a fraction; a half goes to the even one. -/
def nearest (ratio : Ratio) : Nat :=
  let whole := ratio.numerator / ratio.denominator
  let rest := 2 * (ratio.numerator % ratio.denominator)
  if rest < ratio.denominator then whole
  else if ratio.denominator < rest then whole + 1
  else whole + whole % 2

def less (left right : Ratio) : Bool :=
  left.numerator * right.denominator < right.numerator * left.denominator

/-- The power of ten at or below a positive fraction. -/
def decimalExponent (ratio : Ratio) : Int :=
  if ratio.denominator ≤ ratio.numerator then
    (Nat.toDigits 10 ratio.floor).length - 1
  else
    let places := (Nat.toDigits 10 (ratio.denominator / ratio.numerator)).length
    if ratio.denominator = ratio.numerator * Nat.pow 10 (places - 1) then 1 - (places : Int)
    else -(places : Int)

end Ratio

def Binary.ratio (magnitude : Binary) : Ratio :=
  Ratio.scaled 2 magnitude.significand magnitude.exponent

/-- Whether a fraction rounds to the given magnitude.  The ends of the
interval belong to it exactly if the significand is even. -/
def Binary.attracts (magnitude : Binary) (ratio : Ratio) : Bool :=
  let below := if magnitude.narrowBelow then 1 else 2
  let low := Ratio.scaled 2 (4 * magnitude.significand - below) (magnitude.exponent - 2)
  let high := Ratio.scaled 2 (4 * magnitude.significand + 2) (magnitude.exponent - 2)
  if magnitude.significand % 2 == 0 then !ratio.less low && !high.less ratio
  else low.less ratio && ratio.less high

/-- The digits of a count of units in the given decimal place, without zeros
at the end. -/
def Digits.ofCount (count : Nat) (place : Int) : Digits :=
  let digits := Nat.toDigits 10 count
  ⟨(digits.reverse.dropWhile (· == '0')).reverse, place + digits.length - 1⟩

/-- The decimal of the given number of digits that is nearest to the
magnitude among those that round to it. -/
def Binary.decimalOf? (magnitude : Binary) (exponent : Int) (digits : Nat) : Option Digits :=
  let place := exponent + 1 - digits
  let units := magnitude.ratio.times (Ratio.scaled 10 1 (-place))
  let nearest := units.nearest
  let low := units.floor
  let candidates := [nearest, low, low + 1]
  (candidates.find? fun count =>
    0 < count && magnitude.attracts (Ratio.scaled 10 count place)).map
      fun count => Digits.ofCount count place

/-- The first number of digits at which a decimal rounds to the magnitude. -/
def Binary.search (magnitude : Binary) (exponent : Int) : Nat → Nat → Digits
  | _, 0 => ⟨['0'], 0⟩
  | digits, remaining + 1 =>
      match magnitude.decimalOf? exponent digits with
      | some found => found
      | none => magnitude.search exponent (digits + 1) remaining

/-- The shortest decimal that rounds to a magnitude.  Seventeen digits are
always enough for a 64-bit float. -/
def Binary.shortest (magnitude : Binary) : Digits :=
  if magnitude.significand = 0 then ⟨['0'], 0⟩
  else magnitude.search magnitude.ratio.decimalExponent 1 17

/-- The digits of a magnitude rounded to a number of places after the point,
a half going to the even neighbour, as a count of units in the last place. -/
def Binary.rounded (magnitude : Binary) (places : Nat) : Nat :=
  (magnitude.ratio.times ⟨Nat.pow 10 places, 1⟩).nearest

end Decimal

end AsmListing
