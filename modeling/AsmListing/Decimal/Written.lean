import AsmListing.Decimal.Shortest

/-!
# Written decimals

Decimal digits are written in positional notation or with an exponent.  A
general number is written positionally when its first digit stands between
the fourth place after the point and the sixth place before it.
-/

namespace AsmListing

namespace Decimal

def zeros (count : Nat) : List Char :=
  List.replicate count '0'

def Digits.positional (decimal : Digits) : String :=
  match decimal.exponent with
  | .ofNat exponent =>
      let whole := decimal.digits.take (exponent + 1)
      let padded := whole ++ zeros (exponent + 1 - whole.length)
      let rest := decimal.digits.drop (exponent + 1)
      if rest.isEmpty then String.ofList padded
      else String.ofList (padded ++ '.' :: rest)
  | .negSucc exponent =>
      String.ofList ('0' :: '.' :: zeros exponent ++ decimal.digits)

/-- An exponent with its sign and at least two digits. -/
def exponentText (exponent : Int) : String :=
  let sign := if exponent < 0 then "-" else "+"
  let digits := toString exponent.natAbs
  if digits.length < 2 then sign ++ "0" ++ digits else sign ++ digits

/-- Digits with an exponent: one digit before the point. -/
def Digits.scientific (decimal : Digits) : String :=
  match decimal.digits with
  | [] => "0"
  | [digit] => String.ofList [digit] ++ "e" ++ exponentText decimal.exponent
  | digit :: rest =>
      String.ofList (digit :: '.' :: rest) ++ "e" ++ exponentText decimal.exponent

/-- Digits in general notation: with an exponent if the number is very large
or very small. -/
def Digits.general (decimal : Digits) : String :=
  if decimal.exponent < -4 || 6 ≤ decimal.exponent then decimal.scientific
  else decimal.positional

/-- The text of a float, given how its magnitude is written. -/
def Reading.text (write : Binary → String) : Reading → String
  | .notANumber => "NaN"
  | .infinite negative => if negative then "-Inf" else "+Inf"
  | .finite negative magnitude =>
      if negative then "-" ++ write magnitude else write magnitude

/-- The general text of a float: the shortest digits that read back. -/
def Reading.general (reading : Reading) : String :=
  reading.text fun magnitude => magnitude.shortest.general

/-- The positional text of a float: the shortest digits that read back. -/
def Reading.positional (reading : Reading) : String :=
  reading.text fun magnitude => magnitude.shortest.positional

/-- The text of a magnitude with a fixed number of places after the point. -/
def Binary.fixed (magnitude : Binary) (places : Nat) : String :=
  let digits := Nat.toDigits 10 (magnitude.rounded places)
  let padded := zeros (places + 1 - digits.length) ++ digits
  let whole := padded.take (padded.length - places)
  let rest := padded.drop (padded.length - places)
  if rest.isEmpty then String.ofList whole
  else String.ofList (whole ++ '.' :: rest)

/-- The text of a magnitude with an exponent and a fixed number of places
after the first digit. -/
def Binary.fixedScientific (magnitude : Binary) (places : Nat) : String :=
  let exponent := if magnitude.significand = 0 then 0 else magnitude.ratio.decimalExponent
  let units := magnitude.ratio.times (Ratio.scaled 10 1 (places - exponent))
  let digits := Nat.toDigits 10 units.nearest
  let shifted := if places + 1 < digits.length then exponent + 1 else exponent
  let padded := (digits ++ zeros (places + 1 - digits.length)).take (places + 1)
  let mantissa :=
    match padded with
    | [] => "0"
    | [digit] => String.ofList [digit]
    | digit :: rest => String.ofList (digit :: '.' :: rest)
  mantissa ++ "e" ++ exponentText shifted

end Decimal

end AsmListing
