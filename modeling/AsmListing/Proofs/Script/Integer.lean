import AsmListing.Script.Evaluate
import Mathlib.Data.List.Basic

/-!
# Integers of a script

Integers of a script have any size.  The decimal text of an integer is read
back as the same integer, and an integer goes through a word of 64 bits
unchanged if and only if it fits into one.
-/

namespace AsmListing

/-- An integer goes through a word of 64 bits without a change exactly if it
fits into it. -/
theorem fitsInt64_iff (number : Int) :
    fitsInt64 number = true ↔ (Int64.ofInt number).toInt = number := by
  have bounds : fitsInt64 number = true ↔ -2 ^ 63 ≤ number ∧ number < 2 ^ 63 := by
    simp [fitsInt64]
  rw [bounds]
  constructor
  · rintro ⟨least, most⟩
    exact Int64.toInt_ofInt_of_le least most
  · intro kept
    rw [← kept]
    exact ⟨Int64.le_toInt _, Int64.toInt_lt _⟩

namespace Decimal

variable {digits : List Char}

theorem numberOf?_of_isDigit (nonempty : digits ≠ [])
    (decimal : ∀ digit ∈ digits, digit.isDigit = true) :
    numberOf? 10 digits = some (Nat.ofDigitChars 10 digits 0) := by
  have value : ∀ digit ∈ digits, digitValue? digit = some (digit.toNat - '0'.toNat) := by
    intro digit member
    rw [digitValue?, if_pos (decimal digit member)]
    rfl
  have readable : digits.all (isDigitOf 10) = true := by
    refine List.all_eq_true.mpr fun digit member => ?_
    have most : digit.toNat ≤ 57 := (Char.isDigit_iff_toNat.mp (decimal digit member)).2
    simp only [isDigitOf, value digit member]
    exact decide_eq_true (show digit.toNat - 48 < 10 by omega)
  rw [numberOf?, if_neg (by simp [nonempty, readable]), numberOf, Nat.ofDigitChars_eq_foldl]
  refine congrArg some (List.foldl_ext _ _ 0 fun number digit member => ?_)
  rw [value digit member, Nat.mul_comm]
  rfl

theorem isDigit_toDigits (number : Nat) :
    ∀ digit ∈ Nat.toDigits 10 number, digit.isDigit = true :=
  fun _ => Nat.isDigit_of_mem_toDigits (by decide) (by decide)

theorem numberOf?_toDigits (number : Nat) :
    numberOf? 10 (Nat.toDigits 10 number) = some number := by
  rw [numberOf?_of_isDigit Nat.toDigits_ne_nil (isDigit_toDigits number),
    Nat.ofDigitChars_ten_toDigits]

theorem splitSign_of_isDigit (decimal : ∀ digit ∈ digits, digit.isDigit = true) :
    splitSign digits = (false, digits) := by
  unfold splitSign
  split
  · simp at decimal
  · simp at decimal
  · rfl

end Decimal

namespace Script

/-- Only letters mark a base. -/
theorem markedBase?_of_isDigit {digits : List Char}
    (decimal : ∀ digit ∈ digits, digit.isDigit = true) :
    markedBase? digits = none := by
  unfold markedBase?
  split
  · rename_i mark rest
    have isDigit : mark.isDigit = true := decimal mark (by simp)
    have other : ∀ letter : Char, letter.isDigit = false → (mark == letter) = false := by
      intro letter isLetter
      refine beq_eq_false_iff_ne.mpr fun same => ?_
      rw [same, isLetter] at isDigit
      contradiction
    simp [other]
  · rfl

/-- The digits of a number are read as the number, and a sign before them as
the sign of the number. -/
theorem readInteger?_of_splitSign {text : List Char} {negative : Bool} (number : Nat)
    (split : Decimal.splitSign text = (negative, Nat.toDigits 10 number)) :
    readInteger? 10 text = some (Decimal.signed negative number) := by
  have unmarked : markedBase? (Nat.toDigits 10 number) = none :=
    markedBase?_of_isDigit (Decimal.isDigit_toDigits number)
  simp only [readInteger?, split, unmarked]
  exact congrArg (Option.map _) (Decimal.numberOf?_toDigits number)

/-- The text of an integer is read as the integer. -/
theorem readInteger?_toString (number : Int) :
    readInteger? 10 (toString number).toList = some number := by
  cases number with
  | ofNat magnitude =>
      have digits : (toString (Int.ofNat magnitude)).toList = Nat.toDigits 10 magnitude :=
        Nat.toList_repr
      have unsigned : Decimal.splitSign (Nat.toDigits 10 magnitude) = (false, _) :=
        Decimal.splitSign_of_isDigit (Decimal.isDigit_toDigits magnitude)
      rw [digits]
      exact readInteger?_of_splitSign magnitude unsigned
  | negSucc below =>
      have digits : (toString (Int.negSucc below)).toList =
          '-' :: Nat.toDigits 10 (below + 1) := by
        rw [Int.toString_eq_repr, Int.repr, String.toList_append, Nat.toList_repr]
        rfl
      have negative : Decimal.splitSign ('-' :: Nat.toDigits 10 (below + 1)) = (true, _) := rfl
      rw [digits]
      exact readInteger?_of_splitSign (below + 1) negative

theorem integerOf_toString (number : Int) :
    integerOf (.text (toString number)) none = .ok (.integer number) := by
  simp only [integerOf, pure_bind, readInteger?_toString]
  rfl

end Script

end AsmListing
