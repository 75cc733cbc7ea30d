import AsmListing.Proofs.Text.Quotation
import Mathlib.Data.List.Basic

/-!
# Templates made of texts and references

A template of literal texts and of references to arguments by their positions
is read back as just these parts.  All references are resolved at once: what a
reference leaves in the result is never read as a part of a template again.

Positions are read up to a limit.  A reference that goes beyond it, or that
has the position of no argument, leaves a mark.
-/

namespace AsmListing

namespace Text

/-- A part of a template: a text that stands for itself, or a reference to an
argument by its position, counted from one. -/
inductive Part where
  | literal (text : String)
  | reference (position : Nat)
deriving DecidableEq, Repr

namespace Template

/-- The largest number that a selection can have. -/
def largestNumber : Nat := 10 * numberLimit + 9

/-- Whether a position is read, and is that of one of so many arguments. -/
def reaches (count position : Nat) : Bool :=
  decide (1 ≤ position ∧ position ≤ count ∧ position ≤ largestNumber)

end Template

namespace Part

def spelling : Part → String
  | literal text => text
  | reference position => "%[" ++ toString position ++ "]v"

/-- Whether a part is spelled as it should be: a literal text has no percent
sign, with which it would go over into a directive. -/
def plain : Part → Bool
  | literal text => decide ('%' ∉ text.toList)
  | reference _ => true

/-- The part with an argument in the place of a reference. -/
def substituted (arguments : List String) : Part → String
  | literal text => text
  | reference position => arguments[position - 1]?.getD ""

/-- What a part leaves in the result.  A reference that leads nowhere leaves a
mark. -/
def shown (arguments : List String) : Part → String
  | literal text => text
  | reference position =>
      if Template.reaches arguments.length position then arguments[position - 1]?.getD ""
      else "%!v(BADINDEX)"

theorem shown_eq_substituted {arguments : List String} {part : Part}
    (reached : ∀ position, part = .reference position →
      Template.reaches arguments.length position = true) :
    part.shown arguments = part.substituted arguments := by
  cases part with
  | literal text => rfl
  | reference position => rw [shown, if_pos (reached position rfl), substituted]

end Part

namespace Template

def ofParts (parts : List Part) : String :=
  String.join (parts.map Part.spelling)

/-! ## Reading numbers -/

section Number

variable {value? : Option Nat}

theorem takeNumber_digit {digit : Nat} (single : digit < 10) :
    takeNumber value? [digit.digitChar] =
      if numberLimit < value?.getD 0 then (none, [])
      else (some (10 * value?.getD 0 + digit), []) := by
  have isDigit : digit.digitChar.isDigit = true := by
    rw [Nat.isDigit_digitChar]
    exact decide_eq_true single
  have worth : digit.digitChar.toNat - '0'.toNat = digit :=
    Nat.toNat_digitChar_sub_48_of_lt_ten single
  rw [takeNumber, if_pos isDigit, worth]
  rfl

/-- Digits that were read as a number are followed by further digits of it. -/
theorem takeNumber_append {digits : List Char} {value : Nat}
    (read : takeNumber value? digits = (some value, [])) (rest : List Char) :
    takeNumber value? (digits ++ rest) = takeNumber (some value) rest := by
  induction digits generalizing value? with
  | nil =>
      simp only [takeNumber, Prod.mk.injEq, and_true] at read
      rw [read, List.nil_append]
  | cons digit digits induction =>
      unfold takeNumber at read
      rw [List.cons_append, takeNumber]
      split at read
      · rename_i isDigit
        rw [if_pos isDigit]
        split at read
        · simp at read
        · rename_i small
          rw [if_neg small]
          exact induction read
      · simp at read

/-- A number that is too large stays so with further digits. -/
theorem takeNumber_append_of_none {digits : List Char} (started : value? ≠ none ∨ digits ≠ [])
    (allDigits : ∀ digit ∈ digits, digit.isDigit = true)
    (read : takeNumber value? digits = (none, [])) (rest : List Char) :
    takeNumber value? (digits ++ rest) = (none, []) := by
  induction digits generalizing value? with
  | nil =>
      simp only [takeNumber, Prod.mk.injEq, and_true] at read
      simp [read] at started
  | cons digit digits induction =>
      have isDigit := allDigits digit List.mem_cons_self
      unfold takeNumber at read
      rw [List.cons_append, takeNumber, if_pos isDigit]
      rw [if_pos isDigit] at read
      split at read
      · rename_i large
        rw [if_pos large]
      · rename_i small
        rw [if_neg small]
        refine induction (.inl (by simp)) (fun other member => ?_) read
        exact allDigits other (List.mem_cons_of_mem digit member)

end Number

/-- A number is read off its decimal digits, if it is not too large. -/
theorem takeNumber_toDigits (number : Nat) :
    takeNumber none (Nat.toDigits 10 number) =
      (if number ≤ largestNumber then some number else none, []) := by
  induction number using Nat.strongRecOn with
  | ind number induction =>
      by_cases single : number < 10
      · have readable : number ≤ largestNumber := by
          unfold largestNumber
          omega
        rw [Nat.toDigits_of_lt_base single, takeNumber_digit single, if_pos readable]
        simp
      · have front := induction (number / 10) (by omega)
        have last : number % 10 < 10 := Nat.mod_lt number (by decide)
        rw [Nat.toDigits_of_base_le (by decide) (by omega)]
        by_cases readable : number / 10 ≤ largestNumber
        · rw [if_pos readable] at front
          rw [takeNumber_append front, takeNumber_digit last, Option.getD_some]
          -- The last digit is read exactly if the digits before it stay within the limit.
          by_cases large : numberLimit < number / 10
          · have beyond : ¬ number ≤ largestNumber := by
              unfold largestNumber
              omega
            rw [if_pos large, if_neg beyond]
          · have within : number ≤ largestNumber := by
              unfold largestNumber
              omega
            rw [if_neg large, if_pos within, Nat.div_add_mod]
        · have beyond : ¬ number ≤ largestNumber := by
            omega
          rw [if_neg readable] at front
          rw [if_neg beyond]
          refine takeNumber_append_of_none (.inr Nat.toDigits_ne_nil) (fun digit member => ?_)
            front _
          exact Nat.isDigit_of_mem_toDigits (by decide) (by decide) member

/-! ## Reading references -/

/-- The selection that the decimal digits of a position are read as. -/
def selectionOf (position : Nat) : Selection :=
  if position ≤ largestNumber then .number position else .unreadable

/-- The directive that a reference is read as. -/
def referring (position : Nat) : Directive :=
  ⟨.none, selectionOf position, .absent, false, .absent, .absent, .absent, 'v'⟩

theorem takeSelection_toDigits (position : Nat) (rest : List Char) :
    takeSelection ('[' :: (Nat.toDigits 10 position ++ ']' :: 'v' :: rest)) =
      (selectionOf position, 'v' :: rest) := by
  have inside : ∀ digit ∈ Nat.toDigits 10 position, (digit != ']') = true := by
    intro digit member
    have isDigit := Nat.isDigit_of_mem_toDigits (by decide) (by decide) member
    rw [bne_iff_ne]
    rintro rfl
    exact absurd isDigit (by decide)
  have long : ¬ (Nat.toDigits 10 position ++ ']' :: 'v' :: rest).length < 2 := by
    simp only [List.length_append, List.length_cons]
    omega
  have taken : (Nat.toDigits 10 position ++ ']' :: 'v' :: rest).takeWhile (· != ']') =
      Nat.toDigits 10 position := by
    rw [List.takeWhile_append_of_pos inside]
    simp
  have dropped : (Nat.toDigits 10 position ++ ']' :: 'v' :: rest).dropWhile (· != ']') =
      ']' :: 'v' :: rest := by
    rw [List.dropWhile_append_of_pos inside]
    simp
  rw [takeSelection, if_neg long]
  simp only [taken, dropped, takeNumber_toDigits]
  unfold selectionOf
  by_cases readable : position ≤ largestNumber
  · simp [readable]
  · simp [readable]

theorem takeDirective_reference (position : Nat) (rest : List Char) :
    takeDirective ('[' :: (Nat.toDigits 10 position ++ ']' :: 'v' :: rest)) =
      (.directive (referring position), rest) := by
  have flagless : takeFlags .none ('[' :: (Nat.toDigits 10 position ++ ']' :: 'v' :: rest)) =
      (.none, '[' :: (Nat.toDigits 10 position ++ ']' :: 'v' :: rest)) := rfl
  have extentless : takeExtent ('v' :: rest) = (.absent, 'v' :: rest) := rfl
  have imprecise : takePrecision ('v' :: rest) = ((false, .absent, .absent), 'v' :: rest) := rfl
  have unselected : takeSelection ('v' :: rest) = (.absent, 'v' :: rest) := rfl
  simp only [takeDirective, flagless, takeSelection_toDigits, extentless, imprecise, unselected,
    Bool.false_eq_true, if_false, ite_self]
  rfl

/-! ## Reading parts -/

def partPieces : Part → List Piece
  | .literal text => text.toList.map .literal
  | .reference position => [.directive (referring position)]

/-- Characters other than the percent sign are pieces of their own. -/
theorem split_literals {characters : List Char} (plain : '%' ∉ characters) {fuel : Nat}
    {rest : List Char} :
    split (characters.length + fuel) (characters ++ rest) =
      characters.map .literal ++ split fuel rest := by
  induction characters with
  | nil => simp
  | cons first characters induction =>
      rw [List.mem_cons, not_or] at plain
      have step : (first :: characters).length + fuel = characters.length + fuel + 1 := by
        rw [List.length_cons]
        omega
      rw [step, List.cons_append, split, induction plain.2, List.map_cons, List.cons_append]
      exact fun same => plain.1 same.symm

/-- A template is read as the parts that spell it.  The length of the text is
fuel enough, since no part takes more pieces than characters. -/
theorem split_ofParts {parts : List Part} (plain : ∀ part ∈ parts, part.plain = true) {fuel : Nat}
    (enough : (ofParts parts).length ≤ fuel) :
    split fuel (ofParts parts).toList = parts.flatMap partPieces := by
  induction parts generalizing fuel with
  | nil => cases fuel <;> rfl
  | cons part rest induction =>
      have restPlain := fun other member => plain other (List.mem_cons_of_mem part member)
      have cut : ofParts (part :: rest) = part.spelling ++ ofParts rest := by
        rw [ofParts, List.map_cons, String.join_cons, ofParts]
      rw [cut, String.length_append] at enough
      rw [cut, String.toList_append, List.flatMap_cons]
      cases part with
      | literal text =>
          have noSign : '%' ∉ text.toList :=
            of_decide_eq_true (plain (.literal text) List.mem_cons_self)
          obtain ⟨spare, rfl⟩ := Nat.exists_eq_add_of_le (Nat.le_of_add_right_le enough)
          have left : (ofParts rest).length ≤ spare := by
            omega
          rw [Part.spelling, ← String.length_toList, split_literals noSign,
            induction restPlain left]
          rfl
      | reference position =>
          have spelled : (Part.reference position).spelling.toList ++ (ofParts rest).toList =
              '%' :: '[' :: (Nat.toDigits 10 position ++ ']' :: 'v' :: (ofParts rest).toList) := by
            simp [Part.spelling, Nat.toList_repr]
          have counted := congrArg List.length spelled
          rw [List.length_append, String.length_toList, String.length_toList, List.length_cons]
            at counted
          obtain ⟨spare, rfl⟩ : ∃ spare, fuel = spare + 1 := ⟨fuel - 1, by omega⟩
          have left : (ofParts rest).length ≤ spare := by
            simp only [List.length_cons, List.length_append, String.length_toList] at counted
            omega
          rw [spelled, split, takeDirective_reference]
          simp only [induction restPlain left]
          rfl

theorem pieces_ofParts {parts : List Part} (plain : ∀ part ∈ parts, part.plain = true) :
    pieces (ofParts parts) = parts.flatMap partPieces :=
  split_ofParts plain (Nat.le_refl _)

/-! ## Filling parts -/

section Fill

variable (arguments : List String)

/-- A reference leaves its argument or a mark, whatever the place in the
argument list. -/
theorem fillDirective_referring (style : TemplateStyle) (position : Nat) (cursor : Cursor) :
    ∃ next : Cursor, next.reordered = true ∧
      fillDirective style (arguments.map .text) cursor (referring position) false =
        (((Part.reference position).shown arguments).toList, next) := by
  by_cases reached : reaches arguments.length position = true
  · obtain ⟨first, last, readable⟩ := of_decide_eq_true reached
    obtain ⟨index, rfl⟩ : ∃ index, position = index + 1 := ⟨position - 1, by omega⟩
    have quoted : referring (index + 1) = quoting index := by
      rw [referring, selectionOf, if_pos readable, quoting]
    refine ⟨⟨index + 1, true, true⟩, rfl, ?_⟩
    rw [quoted, fillDirective_quoting style last, Part.shown, if_pos reached]
    rfl
  · have lost : ∀ cursor : Cursor, cursor.select arguments.length (selectionOf position) =
        { cursor with sound := false, reordered := true } := by
      intro cursor
      unfold selectionOf
      split
      · rename_i readable
        have outside : ¬ (1 ≤ position && position ≤ arguments.length) = true := by
          simpa [reaches, readable] using reached
        rw [Cursor.select, if_neg outside]
      · rfl
    refine ⟨⟨cursor.next, false, true⟩, rfl, ?_⟩
    rw [Part.shown, if_neg reached]
    simp only [fillDirective, referring, List.length_map, lost, select_absent, resolveWidth,
      resolvePrecision]
    rfl

theorem fillPieces_literals (style : TemplateStyle) (cursor : Cursor) (characters : List Char)
    (rest : List Piece) :
    fillPieces style (arguments.map .text) cursor (characters.map .literal ++ rest) =
      characters ++ fillPieces style (arguments.map .text) cursor rest := by
  induction characters with
  | nil => rfl
  | cons first characters induction =>
      rw [List.map_cons, List.cons_append, fillPieces, induction, List.cons_append]

/-- The pieces of parts are filled part by part.  Nothing is said about
arguments left over, since one was referred to or there are none. -/
theorem fillPieces_parts (style : TemplateStyle) (cursor : Cursor) {parts : List Part}
    (silent : cursor.reordered = true ∨ arguments = [] ∨
      ∃ position, .reference position ∈ parts) :
    fillPieces style (arguments.map .text) cursor (parts.flatMap partPieces) =
      parts.flatMap fun part => (part.shown arguments).toList := by
  induction parts generalizing cursor with
  | nil =>
      rcases silent with reordered | empty | ⟨position, member⟩
      · simp [fillPieces, reordered]
      · simp [fillPieces, empty]
      · simp at member
  | cons part rest induction =>
      rw [List.flatMap_cons, List.flatMap_cons]
      cases part with
      | literal text =>
          have still : cursor.reordered = true ∨ arguments = [] ∨
              ∃ position, .reference position ∈ rest := by
            simpa using silent
          rw [partPieces, fillPieces_literals, induction cursor still, Part.shown]
      | reference position =>
          obtain ⟨next, reordered, filled⟩ :=
            fillDirective_referring arguments style position cursor
          rw [partPieces, List.singleton_append, fillPieces, filled]
          simp only [induction next (.inl reordered)]

end Fill

/-- A template of texts and references is filled with the texts and with what
the references leave. -/
theorem render_ofParts (style : TemplateStyle) {parts : List Part}
    (plain : ∀ part ∈ parts, part.plain = true) {arguments : List String}
    (used : arguments = [] ∨ ∃ position, .reference position ∈ parts) :
    render style (ofParts parts) (arguments.map .text) =
      String.join (parts.map (Part.shown arguments)) := by
  rw [render, pieces_ofParts plain, fillPieces_parts arguments style _ (.inr used),
    ← String.toList_inj, String.toList_ofList, String.toList_join, List.flatMap_map]

end Template

end Text

end AsmListing
