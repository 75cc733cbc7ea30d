import AsmListing.Text.Template
import Mathlib.Algebra.BigOperators.Group.List.Basic
import Mathlib.Algebra.Ring.Nat
import Mathlib.Data.List.Basic

/-!
# Templates that quote their arguments

A template quotes an argument if it selects it by its number and writes it as
it is.  A template that quotes each of its arguments once, with literal text
between the quotations, is filled with exactly the literal text and the
arguments.  The marks of a directive that cannot be filled, and of arguments
left over, all begin with a percent sign and an exclamation mark.  Such a
template never puts one into its result that was not in an argument.
-/

namespace AsmListing

namespace Text

/-- The number of times that a mark begins in a text. -/
def markCount : List Char → Nat
  | [] => 0
  | [_] => 0
  | first :: second :: rest =>
      (if first = '%' ∧ second = '!' then 1 else 0) + markCount (second :: rest)

theorem markCount_cons {first : Char} (other : first ≠ '%') (rest : List Char) :
    markCount (first :: rest) = markCount rest := by
  cases rest with
  | nil => rfl
  | cons second rest => simp [markCount, other]

/-- A character that neither begins nor ends a mark keeps the marks before it
from those behind it. -/
theorem markCount_append_cons {middle : Char} (noStart : middle ≠ '%') (noEnd : middle ≠ '!')
    (left right : List Char) :
    markCount (left ++ middle :: right) = markCount left + markCount right := by
  induction left with
  | nil => simp [markCount, markCount_cons noStart]
  | cons first rest induction =>
      cases rest with
      | nil => simp [markCount, noEnd, markCount_cons noStart]
      | cons second rest =>
          simp only [List.cons_append, markCount] at induction ⊢
          rw [induction, Nat.add_assoc]

namespace Template

/-! ## Quotations -/

/-- The directive that writes the argument at an index as it is. -/
def quoting (index : Nat) : Directive :=
  ⟨.none, .number (index + 1), .absent, false, .absent, .absent, .absent, 'v'⟩

/-- The index of the argument that a piece selects. -/
def selected? : Piece → Option Nat
  | .directive ⟨_, .number position, _, _, _, _, _, _⟩ => some (position - 1)
  | _ => none

/-- Whether a piece is a quotation of one of so many arguments, or literal text
that has no part in a mark. -/
def plain (count : Nat) : Piece → Bool
  | .literal character => character != '%' && character != '!'
  | .directive directive => (List.range count).any fun index => directive == quoting index
  | .unfinished _ => false

/-- Whether no two directives stand side by side. -/
def separated : List Piece → Bool
  | [] => true
  | .directive _ :: .directive _ :: _ => false
  | _ :: rest => separated rest

/-- The pieces quote each of so many arguments once, with literal text
between the quotations. -/
structure Quotes (count : Nat) (pieces : List Piece) : Prop where
  plain : ∀ piece ∈ pieces, plain count piece = true
  separated : separated pieces = true
  once : (pieces.filterMap selected?).Perm (List.range count)

instance (count : Nat) (pieces : List Piece) : Decidable (Quotes count pieces) :=
  decidable_of_iff
    ((∀ piece ∈ pieces, plain count piece = true) ∧ separated pieces = true ∧
      (pieces.filterMap selected?).Perm (List.range count))
    ⟨fun ⟨plain, separated, once⟩ => ⟨plain, separated, once⟩,
      fun quotes => ⟨quotes.plain, quotes.separated, quotes.once⟩⟩

/-- The characters of an argument, if there is one at the index. -/
def argumentText (texts : List String) (index : Nat) : List Char :=
  (texts[index]?.getD "").toList

/-- The text of a piece: a literal character, or the argument it selects. -/
def pieceText (texts : List String) : Piece → List Char
  | .literal character => [character]
  | piece => ((selected? piece).map (argumentText texts)).getD []

theorem exists_quoting {count : Nat} {directive : Directive}
    (quotes : plain count (.directive directive) = true) :
    ∃ index < count, directive = quoting index := by
  simpa [plain] using quotes

@[simp] theorem selected?_quoting (index : Nat) :
    selected? (.directive (quoting index)) = some index := rfl

@[simp] theorem selected?_literal (character : Char) :
    selected? (.literal character) = none := rfl

@[simp] theorem pieceText_literal (texts : List String) (character : Char) :
    pieceText texts (.literal character) = [character] := rfl

@[simp] theorem pieceText_quoting (texts : List String) (index : Nat) :
    pieceText texts (.directive (quoting index)) = argumentText texts index := rfl

/-! ## Filling -/

section Fill

variable {texts : List String}

theorem select_number {count index : Nat} (inside : index < count) (cursor : Cursor) :
    cursor.select count (.number (index + 1)) =
      { cursor with next := index, reordered := true } := by
  have inRange : index + 1 ≤ count := inside
  simp [Cursor.select, inRange]

theorem select_absent (count : Nat) (cursor : Cursor) : cursor.select count .absent = cursor :=
  rfl

/-- A quotation writes its argument, and takes note that an argument was
selected. -/
theorem fillDirective_quoting (style : TemplateStyle) {index : Nat}
    (inside : index < texts.length) (cursor : Cursor) :
    fillDirective style (texts.map .text) cursor (quoting index) false =
      (argumentText texts index, ⟨index + 1, true, true⟩) := by
  simp only [fillDirective, quoting, List.length_map, select_number inside, select_absent,
    resolveWidth, resolvePrecision]
  simp [inside, argumentText, Argument.fill, Layout.verbatim, Layout.pad, Layout.cut,
    Layout.padding, DirectiveFlags.none]

/-- Plain pieces are filled with literal text and arguments.  Nothing is said
about arguments left over, since one was selected or there are none. -/
theorem fillPieces_eq (style : TemplateStyle) (cursor : Cursor) {pieces : List Piece}
    (allPlain : ∀ piece ∈ pieces, plain texts.length piece = true)
    (silent : cursor.reordered = true ∨ pieces.filterMap selected? ≠ [] ∨ texts = []) :
    fillPieces style (texts.map .text) cursor pieces = pieces.flatMap (pieceText texts) := by
  induction pieces generalizing cursor with
  | nil =>
      rcases silent with reordered | selects | empty
      · simp [fillPieces, reordered]
      · simp at selects
      · simp [fillPieces, empty]
  | cons piece rest induction =>
      have restPlain := fun other member => allPlain other (List.mem_cons_of_mem piece member)
      have piecePlain := allPlain piece List.mem_cons_self
      cases piece with
      | literal character =>
          rw [fillPieces, induction cursor restPlain (by simpa using silent)]
          rfl
      | directive directive =>
          obtain ⟨index, inside, rfl⟩ := exists_quoting piecePlain
          simp only [fillPieces, fillDirective_quoting style inside]
          rw [induction _ restPlain (.inl rfl)]
          rfl
      | unfinished directive => simp [plain] at piecePlain

/-- A template that quotes each argument once. -/
theorem render_eq (style : TemplateStyle) {template : String}
    (quotes : Quotes texts.length (pieces template)) :
    render style template (texts.map .text) =
      String.ofList ((pieces template).flatMap (pieceText texts)) := by
  rw [render, fillPieces_eq style _ quotes.plain]
  by_cases empty : texts = []
  · exact .inr (.inr empty)
  · refine .inr (.inl fun nothing => empty ?_)
    have lengths := quotes.once.length_eq
    rw [nothing, List.length_nil, List.length_range] at lengths
    exact List.eq_nil_of_length_eq_zero lengths.symm

end Fill

/-! ## Marks -/

/-- The marks in quoted arguments are all the marks there are. -/
theorem markCount_flatMap (texts : List String) {count : Nat} {pieces : List Piece}
    (allPlain : ∀ piece ∈ pieces, plain count piece = true)
    (apart : separated pieces = true) :
    markCount (pieces.flatMap (pieceText texts)) =
      ((pieces.filterMap selected?).map fun index =>
        markCount (argumentText texts index)).sum := by
  induction pieces with
  | nil => rfl
  | cons piece rest induction =>
      have restPlain := fun other member => allPlain other (List.mem_cons_of_mem piece member)
      have piecePlain := allPlain piece List.mem_cons_self
      cases piece with
      | literal character =>
          have harmless : character ≠ '%' ∧ character ≠ '!' := by simpa [plain] using piecePlain
          have restApart : separated rest = true := by simpa [separated] using apart
          rw [List.flatMap_cons, pieceText_literal, List.singleton_append,
            markCount_cons harmless.1, induction restPlain restApart]
          rfl
      | directive directive =>
          obtain ⟨index, inside, rfl⟩ := exists_quoting piecePlain
          cases rest with
          | nil => simp
          | cons next rest =>
              cases next with
              | literal character =>
                  have harmless : character ≠ '%' ∧ character ≠ '!' := by
                    simpa [plain] using restPlain (.literal character) List.mem_cons_self
                  have later := induction restPlain (by simpa [separated] using apart)
                  rw [List.flatMap_cons, pieceText_literal, List.singleton_append,
                    markCount_cons harmless.1] at later
                  rw [List.flatMap_cons, List.flatMap_cons, pieceText_quoting,
                    pieceText_literal, List.singleton_append,
                    markCount_append_cons harmless.1 harmless.2, later]
                  rfl
              | directive other => simp [separated] at apart
              | unfinished other =>
                  simpa [plain] using restPlain (.unfinished other) List.mem_cons_self
      | unfinished directive => simp [plain] at piecePlain

/-- A template that quotes each argument once has as many marks in its result
as there are in the arguments. -/
theorem Quotes.markCount_render (style : TemplateStyle) {template : String}
    {texts : List String} (quotes : Quotes texts.length (pieces template)) :
    markCount (render style template (texts.map .text)).toList =
      (texts.map fun text => markCount text.toList).sum := by
  have all : (List.range texts.length).map (fun index => markCount (argumentText texts index)) =
      texts.map fun text => markCount text.toList := by
    apply List.ext_getElem (by simp)
    intro index inRange inTexts
    have inside : index < texts.length := by simpa using inTexts
    simp [argumentText, inside]
  rw [render_eq style quotes, String.toList_ofList,
    markCount_flatMap texts quotes.plain quotes.separated, (quotes.once.map _).sum_eq, all]

end Template

end Text

end AsmListing
