import AsmListing.Proofs.Mnemonic
import AsmListing.Proofs.Text.Substitution

/-!
# Comments that show operands as they are

A kind whose template is made of texts and of references to operands words its
comment by putting the operands into their places.  Operands come in as they
are, in any order and any number of times, even if they look like references
themselves.  The standard kinds are all of this sort.
-/

namespace AsmListing

namespace Text.Template

/-- Parts for a number of arguments: no literal text has a percent sign, every
reference has the position of an argument, and there is a reference unless
there are no arguments. -/
structure Plain (count : Nat) (parts : List Part) : Prop where
  literals : ∀ part ∈ parts, part.plain = true
  positions : ∀ position, .reference position ∈ parts → 1 ≤ position ∧ position ≤ count
  used : count = 0 ∨ ∃ position, .reference position ∈ parts

/-- All positions in the parts can be read. -/
def Readable (parts : List Part) : Prop :=
  ∀ position, .reference position ∈ parts → position ≤ largestNumber

def partOf : Piece → Part
  | .directive ⟨_, .number position, _, _, _, _, _, _⟩ => .reference position
  | .literal character => .literal (String.singleton character)
  | _ => .literal ""

/-- The parts of a template, with a part for each literal character. -/
def partsOf (template : String) : List Part :=
  (pieces template).map partOf

def positionsOf (parts : List Part) : List Nat :=
  parts.filterMap fun
    | .reference position => some position
    | .literal _ => none

theorem mem_positionsOf {parts : List Part} {position : Nat} :
    position ∈ positionsOf parts ↔ .reference position ∈ parts := by
  rw [positionsOf, List.mem_filterMap]
  constructor
  · rintro ⟨part, member, same⟩
    cases part with
    | literal text => contradiction
    | reference other => rwa [← Option.some.inj same]
  · intro member
    exact ⟨.reference position, member, rfl⟩

/-- Whether a template is spelled by its parts, and these are plain for a
number of arguments and can be read. -/
def isPlain (count : Nat) (template : String) : Bool :=
  let parts := partsOf template
  let positions := positionsOf parts
  decide (ofParts parts = template) && parts.all Part.plain &&
    positions.all (reaches count) && (count == 0 || !positions.isEmpty)

theorem exists_parts_of_isPlain {count : Nat} {template : String}
    (checked : isPlain count template = true) :
    ∃ parts, ofParts parts = template ∧ Plain count parts ∧ Readable parts := by
  simp only [isPlain, Bool.and_eq_true, Bool.or_eq_true, decide_eq_true_eq, List.all_eq_true,
    beq_iff_eq, Bool.not_eq_true', List.isEmpty_eq_false_iff_exists_mem] at checked
  obtain ⟨⟨⟨spelled, literals⟩, reached⟩, used⟩ := checked
  have follow : ∀ position, .reference position ∈ partsOf template →
      1 ≤ position ∧ position ≤ count ∧ position ≤ largestNumber := fun position member =>
    of_decide_eq_true (reached position (mem_positionsOf.mpr member))
  refine ⟨partsOf template, spelled, ⟨literals, fun position member => ?_, ?_⟩,
    fun position member => (follow position member).2.2⟩
  · exact ⟨(follow position member).1, (follow position member).2.1⟩
  · exact used.imp_right fun ⟨position, member⟩ => ⟨position, mem_positionsOf.mp member⟩

end Text.Template

namespace Kind

open Text (Part)
open Text.Template

variable {parts : List Part} {operands : List String}

/-- The comment of a kind shows its parts. -/
theorem comment_ofParts (plain : Plain operands.length parts) (name : String) :
    comment (.fixed operands.length (ofParts parts)) name operands =
      String.join (parts.map (Part.shown operands)) := by
  refine render_ofParts Text.commentStyle plain.literals (plain.used.imp_left fun none => ?_)
  exact List.eq_nil_of_length_eq_zero none

theorem map_shown_eq (plain : Plain operands.length parts) (readable : Readable parts) :
    parts.map (Part.shown operands) = parts.map (Part.substituted operands) := by
  refine List.map_congr_left fun part member => Part.shown_eq_substituted ?_
  rintro position rfl
  obtain ⟨first, last⟩ := plain.positions position member
  exact decide_eq_true ⟨first, last, readable position member⟩

/-- Whether a kind words its comment by a plain template. -/
def wordsPlainly : Kind → Bool
  | .generic => false
  | .fixed count template => decide (0 ≤ count) && isPlain count.toNat template

theorem standard_wordsPlainly :
    ∀ entry ∈ KindTable.standard.entries, entry.2.wordsPlainly = true := by
  decide +kernel

theorem exists_parts_of_wordsPlainly {kind : Kind} (plainly : kind.wordsPlainly = true) :
    ∃ (count : Nat) (parts : List Part), kind = .fixed count (ofParts parts) ∧
      Plain count parts ∧ Readable parts := by
  cases kind with
  | generic => contradiction
  | fixed count template =>
      obtain ⟨positive, plain⟩ := Bool.and_eq_true_iff.mp plainly
      obtain ⟨parts, rfl, plain, readable⟩ := exists_parts_of_isPlain plain
      refine ⟨count.toNat, parts, ?_, plain, readable⟩
      rw [Int.toNat_of_nonneg (of_decide_eq_true positive)]

/-- A kind with a plain template words its comment by its parts, with every
operand put as it is into the place of each reference to it and nothing added.
The default comment of an instruction is worded in this way whatever its
operands are.  A reference is read up to ten million and nine, and leaves a mark
beyond.  The standard kinds have plain templates. -/
theorem comment_substitutes :
    (∀ parts operands, Plain operands.length parts →
      let kind : Kind := .fixed operands.length (ofParts parts)
      let wording := String.join (parts.map (Part.shown operands))
      (∀ name, kind.comment name operands = wording) ∧
      (∀ mnemonic : Mnemonic, mnemonic.kind = kind →
        mnemonic.operands.map Datum.print = operands → mnemonic.defaultComment = wording) ∧
      (Readable parts → wording = String.join (parts.map (Part.substituted operands)))) ∧
    ∀ entry ∈ KindTable.standard.entries, ∃ (count : Nat) (parts : List Part),
      entry.2 = .fixed count (ofParts parts) ∧ Plain count parts ∧ Readable parts := by
  refine ⟨fun parts operands plain => ⟨comment_ofParts plain, ?_, fun readable => ?_⟩,
    fun entry member => exists_parts_of_wordsPlainly (standard_wordsPlainly entry member)⟩
  · rintro mnemonic kindEq rfl
    rw [Mnemonic.defaultComment_eq, kindEq]
    exact comment_ofParts plain mnemonic.name
  · rw [map_shown_eq plain readable]

/-- Operands that look like a part of a template. -/
theorem comment_substitutes_percent :
    let parts : List Part := [.reference 2, .literal " over ", .reference 1, .reference 2]
    ofParts parts = "%[2]v over %[1]v%[2]v" ∧ Plain 2 parts ∧ Readable parts ∧
      comment (.fixed 2 "%[2]v over %[1]v%[2]v") "mix" ["%[1]v", "100%"] =
        "100% over %[1]v100%" := by
  intro parts
  have spelled : ofParts parts = "%[2]v over %[1]v%[2]v" := by decide +kernel
  have plain : Plain 2 parts := ⟨by decide, by simp [parts], .inr ⟨2, by simp [parts]⟩⟩
  have readable : Readable parts := by simp [Readable, parts, largestNumber]
  have filled := comment_substitutes.1 parts ["%[1]v", "100%"] plain
  refine ⟨spelled, plain, readable, ?_⟩
  rw [← spelled]
  exact ((filled.1 "mix").trans (filled.2.2 readable)).trans (by decide)

end Kind

end AsmListing
