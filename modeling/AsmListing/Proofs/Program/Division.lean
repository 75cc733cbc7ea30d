import AsmListing.Proofs.Disassembly.Rendering
import Mathlib.Algebra.BigOperators.Group.List.Basic
import Mathlib.Algebra.Ring.Nat

/-!
# Cutting listings at line ends

A listing has one instruction after the other, with line ends between them.
It can be cut back into its instructions exactly if no text that goes into an
instruction has a line end in it: not the indent, the name, an operand or the
comment.  Nothing keeps such texts out, so the text behind a line end in a
comment reads as an instruction of its own.
-/

namespace AsmListing

namespace Text

/-! ## Line ends in texts -/

/-- The pieces of a text between its line ends. -/
def pieces (text : String) : List String :=
  (text.toList.splitOn '\n').map String.ofList

def lineEnds (text : String) : Nat :=
  text.toList.count '\n'

theorem lineEnds_eq_zero_iff {text : String} : lineEnds text = 0 ↔ '\n' ∉ text.toList :=
  List.count_eq_zero

@[simp] theorem lineEnds_append (first second : String) :
    lineEnds (first ++ second) = lineEnds first + lineEnds second := by
  rw [lineEnds, String.toList_append, List.count_append]
  rfl

/-- Only the texts themselves bring line ends into a list of them that is
written with plain separators. -/
theorem lineEnds_intercalate {separator : String} (plain : lineEnds separator = 0)
    (texts : List String) :
    lineEnds (separator.intercalate texts) = (texts.map lineEnds).sum := by
  induction texts with
  | nil => rfl
  | cons first rest induction =>
      cases rest with
      | nil => simp [String.intercalate_singleton]
      | cons second rest =>
          rw [List.map_cons, List.sum_cons, String.intercalate_cons_cons, lineEnds_append,
            lineEnds_append, plain, induction, Nat.add_zero]

theorem length_splitOn (text : List Char) :
    (text.splitOn '\n').length = text.count '\n' + 1 := by
  induction text with
  | nil => rfl
  | cons first rest induction =>
      rw [List.splitOn_cons_eq_if_modifyHead, List.count_cons]
      by_cases ends : first = '\n'
      · simp [ends, induction]
      · simp [ends, induction]

theorem length_pieces (text : String) : (pieces text).length = lineEnds text + 1 := by
  rw [pieces, List.length_map, length_splitOn]
  rfl

theorem pieces_eq_singleton {text : String} (plain : lineEnds text = 0) :
    pieces text = [text] := by
  rw [pieces, List.splitOn_eq_singleton (lineEnds_eq_zero_iff.mp plain), List.map_singleton,
    String.ofList_toList]

/-- A line end between two texts separates their pieces. -/
theorem pieces_append (first second : String) :
    pieces (first ++ "\n" ++ second) = pieces first ++ pieces second := by
  have split : (first ++ "\n" ++ second).toList = first.toList ++ '\n' :: second.toList := by
    simp
  rw [pieces, split, List.splitOn_append_cons_self, List.map_append]
  rfl

theorem pieces_intercalate {texts : List String} (inhabited : texts ≠ []) :
    pieces ("\n".intercalate texts) = texts.flatMap pieces := by
  induction texts with
  | nil => contradiction
  | cons first rest induction =>
      cases rest with
      | nil => rw [String.intercalate_singleton, List.flatMap_singleton]
      | cons second rest =>
          rw [List.flatMap_cons, String.intercalate_cons_cons, pieces_append,
            induction (by simp)]

theorem length_flatMap_pieces (texts : List String) :
    (texts.flatMap pieces).length = texts.length + (texts.map lineEnds).sum := by
  induction texts with
  | nil => rfl
  | cons first rest induction =>
      rw [List.flatMap_cons, List.length_append, induction, length_pieces, List.length_cons,
        List.map_cons, List.sum_cons]
      omega

/-- Texts are their own pieces exactly if there is no line end in them. -/
theorem flatMap_pieces_eq_iff (texts : List String) :
    texts.flatMap pieces = texts ↔ ∀ text ∈ texts, lineEnds text = 0 := by
  constructor
  · intro same
    -- There are as many pieces as texts, which leaves no room for a line end.
    have count := length_flatMap_pieces texts
    rw [same] at count
    have none : (texts.map lineEnds).sum = 0 := by omega
    simpa [List.sum_eq_zero_iff_forall_eq_nat] using none
  · intro plain
    calc texts.flatMap pieces = texts.flatMap fun text => [text] :=
          List.flatMap_congr fun text member => pieces_eq_singleton (plain text member)
      _ = texts := List.flatMap_singleton' texts

end Text

namespace Mnemonic

/-! ## What goes into a line -/

/-- The texts of the operands, if all of them have one. -/
def writtenOperands (mnemonic : Mnemonic) : List String :=
  (operandTexts 1 mnemonic.operands).toOption.getD []

/-- The comment that an instruction has, whether it is enabled or not. -/
def ownComment (mnemonic : Mnemonic) : String :=
  if mnemonic.comment.isEmpty then mnemonic.kind.comment mnemonic.name mnemonic.writtenOperands
  else mnemonic.comment

/-- The texts that the line of an instruction is put together from. -/
def ingredients (mnemonic : Mnemonic) (indent : String) : List String :=
  [indent, mnemonic.name] ++ mnemonic.writtenOperands ++
    if mnemonic.commentEnabled then [mnemonic.ownComment] else []

/-- The line of an instruction that can be written. -/
def line (mnemonic : Mnemonic) (indent : String) : String :=
  indent ++ code mnemonic.name mnemonic.writtenOperands ++
    mnemonic.remark mnemonic.writtenOperands

theorem Writable.construct_eq {mnemonic : Mnemonic} (writable : mnemonic.Writable)
    (indent : String) : mnemonic.construct indent = .ok (mnemonic.line indent) := by
  obtain ⟨texts, written⟩ := writable
  have operands : mnemonic.writtenOperands = texts := by
    rw [writtenOperands, written]
    rfl
  rw [construct_of_operandTexts written, line, operands]

theorem lineEnds_code (name : String) (operands : List String) :
    Text.lineEnds (code name operands) =
      Text.lineEnds name + (operands.map Text.lineEnds).sum := by
  unfold code
  split
  · rename_i none
    rw [List.isEmpty_iff.mp none]
    rfl
  · rw [Text.lineEnds_append, Text.lineEnds_append, Text.lineEnds_intercalate (by decide)]
    rfl

theorem lineEnds_remark (mnemonic : Mnemonic) :
    Text.lineEnds (mnemonic.remark mnemonic.writtenOperands) =
      if mnemonic.commentEnabled then Text.lineEnds mnemonic.ownComment else 0 := by
  unfold remark
  split
  · rw [Text.lineEnds_append, ownComment]
    exact Nat.zero_add _
  · rfl

/-- The line ends in a line are those of its ingredients. -/
theorem lineEnds_line (mnemonic : Mnemonic) (indent : String) :
    Text.lineEnds (mnemonic.line indent) =
      ((mnemonic.ingredients indent).map Text.lineEnds).sum := by
  rw [line, Text.lineEnds_append, Text.lineEnds_append, lineEnds_code, lineEnds_remark,
    ingredients]
  cases mnemonic.commentEnabled with
  | true => simp only [if_true, List.map_append, List.map_cons, List.map_nil, List.sum_append,
      List.sum_cons, List.sum_nil]; omega
  | false => simp

/-- An instruction with a comment has the line ends of the comment besides
those that it has without. -/
theorem lineEnds_line_enabled (mnemonic : Mnemonic) (indent : String) :
    Text.lineEnds (line { mnemonic with commentEnabled := true } indent) =
      Text.lineEnds (line { mnemonic with commentEnabled := false } indent) +
        Text.lineEnds mnemonic.ownComment := by
  have same : ownComment { mnemonic with commentEnabled := true } = mnemonic.ownComment := rfl
  have operands : writtenOperands { mnemonic with commentEnabled := true } =
      writtenOperands { mnemonic with commentEnabled := false } := rfl
  rw [lineEnds_line, lineEnds_line, ingredients, ingredients, same, operands]
  simp only [if_true, List.map_append, List.sum_append, List.map_cons, List.sum_cons,
    List.map_nil, List.sum_nil]
  rfl

end Mnemonic

namespace Program

/-! ## Switching comments -/

section Switch

variable (program : Program) (enabled : Bool)

/-- Switching the comment of one draft after the other. -/
theorem foldl_edit_switch (positions : List Nat) :
    let after := positions.foldl (fun program position =>
      program.edit position fun mnemonic => { mnemonic with commentEnabled := enabled }) program
    after.indent = program.indent ∧ after.sequence = program.sequence ∧
      ∀ place : Nat, after.drafts[place]? =
        if place ∈ positions then
          (program.drafts[place]?).map fun mnemonic => { mnemonic with commentEnabled := enabled }
        else program.drafts[place]? := by
  induction positions generalizing program with
  | nil => simp
  | cons position rest induction =>
      obtain ⟨indent, sequence, drafts⟩ := induction (program.edit position
        fun mnemonic => { mnemonic with commentEnabled := enabled })
      refine ⟨indent, sequence, fun place => ?_⟩
      rw [List.foldl_cons, drafts, edit, Array.getElem?_modify]
      -- A place that comes again later is switched again, which changes nothing.
      by_cases here : position = place
      · cases program.drafts[place]? <;> simp [here]
      · by_cases later : place ∈ rest
        · simp [here, later]
        · simp [here, later, Ne.symm here]

@[simp] theorem setComments_indent : (program.setComments enabled).indent = program.indent := by
  rw [setComments, ← Array.foldl_toList]
  exact (foldl_edit_switch program enabled program.sequence.toList).1

theorem mnemonics_setComments :
    (program.setComments enabled).mnemonics =
      program.mnemonics.map fun mnemonic => { mnemonic with commentEnabled := enabled } := by
  obtain ⟨_, sequence, drafts⟩ := foldl_edit_switch program enabled program.sequence.toList
  rw [Array.foldl_toList] at sequence drafts
  rw [mnemonics, mnemonics, setComments, sequence, List.map_filterMap]
  refine List.filterMap_congr fun position member => ?_
  rw [drafts, if_pos member]

@[simp] theorem setComments_size : (program.setComments enabled).size = program.size := by
  rw [← length_mnemonics, mnemonics_setComments, List.length_map, length_mnemonics]

end Switch

/-! ## Cutting a listing -/

/-- The listing can be cut into one piece for each instruction, its line. -/
def Divided (program : Program) (listing : String) : Prop :=
  program.mnemonics.map (fun mnemonic => mnemonic.construct program.indent) =
    (Text.pieces listing).map .ok

section Listing

variable {program : Program}

theorem map_construct_eq (writable : ∀ mnemonic ∈ program.mnemonics, mnemonic.Writable) :
    program.mnemonics.map (fun mnemonic => mnemonic.construct program.indent) =
      (program.mnemonics.map fun mnemonic => mnemonic.line program.indent).map .ok := by
  rw [List.map_map]
  exact List.map_congr_left fun mnemonic member =>
    (writable mnemonic member).construct_eq program.indent

theorem listing_eq (writable : ∀ mnemonic ∈ program.mnemonics, mnemonic.Writable) :
    program.listing = .ok ("\n".intercalate
      (program.mnemonics.map fun mnemonic => mnemonic.line program.indent)) := by
  have complete : program.firstFailure? = none := by
    refine List.findIdx?_eq_none_iff.mpr fun mnemonic member => ?_
    rw [Mnemonic.construct_isOk_iff.mpr (writable mnemonic member)]
    rfl
  obtain ⟨texts, written⟩ := exists_written program complete
  have same : texts = program.mnemonics.map fun mnemonic => mnemonic.line program.indent := by
    apply List.map_injective_iff.mpr fun first second => Except.ok.inj
    exact written.constructed.symm.trans (map_construct_eq writable)
  rw [written.listing, same]

/-- The pieces of a listing are the pieces of its lines. -/
theorem pieces_listing {listing : String} (written : program.listing = .ok listing)
    (inhabited : program.size ≠ 0) :
    Text.pieces listing =
      (program.mnemonics.map fun mnemonic => mnemonic.line program.indent).flatMap
        Text.pieces := by
  have writable := (exists_listing_iff program).mp ⟨listing, written⟩
  rw [listing_eq writable, Except.ok.injEq] at written
  rw [← written]
  apply Text.pieces_intercalate
  rw [← length_mnemonics] at inhabited
  simpa using inhabited

theorem length_pieces_listing {listing : String} (written : program.listing = .ok listing)
    (inhabited : program.size ≠ 0) :
    (Text.pieces listing).length = program.size +
      (program.mnemonics.map fun mnemonic =>
        Text.lineEnds (mnemonic.line program.indent)).sum := by
  rw [pieces_listing written inhabited, Text.length_flatMap_pieces, List.length_map,
    length_mnemonics, List.map_map]
  rfl

theorem divided_iff {listing : String} (written : program.listing = .ok listing)
    (inhabited : program.size ≠ 0) :
    program.Divided listing ↔ ∀ mnemonic ∈ program.mnemonics,
      Text.lineEnds (mnemonic.line program.indent) = 0 := by
  have writable := (exists_listing_iff program).mp ⟨listing, written⟩
  rw [Divided, map_construct_eq writable,
    (List.map_injective_iff.mpr fun first second => Except.ok.inj).eq_iff,
    pieces_listing written inhabited, eq_comm, Text.flatMap_pieces_eq_iff]
  simp

end Listing

/-- Comments add as many pieces as they have line ends. -/
theorem length_pieces_setComments {program : Program} {loud quiet : String}
    (enabled : (program.setComments true).listing = .ok loud)
    (disabled : (program.setComments false).listing = .ok quiet)
    (inhabited : program.size ≠ 0) :
    (Text.pieces loud).length = (Text.pieces quiet).length +
      (program.mnemonics.map fun mnemonic => Text.lineEnds mnemonic.ownComment).sum := by
  rw [length_pieces_listing enabled (by simpa using inhabited),
    length_pieces_listing disabled (by simpa using inhabited), setComments_size,
    setComments_size, setComments_indent, setComments_indent, mnemonics_setComments,
    mnemonics_setComments, List.map_map, List.map_map, Nat.add_assoc, ← List.sum_map_add]
  refine congrArg (program.size + ·) (congrArg List.sum ?_)
  exact List.map_congr_left fun mnemonic _ => mnemonic.lineEnds_line_enabled program.indent

theorem exists_listing_setComments {program : Program}
    (writable : ∀ mnemonic ∈ program.mnemonics, mnemonic.Writable) (enabled : Bool) :
    ∃ listing, (program.setComments enabled).listing = .ok listing := by
  rw [exists_listing_iff, mnemonics_setComments]
  intro switched member
  obtain ⟨mnemonic, inserted, rfl⟩ := List.mem_map.mp member
  exact writable mnemonic inserted

/-- The listing of a program has one piece for each instruction and one more
for every line end in a text that goes into an instruction.  It can be cut back
into its instructions exactly if there is no such line end, and comments leave
the number of pieces alone exactly if no comment has one. -/
theorem listing_divided_iff (program : Program) (listing : String)
    (written : program.listing = .ok listing) (inhabited : program.size ≠ 0) :
    (Text.pieces listing).length = program.size +
      ((program.mnemonics.flatMap fun mnemonic => mnemonic.ingredients program.indent).map
        Text.lineEnds).sum ∧
    (program.Divided listing ↔ ∀ mnemonic ∈ program.mnemonics,
      ∀ text ∈ mnemonic.ingredients program.indent, '\n' ∉ text.toList) ∧
    ∃ loud quiet, (program.setComments true).listing = .ok loud ∧
      (program.setComments false).listing = .ok quiet ∧
      ((Text.pieces loud).length = (Text.pieces quiet).length ↔
        ∀ mnemonic ∈ program.mnemonics, '\n' ∉ mnemonic.ownComment.toList) := by
  have writable := (exists_listing_iff program).mp ⟨listing, written⟩
  refine ⟨?_, ?_, ?_⟩
  · rw [length_pieces_listing written inhabited, List.map_flatMap, List.flatMap_def,
      List.sum_flatten, List.map_map]
    refine congrArg (program.size + ·) (congrArg List.sum ?_)
    exact List.map_congr_left fun mnemonic _ => mnemonic.lineEnds_line program.indent
  · rw [divided_iff written inhabited]
    simp only [Mnemonic.lineEnds_line, List.sum_eq_zero_iff_forall_eq_nat, List.forall_mem_map,
      Text.lineEnds_eq_zero_iff]
  · obtain ⟨loud, enabled⟩ := exists_listing_setComments writable true
    obtain ⟨quiet, disabled⟩ := exists_listing_setComments writable false
    refine ⟨loud, quiet, enabled, disabled, ?_⟩
    rw [length_pieces_setComments enabled disabled inhabited, Nat.add_eq_left,
      List.sum_eq_zero_iff_forall_eq_nat]
    simp only [List.forall_mem_map, Text.lineEnds_eq_zero_iff]

theorem listing_divided_two_lines :
    let program := ((Program.new 0 "boot.asm" .bits64).append
      ⟨"push", [.text "AX"], .generic, "saved", true⟩).append
      ⟨"hlt", [], .generic, "", false⟩
    program.listing = .ok "push AX  ; saved\nhlt" ∧ program.size ≠ 0 ∧
      program.Divided "push AX  ; saved\nhlt" := by
  intro program
  have written : program.listing = .ok "push AX  ; saved\nhlt" := by decide
  have inhabited : program.size ≠ 0 := by decide
  exact ⟨written, inhabited,
    (listing_divided_iff program _ written inhabited).2.1.mpr (by decide)⟩

/-- A comment of one instruction whose text behind the line end reads as another
instruction. -/
theorem listing_undivided_comment :
    let program := (Program.new 0 "boot.asm" .bits64).append
      ⟨"nop", [], .generic, "wait\nhlt", true⟩
    program.size = 1 ∧ program.listing = .ok "nop  ; wait\nhlt" ∧
      Text.pieces "nop  ; wait\nhlt" = ["nop  ; wait", "hlt"] ∧
      ¬ program.Divided "nop  ; wait\nhlt" ∧
      (program.setComments false).listing = .ok "nop" := by
  intro program
  refine ⟨by decide, by decide, by decide, fun divided => ?_, by decide⟩
  exact absurd (congrArg List.length divided) (by decide)

end Program

end AsmListing
