import AsmListing.Program
import Mathlib.Data.List.Basic

/-!
# Growing programs

A program grows when instructions are drafted and inserted behind the ones it
has.  Growth keeps every draft and every place, so the old instructions stay
an untouched beginning of the new ones.
-/

namespace AsmListing

namespace Program

section Append

variable (program : Program) (mnemonic : Mnemonic)

@[simp] theorem append_drafts :
    (program.append mnemonic).drafts = program.drafts.push mnemonic := by
  simp [append, insert, draft]

@[simp] theorem append_sequence :
    (program.append mnemonic).sequence = program.sequence.push program.drafts.size := by
  simp [append, insert, draft]

@[simp] theorem append_filename :
    (program.append mnemonic).filename = program.filename := by
  simp [append, insert, draft]

@[simp] theorem append_mode : (program.append mnemonic).mode = program.mode := by
  simp [append, insert, draft]

@[simp] theorem append_indent : (program.append mnemonic).indent = program.indent := by
  simp [append, insert, draft]

@[simp] theorem append_verbose : (program.append mnemonic).verbose = program.verbose := by
  simp [append, insert, draft]

@[simp] theorem append_registers :
    (program.append mnemonic).registers = program.registers := by
  simp [append, insert, draft]

end Append

/-- The second program is the first one with the given instructions behind
the old ones.  Each of them is a draft of its own, every old draft and every
old place is kept, and of the settings only the indent may differ. -/
structure Grown (before : Program) (appended : List Mnemonic) (after : Program) : Prop where
  drafts : after.drafts.toList = before.drafts.toList ++ appended
  sequence : after.sequence.toList =
    before.sequence.toList ++ List.range' before.drafts.size appended.length
  filename : after.filename = before.filename
  mode : after.mode = before.mode
  verbose : after.verbose = before.verbose
  registers : after.registers = before.registers

namespace Grown

variable {before between after : Program} {first second appended : List Mnemonic}

theorem refl (program : Program) : Grown program [] program where
  drafts := by simp
  sequence := by simp
  filename := rfl
  mode := rfl
  verbose := rfl
  registers := rfl

/-- A change of the indent appends nothing. -/
theorem setIndent (program : Program) (indent : String) :
    Grown program [] { program with indent := indent } where
  drafts := by simp
  sequence := by simp
  filename := rfl
  mode := rfl
  verbose := rfl
  registers := rfl

theorem append (program : Program) (mnemonic : Mnemonic) :
    Grown program [mnemonic] (program.append mnemonic) where
  drafts := by simp
  sequence := by simp
  filename := by simp
  mode := by simp
  verbose := by simp
  registers := by simp

theorem drafts_size (grown : Grown before appended after) :
    after.drafts.size = before.drafts.size + appended.length := by
  have lengths := congrArg List.length grown.drafts
  simpa using lengths

/-- Growth after growth appends one list of instructions behind the other. -/
theorem trans (early : Grown before first between) (late : Grown between second after) :
    Grown before (first ++ second) after where
  drafts := by rw [late.drafts, early.drafts, List.append_assoc]
  sequence := by
    rw [late.sequence, early.sequence, early.drafts_size, List.append_assoc,
      List.length_append, List.range'_append_1]
  filename := late.filename.trans early.filename
  mode := late.mode.trans early.mode
  verbose := late.verbose.trans early.verbose
  registers := late.registers.trans early.registers

/-- The places behind a list of drafts hold the drafts put there. -/
theorem places_filterMap (old appended : List Mnemonic) :
    (List.range' old.length appended.length).filterMap
        (fun position => (old ++ appended)[position]?) =
      appended := by
  induction appended generalizing old with
  | nil => rfl
  | cons mnemonic rest induction =>
      have shifted := induction (old ++ [mnemonic])
      rw [List.length_append, List.length_singleton, List.append_assoc,
        List.singleton_append] at shifted
      rw [List.length_cons, List.range'_succ, List.filterMap_cons, shifted]
      simp

/-- The instructions of a grown program are the old ones and then the new
ones. -/
theorem mnemonics (grown : Grown before appended after) :
    after.mnemonics = before.mnemonics ++ appended := by
  have looked : ∀ position : Nat, after.drafts[position]? =
      (before.drafts.toList ++ appended)[position]? := by
    intro position
    rw [← grown.drafts, Array.getElem?_toList]
  have kept : before.sequence.toList.filterMap (fun position => after.drafts[position]?) =
      before.mnemonics := by
    apply List.filterMap_congr
    intro position member
    have bound := before.sequence_lt position (by simpa using member)
    rw [looked, List.getElem?_append_left (by simpa using bound), Array.getElem?_toList]
  have added := places_filterMap before.drafts.toList appended
  rw [Array.length_toList] at added
  rw [Program.mnemonics, grown.sequence, List.filterMap_append, kept]
  simp only [looked, added]

end Grown

end Program

end AsmListing
