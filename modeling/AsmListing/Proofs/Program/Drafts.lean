import AsmListing.Proofs.Program.Growth
import AsmListing.Proofs.Program.Rendering

/-!
# What holds of all drafts

Every instruction that is made for a program is one of its drafts, whether it
is inserted or not.  What holds of all drafts is kept when drafts are added
that have the property, and when drafts are inserted or edited.
-/

namespace AsmListing

namespace Program

/-- Every instruction drafted for a program has a property. -/
def Every (property : Mnemonic → Prop) (program : Program) : Prop :=
  ∀ mnemonic ∈ program.drafts, property mnemonic

namespace Every

variable {property : Mnemonic → Prop} {program : Program}

theorem new (serial : Nat) (filename : String) (mode : Mode) :
    (Program.new serial filename mode).Every property := by
  simp [Every, Program.new]

/-- The inserted instructions are drafts. -/
theorem mnemonics (every : program.Every property) :
    ∀ mnemonic ∈ program.mnemonics, property mnemonic := by
  intro mnemonic member
  obtain ⟨position, _, found⟩ := List.mem_filterMap.mp member
  exact every mnemonic (Array.mem_of_getElem? found)

theorem of_grown {after : Program} {appended : List Mnemonic}
    (every : program.Every property) (grown : program.Grown appended after)
    (added : ∀ mnemonic ∈ appended, property mnemonic) : after.Every property := by
  intro mnemonic member
  rw [← Array.mem_toList_iff, grown.drafts, List.mem_append] at member
  rcases member with old | new
  · exact every mnemonic (Array.mem_toList_iff.mp old)
  · exact added mnemonic new

theorem draft (every : program.Every property) {mnemonic : Mnemonic}
    (holds : property mnemonic) : (program.draft mnemonic).Every property := by
  intro other member
  rcases Array.mem_push.mp member with old | rfl
  · exact every other old
  · exact holds

theorem insertAll (every : program.Every property) (positions : List Nat) :
    (program.insertAll positions).Every property := by
  unfold Program.insertAll
  induction positions generalizing program with
  | nil => exact every
  | cons position rest induction =>
      apply induction
      intro mnemonic member
      rw [insert_drafts] at member
      exact every mnemonic member

theorem edit (every : program.Every property) {change : Mnemonic → Mnemonic}
    (keeps : ∀ mnemonic, property mnemonic → property (change mnemonic)) (position : Nat) :
    (program.edit position change).Every property := by
  intro mnemonic member
  obtain ⟨place, inside, rfl⟩ := Array.mem_iff_getElem.mp member
  have bound : place < program.drafts.size := by simpa [Program.edit] using inside
  have held := every program.drafts[place] (Array.getElem_mem bound)
  simp only [Program.edit, Array.getElem_modify]
  split
  · exact keeps _ held
  · exact held

theorem setComments (every : program.Every property) {enabled : Bool}
    (keeps : ∀ mnemonic : Mnemonic, property mnemonic →
      property { mnemonic with commentEnabled := enabled }) :
    (program.setComments enabled).Every property := by
  unfold Program.setComments
  rw [← Array.foldl_toList]
  generalize program.sequence.toList = positions
  induction positions generalizing program with
  | nil => exact every
  | cons position rest induction => exact induction (every.edit keeps position)

end Every

end Program

end AsmListing
