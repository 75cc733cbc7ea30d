import AsmListing.Proofs.Register.Walk

/-!
# Registers that are given again

A register set keeps the list it was made of.  A register that is given again
is listed again, and stands below its parent as often as it was given.  So a
set lists different registers exactly if no register was given again.
-/

namespace AsmListing

/-! ## Repetitions -/

section Repetitions

variable {Item : Type} [DecidableEq Item]

theorem eraseDups_sublist (items : List Item) : items.eraseDups.Sublist items := by
  induction items using List.reverseRecOn with
  | nil => exact List.Sublist.refl []
  | append_singleton items item induction =>
      rw [eraseDups_concat]
      by_cases known : item ∈ items
      · rw [if_pos known]
        exact induction.trans (List.sublist_append_left items [item])
      · rw [if_neg known]
        exact induction.append_right [item]

/-- As many first occurrences as items are there only if every item is one. -/
theorem length_le_length_eraseDups_iff {items : List Item} :
    items.length ≤ items.eraseDups.length ↔ items.Nodup := by
  constructor
  · intro enough
    rw [← (eraseDups_sublist items).eq_of_length_le enough]
    exact nodup_eraseDups items
  · intro distinct
    have inside : items ⊆ items.eraseDups := fun _ member => List.mem_eraseDups.mpr member
    exact (List.subperm_of_subset distinct inside).length_le

theorem eq_eraseDups_iff {items : List Item} : items = items.eraseDups ↔ items.Nodup := by
  constructor
  · intro same
    rw [same]
    exact nodup_eraseDups items
  · intro distinct
    exact ((eraseDups_sublist items).eq_of_length_le
      (length_le_length_eraseDups_iff.mpr distinct)).symm

end Repetitions

namespace RegisterSet

/-! ## Branches -/

section Branches

variable (set : RegisterSet)

/-- A register stands below its own parent as often as it is listed, and nowhere
else. -/
theorem count_children (register : Register) (above? : Option Register) :
    (set.children above?).count register =
      if register.parent? = above? then set.registers.count register else 0 := by
  rw [children_eq]
  by_cases below : register.parent? = above?
  · rw [if_pos below, List.count_filter (by simpa using below)]
  · rw [if_neg below, List.count_eq_zero, List.mem_filter]
    simp [below]

/-- Whatever is listed twice is seen twice below its parent. -/
theorem nodup_children_iff :
    (∀ above?, (set.children above?).Nodup) ↔ set.registers.Nodup := by
  constructor
  · intro distinct
    rw [List.nodup_iff_count_le_one]
    intro register
    have once := List.nodup_iff_count_le_one.mp (distinct register.parent?) register
    rwa [count_children, if_pos rfl] at once
  · intro distinct above?
    rw [children_eq]
    exact distinct.filter _

end Branches

/-- The set enumerates the given registers.  It lists each of them once, in the
order in which they first occur, and not more of them than there are.  No
register is twice without a parent or twice below the same one, and each stands
below its own parent only. -/
structure Enumerates (set : RegisterSet) (registers : List Register) : Prop where
  listed : set.registers = registers.eraseDups
  roots : set.roots.Nodup
  children : ∀ parent, (set.children (some parent)).Nodup
  below : ∀ register ∈ registers, ∀ above?,
    register ∈ set.children above? ↔ register.parent? = above?
  length : set.registers.length ≤ registers.eraseDups.length

theorem ofList_mem_children_iff (mode : Mode) {registers : List Register} {register : Register}
    (given : register ∈ registers) (above? : Option Register) :
    register ∈ (ofList mode registers).children above? ↔ register.parent? = above? := by
  rw [mem_children_iff, ofList_registers]
  exact and_iff_right given

theorem ofList_enumerates (mode : Mode) {registers : List Register} (distinct : registers.Nodup) :
    (ofList mode registers).Enumerates registers := by
  have branches := (nodup_children_iff (ofList mode registers)).mpr (by rwa [ofList_registers])
  refine ⟨?_, branches none, fun parent => branches (some parent),
    fun register given => ofList_mem_children_iff mode given, ?_⟩
  · rw [ofList_registers]
    exact eq_eraseDups_iff.mpr distinct
  · rw [ofList_registers]
    exact length_le_length_eraseDups_iff.mpr distinct

/-- The set of a list has the registers of the list, as often and in the order
they were given, each below its own parent.  It enumerates them exactly if none
was given again.  Otherwise there are more registers than different ones, and
some branch has a register twice. -/
theorem ofList_enumerates_iff (mode : Mode) (registers : List Register) :
    let set := ofList mode registers
    (set.Enumerates registers ↔ registers.Nodup) ∧
    set.registers = registers ∧
    (∀ register above?, (set.children above?).count register =
      if register.parent? = above? then registers.count register else 0) ∧
    (∀ register ∈ registers, ∀ above?,
      register ∈ set.children above? ↔ register.parent? = above?) ∧
    (set.registers.length ≤ registers.eraseDups.length ↔ registers.Nodup) ∧
    ((∀ above?, (set.children above?).Nodup) ↔ registers.Nodup) := by
  intro set
  have listed : set.registers = registers := ofList_registers mode registers
  refine ⟨⟨?_, ofList_enumerates mode⟩, listed, ?_, ?_, ?_, ?_⟩
  · intro enumerates
    exact eq_eraseDups_iff.mp (listed.symm.trans enumerates.listed)
  · intro register above?
    rw [count_children, listed]
  · intro register given
    exact ofList_mem_children_iff mode given
  · rw [listed]
    exact length_le_length_eraseDups_iff
  · rw [nodup_children_iff, listed]

/-- A register and a part of it, both given twice, are listed twice and stand
twice in their branches. -/
theorem ofList_repeats_given_twice :
    let ax := Register.root 0 "AX" .word []
    let al := Register.part 1 "AL" .byte [] ax
    let set := ofList .bits16 [ax, al, ax, al]
    set.registers = [ax, al, ax, al] ∧ [ax, al, ax, al].eraseDups = [ax, al] ∧
      set.roots = [ax, ax] ∧ set.children (some ax) = [al, al] ∧
      ¬ set.Enumerates [ax, al, ax, al] := by
  intro ax al set
  refine ⟨by decide, by decide, by decide, by decide, fun enumerates => ?_⟩
  exact absurd enumerates.roots (by decide)

end RegisterSet

end AsmListing
