import AsmListing.Register.Basic
import Mathlib.Data.List.Chain
import Mathlib.Data.List.Nodup
import Mathlib.Data.List.Perm.Subperm

/-!
# Registers form a forest

A register is made after the register it is a part of, and narrower than it.
Climbing from a register to what it is a part of therefore passes through ever
wider registers and ends after at most four of them.  Containment is a partial
order in which the registers around a given one stand in a line, and two
registers have one outermost register exactly if something contains both.
-/

namespace AsmListing

namespace Register

/-! ## Hierarchies -/

theorem self_mem_hierarchy (register : Register) : register ∈ register.hierarchy := by
  cases register <;> simp [hierarchy]

/-- The hierarchy of a register goes on with that of its parent. -/
theorem hierarchy_eq (register : Register) :
    register.hierarchy = register :: (register.parent?.map hierarchy).getD [] := by
  cases register <;> rfl

/-- Everything that a register is a part of has the rest of the hierarchy as
its own. -/
theorem hierarchy_suffix_of_mem {inner outer : Register} (around : outer ∈ inner.hierarchy) :
    outer.hierarchy <:+ inner.hierarchy := by
  induction inner with
  | root serial name width aliases =>
      rw [hierarchy, List.mem_singleton] at around
      exact around ▸ List.suffix_refl _
  | part serial name width aliases whole induction =>
      rcases List.mem_cons.mp around with rfl | around
      · exact List.suffix_refl _
      · exact (induction around).trans (List.suffix_cons _ _)

/-- What a register is a part of twice over, it is a part of. -/
theorem mem_hierarchy_trans {inner middle outer : Register}
    (far : outer ∈ middle.hierarchy) (near : middle ∈ inner.hierarchy) :
    outer ∈ inner.hierarchy :=
  (hierarchy_suffix_of_mem near).subset far

/-- Of two registers in one hierarchy, one is in the hierarchy of the
other. -/
theorem mem_hierarchy_or_mem_hierarchy {inner first second : Register}
    (aroundFirst : first ∈ inner.hierarchy) (aroundSecond : second ∈ inner.hierarchy) :
    first ∈ second.hierarchy ∨ second ∈ first.hierarchy := by
  rcases List.suffix_or_suffix_of_suffix (hierarchy_suffix_of_mem aroundFirst)
    (hierarchy_suffix_of_mem aroundSecond) with within | within
  · exact .inl (within.subset first.self_mem_hierarchy)
  · exact .inr (within.subset second.self_mem_hierarchy)

/-- Each register of a hierarchy is followed by its parent. -/
theorem hierarchy_isChain (register : Register) :
    register.hierarchy.IsChain fun inner outer => inner.parent? = some outer := by
  induction register with
  | root serial name width aliases => exact List.isChain_singleton _
  | part serial name width aliases whole induction =>
      rw [hierarchy]
      rw [whole.hierarchy_eq] at induction ⊢
      exact List.isChain_cons_cons.mpr ⟨rfl, induction⟩

theorem hierarchy_getLast? (register : Register) :
    register.hierarchy.getLast? = some register.outermost := by
  induction register with
  | root serial name width aliases => rfl
  | part serial name width aliases whole induction =>
      rw [hierarchy, List.getLast?_cons, induction]
      rfl

theorem outermost_mem_hierarchy (register : Register) :
    register.outermost ∈ register.hierarchy :=
  List.mem_of_getLast? register.hierarchy_getLast?

theorem outermost_parent? (register : Register) : register.outermost.parent? = none := by
  induction register with
  | root serial name width aliases => rfl
  | part serial name width aliases whole induction => exact induction

theorem outermost_eq_of_mem {inner outer : Register} (around : outer ∈ inner.hierarchy) :
    outer.outermost = inner.outermost := by
  obtain ⟨front, split⟩ := hierarchy_suffix_of_mem around
  have last := inner.hierarchy_getLast?
  rw [← split, List.getLast?_append, outer.hierarchy_getLast?] at last
  simpa using last

theorem contains_iff {register other : Register} :
    register.contains (some other) = true ↔ register ∈ other.hierarchy := by
  simp [contains]

/-! ## Widths along a hierarchy -/

/-- Every register of the hierarchy is narrower than its parent. -/
def Nested : Register → Prop
  | root _ _ _ _ => True
  | part _ _ width _ whole => width.bits < whole.size ∧ whole.Nested

namespace Nested

variable {register : Register}

/-- The sizes grow from each register of a hierarchy to the next, and so from
each to all that follow. -/
theorem sizes_pairwise (nested : register.Nested) :
    (register.hierarchy.map size).Pairwise (· < ·) := by
  rw [← List.isChain_iff_pairwise]
  induction register with
  | root serial name width aliases => exact List.isChain_singleton _
  | part serial name width aliases whole induction =>
      have rest := induction nested.2
      rw [hierarchy, List.map_cons]
      rw [whole.hierarchy_eq, List.map_cons] at rest ⊢
      exact List.isChain_cons_cons.mpr ⟨nested.1, rest⟩

theorem sizes_nodup (nested : register.Nested) : (register.hierarchy.map size).Nodup :=
  nested.sizes_pairwise.imp Nat.ne_of_lt

/-- No hierarchy is longer than the list of widths. -/
theorem hierarchy_length (nested : register.Nested) : register.hierarchy.length ≤ 4 := by
  have known : register.hierarchy.map size ⊆ [8, 16, 32, 64] := by
    intro bits member
    obtain ⟨other, _, rfl⟩ := List.mem_map.mp member
    unfold size
    cases other.width <;> simp [Width.bits]
  simpa using (List.subperm_of_subset nested.sizes_nodup known).length_le

/-- What surrounds a register is wider than it. -/
theorem size_lt_of_mem (nested : register.Nested) {outer : Register}
    (around : outer ∈ register.hierarchy) (different : outer ≠ register) :
    register.size < outer.size := by
  have sizes := nested.sizes_pairwise
  rw [register.hierarchy_eq, List.map_cons, List.pairwise_cons] at sizes
  rw [register.hierarchy_eq, List.mem_cons] at around
  exact sizes.1 outer.size (List.mem_map_of_mem (around.resolve_left different))

end Nested

/-! ## Making registers -/

/-- A register that could be made bears the serial number and has the parent
that were asked for, and is narrower than its parent. -/
theorem make_ok {serial : Nat} {name : String} {size : Int} {aliases : List String}
    {parent? : Option Register} {register : Register}
    (success : make serial name size aliases parent? = .ok register) :
    register.serial = serial ∧ register.parent? = parent? ∧
      ∀ parent ∈ parent?, register.size < parent.size := by
  unfold make at success
  split at success
  · contradiction
  split at success
  · simp only [Except.ok.injEq] at success
    subst success
    simp [Register.serial, Register.parent?]
  · split at success
    · contradiction
    · rename_i width _ _ whole wide
      simp only [Except.ok.injEq] at success
      subst success
      refine ⟨rfl, rfl, fun parent same => ?_⟩
      rw [← Option.mem_some.mp same]
      exact Nat.lt_of_not_le wide

/-- The registers that successful makings leave behind, the latest one first.
Each of them is given a serial number that no other has, and its parent is one
of those made before it. -/
inductive Made : List Register → Prop where
  | nil : Made []
  | cons {made : List Register} {serial : Nat} {name : String} {size : Int}
      {aliases : List String} {parent? : Option Register} {register : Register}
      (earlier : Made made) (fresh : ∀ other ∈ made, other.serial ≠ serial)
      (known : ∀ parent ∈ parent?, parent ∈ made)
      (success : make serial name size aliases parent? = .ok register) :
      Made (register :: made)

namespace Made

variable {made : List Register}

/-- A parent was made too, and is wider. -/
theorem parent (history : Made made) {register parent : Register}
    (member : register ∈ made) (above : register.parent? = some parent) :
    parent ∈ made ∧ register.size < parent.size := by
  induction history with
  | nil => simp at member
  | cons earlier fresh known success induction =>
      rcases List.mem_cons.mp member with rfl | member
      · obtain ⟨_, parentEq, narrower⟩ := make_ok success
        have asked := parentEq.symm.trans above
        exact ⟨List.mem_cons_of_mem _ (known parent asked), narrower parent asked⟩
      · have old := induction member
        exact ⟨List.mem_cons_of_mem _ old.1, old.2⟩

theorem nested (history : Made made) {register : Register} (member : register ∈ made) :
    register.Nested := by
  induction register with
  | root serial name width aliases => trivial
  | part serial name width aliases whole induction =>
      obtain ⟨wholeMember, narrower⟩ := history.parent member rfl
      exact ⟨narrower, induction wholeMember⟩

theorem mem_of_mem_hierarchy (history : Made made) {register other : Register}
    (member : register ∈ made) (around : other ∈ register.hierarchy) : other ∈ made := by
  induction register with
  | root serial name width aliases =>
      rw [hierarchy, List.mem_singleton] at around
      exact around ▸ member
  | part serial name width aliases whole induction =>
      rcases List.mem_cons.mp around with rfl | around
      · exact member
      · exact induction (history.parent member rfl).1 around

/-- Serial numbers tell registers apart, whatever else they share. -/
theorem eq_of_serial_eq (history : Made made) {first second : Register}
    (firstMember : first ∈ made) (secondMember : second ∈ made)
    (same : first.serial = second.serial) : first = second := by
  induction history with
  | nil => simp at firstMember
  | cons earlier fresh known success induction =>
      have latest := (make_ok success).1
      rcases List.mem_cons.mp firstMember with rfl | firstOld <;>
        rcases List.mem_cons.mp secondMember with rfl | secondOld
      · rfl
      · exact (fresh second secondOld (same.symm.trans latest)).elim
      · exact (fresh first firstOld (same.trans latest)).elim
      · exact induction firstOld secondOld

end Made

/-! ## The forest -/

/-- Climbing from a register passes from each register to its parent, through
ever wider ones, and ends at the outermost one, which has no parent. -/
structure Climbs (register : Register) : Prop where
  starts : register.hierarchy.head? = some register
  follows : register.hierarchy.IsChain fun inner outer => inner.parent? = some outer
  widens : (register.hierarchy.map size).Pairwise (· < ·)
  distinct : register.hierarchy.Nodup
  short : register.hierarchy.length ≤ 4
  ends : register.hierarchy.getLast? = some register.outermost
  parentless : register.outermost.parent? = none

theorem Nested.climbs {register : Register} (nested : register.Nested) : register.Climbs where
  starts := by rw [register.hierarchy_eq, List.head?_cons]
  follows := register.hierarchy_isChain
  widens := nested.sizes_pairwise
  distinct := List.Nodup.of_map size nested.sizes_nodup
  short := nested.hierarchy_length
  ends := register.hierarchy_getLast?
  parentless := register.outermost_parent?

/-- Registers form a forest.  Their serial numbers say which of them are the
same, and their hierarchies stay among them.  Containment looks for the
register itself and not for its name, and is a partial order towards wider
registers, in which all that contains a given register stands in a line. -/
structure Forest (registers : List Register) : Prop where
  identity : ∀ first ∈ registers, ∀ second ∈ registers,
    first.serial = second.serial → first = second
  closed : ∀ register ∈ registers, register.hierarchy ⊆ registers
  climbs : ∀ register ∈ registers, register.Climbs
  contains_iff : ∀ outer ∈ registers, ∀ inner ∈ registers, outer.contains inner = true ↔
    ∃ register ∈ inner.hierarchy, register.serial = outer.serial
  refl : ∀ register ∈ registers, register.contains register = true
  antisymm : ∀ first ∈ registers, ∀ second ∈ registers,
    first.contains second = true → second.contains first = true → first = second
  trans : ∀ outer ∈ registers, ∀ middle ∈ registers, ∀ inner ∈ registers,
    outer.contains middle = true → middle.contains inner = true → outer.contains inner = true
  wider : ∀ outer ∈ registers, ∀ inner ∈ registers,
    outer.contains inner = true → outer ≠ inner → inner.size < outer.size
  comparable : ∀ first ∈ registers, ∀ second ∈ registers, ∀ inner ∈ registers,
    first.contains inner = true → second.contains inner = true →
      first.contains second = true ∨ second.contains first = true
  outermost_eq_iff : ∀ first ∈ registers, ∀ second ∈ registers,
    first.outermost = second.outermost ↔
      ∃ outer ∈ registers, outer.contains first = true ∧ outer.contains second = true

/-- However registers are made, they form a forest ordered by width. -/
theorem made_forest {made : List Register} (history : Made made) : Forest made where
  identity _ firstMember _ secondMember := history.eq_of_serial_eq firstMember secondMember
  closed _ member _ around := history.mem_of_mem_hierarchy member around
  climbs _ member := (history.nested member).climbs
  contains_iff outer outerMember inner innerMember := by
    rw [Register.contains_iff]
    constructor
    · exact fun around => ⟨outer, around, rfl⟩
    · rintro ⟨register, around, same⟩
      have member := history.mem_of_mem_hierarchy innerMember around
      exact history.eq_of_serial_eq member outerMember same ▸ around
  refl register _ := Register.contains_iff.mpr register.self_mem_hierarchy
  antisymm first firstMember second secondMember above below := by
    rw [Register.contains_iff] at above below
    by_contra different
    have up := (history.nested secondMember).size_lt_of_mem above different
    have down := (history.nested firstMember).size_lt_of_mem below (Ne.symm different)
    omega
  trans _ _ _ _ _ _ far near := by
    rw [Register.contains_iff] at far near ⊢
    exact mem_hierarchy_trans far near
  wider _ _ _ innerMember around different :=
    (history.nested innerMember).size_lt_of_mem (Register.contains_iff.mp around) different
  comparable _ _ _ _ _ _ aroundFirst aroundSecond := by
    simp only [Register.contains_iff] at aroundFirst aroundSecond ⊢
    exact mem_hierarchy_or_mem_hierarchy aroundFirst aroundSecond
  outermost_eq_iff first firstMember second _ := by
    simp only [Register.contains_iff]
    constructor
    · intro same
      have top := first.outermost_mem_hierarchy
      exact ⟨first.outermost, history.mem_of_mem_hierarchy firstMember top, top,
        same ▸ second.outermost_mem_hierarchy⟩
    · rintro ⟨outer, _, aroundFirst, aroundSecond⟩
      rw [← outermost_eq_of_mem aroundFirst, outermost_eq_of_mem aroundSecond]

/-- All four widths inside each other, and two registers that differ in
nothing but their serial numbers. -/
theorem made_forest_twins :
    let rax := root 0 "RAX" .quadword []
    let eax := part 1 "EAX" .doubleword [] rax
    let ax := part 2 "AX" .word [] eax
    let al := part 3 "AL" .byte [] ax
    let twin := part 4 "AX" .word [] eax
    Made [twin, al, ax, eax, rax] ∧ Forest [twin, al, ax, eax, rax] ∧
      al.hierarchy.length = 4 ∧ ax.contains al = true ∧ twin.contains al = false := by
  intro rax eax ax al twin
  have makeRax : make 0 "RAX" 64 [] none = .ok rax := rfl
  have makeEax : make 1 "EAX" 32 [] (some rax) = .ok eax := rfl
  have makeAx : make 2 "AX" 16 [] (some eax) = .ok ax := rfl
  have makeAl : make 3 "AL" 8 [] (some ax) = .ok al := rfl
  have makeTwin : make 4 "AX" 16 [] (some eax) = .ok twin := rfl
  have history : Made [twin, al, ax, eax, rax] :=
    .cons (.cons (.cons (.cons (.cons .nil (by simp) (by simp) makeRax)
      (by decide) (by simp) makeEax) (by decide) (by simp) makeAx)
      (by decide) (by simp) makeAl) (by decide) (by simp) makeTwin
  exact ⟨history, made_forest history, by decide, by decide, by decide⟩

end Register

end AsmListing
