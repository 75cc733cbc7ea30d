import AsmListing.Register.Tree
import AsmListing.Proofs.Register.Forest
import AsmListing.Proofs.Register.Index

/-!
# Walks through the forest of a register set

The forest of a set is built from the top, by looking for the parts of one
register after the other among all registers of the set.  What a register is a
part of is known from below, by its hierarchy.  Both views agree: a walk
through the forest meets every register of the set once, below its own parent,
and a branch holds what the register at its top contains.
-/

namespace AsmListing

namespace Register

/-! ## Hierarchies and parents -/

theorem hierarchy_of_parent? {register parent : Register}
    (above : register.parent? = some parent) :
    register.hierarchy = register :: parent.hierarchy := by
  rw [hierarchy_eq, above]
  rfl

theorem length_hierarchy_of_parent? {register parent : Register}
    (above : register.parent? = some parent) :
    register.hierarchy.length = parent.hierarchy.length + 1 := by
  rw [hierarchy_of_parent? above, List.length_cons]

theorem hierarchy_of_parentless {register : Register} (top : register.parent? = none) :
    register.hierarchy = [register] := by
  rw [hierarchy_eq, top]
  rfl

theorem length_hierarchy_le_of_mem {inner outer : Register}
    (around : outer ∈ inner.hierarchy) : outer.hierarchy.length ≤ inner.hierarchy.length :=
  (hierarchy_suffix_of_mem around).length_le

theorem hierarchy_nodup (register : Register) : register.hierarchy.Nodup := by
  induction register with
  | root serial name width aliases => exact List.nodup_singleton _
  | part serial name width aliases whole induction =>
      refine List.nodup_cons.mpr ⟨fun inside => ?_, induction⟩
      have longer := length_hierarchy_le_of_mem inside
      rw [hierarchy, List.length_cons] at longer
      omega

/-- Of the registers around a given one, no two have the same parent. -/
theorem eq_of_mem_hierarchy_of_parent?_eq {inner first second : Register}
    (aroundFirst : first ∈ inner.hierarchy) (aroundSecond : second ∈ inner.hierarchy)
    (siblings : first.parent? = second.parent?) : first = second := by
  have lengths : first.hierarchy.length = second.hierarchy.length := by
    rw [first.hierarchy_eq, second.hierarchy_eq, siblings, List.length_cons, List.length_cons]
  -- Both hierarchies end the one of the inner register, so one of them ends the other.
  have hierarchies : first.hierarchy = second.hierarchy := by
    rcases List.suffix_or_suffix_of_suffix (hierarchy_suffix_of_mem aroundFirst)
      (hierarchy_suffix_of_mem aroundSecond) with within | within
    · exact within.eq_of_length lengths
    · exact (within.eq_of_length lengths.symm).symm
  rw [first.hierarchy_eq, second.hierarchy_eq, List.cons.injEq] at hierarchies
  exact hierarchies.1

/-- Between a register and another one around it there is a direct part of the
latter. -/
theorem exists_part_of_mem_hierarchy {inner outer : Register}
    (around : outer ∈ inner.hierarchy) :
    outer = inner ∨ ∃ part ∈ inner.hierarchy, part.parent? = some outer := by
  induction inner with
  | root serial name width aliases =>
      rw [hierarchy, List.mem_singleton] at around
      exact .inl around
  | part serial name width aliases whole induction =>
      rcases List.mem_cons.mp around with same | around
      · exact .inl same
      rcases induction around with rfl | ⟨between, member, above⟩
      · exact .inr ⟨_, List.mem_cons_self, rfl⟩
      · exact .inr ⟨between, List.mem_cons_of_mem _ member, above⟩

/-- Registers among which every one has its parent. -/
def Closed (registers : List Register) : Prop :=
  ∀ register ∈ registers, ∀ parent ∈ register.parent?, parent ∈ registers

theorem Closed.hierarchy_subset {registers : List Register} (closed : Closed registers)
    {register : Register} (member : register ∈ registers) : register.hierarchy ⊆ registers := by
  induction register with
  | root serial name width aliases => simpa [hierarchy] using member
  | part serial name width aliases whole induction =>
      exact List.cons_subset.mpr ⟨member, induction (closed _ member whole rfl)⟩

end Register

namespace RegisterTree

/-! ## Walks -/

def register : RegisterTree → Register
  | node register _ => register

/-- The trees right below the top. -/
def parts : RegisterTree → List RegisterTree
  | node _ parts => parts

/-- A step of a walk: the tree that is entered, the register from which it was
reached, and the number of levels above it. -/
structure Visit where
  tree : RegisterTree
  above? : Option Register
  depth : Nat

def Visit.register (visit : Visit) : Register :=
  visit.tree.register

mutual

/-- A walk through a tree, which enters the tree and then its parts. -/
def walk (above? : Option Register) (depth : Nat) : RegisterTree → List Visit
  | node register parts =>
      ⟨node register parts, above?, depth⟩ :: forestWalk (some register) (depth + 1) parts

def forestWalk (above? : Option Register) (depth : Nat) : List RegisterTree → List Visit
  | [] => []
  | tree :: rest => tree.walk above? depth ++ forestWalk above? depth rest

end

def registers (tree : RegisterTree) : List Register :=
  (tree.walk none 0).map Visit.register

theorem forestWalk_eq (above? : Option Register) (depth : Nat) (trees : List RegisterTree) :
    forestWalk above? depth trees = trees.flatMap (walk above? depth) := by
  induction trees with
  | nil => rw [forestWalk, List.flatMap_nil]
  | cons tree rest induction => rw [forestWalk, induction, List.flatMap_cons]

mutual

/-- Where a walk comes from does not decide which registers it comes to. -/
theorem walk_map_register (above? other? : Option Register) (depth level : Nat) :
    ∀ tree : RegisterTree, (tree.walk above? depth).map Visit.register =
      (tree.walk other? level).map Visit.register
  | node register parts => by
      rw [walk, walk, List.map_cons, List.map_cons,
        forestWalk_map_register (some register) (some register) (depth + 1) (level + 1) parts]
      rfl

theorem forestWalk_map_register (above? other? : Option Register) (depth level : Nat) :
    ∀ trees : List RegisterTree, (forestWalk above? depth trees).map Visit.register =
      (forestWalk other? level trees).map Visit.register
  | [] => by rw [forestWalk, forestWalk]
  | tree :: rest => by
      rw [forestWalk, forestWalk, List.map_append, List.map_append,
        walk_map_register above? other? depth level tree,
        forestWalk_map_register above? other? depth level rest]

end

theorem map_register_forestWalk (above? : Option Register) (depth : Nat)
    (trees : List RegisterTree) :
    (forestWalk above? depth trees).map Visit.register = trees.flatMap registers := by
  rw [forestWalk_map_register above? none depth 0, forestWalk_eq, List.map_flatMap]
  rfl

theorem registers_node (register : Register) (parts : List RegisterTree) :
    (node register parts).registers = register :: parts.flatMap registers := by
  rw [registers, walk, List.map_cons, map_register_forestWalk]
  rfl

/-! ## Drawings -/

/-- A line of a drawing shows the register of a step, behind as many columns as
its level needs. -/
def Draws (line : String) (visit : Visit) : Prop :=
  ∃ margin : String, margin.length = 4 * (visit.depth + 1) ∧
    line = margin ++ visit.register.description

/-- Both branch marks are as wide as both margins beside a branch. -/
theorem length_mark (last : Bool) : (if last then "└── " else "├── ").length = 4 := by
  cases last <;> decide

theorem length_rule (last : Bool) : (if last then "    " else "│   ").length = 4 := by
  cases last <;> decide

mutual

/-- The lines of a tree show the steps of the walk through it, in order. -/
theorem lines_draw (margin : String) (last : Bool) (above? : Option Register) (depth : Nat)
    (indented : margin.length = 4 * depth) :
    ∀ tree : RegisterTree,
      List.Forall₂ Draws (tree.lines margin last) (tree.walk above? depth)
  | node register parts => by
      rw [lines, walk]
      refine .cons ⟨margin ++ if last then "└── " else "├── ", ?_, rfl⟩ ?_
      · rw [String.length_append, indented, length_mark, Nat.mul_succ]
      · apply forestLines_draw
        rw [String.length_append, indented, length_rule, Nat.mul_succ]

theorem forestLines_draw (margin : String) (above? : Option Register) (depth : Nat)
    (indented : margin.length = 4 * depth) :
    ∀ trees : List RegisterTree,
      List.Forall₂ Draws (forestLines margin trees) (forestWalk above? depth trees)
  | [] => by
      rw [forestLines, forestWalk]
      exact .nil
  | tree :: rest => by
      rw [forestLines, forestWalk]
      exact List.rel_append (lines_draw margin rest.isEmpty above? depth indented tree)
        (forestLines_draw margin above? depth indented rest)

end

/-! ## Complete trees -/

/-- A tree that goes on below every register with all direct parts that the
register has in a set, in the order of the set. -/
inductive Complete (set : RegisterSet) : RegisterTree → Prop where
  | node {register : Register} {parts : List RegisterTree}
      (below : parts.map RegisterTree.register = set.children (some register))
      (deeper : ∀ part ∈ parts, Complete set part) : Complete set (node register parts)

end RegisterTree

namespace RegisterSet

variable {set : RegisterSet}

theorem children_eq (parent? : Option Register) :
    set.children parent? = set.registers.filter fun register => register.parent? = parent? := by
  refine List.filter_congr fun register _ => ?_
  rw [Bool.eq_iff_iff, beq_iff_eq, decide_eq_true_eq]

theorem mem_children_iff {register : Register} {parent? : Option Register} :
    register ∈ set.children parent? ↔
      register ∈ set.registers ∧ register.parent? = parent? := by
  rw [children_eq, List.mem_filter, decide_eq_true_eq]

/-- Trees side by side: their tops are all registers of a set with one
parent, and each of them is complete. -/
structure Level (set : RegisterSet) (above? : Option Register) (trees : List RegisterTree) :
    Prop where
  tops : trees.map RegisterTree.register = set.children above?
  complete : ∀ tree ∈ trees, tree.Complete set

namespace Level

variable {above? : Option Register} {trees : List RegisterTree}

theorem top (level : set.Level above? trees) {tree : RegisterTree} (member : tree ∈ trees) :
    tree.register ∈ set.registers ∧ tree.register.parent? = above? := by
  rw [← mem_children_iff, ← level.tops]
  exact List.mem_map_of_mem member

theorem exists_tree (level : set.Level above? trees) {register : Register}
    (member : register ∈ set.registers) (above : register.parent? = above?) :
    ∃ tree ∈ trees, tree.register = register := by
  rw [← List.mem_map, level.tops]
  exact mem_children_iff.mpr ⟨member, above⟩

/-- Trees side by side share no register, since no register has two of their
tops around it. -/
theorem nodup (level : set.Level above? trees) (distinct : set.registers.Nodup)
    (each : ∀ tree ∈ trees, tree.registers.Nodup)
    (inside : ∀ tree ∈ trees, ∀ other ∈ tree.registers, tree.register ∈ other.hierarchy) :
    (trees.flatMap RegisterTree.registers).Nodup := by
  have tops : (trees.map RegisterTree.register).Nodup := by
    rw [level.tops]
    exact distinct.filter _
  refine List.nodup_flatMap.mpr ⟨each, ?_⟩
  refine (List.pairwise_map.mp tops).imp_of_mem ?_
  intro first second firstMember secondMember different other inFirst inSecond
  apply different
  apply Register.eq_of_mem_hierarchy_of_parent?_eq
    (inside first firstMember other inFirst) (inside second secondMember other inSecond)
  rw [(level.top firstMember).2, (level.top secondMember).2]

end Level

end RegisterSet

namespace RegisterTree

namespace Complete

variable {set : RegisterSet} {tree : RegisterTree}

/-- Induction over complete trees, with the parts of a tree as one level. -/
@[induction_eliminator] theorem levelRec {motive : ∀ tree, Complete set tree → Prop}
    (node : ∀ {register : Register} {parts : List RegisterTree}
      (level : set.Level (some register) parts)
      (_ : ∀ part (member : part ∈ parts), motive part (level.complete part member)),
      motive (.node register parts) (.node level.tops level.complete))
    {tree : RegisterTree} (complete : Complete set tree) : motive tree complete := by
  refine Complete.rec ?_ complete
  intro register parts below deeper induction
  exact node ⟨below, deeper⟩ induction

theorem level (complete : tree.Complete set) : set.Level (some tree.register) tree.parts := by
  cases complete with
  | node below deeper => exact ⟨below, deeper⟩

/-- A complete tree holds parts of its top only. -/
theorem register_mem_hierarchy (complete : tree.Complete set) :
    ∀ other ∈ tree.registers, tree.register ∈ other.hierarchy := by
  induction complete with
  | @node register parts level induction =>
      intro other member
      rw [registers_node, List.mem_cons, List.mem_flatMap] at member
      rcases member with rfl | ⟨part, partMember, otherMember⟩
      · exact other.self_mem_hierarchy
      · refine Register.mem_hierarchy_trans ?_ (induction part partMember other otherMember)
        rw [Register.hierarchy_of_parent? (level.top partMember).2]
        exact List.mem_cons_of_mem _ register.self_mem_hierarchy

theorem registers_subset (complete : tree.Complete set) (top : tree.register ∈ set.registers) :
    tree.registers ⊆ set.registers := by
  induction complete with
  | @node register parts level induction =>
      intro other member
      rw [registers_node, List.mem_cons, List.mem_flatMap] at member
      rcases member with rfl | ⟨part, partMember, otherMember⟩
      · exact top
      · exact induction part partMember (level.top partMember).1 otherMember

/-- A complete tree holds every register of the set that is a part of its top,
since the set has all that lies between. -/
theorem mem_registers (complete : tree.Complete set) (closed : Register.Closed set.registers)
    {other : Register} (member : other ∈ set.registers)
    (around : tree.register ∈ other.hierarchy) : other ∈ tree.registers := by
  induction complete with
  | @node register parts level induction =>
      rw [registers_node, List.mem_cons, List.mem_flatMap]
      -- The way down starts with the part in between, which has a tree of its own.
      rcases Register.exists_part_of_mem_hierarchy around with same | ⟨between, inside, above⟩
      · exact .inl same.symm
      · obtain ⟨part, partMember, same⟩ :=
          level.exists_tree (closed.hierarchy_subset member inside) above
        exact .inr ⟨part, partMember, induction part partMember (same ▸ inside)⟩

theorem nodup (complete : tree.Complete set) (distinct : set.registers.Nodup) :
    tree.registers.Nodup := by
  induction complete with
  | @node register parts level induction =>
      rw [registers_node, List.nodup_cons]
      refine ⟨fun member => ?_, level.nodup distinct induction fun part partMember =>
        (level.complete part partMember).register_mem_hierarchy⟩
      -- A part that holds the top would have to be around it.
      obtain ⟨part, partMember, inside⟩ := List.mem_flatMap.mp member
      have longer := Register.length_hierarchy_le_of_mem
        ((level.complete part partMember).register_mem_hierarchy register inside)
      rw [Register.length_hierarchy_of_parent? (level.top partMember).2] at longer
      omega

/-- A complete tree holds exactly the registers of the set that its top
contains, each once. -/
theorem registers_perm (complete : tree.Complete set) (distinct : set.registers.Nodup)
    (closed : Register.Closed set.registers) (top : tree.register ∈ set.registers) :
    tree.registers.Perm
      (set.registers.filter fun register => tree.register.contains register) := by
  refine (List.perm_ext_iff_of_nodup (complete.nodup distinct) (distinct.filter _)).mpr ?_
  intro other
  rw [List.mem_filter, Register.contains_iff]
  exact ⟨fun member => ⟨complete.registers_subset top member,
    complete.register_mem_hierarchy other member⟩,
    fun ⟨member, around⟩ => complete.mem_registers closed member around⟩

end Complete

/-- A step of a walk through a set stands where it should: below its own
parent, as deep as its hierarchy is long, before a complete tree. -/
structure Visit.Placed (set : RegisterSet) (visit : Visit) : Prop where
  member : visit.register ∈ set.registers
  above : visit.above? = visit.register.parent?
  depth : visit.depth + 1 = visit.register.hierarchy.length
  complete : visit.tree.Complete set

theorem Complete.walk_placed {set : RegisterSet} {tree : RegisterTree}
    (complete : tree.Complete set) {above? : Option Register} {depth : Nat}
    (member : tree.register ∈ set.registers) (above : tree.register.parent? = above?)
    (deep : tree.register.hierarchy.length = depth + 1) :
    ∀ visit ∈ tree.walk above? depth, visit.Placed set := by
  induction complete generalizing above? depth with
  | @node register parts level induction =>
      intro visit visited
      rw [walk, List.mem_cons, forestWalk_eq, List.mem_flatMap] at visited
      rcases visited with rfl | ⟨part, partMember, visited⟩
      · exact ⟨member, above.symm, deep.symm, .node level.tops level.complete⟩
      · obtain ⟨partListed, partAbove⟩ := level.top partMember
        refine induction part partMember partListed partAbove ?_ visit visited
        rw [Register.length_hierarchy_of_parent? partAbove]
        exact congrArg (· + 1) deep

end RegisterTree

namespace RegisterSet

open RegisterTree

/-! ## The forest of a set -/

/-- A hierarchy within a set is no longer than the set. -/
theorem length_hierarchy_le {set : RegisterSet} {register : Register}
    (inside : register.hierarchy ⊆ set.registers) :
    register.hierarchy.length ≤ set.registers.length :=
  (List.subperm_of_subset register.hierarchy_nodup inside).length_le

theorem hierarchy_subset_of_mem_children {set : RegisterSet} {register part : Register}
    (inside : register.hierarchy ⊆ set.registers)
    (child : part ∈ set.children (some register)) : part.hierarchy ⊆ set.registers := by
  obtain ⟨member, above⟩ := mem_children_iff.mp child
  rw [Register.hierarchy_of_parent? above]
  exact List.cons_subset.mpr ⟨member, inside⟩

@[simp] theorem branch_register (set : RegisterSet) (levels : Nat) (register : Register) :
    (set.branch levels register).register = register := by
  cases levels <;> rfl

/-- Without a level left, there is no part left either. -/
theorem children_eq_nil {set : RegisterSet} {register : Register}
    (inside : register.hierarchy ⊆ set.registers)
    (full : set.registers.length ≤ register.hierarchy.length) :
    set.children (some register) = [] := by
  refine List.eq_nil_iff_forall_not_mem.mpr fun part child => ?_
  have longer := length_hierarchy_le (hierarchy_subset_of_mem_children inside child)
  rw [Register.length_hierarchy_of_parent? (mem_children_iff.mp child).2] at longer
  omega

theorem branch_complete {set : RegisterSet} {levels : Nat} {register : Register}
    (inside : register.hierarchy ⊆ set.registers)
    (enough : set.registers.length ≤ levels + register.hierarchy.length) :
    (set.branch levels register).Complete set := by
  -- Each level down takes one from the levels and adds one to the hierarchy.
  induction levels generalizing register with
  | zero =>
      have none := children_eq_nil inside (by omega)
      exact .node (by rw [none, List.map_nil]) (by simp)
  | succ levels induction =>
      refine .node ?_ ?_
      · rw [List.map_map]
        exact (List.map_congr_left fun part _ => set.branch_register levels part).trans
          (List.map_id' _)
      · intro tree member
        obtain ⟨part, child, rfl⟩ := List.mem_map.mp member
        refine induction (hierarchy_subset_of_mem_children inside child) ?_
        rw [Register.length_hierarchy_of_parent? (mem_children_iff.mp child).2]
        omega

/-- Levels beyond those that are needed change nothing. -/
theorem branch_add {set : RegisterSet} {levels : Nat} {register : Register}
    (inside : register.hierarchy ⊆ set.registers)
    (enough : set.registers.length ≤ levels + register.hierarchy.length) (more : Nat) :
    set.branch (levels + more) register = set.branch levels register := by
  induction levels generalizing register with
  | zero =>
      have none := children_eq_nil inside (by omega)
      cases more with
      | zero => rfl
      | succ more => rw [Nat.zero_add, branch, branch, none, List.map_nil]
  | succ levels induction =>
      rw [Nat.succ_add, branch, branch]
      congr 1
      refine List.map_congr_left fun part child => ?_
      refine induction (hierarchy_subset_of_mem_children inside child) ?_
      rw [Register.length_hierarchy_of_parent? (mem_children_iff.mp child).2]
      omega

section Roots

variable (set : RegisterSet)

theorem hierarchy_of_mem_roots {set : RegisterSet} {root : Register} (member : root ∈ set.roots) :
    root.hierarchy = [root] ∧ root.hierarchy ⊆ set.registers := by
  obtain ⟨listed, parentless⟩ := mem_children_iff.mp member
  rw [Register.hierarchy_of_parentless parentless]
  exact ⟨rfl, by simpa using listed⟩

theorem forest_level : set.Level none set.forest where
  tops := by
    rw [forest, List.map_map]
    exact (List.map_congr_left fun root _ => set.branch_register _ root).trans (List.map_id' _)
  complete := by
    intro tree member
    obtain ⟨root, rootMember, rfl⟩ := List.mem_map.mp member
    exact branch_complete (hierarchy_of_mem_roots rootMember).2 (by omega)

theorem forest_eq {levels : Nat} (enough : set.registers.length ≤ levels) :
    set.roots.map (set.branch levels) = set.forest := by
  refine List.map_congr_left fun root rootMember => ?_
  obtain ⟨more, rfl⟩ := Nat.exists_eq_add_of_le enough
  exact branch_add (hierarchy_of_mem_roots rootMember).2 (by omega) more

end Roots

def walk (set : RegisterSet) : List Visit :=
  forestWalk none 0 set.forest

theorem walk_placed (set : RegisterSet) : ∀ visit ∈ set.walk, visit.Placed set := by
  intro visit visited
  rw [walk, forestWalk_eq, List.mem_flatMap] at visited
  obtain ⟨tree, member, visited⟩ := visited
  have level := set.forest_level
  obtain ⟨listed, parentless⟩ := level.top member
  refine (level.complete tree member).walk_placed listed parentless ?_ visit visited
  rw [Register.hierarchy_of_parentless parentless]
  rfl

/-- A walk through a closed set of distinct registers comes to each of them
once. -/
theorem walk_perm {set : RegisterSet} (distinct : set.registers.Nodup)
    (closed : Register.Closed set.registers) :
    (set.walk.map Visit.register).Perm set.registers := by
  have level := set.forest_level
  rw [walk, map_register_forestWalk]
  have nodup := level.nodup distinct (fun tree member => (level.complete tree member).nodup distinct)
    fun tree member => (level.complete tree member).register_mem_hierarchy
  refine (List.perm_ext_iff_of_nodup nodup distinct).mpr fun register => ?_
  rw [List.mem_flatMap]
  constructor
  · rintro ⟨tree, member, inside⟩
    exact (level.complete tree member).registers_subset (level.top member).1 inside
  · intro member
    have around := register.outermost_mem_hierarchy
    obtain ⟨tree, treeMember, same⟩ :=
      level.exists_tree (closed.hierarchy_subset member around) register.outermost_parent?
    exact ⟨tree, treeMember,
      (level.complete tree treeMember).mem_registers closed member (same ▸ around)⟩

/-- The forest of a set displays the listed registers.  The walk through it
ends by itself and comes to each of them once, below its own parent and as
deep as its hierarchy is long.  Registers with one parent keep their order, and
a branch holds all that the register at its top contains.  The lines of the
drawing show the steps of the walk. -/
structure Displays (set : RegisterSet) (registers : List Register) : Prop where
  ends : ∀ levels, registers.length ≤ levels → set.roots.map (set.branch levels) = set.forest
  once : (set.walk.map Visit.register).Perm registers
  above : ∀ visit ∈ set.walk, visit.above? = visit.register.parent?
  depth : ∀ visit ∈ set.walk, visit.depth + 1 = visit.register.hierarchy.length
  tops : set.forest.map RegisterTree.register =
    registers.filter fun register => register.parent? = none
  siblings : ∀ visit ∈ set.walk, visit.tree.parts.map RegisterTree.register =
    registers.filter fun register => register.parent? = some visit.register
  branch : ∀ visit ∈ set.walk,
    visit.tree.registers.Perm
      (registers.filter fun register => visit.register.contains register)
  drawn : List.Forall₂ Draws (forestLines "" set.forest) set.walk

/-- The forest of a set displays the registers that the set was made of, in
whatever order they were listed. -/
theorem ofList_displays (mode : Mode) (registers : List Register) (distinct : registers.Nodup)
    (closed : ∀ register ∈ registers, ∀ parent ∈ register.parent?, parent ∈ registers) :
    (ofList mode registers).Displays registers := by
  have listed := ofList_registers mode registers
  have placed := (ofList mode registers).walk_placed
  rw [← listed] at distinct closed
  refine ⟨?_, ?_, fun visit visited => (placed visit visited).above,
    fun visit visited => (placed visit visited).depth, ?_, ?_, ?_,
    forestLines_draw "" none 0 rfl _⟩
  · intro levels enough
    exact forest_eq _ (by rwa [listed])
  · have perm := walk_perm distinct closed
    rwa [listed] at perm
  · rw [(forest_level _).tops, children_eq, listed]
  · intro visit visited
    rw [(placed visit visited).complete.level.tops, children_eq, listed]
    rfl
  · intro visit visited
    have perm := (placed visit visited).complete.registers_perm distinct closed
      (placed visit visited).member
    rwa [listed] at perm

/-- A list in which parts stand before what they are parts of, with two
registers that differ in nothing but their serial numbers. -/
theorem ofList_displays_parts_first :
    let rax := Register.root 0 "RAX" .quadword []
    let eax := Register.part 1 "EAX" .doubleword [] rax
    let ax := Register.part 2 "AX" .word ["AX_ALIAS"] eax
    let al := Register.part 3 "AL" .byte [] ax
    let twin := Register.part 4 "AX" .word ["AX_ALIAS"] eax
    let cs := Register.root 5 "CS" .word []
    let set := ofList .bits64 [al, cs, twin, ax, eax, rax]
    set.Displays [al, cs, twin, ax, eax, rax] ∧
      set.walk.map (fun visit => (visit.register, visit.depth)) =
        [(cs, 0), (rax, 0), (eax, 1), (twin, 2), (ax, 2), (al, 3)] := by
  intro rax eax ax al twin cs set
  exact ⟨ofList_displays .bits64 [al, cs, twin, ax, eax, rax] (by decide) (by decide), by decide⟩

end RegisterSet

end AsmListing
