import AsmListing.Proofs.Result
import AsmListing.Register.Set
import Mathlib.Data.List.Induction
import Mathlib.Data.List.Nodup

/-!
# The index of a register set

A register set is built by entering registers one after the other.  The keys
come out in the order of their first occurrence, and every key finds the last
register that bears it.
-/

namespace AsmListing

/-! ## First occurrences -/

section FirstOccurrences

variable {Item : Type} [DecidableEq Item]

theorem eraseDups_concat (items : List Item) (item : Item) :
    (items ++ [item]).eraseDups =
      if item ∈ items then items.eraseDups else items.eraseDups ++ [item] := by
  rw [List.eraseDups_append]
  by_cases known : item ∈ items
  · simp [List.removeAll, known]
  · simp [List.removeAll, known, List.eraseDups_cons]

theorem nodup_eraseDups (items : List Item) : items.eraseDups.Nodup := by
  induction items using List.reverseRecOn with
  | nil => exact List.nodup_nil
  | append_singleton items item induction =>
      rw [eraseDups_concat]
      by_cases known : item ∈ items
      · rw [if_pos known]
        exact induction
      · rw [if_neg known, ← List.concat_eq_append]
        rw [← List.mem_eraseDups] at known
        exact induction.concat known

end FirstOccurrences

namespace RegisterSet

/-! ## Binding keys -/

/-- The keys that were bound, as often and in the order they were bound. -/
def boundKeys (set : RegisterSet) : List String :=
  (set.positions.map Prod.fst).reverse

/-- What holds of a register set at any time while it is built. -/
structure Coherent (set : RegisterSet) : Prop where
  keys : set.keys = set.boundKeys.eraseDups
  nodup : set.keys.Nodup
  inRange : ∀ entry ∈ set.positions, entry.2 < set.registers.length

/-- A key has a position exactly if it was bound. -/
theorem position?_isSome_iff (set : RegisterSet) (key : String) :
    (set.position? key).isSome = true ↔ key ∈ set.boundKeys := by
  simp [position?, boundKeys, List.lookup_isSome_iff]

theorem Coherent.mem_keys {set : RegisterSet} (coherent : set.Coherent) (key : String) :
    key ∈ set.keys ↔ key ∈ set.boundKeys := by
  rw [coherent.keys, List.mem_eraseDups]

section Bind

variable (position : Nat) (set : RegisterSet) (key : String)

@[simp] theorem bind_boundKeys : (bind position set key).boundKeys = set.boundKeys ++ [key] := by
  simp [bind, boundKeys]

/-- A key is added to the keys the first time it is bound. -/
theorem bind_keys :
    (bind position set key).keys =
      if key ∈ set.boundKeys then set.keys else set.keys ++ [key] := by
  simp only [bind, position?_isSome_iff]

/-- The binding made last is the one that counts. -/
theorem bind_position? (other : String) :
    (bind position set key).position? other =
      if other = key then some position else set.position? other := by
  rw [position?, bind, lookup_cons_eq_ite, position?]

end Bind

theorem Coherent.bind_keys {set : RegisterSet} (coherent : set.Coherent) (position : Nat)
    (key : String) :
    (bind position set key).keys = (bind position set key).boundKeys.eraseDups := by
  rw [RegisterSet.bind_keys, bind_boundKeys, eraseDups_concat, ← coherent.keys]

theorem Coherent.bind {set : RegisterSet} (coherent : set.Coherent) {position : Nat}
    (bound : position < set.registers.length) (key : String) :
    (RegisterSet.bind position set key).Coherent where
  keys := coherent.bind_keys position key
  nodup := by
    rw [coherent.bind_keys]
    exact nodup_eraseDups _
  inRange := by
    intro entry member
    rcases List.mem_cons.mp member with rfl | member
    · exact bound
    · exact coherent.inRange entry member

/-- The second set is the first one after all the given keys were bound to
one position. -/
structure Bound (before : RegisterSet) (position : Nat) (names : List String)
    (after : RegisterSet) : Prop where
  mode : after.mode = before.mode
  registers : after.registers = before.registers
  boundKeys : after.boundKeys = before.boundKeys ++ names
  position? : ∀ key, after.position? key =
    if key ∈ names then some position else before.position? key
  coherent : before.Coherent → position < before.registers.length → after.Coherent

theorem foldl_bind_bound (position : Nat) (set : RegisterSet) (names : List String) :
    Bound set position names (names.foldl (bind position) set) := by
  induction names generalizing set with
  | nil => exact ⟨rfl, rfl, by simp, by simp, fun coherent _ => coherent⟩
  | cons name names induction =>
      have rest := induction (bind position set name)
      rw [List.foldl_cons]
      refine ⟨rest.mode, rest.registers, ?_, ?_, ?_⟩
      · rw [rest.boundKeys, bind_boundKeys, List.append_assoc, List.singleton_append]
      · intro key
        rw [rest.position?, bind_position?]
        by_cases later : key ∈ names
        · simp [later]
        · by_cases same : key = name
          · simp [same]
          · simp [later, same]
      · intro coherent bound
        exact rest.coherent (coherent.bind bound name) bound

/-! ## Entering registers -/

section Enter

variable (set : RegisterSet) (register : Register)

theorem enter_bound :
    Bound { set with registers := set.registers ++ [register] } set.registers.length
      register.keys (set.enter register) :=
  foldl_bind_bound set.registers.length _ register.keys

@[simp] theorem enter_mode : (set.enter register).mode = set.mode :=
  (set.enter_bound register).mode

@[simp] theorem enter_registers :
    (set.enter register).registers = set.registers ++ [register] :=
  (set.enter_bound register).registers

@[simp] theorem enter_boundKeys :
    (set.enter register).boundKeys = set.boundKeys ++ register.keys :=
  (set.enter_bound register).boundKeys

/-- A register takes all its keys from the registers that had them. -/
theorem enter_position? (key : String) :
    (set.enter register).position? key =
      if key ∈ register.keys then some set.registers.length else set.position? key :=
  (set.enter_bound register).position? key

theorem Coherent.enter {set : RegisterSet} (coherent : set.Coherent) (register : Register) :
    (set.enter register).Coherent := by
  apply (set.enter_bound register).coherent
  · refine ⟨coherent.keys, coherent.nodup, ?_⟩
    intro entry member
    have bound := coherent.inRange entry member
    rw [List.length_append]
    omega
  · simp

end Enter

/-! ## The last bearer of a key -/

/-- The register at a position bears a key, and none behind it does. -/
structure LastBearer (registers : List Register) (key : String) (position : Nat)
    (register : Register) : Prop where
  listed : registers[position]? = some register
  bears : key ∈ register.keys
  last : ∀ later other, position < later → registers[later]? = some other →
    key ∉ other.keys

/-- One more register is the last bearer of its own keys and leaves the last
bearers of all others. -/
theorem lastBearer_concat_iff (registers : List Register) (latest : Register) (key : String)
    (position : Nat) (register : Register) :
    LastBearer (registers ++ [latest]) key position register ↔
      if key ∈ latest.keys then position = registers.length ∧ register = latest
      else LastBearer registers key position register := by
  have atEnd : (registers ++ [latest])[registers.length]? = some latest := by simp
  have inFront : ∀ place other, (registers ++ [latest])[place]? = some other →
      registers[place]? = some other ∨ (place = registers.length ∧ other = latest) := by
    intro place other found
    rw [List.getElem?_append] at found
    split at found
    · exact .inl found
    · rw [List.getElem?_singleton] at found
      split at found
      · exact .inr ⟨by omega, by simpa using found.symm⟩
      · simp at found
  by_cases taken : key ∈ latest.keys
  · rw [if_pos taken]
    constructor
    · rintro ⟨listed, bears, last⟩
      rcases inFront position register listed with earlier | final
      · have bound : position < registers.length :=
          (List.getElem?_eq_some_iff.mp earlier).1
        exact absurd taken (last registers.length latest bound atEnd)
      · exact final
    · rintro ⟨rfl, rfl⟩
      refine ⟨atEnd, taken, ?_⟩
      intro later other behind found
      have bound := (List.getElem?_eq_some_iff.mp found).1
      rw [List.length_append, List.length_singleton] at bound
      omega
  · rw [if_neg taken]
    constructor
    · rintro ⟨listed, bears, last⟩
      rcases inFront position register listed with earlier | ⟨rfl, rfl⟩
      · refine ⟨earlier, bears, ?_⟩
        intro later other behind found
        have bound := (List.getElem?_eq_some_iff.mp found).1
        apply last later other behind
        rw [List.getElem?_append_left bound, found]
      · exact absurd bears taken
    · rintro ⟨listed, bears, last⟩
      have bound := (List.getElem?_eq_some_iff.mp listed).1
      refine ⟨by rw [List.getElem?_append_left bound, listed], bears, ?_⟩
      intro later other behind found
      rcases inFront later other found with earlier | ⟨rfl, rfl⟩
      · exact last later other behind earlier
      · exact taken

/-! ## The set of a list -/

section OfList

variable (mode : Mode) (registers : List Register)

theorem ofList_concat (register : Register) :
    ofList mode (registers ++ [register]) = (ofList mode registers).enter register := by
  simp [ofList]

@[simp] theorem ofList_mode : (ofList mode registers).mode = mode := by
  induction registers using List.reverseRecOn with
  | nil => rfl
  | append_singleton registers register induction => rw [ofList_concat, enter_mode, induction]

@[simp] theorem ofList_registers : (ofList mode registers).registers = registers := by
  induction registers using List.reverseRecOn with
  | nil => rfl
  | append_singleton registers register induction =>
      rw [ofList_concat, enter_registers, induction]

@[simp] theorem ofList_boundKeys :
    (ofList mode registers).boundKeys = registers.flatMap Register.keys := by
  induction registers using List.reverseRecOn with
  | nil => rfl
  | append_singleton registers register induction =>
      rw [ofList_concat, enter_boundKeys, induction, List.flatMap_append,
        List.flatMap_singleton]

theorem ofList_coherent : (ofList mode registers).Coherent := by
  induction registers using List.reverseRecOn with
  | nil => exact ⟨rfl, List.nodup_nil, by simp [ofList, empty]⟩
  | append_singleton registers register induction =>
      rw [ofList_concat]
      exact induction.enter register

/-- A key stands for the position of its last bearer. -/
theorem ofList_position?_iff (key : String) (position : Nat) :
    (ofList mode registers).position? key = some position ↔
      ∃ register, LastBearer registers key position register := by
  induction registers using List.reverseRecOn with
  | nil =>
      constructor
      · intro found
        simp [ofList, empty, position?] at found
      · rintro ⟨register, bearer⟩
        simpa using bearer.listed
  | append_singleton registers latest induction =>
      rw [ofList_concat, enter_position?, ofList_registers]
      by_cases taken : key ∈ latest.keys
      · simp [lastBearer_concat_iff, taken, eq_comm]
      · simp [lastBearer_concat_iff, taken, induction]

end OfList

/-! ## Looking up -/

section LookUp

variable {set : RegisterSet}

/-- A look-up either finds no position and fails, or finds a position that
holds a register. -/
theorem Coherent.index_cases (coherent : set.Coherent) (key : String) :
    (set.position? key = none ∧ set.index key = .error ⟨key, set.mode⟩) ∨
    ∃ position register, set.position? key = some position ∧
      set.registers[position]? = some register ∧ set.index key = .ok register := by
  cases found : set.position? key with
  | none => exact .inl ⟨rfl, by simp [index, find?, found]⟩
  | some position =>
      obtain ⟨front, back, split, _⟩ := List.lookup_eq_some_iff.mp found
      have bound : position < set.registers.length :=
        coherent.inRange (key, position) (by simp [split])
      have listed := List.getElem?_eq_getElem bound
      exact .inr ⟨position, set.registers[position], rfl, listed,
        by simp [index, find?, found, listed]⟩

theorem Coherent.exists_index_iff (coherent : set.Coherent) (key : String) :
    (∃ register, set.index key = .ok register) ↔ key ∈ set.boundKeys := by
  rw [← position?_isSome_iff]
  rcases coherent.index_cases key with ⟨missing, failed⟩ | ⟨position, register, found, _, indexed⟩
  · simp [missing, failed]
  · simp [found, indexed]

theorem Coherent.get_eq (coherent : set.Coherent) (name : String) (default? : Option Register) :
    set.get name default? =
      match set.index (Text.upper name) with
      | .ok register => some register
      | .error _ => default? := by
  rcases coherent.index_cases (Text.upper name) with
    ⟨missing, failed⟩ | ⟨position, register, found, listed, indexed⟩
  · simp [get, missing, failed]
  · simp [get, found, listed, indexed]

theorem Coherent.contains_iff (coherent : set.Coherent) (name : String) :
    set.contains name = true ↔ ∃ register, set.index (Text.upper name) = .ok register := by
  rw [coherent.exists_index_iff, ← position?_isSome_iff, contains]

/-- Keys that can all be looked up are paired with what the look-up finds. -/
theorem filterMap_find?_eq (set : RegisterSet) (keys : List String)
    (known : ∀ key ∈ keys, ∃ register, set.index key = .ok register) :
    (keys.filterMap fun key => (set.find? key).map fun register => (key, register)).map
        (fun entry => (entry.1, Except.ok entry.2)) =
      keys.map fun key => (key, set.index key) := by
  induction keys with
  | nil => rfl
  | cons key keys induction =>
      obtain ⟨register, indexed⟩ := known key List.mem_cons_self
      have rest := induction fun other member => known other (List.mem_cons_of_mem key member)
      cases found : set.find? key with
      | none => simp [index, found] at indexed
      | some other =>
          have looked : set.index key = .ok other := by simp [index, found]
          simp [found, looked, rest]

theorem Coherent.entries_eq (coherent : set.Coherent) :
    set.entries.map (fun entry => (entry.1, Except.ok entry.2)) =
      set.keys.map fun key => (key, set.index key) := by
  apply filterMap_find?_eq
  intro key member
  exact (coherent.exists_index_iff key).mpr ((coherent.mem_keys key).mp member)

end LookUp

/-- A look-up in the set of a list finds the last bearer of the key. -/
theorem ofList_index_eq_ok_iff (mode : Mode) (registers : List Register) (key : String)
    (register : Register) :
    (ofList mode registers).index key = .ok register ↔
      ∃ position, LastBearer registers key position register := by
  have cases := (ofList_coherent mode registers).index_cases key
  rw [ofList_registers] at cases
  constructor
  · intro success
    rcases cases with ⟨_, failed⟩ | ⟨position, other, found, listed, indexed⟩
    · simp [failed] at success
    · obtain ⟨bearing, bearer⟩ := (ofList_position?_iff mode registers key position).mp found
      have same : bearing = register := by
        have listedSame : some bearing = some other := bearer.listed.symm.trans listed
        rw [indexed] at success
        injection listedSame with first
        injection success with second
        exact first.trans second
      exact ⟨position, same ▸ bearer⟩
  · rintro ⟨position, bearer⟩
    have standing := (ofList_position?_iff mode registers key position).mpr ⟨register, bearer⟩
    rcases cases with ⟨missing, _⟩ | ⟨place, other, found, listed, indexed⟩
    · simp [missing] at standing
    · rw [found] at standing
      injection standing with samePlace
      rw [samePlace, bearer.listed] at listed
      injection listed with sameRegister
      rw [indexed, sameRegister]

/-- The set indexes the listed registers: its keys are their names and aliases
in the order of first occurrence, each of them stands for its last bearer, and
all ways of asking agree with that. -/
structure Indexes (set : RegisterSet) (mode : Mode) (registers : List Register) : Prop where
  mode : set.mode = mode
  listed : set.registers = registers
  keys : set.keys = (registers.flatMap Register.keys).eraseDups
  nodup : set.keys.Nodup
  size : set.size = (registers.flatMap Register.keys).eraseDups.length
  inRange : ∀ entry ∈ set.positions, entry.2 < set.registers.length
  position : ∀ key position, set.position? key = some position ↔
    ∃ register, LastBearer registers key position register
  succeeds : ∀ key, (∃ register, set.index key = .ok register) ↔
    key ∈ registers.flatMap Register.keys
  last : ∀ key register, set.index key = .ok register ↔
    ∃ position, LastBearer registers key position register
  fails : ∀ key, set.index key = .error ⟨key, set.mode⟩ ↔
    key ∉ registers.flatMap Register.keys
  entries : set.entries.map (fun entry => (entry.1, Except.ok entry.2)) =
    set.keys.map fun key => (key, set.index key)
  get : ∀ name default?, set.get name default? =
    match set.index (Text.upper name) with
    | .ok register => some register
    | .error _ => default?
  contains : ∀ name, set.contains name = true ↔
    ∃ register, set.index (Text.upper name) = .ok register

/-- The set of any list of registers indexes that list, whatever names and
aliases its registers share. -/
theorem ofList_indexes (mode : Mode) (registers : List Register) :
    (ofList mode registers).Indexes mode registers := by
  have coherent := ofList_coherent mode registers
  have keys : (ofList mode registers).keys = (registers.flatMap Register.keys).eraseDups := by
    rw [coherent.keys, ofList_boundKeys]
  have succeeds : ∀ key, (∃ register, (ofList mode registers).index key = .ok register) ↔
      key ∈ registers.flatMap Register.keys := by
    intro key
    rw [coherent.exists_index_iff, ofList_boundKeys]
  refine ⟨ofList_mode mode registers, ofList_registers mode registers, keys, coherent.nodup,
    congrArg List.length keys, coherent.inRange, ofList_position?_iff mode registers, succeeds,
    ofList_index_eq_ok_iff mode registers, ?_, coherent.entries_eq, coherent.get_eq,
    coherent.contains_iff⟩
  intro key
  rw [← succeeds]
  rcases coherent.index_cases key with ⟨_, failed⟩ | ⟨position, register, _, _, indexed⟩
  · simp [failed]
  · simp [indexed]

end RegisterSet

end AsmListing
