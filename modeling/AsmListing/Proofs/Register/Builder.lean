import AsmListing.Proofs.Register.Forest
import AsmListing.Proofs.Register.Index
import AsmListing.Register.Catalog
import Mathlib.Data.List.Forall2

/-!
# Building registers from entries

An entry names its parent, and names can occur again.  The parent of an entry
is the most recent of the entries in front of it that bear the name.  Building
goes from entry to entry: it stops at the first one that has no register, and
otherwise leaves one register for each of them, with the parent in front of its
parts.
-/

namespace AsmListing

namespace Catalog

/-! ## The most recent item of a name -/

/-- An item bears a name at a place, and no item behind it does. -/
structure Latest {Item : Type} (nameOf : Item → String) (items : List Item) (name : String)
    (place : Nat) (item : Item) : Prop where
  listed : items[place]? = some item
  named : nameOf item = name
  last : ∀ later other, place < later → items[later]? = some other → nameOf other ≠ name

section Latest

variable {Item : Type} {nameOf : Item → String} {items : List Item} {name : String}

/-- The item in front is the most recent one exactly if no other bears the
name. -/
theorem latest_cons_iff {front item : Item} {place : Nat} :
    Latest nameOf (front :: items) name place item ↔
      (place = 0 ∧ front = item ∧ nameOf item = name ∧ ∀ other ∈ items, nameOf other ≠ name) ∨
      ∃ before, place = before + 1 ∧ Latest nameOf items name before item := by
  constructor
  · rintro ⟨listed, named, last⟩
    cases place with
    | zero =>
        refine .inl ⟨rfl, by simpa using listed, named, ?_⟩
        intro other member
        obtain ⟨later, bound, rfl⟩ := List.mem_iff_getElem.mp member
        exact last (later + 1) items[later] (by omega) (by simp)
    | succ before =>
        refine .inr ⟨before, rfl, listed, named, ?_⟩
        intro later other behind found
        exact last (later + 1) other (by omega) found
  · rintro (⟨rfl, rfl, named, absent⟩ | ⟨before, rfl, listed, named, last⟩)
    · refine ⟨rfl, named, ?_⟩
      intro later other behind found
      obtain ⟨earlier, rfl⟩ := Nat.exists_eq_add_of_lt behind
      exact absent other (List.mem_of_getElem? (by simpa using found))
    · refine ⟨listed, named, ?_⟩
      intro later other behind found
      cases later with
      | zero => omega
      | succ later => exact last later other (by omega) found

/-- A search from the end finds the most recent item of a name. -/
theorem find?_reverse_iff {item : Item} :
    (items.reverse.find? fun other => nameOf other == name) = some item ↔
      ∃ place, Latest nameOf items name place item := by
  induction items with
  | nil =>
      refine iff_of_false (by simp) ?_
      rintro ⟨place, latest⟩
      simpa using latest.listed
  | cons front items induction =>
      rw [List.reverse_cons, List.find?_append]
      simp only [latest_cons_iff]
      cases found : items.reverse.find? fun other => nameOf other == name with
      | some other =>
          -- What is found behind the front keeps the front from being the latest.
          have member := List.mem_reverse.mp (List.mem_of_find?_eq_some found)
          have named : nameOf other = name := by simpa using List.find?_some found
          have taken : ¬ ∀ other ∈ items, nameOf other ≠ name :=
            fun absent => absent other member named
          rw [found] at induction
          simp [taken, induction]
      | none =>
          have absent : ∀ other ∈ items, nameOf other ≠ name := by simpa using found
          have missing : ¬ ∃ place, Latest nameOf items name place item := by
            rw [← induction, found]
            simp
          constructor
          · intro same
            have found : nameOf front = name ∧ front = item := by
              simpa [List.find?_singleton] using same
            exact ⟨0, .inl ⟨rfl, found.2, found.2 ▸ found.1, absent⟩⟩
          · rintro ⟨place, ⟨-, rfl, named, -⟩ | ⟨before, -, latest⟩⟩
            · simp [named]
            · exact absurd ⟨before, latest⟩ missing

theorem Latest.item_eq {first second : Nat} {item other : Item}
    (latest : Latest nameOf items name first item)
    (also : Latest nameOf items name second other) : item = other := by
  have found := find?_reverse_iff.mpr ⟨first, latest⟩
  rw [find?_reverse_iff.mpr ⟨second, also⟩] at found
  exact (Option.some.inj found).symm

end Latest

/-! ## Entries and their registers -/

def keysOf (entry : CatalogEntry) : List String :=
  entry.name :: entry.aliases.eraseDups

/-- A register is what an entry asks for, its parent apart. -/
structure Bears (register : Register) (entry : CatalogEntry) : Prop where
  keys : register.keys = keysOf entry
  size : (register.size : Int) = entry.size

theorem Bears.name {register : Register} {entry : CatalogEntry} (bears : Bears register entry) :
    register.name = entry.name := by
  have keys := bears.keys
  rw [Register.keys, keysOf, List.cons.injEq] at keys
  exact keys.1

theorem Bears.aliases {register : Register} {entry : CatalogEntry}
    (bears : Bears register entry) : register.aliases = entry.aliases.eraseDups := by
  have keys := bears.keys
  rw [Register.keys, keysOf, List.cons.injEq] at keys
  exact keys.2

theorem ofBits?_eq_some_iff {size : Int} {width : Width} :
    Width.ofBits? size = some width ↔ (width.bits : Int) = size := by
  constructor
  · intro found
    have test := List.find?_some found
    simpa using test
  · rintro rfl
    cases width <;> rfl

theorem ofBits?_eq_none_iff {size : Int} :
    Width.ofBits? size = none ↔ size ∉ ([8, 16, 32, 64] : List Int) := by
  unfold Width.ofBits?
  simp [Width.bits, @eq_comm Int size]

section Made

variable {registers : List Register} {entries : List CatalogEntry}

/-- The register at a place bears the entry there. -/
theorem exists_entry (made : List.Forall₂ Bears registers entries) {place : Nat}
    {register : Register} (listed : registers[place]? = some register) :
    ∃ entry, entries[place]? = some entry ∧ Bears register entry := by
  induction made generalizing place with
  | nil => simp at listed
  | cons bears made induction =>
      rename_i first entry _ _
      cases place with
      | zero =>
          have same : first = register := by simpa using listed
          exact ⟨entry, rfl, same ▸ bears⟩
      | succ place => exact induction listed

/-- The most recent register of a name is that of the most recent entry. -/
theorem Latest.exists_entry (made : List.Forall₂ Bears registers entries) {name : String}
    {place : Nat} {register : Register}
    (latest : Latest Register.name registers name place register) :
    ∃ entry, Latest CatalogEntry.name entries name place entry ∧ Bears register entry := by
  obtain ⟨entry, listed, bears⟩ := Catalog.exists_entry made latest.listed
  refine ⟨entry, ⟨listed, bears.name ▸ latest.named, ?_⟩, bears⟩
  intro later other behind found
  have bound : later < registers.length := by
    rw [made.length_eq]
    exact (List.getElem?_eq_some_iff.mp found).1
  obtain ⟨known, same, bearing⟩ := Catalog.exists_entry made (List.getElem?_eq_getElem bound)
  rw [found, Option.some.injEq] at same
  rw [same, ← bearing.name]
  exact latest.last later registers[later] behind (List.getElem?_eq_getElem bound)

theorem recent?_cases (made : List.Forall₂ Bears registers entries) (name : String) :
    (recent? name registers.reverse = none ∧ ∀ entry ∈ entries, entry.name ≠ name) ∨
    ∃ place parent whole, recent? name registers.reverse = some whole ∧
      registers[place]? = some whole ∧
      Latest CatalogEntry.name entries name place parent ∧ Bears whole parent := by
  cases found : recent? name registers.reverse with
  | none =>
      refine .inl ⟨rfl, ?_⟩
      intro entry member named
      obtain ⟨place, bound, rfl⟩ := List.mem_iff_getElem.mp member
      have reached : place < registers.length := by
        rw [made.length_eq]
        exact bound
      obtain ⟨other, listed, bears⟩ :=
        Catalog.exists_entry made (List.getElem?_eq_getElem reached)
      rw [List.getElem?_eq_getElem bound, Option.some.injEq] at listed
      have apart := List.find?_eq_none.mp found registers[place] (by simp)
      simp [bears.name, ← listed, named] at apart
  | some whole =>
      obtain ⟨place, latest⟩ := find?_reverse_iff.mp found
      obtain ⟨parent, resolved, bears⟩ := latest.exists_entry made
      exact .inr ⟨place, parent, whole, rfl, latest.listed, resolved, bears⟩

end Made

/-! ## One entry -/

/-- What keeps an entry behind earlier ones from having a register: its size, a
parent that none of them bears the name of, or a parent that is not wider. -/
inductive Faulty (earlier : List CatalogEntry) (entry : CatalogEntry) : Prop where
  | size (odd : entry.size ∉ ([8, 16, 32, 64] : List Int))
  | undefined (named : entry.parent ≠ "") (absent : ∀ other ∈ earlier, other.name ≠ entry.parent)
  | narrow (named : entry.parent ≠ "") (place : Nat) (parent : CatalogEntry)
      (latest : Latest CatalogEntry.name earlier entry.parent place parent)
      (bounded : parent.size ≤ entry.size)

/-- A register has the parent that its entry asks for: none without a name, and
otherwise the register of the most recent entry of that name. -/
structure Descends (earlier : List CatalogEntry) (registers : List Register)
    (entry : CatalogEntry) (register : Register) : Prop where
  alone : entry.parent = "" → register.parent? = none
  within : entry.parent ≠ "" → ∃ place parent whole,
    Latest CatalogEntry.name earlier entry.parent place parent ∧
      registers[place]? = some whole ∧ register.parent? = some whole

/-- The register of an entry behind registers that are listed with the most
recent one first. -/
def buildOne (built : List Register) (serial : Nat) (entry : CatalogEntry) :
    Except CatalogError Register :=
  (parentOf entry built).bind fun parent? =>
    (Register.make serial entry.name entry.size entry.aliases parent?).mapError .register

/-- The registers of entries are built one after the other. -/
theorem buildAll_cons (built : List Register) (serial : Nat) (entry : CatalogEntry)
    (rest : List CatalogEntry) :
    buildAll built serial (entry :: rest) =
      (buildOne built serial entry).bind fun register =>
        buildAll (register :: built) (serial + 1) rest := by
  rw [buildAll, buildOne]
  cases parentOf entry built with
  | error cause => rfl
  | ok parent? =>
      dsimp only [Except.bind]
      cases Register.make serial entry.name entry.size entry.aliases parent? with
      | error cause => rfl
      | ok register => rfl

section One

variable {registers : List Register} {earlier : List CatalogEntry} {entry : CatalogEntry}

theorem parentOf_alone (alone : entry.parent = "") (built : List Register) :
    parentOf entry built = .ok none := by
  simp [parentOf, alone]

theorem parentOf_named (named : entry.parent ≠ "") (built : List Register) :
    parentOf entry built = (recent? entry.parent built).elim
      (.error (.undefinedParent entry.name entry.parent)) fun parent => .ok (some parent) := by
  cases found : recent? entry.parent built <;> simp [parentOf, named, found]

/-- An entry of an unusual size has no register, whatever its parent is. -/
theorem exists_buildOne_of_size (odd : Width.ofBits? entry.size = none) (built : List Register)
    (serial : Nat) : ∃ cause, buildOne built serial entry = .error cause := by
  unfold buildOne
  cases parentOf entry built with
  | error cause => exact ⟨cause, rfl⟩
  | ok parent? =>
      refine ⟨.register (.invalidSize entry.name entry.size), ?_⟩
      simp [Except.bind, Register.make, odd, Except.mapError]

/-- An entry is faulty, or it has a register. -/
theorem buildOne_cases (made : List.Forall₂ Bears registers earlier) (serial : Nat)
    (entry : CatalogEntry) :
    (Faulty earlier entry ∧ ∃ cause, buildOne registers.reverse serial entry = .error cause) ∨
    ¬ Faulty earlier entry ∧ ∃ register,
      buildOne registers.reverse serial entry = .ok register ∧ register.serial = serial ∧
        Bears register entry ∧ Descends earlier registers entry register := by
  cases sized : Width.ofBits? entry.size with
  | none =>
      exact .inl ⟨.size (ofBits?_eq_none_iff.mp sized), exists_buildOne_of_size sized _ serial⟩
  | some width =>
      have bits := ofBits?_eq_some_iff.mp sized
      have regular : ¬ entry.size ∉ ([8, 16, 32, 64] : List Int) := by
        rw [← ofBits?_eq_none_iff, sized]
        simp
      by_cases alone : entry.parent = ""
      · refine .inr ⟨?_, .root serial entry.name width entry.aliases.eraseDups, ?_, rfl,
          ⟨rfl, bits⟩, fun _ => rfl, fun named => absurd alone named⟩
        · rintro (odd | ⟨named, _⟩ | ⟨named, _⟩)
          · exact regular odd
          · exact named alone
          · exact named alone
        · simp [buildOne, parentOf_alone alone, Except.bind, Register.make, sized, Except.mapError]
      · rcases recent?_cases made entry.parent with
          ⟨missing, absent⟩ | ⟨place, parent, whole, recent, listed, latest, bears⟩
        · refine .inl ⟨.undefined alone absent, .undefinedParent entry.name entry.parent, ?_⟩
          simp [buildOne, parentOf_named alone, missing, Except.bind]
        · have sizes := bears.size
          by_cases bounded : parent.size ≤ entry.size
          · have narrow : whole.size ≤ width.bits := by omega
            refine .inl ⟨.narrow alone place parent latest bounded,
              .register (.narrowParent entry.name whole.name), ?_⟩
            simp [buildOne, parentOf_named alone, recent, Except.bind, Register.make, sized,
              narrow, Except.mapError]
          · have wide : ¬ whole.size ≤ width.bits := by omega
            refine .inr ⟨?_, .part serial entry.name width entry.aliases.eraseDups whole, ?_, rfl,
              ⟨rfl, bits⟩, fun none => absurd none alone,
              fun _ => ⟨place, parent, whole, latest, listed, rfl⟩⟩
            · rintro (odd | ⟨_, absent⟩ | ⟨_, other, rival, also, within⟩)
              · exact regular odd
              · exact absent parent (List.mem_of_getElem? latest.listed) latest.named
              · exact bounded (latest.item_eq also ▸ within)
            · simp [buildOne, parentOf_named alone, recent, Except.bind, Register.make, sized,
                wide, Except.mapError]

end One

/-! ## All entries -/

/-- The registers of entries that have all been built, numbered from a serial
number on. -/
structure Built (serial : Nat) (entries : List CatalogEntry) (registers : List Register) :
    Prop where
  bears : List.Forall₂ Bears registers entries
  faultless : ∀ index entry, entries[index]? = some entry → ¬ Faulty (entries.take index) entry
  descends : ∀ index entry register, entries[index]? = some entry →
    registers[index]? = some register → Descends (entries.take index) registers entry register
  serials : registers.map Register.serial = List.range' serial entries.length

theorem getElem?_concat {Item : Type} {items : List Item} {latest item : Item} {index : Nat}
    (listed : (items ++ [latest])[index]? = some item) :
    (index < items.length ∧ items[index]? = some item) ∨
      index = items.length ∧ latest = item := by
  rw [List.getElem?_append] at listed
  split at listed
  · exact .inl ⟨by assumption, listed⟩
  · rw [List.getElem?_singleton] at listed
    split at listed
    · exact .inr ⟨by omega, by simpa using listed⟩
    · contradiction

theorem Descends.concat {earlier : List CatalogEntry} {registers : List Register}
    {entry : CatalogEntry} {register : Register}
    (descends : Descends earlier registers entry register) (latest : Register) :
    Descends earlier (registers ++ [latest]) entry register where
  alone := descends.alone
  within := by
    intro named
    obtain ⟨place, parent, whole, resolved, listed, above⟩ := descends.within named
    have bound := (List.getElem?_eq_some_iff.mp listed).1
    exact ⟨place, parent, whole, resolved, (List.getElem?_append_left bound).trans listed, above⟩

namespace Built

variable {serial : Nat} {entries : List CatalogEntry} {registers : List Register}

theorem nil (serial : Nat) : Built serial [] [] := by
  refine ⟨.nil, ?_, ?_, rfl⟩ <;> simp

theorem length_eq (built : Built serial entries registers) :
    registers.length = entries.length :=
  built.bears.length_eq

/-- One more entry without a fault adds one more register. -/
theorem concat (built : Built serial entries registers) {entry : CatalogEntry}
    {register : Register} (faultless : ¬ Faulty entries entry)
    (numbered : register.serial = serial + entries.length) (bears : Bears register entry)
    (descends : Descends entries registers entry register) :
    Built serial (entries ++ [entry]) (registers ++ [register]) where
  bears := List.rel_append built.bears (.cons bears .nil)
  faultless := by
    intro index other listed
    rcases getElem?_concat listed with ⟨inside, listed⟩ | ⟨rfl, rfl⟩
    · rw [List.take_append_of_le_length inside.le]
      exact built.faultless index other listed
    · rwa [List.take_left]
  descends := by
    intro index other found listed held
    have lengths := built.length_eq
    rcases getElem?_concat listed with ⟨inside, listed⟩ | ⟨rfl, rfl⟩
    · rw [List.getElem?_append_left (by omega)] at held
      rw [List.take_append_of_le_length inside.le]
      exact (built.descends index other found listed held).concat register
    · rw [← lengths, List.getElem?_concat_length, Option.some.injEq] at held
      rw [List.take_left, ← held]
      exact descends.concat register
  serials := by
    rw [List.map_append, built.serials, List.length_append, List.length_singleton,
      List.range'_1_concat, List.map_singleton, numbered]

/-- Registers are told apart by their serial numbers. -/
theorem nodup (built : Built serial entries registers) : registers.Nodup := by
  apply List.Nodup.of_map Register.serial
  rw [built.serials]
  exact List.nodup_range'

/-- A parent stands in front of its parts. -/
theorem exists_parent (built : Built serial entries registers) {index : Nat}
    {register parent : Register} (listed : registers[index]? = some register)
    (above : register.parent? = some parent) :
    ∃ place, place < index ∧ registers[place]? = some parent := by
  obtain ⟨entry, asked, _⟩ := exists_entry built.bears listed
  have descends := built.descends index entry register asked listed
  have named : entry.parent ≠ "" := by
    intro alone
    rw [descends.alone alone] at above
    contradiction
  obtain ⟨place, _, whole, latest, found, within⟩ := descends.within named
  have bound := (List.getElem?_eq_some_iff.mp latest.listed).1
  rw [List.length_take] at bound
  rw [within, Option.some.injEq] at above
  exact ⟨place, by omega, above ▸ found⟩

end Built

/-- Entries behind those that were built have a fault among them, or are built
as well. -/
theorem buildAll_cases {serial : Nat} {earlier : List CatalogEntry} {registers : List Register}
    (built : Built serial earlier registers) (entries : List CatalogEntry) :
    (∃ failure index entry,
      buildAll registers.reverse (serial + earlier.length) entries = .error failure ∧
        (earlier ++ entries)[index]? = some entry ∧
        Faulty ((earlier ++ entries).take index) entry) ∨
    ∃ all, buildAll registers.reverse (serial + earlier.length) entries = .ok all ∧
      Built serial (earlier ++ entries) all := by
  induction entries generalizing earlier registers with
  | nil =>
      refine .inr ⟨registers, ?_, by simpa using built⟩
      rw [buildAll, List.reverse_reverse]
  | cons entry rest induction =>
      rw [buildAll_cons]
      rcases buildOne_cases built.bears (serial + earlier.length) entry with
        ⟨faulty, cause, failed⟩ | ⟨faultless, register, success, numbered, bears, descends⟩
      · rw [failed]
        refine .inl ⟨cause, earlier.length, entry, rfl, by simp, ?_⟩
        rwa [List.take_left]
      · rw [success]
        have next := induction (built.concat faultless numbered bears descends)
        rw [List.reverse_concat, List.length_append, List.length_singleton, List.append_assoc,
          List.singleton_append] at next
        exact next

/-- The set of registers that entries are built to.  It has one register for
each entry, in order, with the name, the size, the aliases and the parent that
the entry asks for.  Its registers are pairwise different, and every parent is
among them, in front of its parts. -/
structure Resolves (entries : List CatalogEntry) (mode : Mode) (set : RegisterSet) : Prop where
  indexed : set = RegisterSet.ofList mode set.registers
  length : set.registers.length = entries.length
  bears : ∀ (index : Nat) (entry : CatalogEntry) (register : Register),
    entries[index]? = some entry → set.registers[index]? = some register →
      register.name = entry.name ∧ (register.size : Int) = entry.size ∧
        register.aliases = entry.aliases.eraseDups
  descends : ∀ index entry register, entries[index]? = some entry →
    set.registers[index]? = some register →
      Descends (entries.take index) set.registers entry register
  distinct : set.registers.Nodup
  ordered : ∀ (index : Nat) (register parent : Register),
    set.registers[index]? = some register → register.parent? = some parent →
      ∃ place, place < index ∧ set.registers[place]? = some parent

theorem Built.resolves {serial : Nat} {entries : List CatalogEntry} {registers : List Register}
    (built : Built serial entries registers) (mode : Mode) :
    Resolves entries mode (RegisterSet.ofList mode registers) := by
  have same := RegisterSet.ofList_registers mode registers
  refine ⟨by rw [same], by rw [same, built.length_eq], ?_, ?_, ?_, ?_⟩
  · rw [same]
    intro index entry register asked listed
    obtain ⟨other, found, bears⟩ := exists_entry built.bears listed
    rw [asked, Option.some.injEq] at found
    rw [found]
    exact ⟨bears.name, bears.size, bears.aliases⟩
  · rw [same]
    exact built.descends
  · rw [same]
    exact built.nodup
  · rw [same]
    intro index register parent listed above
    exact built.exists_parent listed above

/-- Building fails exactly if some entry is faulty behind those in front of it,
and otherwise resolves every entry. -/
theorem build_resolves (mode : Mode) (serial : Nat) (entries : List CatalogEntry) :
    ((∃ failure, build mode serial entries = .error failure) ↔
      ∃ index entry, entries[index]? = some entry ∧ Faulty (entries.take index) entry) ∧
    ∀ set, build mode serial entries = .ok set → Resolves entries mode set := by
  have cases := buildAll_cases (Built.nil serial) entries
  rw [List.reverse_nil, List.length_nil, Nat.add_zero, List.nil_append] at cases
  unfold build
  rcases cases with ⟨failure, index, entry, failed, listed, faulty⟩ | ⟨all, success, built⟩
  · rw [failed]
    exact ⟨iff_of_true ⟨failure, rfl⟩ ⟨index, entry, listed, faulty⟩, by simp [Except.map]⟩
  · rw [success]
    refine ⟨iff_of_false (by simp [Except.map]) ?_, ?_⟩
    · rintro ⟨index, entry, listed, faulty⟩
      exact built.faultless index entry listed faulty
    · rintro set ⟨⟩
      exact built.resolves mode

-- The first register of the name would be too narrow for a parent, but the second one counts.
example :
    let entries : List CatalogEntry :=
      [⟨"R", 32, "", []⟩, ⟨"R", 64, "", []⟩, ⟨"P", 32, "R", ["Q", "P", "Q"]⟩]
    (buildAll [] 0 entries).toOption =
      some [.root 0 "R" .doubleword [], .root 1 "R" .quadword [],
        .part 2 "P" .doubleword ["Q", "P"] (.root 1 "R" .quadword [])] := by
  decide

end Catalog

end AsmListing
