import AsmListing.Proofs.Register.Builder

/-!
# The registers of a catalog

A catalog can be built if the size of every entry is one that registers have,
and every parent is an earlier and wider entry.  The catalogs of the supported
modes pass this check, so each of these modes has a set of registers, one for
every entry.
-/

namespace AsmListing

namespace Catalog

/-- Whether an entry can be built behind earlier ones, of which the most recent
comes first. -/
def fits (earlier : List CatalogEntry) (entry : CatalogEntry) : Bool :=
  (Width.ofBits? entry.size).isSome &&
    (entry.parent.isEmpty ||
      (earlier.find? fun other => other.name == entry.parent).any fun parent =>
        entry.size < parent.size)

/-- Whether entries can be built one after the other behind earlier ones. -/
def sound (earlier : List CatalogEntry) : List CatalogEntry → Bool
  | [] => true
  | entry :: rest => fits earlier entry && sound (entry :: earlier) rest

theorem not_faulty_of_fits {earlier : List CatalogEntry} {entry : CatalogEntry}
    (fit : fits earlier.reverse entry = true) : ¬ Faulty earlier entry := by
  simp only [fits, Bool.and_eq_true, Bool.or_eq_true, String.isEmpty_iff] at fit
  obtain ⟨sized, placed⟩ := fit
  rintro (odd | ⟨named, absent⟩ | ⟨named, place, parent, latest, bounded⟩)
  · rw [ofBits?_eq_none_iff.mpr odd] at sized
    contradiction
  · have known := placed.resolve_left named
    have missing : (earlier.reverse.find? fun other => other.name == entry.parent) = none := by
      simpa using absent
    rw [missing] at known
    contradiction
  · have wider := placed.resolve_left named
    rw [find?_reverse_iff.mpr ⟨place, latest⟩] at wider
    have strict : entry.size < parent.size := by simpa using wider
    omega

/-- None of sound entries is faulty behind those in front of it. -/
theorem not_faulty_of_sound (earlier : List CatalogEntry) {entries : List CatalogEntry}
    (checked : sound earlier.reverse entries = true) {index : Nat} {entry : CatalogEntry}
    (listed : entries[index]? = some entry) :
    ¬ Faulty (earlier ++ entries.take index) entry := by
  induction entries generalizing earlier index with
  | nil => simp at listed
  | cons first entries induction =>
      rw [sound, Bool.and_eq_true] at checked
      cases index with
      | zero =>
          have same : first = entry := by simpa using listed
          rw [List.take_zero, List.append_nil, ← same]
          exact not_faulty_of_fits checked.1
      | succ index =>
          have rest := induction (earlier ++ [first]) (by simpa using checked.2) listed
          rwa [List.append_assoc] at rest

/-- Sound entries are built, each to a register of its own. -/
theorem exists_buildAll {entries : List CatalogEntry} (serial : Nat)
    (checked : sound [] entries = true) :
    ∃ registers, buildAll [] serial entries = .ok registers ∧
      List.Forall₂ Bears registers entries := by
  rcases buildAll_cases (Built.nil serial) entries with
    ⟨_, index, entry, _, listed, faulty⟩ | ⟨registers, success, built⟩
  · exact absurd faulty (not_faulty_of_sound [] checked listed)
  · exact ⟨registers, success, built.bears⟩

/-- The registers of entries have the keys that the entries ask for. -/
theorem flatMap_keys {registers : List Register} {entries : List CatalogEntry}
    (all : List.Forall₂ Bears registers entries) :
    registers.flatMap Register.keys = entries.flatMap keysOf := by
  induction all with
  | nil => rfl
  | cons bears all induction =>
      rw [List.flatMap_cons, List.flatMap_cons, bears.keys, induction]

/-! ## The catalogs of the modes -/

theorem exists_entries {mode : Mode} (supported : mode ∈ Mode.all) :
    ∃ entries, entries? mode = some entries := by
  have modes : ∀ mode ∈ Mode.all, (entries? mode).isSome = true := by decide
  exact Option.isSome_iff_exists.mp (modes mode supported)

theorem entries?_cases {mode : Mode} {entries : List CatalogEntry}
    (found : entries? mode = some entries) :
    entries ∈ [entries16, entries32, entries64] := by
  unfold entries? at found
  split_ifs at found with narrow middle wide <;> cases found <;> simp

theorem sound_catalogs :
    ∀ entries ∈ [entries16, entries32, entries64], sound [] entries = true := by
  decide +kernel

/-- Every key of a catalog has a capital letter, and none is the name of the
constant that holds the mode. -/
theorem capital_catalogs :
    ∀ entries ∈ [entries16, entries32, entries64], ∀ key ∈ entries.flatMap keysOf,
      Text.lower key ≠ key ∧ key ≠ "MODE" := by
  decide +kernel

end Catalog

namespace RegisterSet

/-- A supported mode has a set of registers, those of its catalog. -/
theorem exists_ofMode? {mode : Mode} (supported : mode ∈ Mode.all) (serial : Nat) :
    ∃ entries registers, Catalog.entries? mode = some entries ∧
      List.Forall₂ Catalog.Bears registers entries ∧
      ofMode? serial mode = some (ofList mode registers) := by
  obtain ⟨entries, found⟩ := Catalog.exists_entries supported
  have checked := Catalog.sound_catalogs entries (Catalog.entries?_cases found)
  obtain ⟨registers, build, all⟩ := Catalog.exists_buildAll serial checked
  refine ⟨entries, registers, found, all, ?_⟩
  rw [ofMode?, found, Option.bind_some, Catalog.build, build]
  rfl

theorem ofMode?_eq_none_iff (serial : Nat) (mode : Mode) :
    ofMode? serial mode = none ↔ mode ∉ Mode.all := by
  constructor
  · intro absent supported
    obtain ⟨_, _, _, _, present⟩ := exists_ofMode? supported serial
    rw [present] at absent
    contradiction
  · intro unsupported
    simp only [Mode.all, List.mem_cons, List.not_mem_nil, or_false, not_or] at unsupported
    obtain ⟨narrow, middle, wide⟩ := unsupported
    rw [ofMode?, Catalog.entries?, if_neg narrow, if_neg middle, if_neg wide]
    rfl

theorem mem_all_of_ofMode? {serial : Nat} {mode : Mode} {set : RegisterSet}
    (found : ofMode? serial mode = some set) : mode ∈ Mode.all := by
  by_contra unsupported
  rw [(ofMode?_eq_none_iff serial mode).mpr unsupported] at found
  contradiction

theorem mode_of_ofMode? {serial : Nat} {mode : Mode} {set : RegisterSet}
    (found : ofMode? serial mode = some set) : set.mode = mode := by
  obtain ⟨_, registers, _, _, present⟩ := exists_ofMode? (mem_all_of_ofMode? found) serial
  rw [← Option.some.inj (present.symm.trans found), ofList_mode]

end RegisterSet

end AsmListing
