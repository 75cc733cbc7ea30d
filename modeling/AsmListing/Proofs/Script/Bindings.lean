import AsmListing.Proofs.Kind.Table
import AsmListing.Proofs.Register.Catalog
import AsmListing.Proofs.Sequence.Delivery
import Mathlib.Data.Finset.Card

/-!
# What a script finds bound

The bindings of a script come from its registers, from the kinds of
instructions and from the host itself, and a later binding hides an earlier one
of the same name.  Registers are written in capital letters and kinds in small
ones, so these never meet.  The names of the functions of the host are in small
letters, too, and a kind that is given such a name has no function of its own.
-/

namespace AsmListing

namespace Script

/-- The reply for what a name is bound to: the register, if it is one. -/
def Reply.ofBinding? : Option Binding → Reply
  | some (.register value) => .register value
  | _ => .nothing

namespace Host

/-- The functions that a host has besides those for kinds. -/
def ownNames : List String := [emitName, indentName, findName]

/-! ## Looking up bindings -/

theorem find?_append (front back : List (String × Binding)) (name : String) :
    find? (front ++ back) name = (find? back name).or (find? front name) := by
  rw [find?, List.reverse_append, List.lookup_append, find?, find?]

theorem find?_singleton (first : String) (value : Binding) (name : String) :
    find? [(first, value)] name = if name = first then some value else none :=
  lookup_cons_eq_ite first value name

/-- A name of a list is bound to what it means, however often it is listed. -/
theorem find?_filterMap (meaning : String → Option Binding) (names : List String)
    (name : String) :
    find? (names.filterMap fun listed => (meaning listed).map fun value => (listed, value))
        name =
      if name ∈ names then meaning name else none := by
  induction names with
  | nil => rfl
  | cons first rest induction =>
      rw [List.filterMap_cons]
      cases found : meaning first with
      | none =>
          dsimp only [Option.map_none]
          rw [induction]
          by_cases same : name = first
          · subst same
            simp [found]
          · simp [same]
      | some value =>
          dsimp only [Option.map_some]
          rw [← List.singleton_append, find?_append, induction, find?_singleton]
          by_cases same : name = first
          · subst same
            by_cases again : name ∈ rest
            · simp [again, found]
            · simp [again, found]
          · simp [same]

theorem find?_functions (names : List String) (name : String) :
    find? (names.map fun listed => (listed, Binding.function listed)) name =
      if name ∈ names then some (.function name) else none := by
  have tagged := find?_filterMap (fun listed => some (.function listed)) names name
  simpa only [Option.map_some, List.filterMap_eq_map'] using tagged

theorem find?_registers (registers : RegisterSet) (name : String) :
    find? (registers.entries.map fun entry => (entry.1, Binding.register entry.2)) name =
      if name ∈ registers.keys then (registers.find? name).map .register else none := by
  have tagged := find?_filterMap (fun key => (registers.find? key).map .register)
    registers.keys name
  simpa only [RegisterSet.entries, List.map_filterMap, Option.map_map, Function.comp_def] using
    tagged

/-- The three sequences of bindings, one behind the other. -/
theorem bindings_eq (host : Host) (registers : RegisterSet) (mode : Mode) :
    host.bindings registers mode =
      registers.entries.map (fun entry => (entry.1, Binding.register entry.2)) ++
        ((host.kinds.names ++ ownNames).map fun name => (name, Binding.function name)) ++
        [(modeName, Binding.mode mode)] := by
  have lists := PushSequence.take_concat_ofList (M := Id) none
    [registers.entries.map fun entry => (entry.1, Binding.register entry.2),
     (host.kinds.names ++ ownNames).map fun name => (name, Binding.function name),
     [(modeName, Binding.mode mode)]]
  rw [bindings, PushSequence.mapValues_ofList]
  refine (congrArg Id.run lists).trans ?_
  simp

/-- A name means what the host means by it, or else a kind, or else a
register. -/
theorem find?_bindings (host : Host) (registers : RegisterSet) (mode : Mode) (name : String) :
    find? (host.bindings registers mode) name =
      if name = modeName then some (.mode mode)
      else if name ∈ ownNames ∨ name ∈ host.kinds.names then some (.function name)
      else if name ∈ registers.keys then (registers.find? name).map .register
      else none := by
  rw [bindings_eq, find?_append, find?_append, find?_singleton, find?_registers, find?_functions]
  by_cases isMode : name = modeName
  · simp [isMode]
  · rw [if_neg isMode, if_neg isMode]
    by_cases function : name ∈ ownNames ∨ name ∈ host.kinds.names
    · have listed : name ∈ host.kinds.names ++ ownNames :=
        List.mem_append.mpr function.symm
      simp [function, listed]
    · have unlisted : name ∉ host.kinds.names ++ ownNames := fun member =>
        function (List.mem_append.mp member).symm
      simp [function, unlisted]

/-! ## What functions do -/

/-- A call of a function with the given words in front appends an instruction of
a name and a kind. -/
structure Inserts (host : Host) (function : String) (words : List HostValue) (name : String)
    (kind : Kind) : Prop where
  positional : ∀ program operands,
    host.answer program ⟨function, ⟨words ++ operands, []⟩⟩ =
      match Mnemonic.make (some kind) name (operands.map HostValue.datum) with
      | .error failure => .error (.operandCount failure) ⟨program, []⟩
      | .ok mnemonic => .ok .nothing ⟨program.append mnemonic,
          if host.verbose then [notice program.filename mnemonic] else []⟩
  remarked : ∀ program operands named reply work,
    host.answer program ⟨function, ⟨words ++ operands, named⟩⟩ = .ok reply work →
      work.program = program.append ⟨name, operands.map HostValue.datum, kind, commentGiven named,
        commentShown named⟩

section Inserts

variable {host : Host} {function name : String} {words : List HostValue}

theorem inserts_of_apply
    (applied : ∀ operands named, host.apply ⟨function, ⟨words ++ operands, named⟩⟩ =
      host.insert function name operands named) :
    host.Inserts function words name (host.kinds.lookup name) where
  positional := by
    intro program operands
    rw [answer, applied]
    exact insert_positional function name operands
  remarked := by
    intro program operands named reply work answered
    rw [answer, applied] at answered
    exact insert_ok answered

theorem emit_inserts (named : name ≠ "") :
    host.Inserts emitName [.text name] name (host.kinds.lookup name) := by
  have nonempty : name.isEmpty = false := by simpa using named
  refine inserts_of_apply fun operands given => ?_
  simp [apply, emit, nonempty]

theorem kind_inserts (orderly : host.kinds.Orderly) {kind : Kind}
    (found : host.kinds.find? name = some kind) (ordinary : name ∉ ownNames) :
    host.Inserts name [] name kind := by
  rw [← orderly.lookup_eq found]
  exact inserts_of_apply fun operands given => apply_ordinary ordinary

/-- Without any word, a function of the host itself fails for another reason
than the number of operands. -/
theorem answer_own_failure (host : Host) (program : Program) (own : name ∈ ownNames) :
    ∃ failure, host.answer program ⟨name, ⟨[], []⟩⟩ = .error failure ⟨program, []⟩ ∧
      ∀ count, failure ≠ .operandCount count := by
  simp only [ownNames, List.mem_cons, List.not_mem_nil, or_false] at own
  rcases own with rfl | rfl | rfl
  · exact ⟨.nameMissing, rfl, nofun⟩
  · exact ⟨.other _, rfl, nofun⟩
  · exact ⟨.other _, rfl, nofun⟩

theorem not_inserts_own (own : name ∈ ownNames) (kind : Kind) :
    ¬ host.Inserts name [] name kind := by
  intro inserts
  have expected := inserts.positional (Program.new 0 "" .bits64) []
  obtain ⟨failure, failed, other⟩ := answer_own_failure host (Program.new 0 "" .bits64) own
  rw [List.nil_append, failed] at expected
  split at expected
  · rename_i count _
    exact other count (EStateM.Result.error.inj expected).1
  · contradiction

end Inserts

/-! ## Names that meet -/

/-- Registers whose keys can be told from the names of kinds and from the name
of the mode. -/
structure Capital (registers : RegisterSet) : Prop where
  coherent : registers.Coherent
  keys : ∀ key ∈ registers.keys, Text.lower key ≠ key ∧ key ≠ modeName

theorem exists_capital {mode : Mode} (supported : mode ∈ Mode.all) (serial : Nat) :
    ∃ registers, RegisterSet.ofMode? serial mode = some registers ∧ Capital registers := by
  obtain ⟨entries, registers, found, all, made⟩ := RegisterSet.exists_ofMode? supported serial
  have coherent := RegisterSet.ofList_coherent mode registers
  refine ⟨_, made, coherent, fun key member => ?_⟩
  rw [coherent.mem_keys, RegisterSet.ofList_boundKeys, Catalog.flatMap_keys all] at member
  exact Catalog.capital_catalogs entries (Catalog.entries?_cases found) key member

def boundNames (host : Host) (registers : RegisterSet) (mode : Mode) : Finset String :=
  ((host.bindings registers mode).map Prod.fst).toFinset

section Capital

variable {host : Host} {registers : RegisterSet}

theorem lower_own : ∀ name ∈ ownNames, Text.lower name = name := by
  decide +kernel

theorem ne_modeName {name : String} (small : Text.lower name = name) : name ≠ modeName := by
  rintro rfl
  exact absurd small (by decide +kernel)

theorem find?_of_index (capital : Capital registers) (orderly : host.kinds.Orderly)
    (mode : Mode) {key : String} {register : Register}
    (indexed : registers.index key = .ok register) :
    find? (host.bindings registers mode) key = some (.register register) := by
  have listed : key ∈ registers.keys := by
    rw [capital.coherent.mem_keys]
    exact (capital.coherent.exists_index_iff key).mp ⟨register, indexed⟩
  obtain ⟨raised, notMode⟩ := capital.keys key listed
  have notSmall : ¬ (key ∈ ownNames ∨ key ∈ host.kinds.names) := by
    rintro (own | kind)
    · exact raised (lower_own key own)
    · exact raised (orderly.lower key kind)
  have found : registers.find? key = some register := by
    unfold RegisterSet.index at indexed
    split at indexed
    · rename_i other found
      rw [found, Except.ok.inj indexed]
    · contradiction
  rw [find?_bindings, if_neg notMode, if_neg notSmall, if_pos listed, found, Option.map_some]

theorem map_fst_registers (coherent : registers.Coherent) :
    registers.entries.map Prod.fst = registers.keys := by
  have entries := congrArg (List.map Prod.fst) coherent.entries_eq
  rw [List.map_map, List.map_map] at entries
  simpa [Function.comp_def] using entries

theorem map_fst_bindings (coherent : registers.Coherent) (host : Host) (mode : Mode) :
    (host.bindings registers mode).map Prod.fst =
      registers.keys ++ host.kinds.names ++ ownNames ++ [modeName] := by
  have registered : registers.entries.map (fun entry => entry.1) = registers.keys :=
    map_fst_registers coherent
  simp [bindings_eq, registered, Function.comp_def]

/-- The functions of a host that have no kind of their name. -/
def furtherNames (host : Host) : List String :=
  ownNames.filter fun name => !decide (name ∈ host.kinds.names)

theorem nodup_small (orderly : host.kinds.Orderly) :
    (host.kinds.names ++ (host.furtherNames ++ [modeName])).Nodup := by
  have kinds : host.kinds.names.Nodup := orderly.sorted.imp ne_of_lt
  have own : ownNames.Nodup := by decide
  refine List.nodup_append.mpr ⟨kinds, List.nodup_append.mpr ⟨own.filter _, by simp, ?_⟩, ?_⟩
  · intro name member last isMode same
    rw [List.mem_singleton] at isMode
    exact ne_modeName (lower_own name (List.mem_of_mem_filter member)) (same.trans isMode)
  · intro name kind other member same
    subst same
    rcases List.mem_append.mp member with further | isMode
    · have vacant := List.of_mem_filter further
      simp [kind] at vacant
    · exact ne_modeName (orderly.lower name kind) (List.mem_singleton.mp isMode)

theorem nodup_names (capital : Capital registers) (orderly : host.kinds.Orderly) :
    (registers.keys ++ (host.kinds.names ++ (host.furtherNames ++ [modeName]))).Nodup := by
  refine List.nodup_append.mpr ⟨capital.coherent.nodup, nodup_small orderly, ?_⟩
  intro key listed name member same
  subst same
  obtain ⟨raised, notMode⟩ := capital.keys key listed
  simp only [List.mem_append, List.mem_singleton] at member
  rcases member with kind | further | isMode
  · exact raised (orderly.lower key kind)
  · exact raised (lower_own key (List.mem_of_mem_filter further))
  · exact notMode isMode

/-- All names are bound to something of their own, except for kinds that have
the name of a function of the host. -/
theorem card_boundNames (capital : Capital registers) (orderly : host.kinds.Orderly)
    (mode : Mode) :
    (host.boundNames registers mode).card +
        (ownNames.filter fun name => decide (name ∈ host.kinds.names)).length =
      registers.size + host.kinds.names.length + 4 := by
  have same : host.boundNames registers mode =
      (registers.keys ++ (host.kinds.names ++ (host.furtherNames ++ [modeName]))).toFinset := by
    ext name
    rw [boundNames, map_fst_bindings capital.coherent, List.mem_toFinset, List.mem_toFinset]
    simp only [furtherNames, List.mem_append, List.mem_filter]
    grind
  have divided : ownNames.length =
      (ownNames.filter fun name => decide (name ∈ host.kinds.names)).length +
        host.furtherNames.length :=
    List.length_eq_length_filter_add _
  have own : ownNames.length = 3 := rfl
  rw [same, List.toFinset_card_of_nodup (nodup_names capital orderly)]
  simp only [List.length_append, List.length_singleton, RegisterSet.size]
  omega

theorem ofBinding?_of_not_mem {name : String} (unlisted : name ∉ registers.keys) (host : Host)
    (mode : Mode) :
    Reply.ofBinding? (find? (host.bindings registers mode) name) = .nothing := by
  rw [find?_bindings, if_neg unlisted]
  split
  · rfl
  · split
    · rfl
    · rfl

theorem answer_find_eq (host : Host) {program : Program}
    (present : program.registers = some registers) (text : String) :
    host.answer program ⟨findName, ⟨[.text text], []⟩⟩ =
      .ok (.ofBinding? ((registers.get? text).map .register)) ⟨program, []⟩ := by
  have only : onlyText ⟨findName, ⟨[.text text], []⟩⟩ = .ok text := rfl
  rw [answer, apply_find rfl, findRegister_run, only]
  dsimp only [Attempt.passing]
  rw [present, Option.bind_some]
  cases registers.get? text with
  | none => rfl
  | some register => rfl

/-- A register is found by the name in capital letters to which it is bound. -/
theorem answer_find (capital : Capital registers) (orderly : host.kinds.Orderly) (mode : Mode)
    {program : Program} (present : program.registers = some registers) (text : String) :
    host.answer program ⟨findName, ⟨[.text text], []⟩⟩ =
      .ok (.ofBinding? (find? (host.bindings registers mode) (Text.upper text)))
        ⟨program, []⟩ := by
  have got := capital.coherent.get_eq text none
  rw [answer_find_eq host present, RegisterSet.get?, got]
  cases indexed : registers.index (Text.upper text) with
  | ok register => rw [find?_of_index capital orderly mode indexed, Option.map_some]
  | error failure =>
      have unlisted : Text.upper text ∉ registers.keys := by
        rw [capital.coherent.mem_keys, ← capital.coherent.exists_index_iff, indexed]
        simp
      rw [ofBinding?_of_not_mem unlisted, Option.map_none]
      rfl

end Capital

/-! ## The bindings of a script -/

/-- What holds of the bindings that a host makes for the registers of a mode.
A kind has a function that appends its instructions exactly if no function of
the host itself has this name. -/
structure Binds (host : Host) (registers : RegisterSet) (mode : Mode) : Prop where
  keys : ∀ key register, registers.index key = .ok register →
    find? (host.bindings registers mode) key = some (.register register)
  kinds : ∀ name kind, host.kinds.find? name = some kind →
    find? (host.bindings registers mode) name = some (.function name) ∧
      (host.Inserts name [] name kind ↔ name ∉ ownNames)
  functions : ∀ name ∈ ownNames,
    find? (host.bindings registers mode) name = some (.function name)
  emits : ∀ name, name ≠ "" →
    host.Inserts emitName [.text name] name (host.kinds.lookup name)
  indents : ∀ program text, host.answer program ⟨indentName, ⟨[.text text], []⟩⟩ =
    .ok .nothing ⟨{ program with indent := text }, []⟩
  finds : ∀ program text, program.registers = some registers →
    host.answer program ⟨findName, ⟨[.text text], []⟩⟩ =
      .ok (.ofBinding? (find? (host.bindings registers mode) (Text.upper text))) ⟨program, []⟩
  modeNumber : find? (host.bindings registers mode) modeName = some (.mode mode)
  count : (host.boundNames registers mode).card +
      (ownNames.filter fun name => decide (name ∈ host.kinds.names)).length =
    registers.size + host.kinds.names.length + 4

/-- Bindings none of which hides another. -/
structure Unshadowed (host : Host) (registers : RegisterSet) (mode : Mode) : Prop
    extends Binds host registers mode where
  everyKind : ∀ name kind, host.kinds.find? name = some kind → host.Inserts name [] name kind
  everyName : (host.boundNames registers mode).card =
    registers.size + host.kinds.names.length + 4

theorem binds (host : Host) {registers : RegisterSet} (capital : Capital registers)
    (orderly : host.kinds.Orderly) (mode : Mode) : host.Binds registers mode where
  keys := fun _ _ => find?_of_index capital orderly mode
  kinds := by
    intro name kind found
    have member := KindTable.mem_names_iff.mpr ⟨kind, found⟩
    refine ⟨?_, fun inserts own => not_inserts_own own kind inserts, kind_inserts orderly found⟩
    have notMode := ne_modeName (orderly.lower name member)
    rw [find?_bindings, if_neg notMode, if_pos (.inr member)]
  functions := by
    intro name own
    have notMode := ne_modeName (lower_own name own)
    rw [find?_bindings, if_neg notMode, if_pos (.inl own)]
  emits := fun _ => emit_inserts
  indents := fun _ _ => rfl
  finds := fun _ text present => answer_find capital orderly mode present text
  modeNumber := by rw [find?_bindings, if_pos rfl]
  count := card_boundNames capital orderly mode

theorem Binds.unshadowed_iff {host : Host} {registers : RegisterSet} {mode : Mode}
    (binds : host.Binds registers mode) :
    host.Unshadowed registers mode ↔ ∀ name ∈ ownNames, name ∉ host.kinds.names := by
  constructor
  · intro unshadowed name own member
    obtain ⟨kind, found⟩ := KindTable.mem_names_iff.mp member
    exact not_inserts_own own kind (unshadowed.everyKind name kind found)
  · intro apart
    have none : (ownNames.filter fun name => decide (name ∈ host.kinds.names)) = [] := by
      simpa [List.filter_eq_nil_iff] using apart
    have count := binds.count
    rw [none, List.length_nil, Nat.add_zero] at count
    refine ⟨binds, fun name kind found => ?_, count⟩
    apply (binds.kinds name kind found).2.mpr
    intro own
    exact apart name own (KindTable.mem_names_iff.mpr ⟨kind, found⟩)

/-- Whatever kinds were asked for, a script of a supported mode finds all
registers, the functions of the host and the mode bound, and finds a register
by its name in any case of letters.  It finds a function for every kind, and
nothing is hidden, exactly if no kind has the name of a function of the
host. -/
theorem bindings_unshadowed_iff (requests : List KindTable.Request) (verbose : Bool)
    (serial : Nat) {mode : Mode} (supported : mode ∈ Mode.all) :
    let host : Host := ⟨KindTable.standard.afterAll requests, verbose⟩
    ∃ registers, RegisterSet.ofMode? serial mode = some registers ∧
      host.Binds registers mode ∧
      (host.Unshadowed registers mode ↔ ∀ name ∈ ownNames, name ∉ host.kinds.names) := by
  intro host
  obtain ⟨registers, found, capital⟩ := exists_capital supported serial
  have orderly : host.kinds.Orderly := KindTable.standard_orderly.afterAll requests
  have binds := host.binds capital orderly mode
  exact ⟨registers, found, binds, binds.unshadowed_iff⟩

/-- A further kind in the 16-bit mode. -/
theorem bindings_unshadowed_neg :
    let host : Host :=
      ⟨KindTable.standard.afterAll [⟨"NEG", some (.fixed 1 "Negating %[1]v")⟩], false⟩
    ∃ registers, RegisterSet.ofMode? 0 .bits16 = some registers ∧
      host.Unshadowed registers .bits16 := by
  intro host
  obtain ⟨registers, found, _, unshadowed⟩ :=
    bindings_unshadowed_iff [⟨"NEG", some (.fixed 1 "Negating %[1]v")⟩] false 0
      (by decide : Mode.bits16 ∈ Mode.all)
  exact ⟨registers, found, unshadowed.mpr (by decide +kernel)⟩

/-- A kind that is called `emit` makes an instruction of one register, but the
function of this name fails for want of the name of an instruction. -/
theorem bindings_shadowed_emit :
    let kind : Kind := .fixed 1 "Emitting %[1]v"
    let host : Host := ⟨KindTable.standard.afterAll [⟨"emit", some kind⟩], false⟩
    ∃ registers, RegisterSet.ofMode? 0 .bits64 = some registers ∧
      host.kinds.find? "emit" = some kind ∧
      (∀ program register, Mnemonic.named host.kinds "emit" [.register register] =
          .ok ⟨"emit", [.register register], kind, "", true⟩ ∧
        host.answer program ⟨"emit", ⟨[.register register], []⟩⟩ =
          .error .nameMissing ⟨program, []⟩) ∧
      ¬ host.Unshadowed registers .bits64 := by
  intro kind host
  obtain ⟨registers, present, _⟩ := exists_capital (by decide : Mode.bits64 ∈ Mode.all) 0
  have found : host.kinds.find? "emit" = some kind := by decide +kernel
  have looked : host.kinds.lookup "emit" = kind := by decide +kernel
  refine ⟨registers, present, found, fun program register => ⟨?_, rfl⟩, fun unshadowed => ?_⟩
  · rw [Mnemonic.named, looked]
    rfl
  · have own : emitName ∈ ownNames := by decide
    exact not_inserts_own own kind (unshadowed.everyKind emitName kind found)

end Host

end Script

end AsmListing
