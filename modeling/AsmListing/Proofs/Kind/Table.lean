import AsmListing.Kind
import AsmListing.Proofs.Script.Call
import AsmListing.Proofs.Text.ByteOrder
import AsmListing.Proofs.Text.LowerCase

/-!
# Kind tables are written once

A kind table starts with the nine kinds that are always there and grows by
requests.  A request that is refused changes nothing.  One that is granted
gives a kind to a name that had none, and no later request takes it away.
-/

namespace AsmListing

namespace KindTable

/-! ## Placing an entry -/

section Place

variable {name : String} {kind : Kind} {entries : List (String × Kind)}

/-- An entry for a name that has none changes the look-up of that name
only. -/
theorem lookup_place (vacant : name ∉ entries.map Prod.fst) (key : String) :
    (place name kind entries).lookup key =
      if key = name then some kind else entries.lookup key := by
  induction entries with
  | nil => exact lookup_cons_eq_ite name kind key
  | cons entry rest induction =>
      obtain ⟨other, held⟩ := entry
      rw [List.map_cons, List.mem_cons, not_or] at vacant
      unfold place
      split
      · exact lookup_cons_eq_ite name kind key
      · rw [lookup_cons_eq_ite, lookup_cons_eq_ite, induction vacant.2]
        by_cases same : key = other
        · simp [same, Ne.symm vacant.1]
        · simp [same]

theorem map_fst_place_perm :
    ((place name kind entries).map Prod.fst).Perm (name :: entries.map Prod.fst) := by
  induction entries with
  | nil => exact List.Perm.refl _
  | cons entry rest induction =>
      unfold place
      split
      · exact List.Perm.refl _
      · exact (induction.cons entry.1).trans (List.Perm.swap name entry.1 _)

/-- A new name is put where it belongs. -/
theorem place_sorted (vacant : name ∉ entries.map Prod.fst)
    (sorted : (entries.map Prod.fst).Pairwise (· < ·)) :
    ((place name kind entries).map Prod.fst).Pairwise (· < ·) := by
  induction entries with
  | nil => exact List.pairwise_singleton _ _
  | cons entry rest induction =>
      obtain ⟨other, held⟩ := entry
      rw [List.map_cons, List.mem_cons, not_or] at vacant
      rw [List.map_cons, List.pairwise_cons] at sorted
      unfold place
      split
      · rename_i before
        refine List.pairwise_cons.mpr ⟨?_, List.pairwise_cons.mpr sorted⟩
        intro later member
        rcases List.mem_cons.mp member with rfl | member
        · exact before
        · exact lt_trans before (sorted.1 later member)
      · rename_i notBefore
        have after : other < name := lt_of_le_of_ne (not_lt.mp notBefore) (Ne.symm vacant.1)
        refine List.pairwise_cons.mpr ⟨?_, induction vacant.2 sorted.2⟩
        intro later member
        rcases List.mem_cons.mp (map_fst_place_perm.subset member) with rfl | member
        · exact after
        · exact sorted.1 later member

end Place

/-! ## Requests -/

/-- A request to give a kind to a name.  It may come without a kind. -/
structure Request where
  name : String
  kind? : Option Kind

/-- The table after a request, whether it was granted or refused. -/
def after (table : KindTable) (request : Request) : KindTable :=
  match table.register request.name request.kind? with
  | .ok changed => changed
  | .error _ => table

def afterAll (table : KindTable) (requests : List Request) : KindTable :=
  requests.foldl after table

/-- The second table is the first one with a kind for one more name. -/
structure Extended (table : KindTable) (name : String) (kind : Kind) (changed : KindTable) :
    Prop where
  vacant : table.find? name = none
  find? : ∀ key, changed.find? key = if key = name then some kind else table.find? key
  names : changed.names.Perm (name :: table.names)
  sorted : table.names.Pairwise (· < ·) → changed.names.Pairwise (· < ·)

/-- How a table answers a request.  Without a kind or a name it is invalid; a
name that has an entry is refused; any other name is given the kind. -/
inductive Answer (table : KindTable) : Request → Except KindError KindTable → Prop where
  | invalid (request : Request) (unusable : request.kind? = none ∨ request.name = "") :
      Answer table request (.error .invalid)
  | duplicate (name : String) (kind : Kind) (named : name ≠ "")
      (taken : Text.lower name ∈ table.names) :
      Answer table ⟨name, some kind⟩ (.error .duplicate)
  | granted (name : String) (kind : Kind) (changed : KindTable) (named : name ≠ "")
      (extended : table.Extended (Text.lower name) kind changed) :
      Answer table ⟨name, some kind⟩ (.ok changed)

theorem mem_names_iff {table : KindTable} {key : String} :
    key ∈ table.names ↔ ∃ kind, table.find? key = some kind := by
  rw [← Option.isSome_iff_exists]
  simp [names, find?, List.lookup_isSome_iff]

theorem not_mem_names_iff {table : KindTable} {key : String} :
    key ∉ table.names ↔ table.find? key = none := by
  rw [mem_names_iff, ← Option.isSome_iff_exists, Option.not_isSome_iff_eq_none]

theorem register_answer (table : KindTable) (request : Request) :
    table.Answer request (table.register request.name request.kind?) := by
  obtain ⟨name, kind?⟩ := request
  cases kind? with
  | none => exact .invalid _ (.inl rfl)
  | some kind =>
      by_cases empty : name = ""
      · subst empty
        exact .invalid _ (.inr rfl)
      have named : name.isEmpty = false := by simpa using empty
      cases found : table.find? (Text.lower name) with
      | some held =>
          simp only [register, named, found]
          exact .duplicate name kind empty (mem_names_iff.mpr ⟨held, found⟩)
      | none =>
          simp only [register, named, found]
          have absent : Text.lower name ∉ table.entries.map Prod.fst :=
            not_mem_names_iff.mpr found
          exact .granted name kind _ empty
            ⟨found, lookup_place absent, map_fst_place_perm, place_sorted absent⟩

/-- A granted request has a name and a kind, and adds them to the table. -/
theorem extended_of_granted {table changed : KindTable} {request : Request}
    (granted : table.register request.name request.kind? = .ok changed) :
    ∃ kind, request.kind? = some kind ∧ request.name ≠ "" ∧
      table.Extended (Text.lower request.name) kind changed := by
  have reason := table.register_answer request
  rw [granted] at reason
  cases reason with
  | granted name kind changed named extended => exact ⟨kind, rfl, named, extended⟩

/-- A refused request leaves the table as it was. -/
theorem after_of_error {table : KindTable} {request : Request} {failure : KindError}
    (refused : table.register request.name request.kind? = .error failure) :
    table.after request = table := by
  rw [after, refused]

theorem after_of_ok {table changed : KindTable} {request : Request}
    (granted : table.register request.name request.kind? = .ok changed) :
    table.after request = changed := by
  rw [after, granted]

/-- The kind that a request asks for under a key, which is the name in lower
case. -/
def Request.asks? (key : String) (request : Request) : Option Kind :=
  if request.name ≠ "" ∧ Text.lower request.name = key then request.kind? else none

/-- The kind that the first of several requests asks for under a key. -/
def firstAsked? (requests : List Request) (key : String) : Option Kind :=
  requests.findSome? (Request.asks? key)

/-- A request counts for a key that has no entry yet. -/
theorem after_find? (table : KindTable) (request : Request) (key : String) :
    (table.after request).find? key = (table.find? key).or (request.asks? key) := by
  cases answer : table.register request.name request.kind? with
  | error failure =>
      rw [after_of_error answer]
      have reason := table.register_answer request
      rw [answer] at reason
      cases reason with
      | invalid _ unusable =>
          have nothing : request.asks? key = none := by
            rcases unusable with kindless | nameless
            · simp [Request.asks?, kindless]
            · simp [Request.asks?, nameless]
          rw [nothing, Option.or_none]
      | duplicate name kind named taken =>
          obtain ⟨held, found⟩ := mem_names_iff.mp taken
          by_cases same : Text.lower name = key
          · rw [← same, found, Option.some_or]
          · simp [Request.asks?, same]
  | ok changed =>
      obtain ⟨kind, asked, named, extended⟩ := extended_of_granted answer
      rw [after_of_ok answer, extended.find?]
      by_cases same : key = Text.lower request.name
      · simp [same, extended.vacant, Request.asks?, named, asked]
      · simp [same, Request.asks?, Ne.symm same]

/-- Of several requests for a key that has no entry yet, the first one
counts. -/
theorem afterAll_find? (table : KindTable) (requests : List Request) (key : String) :
    (table.afterAll requests).find? key = (table.find? key).or (firstAsked? requests key) := by
  unfold afterAll
  induction requests generalizing table with
  | nil => simp [firstAsked?]
  | cons request rest induction =>
      rw [List.foldl_cons, induction, after_find?, Option.or_assoc]
      congr 1
      rw [firstAsked?, firstAsked?, List.findSome?_cons]
      cases request.asks? key <;> rfl

/-! ## The order of the names -/

/-- A kind table in which names are in lower case and in increasing order. -/
structure Orderly (table : KindTable) : Prop where
  lower : ∀ name ∈ table.names, Text.lower name = name
  sorted : table.names.Pairwise (· < ·)

theorem standard_orderly : standard.Orderly where
  lower := by decide +kernel
  sorted := by decide +kernel

theorem Extended.orderly {table changed : KindTable} {name : String} {kind : Kind}
    (extended : table.Extended (Text.lower name) kind changed) (orderly : table.Orderly) :
    changed.Orderly where
  lower := by
    intro key member
    rcases List.mem_cons.mp (extended.names.subset member) with rfl | member
    · exact Text.lower_lower name
    · exact orderly.lower key member
  sorted := extended.sorted orderly.sorted

theorem Orderly.after {table : KindTable} (orderly : table.Orderly) (request : Request) :
    (table.after request).Orderly := by
  cases answer : table.register request.name request.kind? with
  | error failure =>
      rw [after_of_error answer]
      exact orderly
  | ok changed =>
      obtain ⟨kind, _, _, extended⟩ := extended_of_granted answer
      rw [after_of_ok answer]
      exact extended.orderly orderly

theorem Orderly.afterAll {table : KindTable} (orderly : table.Orderly)
    (requests : List Request) : (table.afterAll requests).Orderly := by
  unfold KindTable.afterAll
  induction requests generalizing table with
  | nil => exact orderly
  | cons request rest induction => exact induction (orderly.after request)

/-- The bytes of the names increase as the names do. -/
theorem Orderly.bytes_sorted {table : KindTable} (orderly : table.Orderly) :
    (table.names.map Text.bytes).Pairwise (· < ·) :=
  List.pairwise_map.mpr (orderly.sorted.imp Text.bytes_lt_bytes)

/-! ## Building with the kind of a name -/

section Building

variable {table : KindTable} {key : String} {kind : Kind}

/-- A name in any case of letters has the kind of its lower case. -/
theorem lookup_eq_of_find? (found : table.find? key = some kind) {name : String}
    (lower : Text.lower name = key) : table.lookup name = kind := by
  rw [lookup, lower, found, Option.getD_some]

theorem Orderly.lookup_eq (orderly : table.Orderly) (found : table.find? key = some kind) :
    table.lookup key = kind :=
  lookup_eq_of_find? found (orderly.lower key (mem_names_iff.mpr ⟨kind, found⟩))

/-- A function that stands for a kind appends an instruction of that kind. -/
theorem Orderly.answer_eq (orderly : table.Orderly) (found : table.find? key = some kind)
    (ordinary : key ∉ [Script.Host.emitName, Script.Host.indentName, Script.Host.findName])
    {verbose : Bool} {program : Program} {arguments : Script.Arguments Script.HostValue}
    {reply : Script.Reply} {work : Script.Work}
    (answered : Script.Host.answer ⟨table, verbose⟩ program ⟨key, arguments⟩ = .ok reply work) :
    work.program = program.append ⟨key, arguments.positional.map Script.HostValue.datum, kind,
      Script.commentGiven arguments.named, Script.commentShown arguments.named⟩ := by
  rw [Script.Host.answer, Script.Host.apply_ordinary ordinary] at answered
  rw [Script.Host.insert_ok answered, orderly.lookup_eq found]

/-- Called with operands only, it appends the instruction that the kind makes
of them, and fails if the kind makes none. -/
theorem Orderly.answer_positional (orderly : table.Orderly) (found : table.find? key = some kind)
    (ordinary : key ∉ [Script.Host.emitName, Script.Host.indentName, Script.Host.findName])
    (verbose : Bool) (program : Program) (operands : List Script.HostValue) :
    Script.Host.answer ⟨table, verbose⟩ program ⟨key, ⟨operands, []⟩⟩ =
      match Mnemonic.make (some kind) key (operands.map Script.HostValue.datum) with
      | .error failure => .error (.operandCount failure) ⟨program, []⟩
      | .ok mnemonic => .ok .nothing ⟨program.append mnemonic,
          if verbose then [Script.Host.notice program.filename mnemonic] else []⟩ := by
  rw [Script.Host.answer, Script.Host.apply_ordinary ordinary, ← orderly.lookup_eq found]
  exact Script.Host.insert_positional key key operands

end Building

/-! ## The laws of a table -/

/-- What holds of the table that requests lead to from the standard one.  It
answers every further request as it should, keeps what it has, and gives to
every name in lower case the kind of the first request for it. -/
structure WrittenOnce (requests : List Request) (table : KindTable) : Prop where
  answers : ∀ request, table.Answer request (table.register request.name request.kind?)
  refused : ∀ request failure, table.register request.name request.kind? = .error failure →
    table.after request = table
  granted : ∀ request kind changed, request.kind? = some kind →
    table.register request.name request.kind? = .ok changed →
      table.after request = changed ∧ ∀ other,
        (Text.lower other = Text.lower request.name →
          table.lookup other = .generic ∧ changed.lookup other = kind) ∧
        (Text.lower other ≠ Text.lower request.name →
          changed.lookup other = table.lookup other)
  kept : ∀ later key kind, table.find? key = some kind →
    (table.afterAll later).find? key = some kind
  first : ∀ key, table.find? key = (standard.find? key).or (firstAsked? requests key)
  lower : ∀ key ∈ table.names, Text.lower key = key
  increasing : (table.names.map Text.bytes).Pairwise (· < ·)
  names : ∀ key, key ∈ table.names ↔ ∃ kind, table.find? key = some kind
  lookup : ∀ key kind, table.find? key = some kind → table.lookup key = kind ∧
    ∀ name, Text.lower name = key → table.lookup name = kind
  builds : ∀ key kind, table.find? key = some kind → ∀ operands,
    Mnemonic.named table key operands = Mnemonic.make (some kind) key operands
  calls : ∀ key kind, table.find? key = some kind →
    key ∉ [Script.Host.emitName, Script.Host.indentName, Script.Host.findName] →
    ∀ verbose program operands,
      Script.Host.answer ⟨table, verbose⟩ program ⟨key, ⟨operands, []⟩⟩ =
        match Mnemonic.make (some kind) key (operands.map Script.HostValue.datum) with
        | .error failure => .error (.operandCount failure) ⟨program, []⟩
        | .ok mnemonic => .ok .nothing ⟨program.append mnemonic,
            if verbose then [Script.Host.notice program.filename mnemonic] else []⟩
  remarked : ∀ key kind, table.find? key = some kind →
    key ∉ [Script.Host.emitName, Script.Host.indentName, Script.Host.findName] →
    ∀ verbose program arguments reply work,
      Script.Host.answer ⟨table, verbose⟩ program ⟨key, arguments⟩ = .ok reply work →
      work.program = program.append ⟨key, arguments.positional.map Script.HostValue.datum, kind,
        Script.commentGiven arguments.named, Script.commentShown arguments.named⟩

/-- A granted request changes the look-up of the names that it asks for, in
any case of letters, from the generic kind to the given one. -/
theorem lookup_of_granted {table changed : KindTable} {request : Request} {kind : Kind}
    (asked : request.kind? = some kind)
    (granted : table.register request.name request.kind? = .ok changed) (other : String) :
    (Text.lower other = Text.lower request.name →
      table.lookup other = .generic ∧ changed.lookup other = kind) ∧
    (Text.lower other ≠ Text.lower request.name →
      changed.lookup other = table.lookup other) := by
  obtain ⟨given, givenEq, _, extended⟩ := extended_of_granted granted
  have sameKind : given = kind := Option.some.inj (givenEq.symm.trans asked)
  refine ⟨fun same => ⟨?_, ?_⟩, fun different => ?_⟩
  · rw [KindTable.lookup, same, extended.vacant, Option.getD_none]
  · exact lookup_eq_of_find? (by rw [extended.find?, if_pos rfl, sameKind]) same
  · rw [KindTable.lookup, extended.find?, if_neg different, KindTable.lookup]

/-- However a kind table was reached from the standard one, it was written
once. -/
theorem standard_afterAll_writtenOnce (requests : List Request) :
    WrittenOnce requests (standard.afterAll requests) := by
  have orderly := standard_orderly.afterAll requests
  exact {
    answers := register_answer _
    refused := fun _ _ => after_of_error
    granted := fun _ _ _ asked granted =>
      ⟨after_of_ok granted, lookup_of_granted asked granted⟩
    kept := by
      intro later key kind found
      rw [afterAll_find?, found, Option.some_or]
    first := afterAll_find? standard requests
    lower := orderly.lower
    increasing := orderly.bytes_sorted
    names := fun _ => mem_names_iff
    lookup := fun _ _ found => ⟨orderly.lookup_eq found, fun _ => lookup_eq_of_find? found⟩
    builds := by
      intro key kind found operands
      rw [Mnemonic.named, orderly.lookup_eq found]
    calls := fun _ _ => orderly.answer_positional
    remarked := fun _ _ found ordinary _ _ _ _ _ => orderly.answer_eq found ordinary }

/-- The first request for a name counts, in any case of letters. -/
example : (standard.afterAll [⟨"NEG", some (.fixed 1 "Negating %[1]v")⟩,
    ⟨"neg", some .generic⟩]).lookup "Neg" = .fixed 1 "Negating %[1]v" := by
  decide +kernel

end KindTable

end AsmListing
