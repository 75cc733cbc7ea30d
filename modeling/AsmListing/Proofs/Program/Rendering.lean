import AsmListing.Proofs.Program.Supply

/-!
# Rendering a program

The lines of a program, its listing and what a writer is handed are three
views of the instructions.  They agree up to the first instruction that cannot
be written, and each of them reports that instruction in the same way.
-/

namespace AsmListing

namespace Program

/-! ## Inserting in groups -/

/-- Inserts groups of drafts at the end, one group after the other. -/
def insertGroups (program : Program) (groups : List (List Nat)) : Program :=
  groups.foldl insertAll program

@[simp] theorem insert_drafts (program : Program) (position : Nat) :
    (program.insert position).drafts = program.drafts := by
  unfold insert
  split <;> rfl

/-- An insertion adds the draft at the position, if there is one. -/
theorem mnemonics_insert (program : Program) (position : Nat) :
    (program.insert position).mnemonics =
      program.mnemonics ++ (program.drafts[position]?).toList := by
  by_cases drafted : position < program.drafts.size
  · simp [insert, mnemonics, drafted]
  · simp [insert, drafted]

theorem mnemonics_insertAll (program : Program) (positions : List Nat) :
    (program.insertAll positions).mnemonics =
      program.mnemonics ++ positions.filterMap fun position => program.drafts[position]? := by
  unfold insertAll
  induction positions generalizing program with
  | nil => simp
  | cons position positions induction =>
      rw [List.foldl_cons, induction, mnemonics_insert, insert_drafts, List.append_assoc]
      cases found : program.drafts[position]? with
      | none => simp [found]
      | some mnemonic => simp [found]

/-- How the insertions are grouped does not matter. -/
theorem insertGroups_eq_insertAll (program : Program) (groups : List (List Nat)) :
    program.insertGroups groups = program.insertAll groups.flatten := by
  unfold insertGroups
  induction groups generalizing program with
  | nil => rfl
  | cons group groups induction =>
      rw [List.foldl_cons, induction, List.flatten_cons]
      simp [insertAll, List.foldl_append]

/-- Every inserted position has a draft, so no place of a program is empty. -/
theorem length_mnemonics (program : Program) : program.mnemonics.length = program.size := by
  have drafted : ∀ position ∈ program.sequence.toList,
      (program.drafts[position]?).isSome := by
    intro position member
    have bound := program.sequence_lt position (by simpa using member)
    simpa using bound
  rw [mnemonics, List.filterMap_length_eq_length.mpr drafted, Array.length_toList, size]

/-! ## Lines and the listing -/

/-- The index of the first instruction that cannot be written. -/
def firstFailure? (program : Program) : Option Nat :=
  program.mnemonics.findIdx? fun mnemonic => !(mnemonic.construct program.indent).isOk

/-- Instructions that can all be written have a text each. -/
theorem exists_texts (indent : String) (mnemonics : List Mnemonic)
    (writable : ∀ mnemonic ∈ mnemonics, (mnemonic.construct indent).isOk = true) :
    ∃ texts : List String,
      mnemonics.map (fun mnemonic => mnemonic.construct indent) = texts.map .ok := by
  induction mnemonics with
  | nil => exact ⟨[], rfl⟩
  | cons mnemonic rest induction =>
      obtain ⟨texts, written⟩ := induction fun other member =>
        writable other (List.mem_cons_of_mem mnemonic member)
      have head := writable mnemonic List.mem_cons_self
      cases constructed : mnemonic.construct indent with
      | error cause => simp [constructed, Except.isOk, Except.toBool] at head
      | ok text => exact ⟨text :: texts, by simp [constructed, written]⟩

/-- Instructions that can be written give their texts, and the lines go on
with the next index. -/
theorem linesFrom_append (indent : String) (index : Nat) (rest : List Mnemonic)
    {mnemonics : List Mnemonic} {texts : List String}
    (written : mnemonics.map (fun mnemonic => mnemonic.construct indent) = texts.map .ok) :
    linesFrom indent index (mnemonics ++ rest) =
      texts.map .ok ++ linesFrom indent (index + mnemonics.length) rest := by
  induction mnemonics generalizing index texts with
  | nil =>
      have none : texts = [] := by simpa using written.symm
      simp [none]
  | cons mnemonic mnemonics induction =>
      cases texts with
      | nil => simp at written
      | cons text texts =>
          rw [List.map_cons, List.map_cons, List.cons.injEq] at written
          have shifted : index + 1 + mnemonics.length =
              index + (mnemonic :: mnemonics).length := by
            rw [List.length_cons]
            omega
          rw [List.cons_append, linesFrom, written.1, induction (index + 1) written.2, shifted]
          rfl

theorem collect_append (texts : List String) (rest : List (Except InstructionError String)) :
    collect (texts.map .ok ++ rest) = (collect rest).map (texts ++ ·) := by
  induction texts with
  | nil =>
      cases collected : collect rest with
      | error failure => simp [collected, Except.map]
      | ok others => simp [collected, Except.map]
  | cons text texts induction =>
      rw [List.map_cons, List.cons_append, collect, induction]
      cases collect rest with
      | error failure => rfl
      | ok others => rfl

/-! ## The three views -/

/-- The program can be written, with the given texts as its lines.  A writer
is handed the whole listing at once, with a line end unless it is empty, and
its answer is the answer of the program. -/
structure Written (program : Program) (texts : List String) : Prop where
  constructed :
    program.mnemonics.map (fun mnemonic => mnemonic.construct program.indent) = texts.map .ok
  length : texts.length = program.size
  lines : program.lines = texts.map .ok
  listing : program.listing = .ok ("\n".intercalate texts)
  send : ∀ {State Failure : Type} (writer : Writer State Failure) (state : State),
    let listing := "\n".intercalate texts
    let (next, receipt) := writer state (if listing = "" then "" else listing ++ "\n")
    program.send writer state = (next, ⟨receipt.count, receipt.failure?.map .writer⟩)

/-- The program cannot be written because of one instruction.  The given
texts are the lines in front of it, and a writer is left as it was. -/
structure Stopped (program : Program) (texts : List String) (failure : InstructionError) :
    Prop where
  constructed :
    (program.mnemonics.take failure.index).map
        (fun mnemonic => mnemonic.construct program.indent) =
      texts.map .ok
  length : texts.length = failure.index
  instruction : ∃ mnemonic, program.mnemonics[failure.index]? = some mnemonic ∧
    mnemonic.name = failure.name ∧ mnemonic.construct program.indent = .error failure.cause
  lines : program.lines = texts.map .ok ++ [.error failure]
  listing : program.listing = .error failure
  send : ∀ {State Failure : Type} (writer : Writer State Failure) (state : State),
    program.send writer state = (state, ⟨0, some (.instruction failure)⟩)

/-- A program without a failing instruction is written in full. -/
theorem exists_written (program : Program) (complete : program.firstFailure? = none) :
    ∃ texts, program.Written texts := by
  have writable : ∀ mnemonic ∈ program.mnemonics,
      (mnemonic.construct program.indent).isOk = true := by
    simpa [firstFailure?, List.findIdx?_eq_none_iff] using complete
  obtain ⟨texts, constructed⟩ := exists_texts program.indent program.mnemonics writable
  have lines : program.lines = texts.map .ok := by
    have appended := linesFrom_append program.indent 0 [] constructed
    simpa [lines_eq, linesFrom] using appended
  have listing : program.listing = .ok ("\n".intercalate texts) := by
    have collected := collect_append texts []
    rw [List.append_nil] at collected
    simp [listing_eq_collect, lines, collected, collect, Except.map]
  refine ⟨texts, constructed, ?_, lines, listing, ?_⟩
  · have lengths := congrArg List.length constructed
    rw [List.length_map, List.length_map, length_mnemonics] at lengths
    exact lengths.symm
  · intro State Failure writer state
    have output : program.output =
        .ok (if "\n".intercalate texts = "" then "" else "\n".intercalate texts ++ "\n") := by
      by_cases blank : "\n".intercalate texts = ""
      · simp [output_eq_map, listing, Except.map, blank]
      · simp [output_eq_map, listing, Except.map, blank]
    exact send_of_output writer state output

/-- A program with a failing instruction stops at the first one. -/
theorem exists_stopped (program : Program) (index : Nat)
    (first : program.firstFailure? = some index) :
    ∃ texts failure, failure.index = index ∧ program.Stopped texts failure := by
  obtain ⟨bound, fails, earlier⟩ := List.findIdx?_eq_some_iff_getElem.mp first
  have writable : ∀ mnemonic ∈ program.mnemonics.take index,
      (mnemonic.construct program.indent).isOk = true := by
    intro mnemonic member
    obtain ⟨place, before, rfl⟩ := List.mem_take_iff_getElem.mp member
    have written := earlier place (by omega)
    simpa using written
  obtain ⟨texts, constructed⟩ :=
    exists_texts program.indent (program.mnemonics.take index) writable
  cases wrong : program.mnemonics[index].construct program.indent with
  | ok text => simp [wrong, Except.isOk, Except.toBool] at fails
  | error cause =>
      have taken : (program.mnemonics.take index).length = index := by
        rw [List.length_take]
        omega
      have lines : program.lines =
          texts.map .ok ++ [.error ⟨index, program.mnemonics[index].name, cause⟩] := by
        have appended := linesFrom_append program.indent 0
          (program.mnemonics[index] :: program.mnemonics.drop (index + 1)) constructed
        rw [← List.drop_eq_getElem_cons bound, List.take_append_drop, taken, Nat.zero_add,
          List.drop_eq_getElem_cons bound, linesFrom, wrong] at appended
        rw [lines_eq]
        exact appended
      have listing : program.listing =
          .error ⟨index, program.mnemonics[index].name, cause⟩ := by
        rw [listing_eq_collect, lines, collect_append]
        rfl
      refine ⟨texts, ⟨index, program.mnemonics[index].name, cause⟩, rfl, constructed, ?_,
        ⟨program.mnemonics[index], List.getElem?_eq_getElem bound, rfl, wrong⟩,
        lines, listing, ?_⟩
      · have lengths := congrArg List.length constructed
        rw [List.length_map, List.length_map, taken] at lengths
        exact lengths.symm
      · intro State Failure writer state
        refine send_of_output_error writer state ?_
        rw [output_eq_map, listing]
        rfl

/-- However its instructions were grouped when they were inserted, a program
is written in full or stops at the first instruction that cannot be
written. -/
theorem insertGroups_views_agree (base : Program) (groups : List (List Nat)) :
    (base.insertGroups groups = base.insertAll groups.flatten ∧
      (base.insertGroups groups).mnemonics = base.mnemonics ++
        groups.flatten.filterMap fun position => base.drafts[position]?) ∧
    match (base.insertGroups groups).firstFailure? with
    | none => ∃ texts, (base.insertGroups groups).Written texts
    | some index => ∃ texts failure, failure.index = index ∧
        (base.insertGroups groups).Stopped texts failure := by
  refine ⟨⟨insertGroups_eq_insertAll base groups, ?_⟩, ?_⟩
  · rw [insertGroups_eq_insertAll, mnemonics_insertAll]
  · cases first : (base.insertGroups groups).firstFailure? with
    | none => exact exists_written (base.insertGroups groups) first
    | some index => exact exists_stopped (base.insertGroups groups) index first

end Program

end AsmListing
