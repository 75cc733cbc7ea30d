import AsmListing.Proofs.Program.Rendering

/-!
# The log of a program

A verbose program logs every line that is rendered for a reader, just before
the reader gets it.  An instruction that cannot be written is not logged, and
neither is anything behind the place where the reader has enough.  Apart from
its log, a verbose program is like any other.
-/

namespace AsmListing

namespace Program

/-! ## Verbose programs -/

def withVerbose (program : Program) (verbose : Bool) : Program :=
  { program with verbose := verbose }

section WithVerbose

variable (program : Program) (verbose : Bool)

@[simp] theorem withVerbose_filename : (program.withVerbose verbose).filename = program.filename :=
  rfl

@[simp] theorem withVerbose_mode : (program.withVerbose verbose).mode = program.mode := rfl

@[simp] theorem withVerbose_indent : (program.withVerbose verbose).indent = program.indent := rfl

@[simp] theorem withVerbose_verbose : (program.withVerbose verbose).verbose = verbose := rfl

@[simp] theorem withVerbose_registers :
    (program.withVerbose verbose).registers = program.registers :=
  rfl

theorem withVerbose_append (mnemonic : Mnemonic) :
    (program.withVerbose verbose).append mnemonic =
      (program.append mnemonic).withVerbose verbose := by
  have drafted : program.drafts.size < (program.draft mnemonic).drafts.size := by
    simp [draft]
  have alike : (program.withVerbose verbose).drafts.size <
      ((program.withVerbose verbose).draft mnemonic).drafts.size := drafted
  rw [append, insert, dif_pos alike, append, insert, dif_pos drafted]
  rfl

theorem withVerbose_setComments (enabled : Bool) :
    (program.withVerbose verbose).setComments enabled =
      (program.setComments enabled).withVerbose verbose := by
  unfold setComments
  exact Array.foldl_hom (fun changed : Program => changed.withVerbose verbose)
    fun changed position => rfl

end WithVerbose

/-! ## Logged lines -/

/-- What is logged about lines that were written. -/
def logged (filename : String) (texts : List String) : List String :=
  texts.mapIdx fun index line => s!"{filename}:{index}: {line}"

/-- Items that a rendering has produced: the texts of the first instructions,
and possibly the failure of the next one. -/
structure Rendered (program : Program) (items : List (Except InstructionError String))
    (texts : List String) : Prop where
  items : items = texts.map .ok ∨ ∃ failure, items = texts.map .ok ++ [.error failure]
  constructed :
    (program.mnemonics.take texts.length).map (fun mnemonic => mnemonic.construct program.indent) =
      texts.map .ok

theorem exists_rendered (program : Program) : ∃ texts, program.Rendered program.lines texts := by
  cases first : program.firstFailure? with
  | none =>
      obtain ⟨texts, written⟩ := exists_written program first
      refine ⟨texts, .inl written.lines, ?_⟩
      have whole : program.mnemonics.take texts.length = program.mnemonics := by
        rw [written.length, ← length_mnemonics, List.take_length]
      rw [whole, written.constructed]
  | some index =>
      obtain ⟨texts, failure, _, stopped⟩ := exists_stopped program index first
      refine ⟨texts, .inr ⟨failure, stopped.lines⟩, ?_⟩
      rw [stopped.length, stopped.constructed]

/-- A reader who has enough after some items has rendered that many of them. -/
theorem Rendered.take {program : Program} {items : List (Except InstructionError String)}
    {texts : List String} (rendered : program.Rendered items texts) (count : Nat) :
    program.Rendered (items.take count) (texts.take count) where
  items := by
    rcases rendered.items with whole | ⟨failure, stopped⟩
    · rw [whole, ← List.map_take]
      exact .inl rfl
    · rw [stopped]
      by_cases early : count ≤ texts.length
      · rw [List.take_append_of_le_length (by simpa using early), ← List.map_take]
        exact .inl rfl
      · have all : texts.take count = texts := List.take_of_length_le (by omega)
        rw [all, List.take_of_length_le (by simp; omega)]
        exact .inr ⟨failure, rfl⟩
  constructed := by
    have front := congrArg (List.take count) rendered.constructed
    rw [← List.map_take, ← List.map_take, List.take_take] at front
    rw [List.length_take, front]

theorem lineLog_append (filename : String) (index : Nat) (texts : List String)
    (rest : List (Except InstructionError String)) :
    lineLog filename index (texts.map .ok ++ rest) =
      texts.mapIdx (fun place line => s!"{filename}:{index + place}: {line}") ++
        lineLog filename (index + texts.length) rest := by
  induction texts generalizing index with
  | nil => simp
  | cons text texts induction =>
      have shifted : ∀ place, index + 1 + place = index + (place + 1) := by
        intro place
        omega
      rw [List.map_cons, List.cons_append, lineLog, induction, List.mapIdx_cons]
      simp only [shifted, Nat.add_zero, List.length_cons, List.cons_append]

theorem Rendered.lineLog {program : Program} {items : List (Except InstructionError String)}
    {texts : List String} (rendered : program.Rendered items texts) (filename : String) :
    Program.lineLog filename 0 items = logged filename texts := by
  have front := lineLog_append filename 0 texts
  simp only [Nat.zero_add] at front
  rcases rendered.items with whole | ⟨failure, stopped⟩
  · have none := front []
    rw [List.append_nil, Program.lineLog, List.append_nil] at none
    rw [whole, none, logged]
  · rw [stopped, front, Program.lineLog, Program.lineLog, List.append_nil, logged]

/-- A rendering logs each line that it has produced, once and in order. -/
theorem render_rendered (program : Program) (demand : Option Nat) :
    ∃ texts, program.Rendered (program.render demand).1 texts ∧
      (program.render demand).2 =
        if program.verbose then logged program.filename texts else [] := by
  obtain ⟨texts, rendered⟩ := exists_rendered program
  cases demand with
  | none =>
      rw [lines_eq] at rendered
      rw [render_eq, logFrom, Option.elim_none, rendered.lineLog]
      exact ⟨texts, rendered, rfl⟩
  | some count =>
      rw [lines_eq] at rendered
      have front := rendered.take count
      rw [render_eq, logFrom, Option.elim_some, front.lineLog]
      exact ⟨texts.take count, front, rfl⟩

/-! ## Verbose readers -/

section Readers

variable (program : Program) (verbose : Bool)

theorem lines_withVerbose : (program.withVerbose verbose).lines = program.lines := by
  rw [lines_eq, lines_eq]
  rfl

theorem render_withVerbose (demand : Option Nat) :
    (program.withVerbose verbose).render demand =
      ((program.render demand).1,
        if verbose then lineLog program.filename 0 (program.render demand).1 else []) := by
  rw [render_eq, render_eq]
  rfl

theorem listing_withVerbose : (program.withVerbose verbose).listing = program.listing := by
  rw [listing_eq_collect, listing_eq_collect, lines_withVerbose]

theorem output_withVerbose : (program.withVerbose verbose).output = program.output := by
  rw [output_eq_map, output_eq_map, listing_withVerbose]

theorem send_withVerbose {State Failure : Type} (writer : Writer State Failure) (state : State) :
    (program.withVerbose verbose).send writer state = program.send writer state := by
  have alike := program.output_withVerbose verbose
  cases output : program.output with
  | error failure =>
      rw [output] at alike
      rw [send_of_output_error writer state output, send_of_output_error writer state alike]
  | ok text =>
      rw [output] at alike
      rw [send_of_output writer state output, send_of_output writer state alike]

/-- A reader who decides is a reader of a number of items, and a verbose program
does not change what the reader gets. -/
theorem exists_received_eq_render (wants : List (Except InstructionError String) → Bool) :
    ∃ demand, ∀ verbose,
      (program.withVerbose verbose).received wants =
        (program.withVerbose verbose).render demand := by
  let items := PushSequence.taken (deciding wants) [] (linesFrom program.indent 0 program.mnemonics)
  exact ⟨some items.length, fun verbose =>
    (program.withVerbose verbose).received_eq_render wants⟩

end Readers

end Program

end AsmListing
