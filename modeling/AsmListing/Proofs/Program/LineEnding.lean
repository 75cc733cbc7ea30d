import AsmListing.Proofs.Program.Division

/-!
# Line ends of written programs

A writer is handed the listing of a program with a line end behind it, and so
every line of it ends.  A listing that is empty is handed over without a line
end.  It belongs to a program without instructions, but also to one whose only
instruction has an empty line, and that line is lost.
-/

namespace AsmListing

namespace Text

def terminated (lines : List String) : String :=
  String.join (lines.map (· ++ "\n"))

theorem terminated_eq {lines : List String} (inhabited : lines ≠ []) :
    terminated lines = "\n".intercalate lines ++ "\n" := by
  unfold terminated
  induction lines with
  | nil => contradiction
  | cons first rest induction =>
      cases rest with
      | nil => simp
      | cons second rest =>
          rw [List.map_cons, String.join_cons, induction (by simp),
            String.intercalate_cons_cons]
          simp only [String.append_assoc]

/-- Separated lines make no text only if there is nothing to separate. -/
theorem intercalate_eq_empty_iff {lines : List String} :
    "\n".intercalate lines = "" ↔ lines = [] ∨ lines = [""] := by
  cases lines with
  | nil => simp
  | cons first rest =>
      cases rest with
      | nil => simp
      | cons second rest => simp

end Text

/-! ## Empty lines -/

namespace Mnemonic

theorem writtenOperands_eq_nil_iff {mnemonic : Mnemonic} (writable : mnemonic.Writable) :
    mnemonic.writtenOperands = [] ↔ mnemonic.operands = [] := by
  obtain ⟨texts, written⟩ := writable
  rcases fit_or_blames mnemonic with fit | ⟨failure, blames⟩
  · simp [writtenOperands, operandTexts_eq_ok 1 fit, Except.toOption]
  · have failed := construct_of_blames blames ""
    rw [construct_of_operandTexts written] at failed
    contradiction

theorem code_eq_empty_iff {name : String} {operands : List String} :
    code name operands = "" ↔ name = "" ∧ operands = [] := by
  unfold code
  cases operands with
  | nil => simp
  | cons first rest => simp

theorem remark_eq_empty_iff {mnemonic : Mnemonic} {operands : List String} :
    mnemonic.remark operands = "" ↔ mnemonic.commentEnabled = false := by
  unfold remark
  cases mnemonic.commentEnabled with
  | true => simp
  | false => simp

/-- A line is empty if nothing goes into it. -/
theorem line_eq_empty_iff {mnemonic : Mnemonic} (writable : mnemonic.Writable)
    {indent : String} :
    mnemonic.line indent = "" ↔ indent = "" ∧ mnemonic.name = "" ∧ mnemonic.operands = [] ∧
      mnemonic.commentEnabled = false := by
  rw [line, String.append_eq_empty_iff, String.append_eq_empty_iff, code_eq_empty_iff,
    remark_eq_empty_iff, writtenOperands_eq_nil_iff writable]
  simp only [and_assoc]

end Mnemonic

namespace Program

/-- The only instruction of the program has an empty line. -/
def Blank (program : Program) : Prop :=
  program.indent = "" ∧ ∃ mnemonic, program.mnemonics = [mnemonic] ∧ mnemonic.name = "" ∧
    mnemonic.operands = [] ∧ mnemonic.commentEnabled = false

section Blank

variable {program : Program}

theorem blank_iff (writable : ∀ mnemonic ∈ program.mnemonics, mnemonic.Writable) :
    program.Blank ↔
      (program.mnemonics.map fun mnemonic => mnemonic.line program.indent) = [""] := by
  rw [List.map_eq_singleton_iff]
  constructor
  · rintro ⟨indent, mnemonic, only, name, operands, quiet⟩
    refine ⟨mnemonic, only, ?_⟩
    rw [Mnemonic.line_eq_empty_iff (writable mnemonic (by simp [only]))]
    exact ⟨indent, name, operands, quiet⟩
  · rintro ⟨mnemonic, only, empty⟩
    rw [Mnemonic.line_eq_empty_iff (writable mnemonic (by simp [only]))] at empty
    obtain ⟨indent, name, operands, quiet⟩ := empty
    exact ⟨indent, mnemonic, only, name, operands, quiet⟩

theorem output_of_blank (writable : ∀ mnemonic ∈ program.mnemonics, mnemonic.Writable)
    (blank : program.Blank) : program.output = .ok "" := by
  rw [output_eq_map, listing_eq writable, (blank_iff writable).mp blank]
  rfl

/-- Behind each line of any other program there is a line end. -/
theorem output_of_not_blank (writable : ∀ mnemonic ∈ program.mnemonics, mnemonic.Writable)
    (shown : ¬ program.Blank) :
    program.output = .ok (Text.terminated
      (program.mnemonics.map fun mnemonic => mnemonic.line program.indent)) := by
  rw [output_eq_map, listing_eq writable]
  rw [blank_iff writable] at shown
  generalize (program.mnemonics.map fun mnemonic => mnemonic.line program.indent) = lines at shown
  by_cases inhabited : lines = []
  · rw [inhabited]
    rfl
  · have text : "\n".intercalate lines ≠ "" := by
      rw [ne_eq, Text.intercalate_eq_empty_iff]
      simp [inhabited, shown]
    simp [Except.map, text, Text.terminated_eq inhabited]

end Blank

/-! ## Writers that take everything -/

/-- A writer that adds every text to what it holds and reports all its bytes. -/
structure TakesAll {State Failure : Type} (writer : Writer State Failure)
    (contents : State → List UInt8) : Prop where
  adds : ∀ state text, contents (writer state text).1 = contents state ++ text.toUTF8.toList
  reports : ∀ state text, (writer state text).2 = ⟨text.toUTF8.toList.length, none⟩

def keepBytes : Writer (List UInt8) Empty :=
  fun held text => (held ++ text.toUTF8.toList, ⟨text.toUTF8.toList.length, none⟩)

theorem keepBytes_takesAll : TakesAll keepBytes id :=
  ⟨fun _ _ => rfl, fun _ _ => rfl⟩

/-- The writer has received a text for the program, and the number of its bytes
is reported. -/
structure Received {State Failure : Type} (program : Program) (writer : Writer State Failure)
    (contents : State → List UInt8) (state : State) (text : String) : Prop where
  contents : contents (program.send writer state).1 = contents state ++ text.toUTF8.toList
  receipt : (program.send writer state).2 = ⟨text.toUTF8.toList.length, none⟩

theorem received_of_output {program : Program} {text : String}
    (output : program.output = .ok text) {State Failure : Type} {writer : Writer State Failure}
    {contents : State → List UInt8} (takes : TakesAll writer contents) (state : State) :
    program.Received writer contents state text := by
  constructor
  · rw [send_of_output writer state output]
    exact takes.adds state text
  · rw [send_of_output writer state output, takes.reports]
    rfl

/-- A writer that takes everything receives the lines of a program with a line
end behind each of them, unless the program is blank.  Then it receives
nothing. -/
theorem send_terminated_iff (program : Program) (listing : String)
    (written : program.listing = .ok listing) {State Failure : Type}
    (writer : Writer State Failure) (contents : State → List UInt8)
    (takes : TakesAll writer contents) (state : State) :
    ∃ lines : List String,
      program.mnemonics.map (fun mnemonic => mnemonic.construct program.indent) =
        lines.map .ok ∧
      (program.Received writer contents state (Text.terminated lines) ↔ ¬ program.Blank) ∧
      (program.Blank → program.Received writer contents state "") := by
  have writable := (exists_listing_iff program).mp ⟨listing, written⟩
  refine ⟨_, map_construct_eq writable, ⟨?_, ?_⟩, ?_⟩
  · intro received blank
    have nothing := received_of_output (output_of_blank writable blank) takes state
    have same := received.contents.symm.trans nothing.contents
    rw [(blank_iff writable).mp blank, List.append_cancel_left_eq] at same
    exact absurd same (by decide +kernel)
  · intro shown
    exact received_of_output (output_of_not_blank writable shown) takes state
  · intro blank
    exact received_of_output (output_of_blank writable blank) takes state

theorem send_terminated_two_lines :
    let program := ((Program.new 0 "test.asm" .bits16).append
      ⟨"push", [.text "AX"], .generic, "", false⟩).append
      ⟨"", [], .generic, "", false⟩
    program.listing = .ok "push AX\n" ∧ TakesAll keepBytes id ∧ ¬ program.Blank ∧
      program.Received keepBytes id [] "push AX\n\n" := by
  intro program
  have written : program.listing = .ok "push AX\n" := by decide
  have shown : ¬ program.Blank := by
    rintro ⟨_, mnemonic, only, _⟩
    have one : program.mnemonics.length = 1 := by rw [only, List.length_singleton]
    exact absurd one (by decide)
  obtain ⟨lines, constructed, received, _⟩ :=
    send_terminated_iff program _ written keepBytes id keepBytes_takesAll []
  have texts : lines = ["push AX", ""] :=
    (List.map_injective_iff.mpr fun _ _ => Except.ok.inj) constructed.symm
  rw [texts] at received
  exact ⟨written, keepBytes_takesAll, shown, received.mpr shown⟩

/-- An instruction without a name, operands and a comment has an empty line, and
nothing is written for it. -/
theorem send_unterminated_empty_line :
    let program := (Program.new 0 "boot.asm" .bits64).append ⟨"", [], .generic, "", false⟩
    program.size = 1 ∧ program.lines = [.ok ""] ∧ program.listing = .ok "" ∧
      Text.terminated [""] = "\n" ∧ TakesAll keepBytes id ∧
      program.send keepBytes [] = ([], ⟨0, none⟩) ∧
      ¬ program.Received keepBytes id [] (Text.terminated [""]) := by
  intro program
  refine ⟨by decide, rfl, by decide, by decide, keepBytes_takesAll, by decide +kernel,
    fun received => ?_⟩
  exact absurd received.contents (by decide +kernel)

end Program

end AsmListing
