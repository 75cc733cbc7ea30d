import AsmListing.Proofs.Disassembly.KindErasure
import AsmListing.Proofs.Program.Growth

/-!
# Switching comments

Comments are switched at every inserted draft, however often it was inserted,
and at no other.  Only the last of several switches counts.  A comment stands
behind everything else in its line and takes no part in whether the line can be
written, so a program fails with and without comments alike, and its listing
without comments is decided by the names and operands of its instructions.
-/

namespace AsmListing

namespace Mnemonic

/-- The instruction with its comment switched on or off. -/
def switched (enabled : Bool) (mnemonic : Mnemonic) : Mnemonic :=
  { mnemonic with commentEnabled := enabled }

/-- The instruction with nothing left but its name and its operands. -/
def bare (mnemonic : Mnemonic) : Mnemonic :=
  ⟨mnemonic.name, mnemonic.operands, .generic, "", false⟩

/-- What stands behind the bare instruction in its line. -/
def trail (mnemonic : Mnemonic) : String :=
  if mnemonic.commentEnabled then "  ; " ++ mnemonic.ownComment else ""

theorem remark_eq_trail {mnemonic : Mnemonic} {texts : List String}
    (written : operandTexts 1 mnemonic.operands = .ok texts) :
    mnemonic.remark texts = mnemonic.trail := by
  have operands : mnemonic.writtenOperands = texts := by
    rw [writtenOperands, written]
    rfl
  rw [remark, trail, ownComment, operands]

/-- A line is the line of the bare instruction and the comment behind it. -/
theorem construct_eq_map_bare (mnemonic : Mnemonic) (indent : String) :
    mnemonic.construct indent =
      (mnemonic.bare.construct indent).map (· ++ mnemonic.trail) := by
  have operands : mnemonic.bare.operands = mnemonic.operands := rfl
  rw [construct, construct, operands]
  cases written : operandTexts 1 mnemonic.operands with
  | error failure => rfl
  | ok texts =>
      have quiet : mnemonic.bare.remark texts = "" := rfl
      simp only [Except.map, remark_eq_trail written, quiet, String.append_empty]
      rfl

theorem construct_bare (mnemonic : Mnemonic) (quiet : mnemonic.commentEnabled = false)
    (indent : String) : mnemonic.bare.construct indent = mnemonic.construct indent := by
  have nothing : mnemonic.trail = "" := by
    rw [trail, quiet]
    rfl
  rw [construct_eq_map_bare mnemonic, nothing]
  cases mnemonic.bare.construct indent with
  | error failure => rfl
  | ok line => simp [Except.map]

end Mnemonic

namespace Program

/-! ## The switched program -/

/-- The program with the comments of its inserted drafts switched on or off,
and everything else as it is. -/
def switched (program : Program) (enabled : Bool) : Program :=
  { program with
    drafts := program.drafts.mapIdx fun place mnemonic =>
      if place ∈ program.sequence then mnemonic.switched enabled else mnemonic
    sequence_lt := by simpa using program.sequence_lt }

section Switched

variable (program : Program) (enabled : Bool)

/-- Changing one draft after the other leaves everything but the drafts as it
was. -/
theorem exists_foldl_edit (change : Mnemonic → Mnemonic) (positions : List Nat) :
    ∃ bound, positions.foldl (fun program position => program.edit position change) program =
      { program with
        drafts := positions.foldl
          (fun drafts position => drafts.modify position change) program.drafts
        sequence_lt := bound } := by
  induction positions generalizing program with
  | nil => exact ⟨program.sequence_lt, rfl⟩
  | cons position rest induction => exact induction (program.edit position change)

theorem setComments_eq_switched : program.setComments enabled = program.switched enabled := by
  obtain ⟨_, _, switches⟩ := foldl_edit_switch program enabled program.sequence.toList
  obtain ⟨bound, same⟩ := exists_foldl_edit program
    (fun mnemonic => { mnemonic with commentEnabled := enabled }) program.sequence.toList
  rw [same] at switches
  have drafts : program.sequence.toList.foldl (fun drafts position =>
      drafts.modify position fun mnemonic => { mnemonic with commentEnabled := enabled })
        program.drafts = (program.switched enabled).drafts := by
    refine Array.ext_getElem? fun place => (switches place).trans ?_
    rw [switched, Array.getElem?_mapIdx]
    by_cases inserted : place ∈ program.sequence
    · simp only [Array.mem_toList_iff, inserted, if_true]
      rfl
    · simp [inserted]
  -- The drafts are the only field that the two programs could differ in.
  rw [setComments, ← Array.foldl_toList, same, switched]
  congr 1

/-- The second of two switches undoes the first. -/
theorem setComments_setComments (first second : Bool) :
    (program.setComments first).setComments second = program.setComments second := by
  have drafts : ((program.switched first).switched second).drafts =
      (program.switched second).drafts := by
    simp only [switched, Array.mapIdx_mapIdx]
    refine congrArg (program.drafts.mapIdx ·) (funext fun place => funext fun mnemonic => ?_)
    by_cases inserted : place ∈ program.sequence
    · simp [inserted, Mnemonic.switched]
    · simp [inserted]
  simp only [setComments_eq_switched]
  rw [switched, switched]
  congr 1

/-- Of several switches only the last counts. -/
theorem foldl_setComments (settings : List Bool) :
    settings.foldl setComments program = settings.getLast?.elim program program.setComments := by
  induction settings generalizing program with
  | nil => rfl
  | cons setting rest induction =>
      rw [List.foldl_cons, induction, List.getLast?_cons]
      cases rest.getLast? with
      | none => rfl
      | some last => exact program.setComments_setComments setting last

/-- A draft that was not inserted yet is inserted as it is. -/
theorem mnemonics_setComments_insertAll {positions : List Nat}
    (later : ∀ position ∈ positions, position ∉ program.sequence) :
    ((program.setComments enabled).insertAll positions).mnemonics =
      program.mnemonics.map (Mnemonic.switched enabled) ++
        positions.filterMap fun position => program.drafts[position]? := by
  have untouched : positions.filterMap (fun position =>
        (program.setComments enabled).drafts[position]?) =
      positions.filterMap fun position => program.drafts[position]? := by
    refine List.filterMap_congr fun position member => ?_
    simp [setComments_eq_switched, switched, later position member]
  rw [mnemonics_insertAll, mnemonics_setComments, untouched]
  rfl

theorem mnemonics_setComments_append (mnemonic : Mnemonic) :
    ((program.setComments enabled).append mnemonic).mnemonics =
      program.mnemonics.map (Mnemonic.switched enabled) ++ [mnemonic] := by
  rw [(Grown.append (program.setComments enabled) mnemonic).mnemonics, mnemonics_setComments]
  rfl

end Switched

/-! ## Lines with and without comments -/

section Lines

variable (program : Program)

/-- Lines of instructions are the lines of the bare instructions with the
comments behind them, up to an instruction that cannot be written. -/
theorem linesFrom_eq_zipWith (indent : String) (index : Nat) (mnemonics : List Mnemonic) :
    linesFrom indent index mnemonics =
      List.zipWith (fun line mnemonic => line.map (· ++ mnemonic.trail))
        (linesFrom indent index (mnemonics.map Mnemonic.bare)) mnemonics := by
  induction mnemonics generalizing index with
  | nil => rfl
  | cons mnemonic rest induction =>
      rw [List.map_cons, linesFrom, linesFrom, mnemonic.construct_eq_map_bare, induction]
      cases mnemonic.bare.construct indent with
      | error cause => rfl
      | ok line => rfl

/-- Comments do not decide whether lines can be collected. -/
theorem collect_linesFrom (indent : String) (index : Nat) (mnemonics : List Mnemonic) :
    collect (linesFrom indent index mnemonics) =
      (collect (linesFrom indent index (mnemonics.map Mnemonic.bare))).map fun texts =>
        List.zipWith (fun text mnemonic => text ++ mnemonic.trail) texts mnemonics := by
  induction mnemonics generalizing index with
  | nil => rfl
  | cons mnemonic rest induction =>
      rw [List.map_cons, linesFrom, linesFrom, mnemonic.construct_eq_map_bare]
      cases mnemonic.bare.construct indent with
      | error cause => rfl
      | ok line =>
          simp only [Except.map, collect, induction]
          cases collect (linesFrom indent (index + 1) (rest.map Mnemonic.bare)) with
          | error failure => rfl
          | ok texts => rfl

theorem lines_setComments_false :
    (program.setComments false).lines =
      linesFrom program.indent 0 (program.mnemonics.map Mnemonic.bare) := by
  have bare : program.mnemonics.map Mnemonic.bare =
      (program.setComments false).mnemonics.map Mnemonic.bare := by
    rw [mnemonics_setComments, List.map_map]
    rfl
  have kept : ∀ mnemonic ∈ (program.setComments false).mnemonics,
      mnemonic.bare.name = mnemonic.name ∧
        mnemonic.bare.construct program.indent = mnemonic.construct program.indent := by
    intro mnemonic member
    rw [mnemonics_setComments] at member
    obtain ⟨original, _, rfl⟩ := List.mem_map.mp member
    exact ⟨rfl, Mnemonic.construct_bare _ rfl program.indent⟩
  rw [bare, lines_eq, setComments_indent]
  exact (linesFrom_map kept 0).symm

theorem lines_eq_zipWith :
    program.lines =
      List.zipWith (fun line mnemonic => line.map (· ++ mnemonic.trail))
        (program.setComments false).lines program.mnemonics := by
  rw [lines_setComments_false, lines_eq, ← linesFrom_eq_zipWith]

theorem collect_lines :
    collect program.lines = (collect (program.setComments false).lines).map fun texts =>
      List.zipWith (fun text mnemonic => text ++ mnemonic.trail) texts program.mnemonics := by
  rw [lines_setComments_false, lines_eq, ← collect_linesFrom]

theorem listing_eq_error_iff_setComments_false {failure : InstructionError} :
    program.listing = .error failure ↔ (program.setComments false).listing = .error failure := by
  rw [listing_eq_collect, listing_eq_collect, collect_lines]
  cases collect (program.setComments false).lines with
  | error other => rfl
  | ok texts => simp [Except.map]

/-- A program fails with its comments switched as it fails without. -/
theorem listing_setComments_eq_error_iff (enabled : Bool) {failure : InstructionError} :
    (program.setComments enabled).listing = .error failure ↔
      program.listing = .error failure := by
  rw [listing_eq_error_iff_setComments_false, setComments_setComments,
    ← listing_eq_error_iff_setComments_false]

/-- With comments every line goes on behind the line without. -/
theorem lines_setComments_true :
    (program.setComments true).lines =
      List.zipWith (fun line mnemonic => line.map (· ++ ("  ; " ++ mnemonic.ownComment)))
        (program.setComments false).lines program.mnemonics := by
  rw [lines_eq_zipWith, setComments_setComments, mnemonics_setComments, List.zipWith_map_right]
  rfl

theorem exists_written_of_listing {program : Program} {listing : String}
    (written : program.listing = .ok listing) : ∃ texts, program.Written texts := by
  cases first : program.firstFailure? with
  | none => exact exists_written program first
  | some index =>
      obtain ⟨_, _, _, stopped⟩ := exists_stopped program index first
      rw [stopped.listing] at written
      contradiction

theorem exists_listing_of_listing {listing : String} (written : program.listing = .ok listing) :
    ∃ quiet : List String, quiet.length = program.size ∧
      (program.setComments false).listing = .ok ("\n".intercalate quiet) ∧
      (program.setComments true).listing = .ok ("\n".intercalate
        (List.zipWith (fun text mnemonic => text ++ ("  ; " ++ mnemonic.ownComment))
          quiet program.mnemonics)) := by
  have writable := (exists_listing_iff program).mp ⟨listing, written⟩
  obtain ⟨_, listed⟩ := exists_listing_setComments writable false
  obtain ⟨quiet, without⟩ := exists_written_of_listing listed
  refine ⟨quiet, by rw [without.length, setComments_size], without.listing, ?_⟩
  have collected : collect (program.setComments false).lines = .ok quiet := by
    have appended := collect_append quiet []
    rw [List.append_nil, ← without.lines] at appended
    simpa [collect, Except.map] using appended
  rw [listing_eq_collect, collect_lines, setComments_setComments, collected,
    mnemonics_setComments]
  simp only [Except.map, List.zipWith_map_right]
  rfl

theorem listing_setComments_false_congr {other : Program} (indent : other.indent = program.indent)
    (bare : other.mnemonics.map Mnemonic.bare = program.mnemonics.map Mnemonic.bare) :
    (other.setComments false).listing = (program.setComments false).listing := by
  rw [listing_eq_collect, listing_eq_collect, lines_setComments_false, lines_setComments_false,
    indent, bare]

end Lines

/-- Switching comments reaches exactly the inserted drafts and nothing but their
switch, and the last switch counts.  Drafts that are inserted later keep their
own setting.  Whether and how a program fails does not depend on comments.  With
comments each line is the one without and its comment behind, and without them
the listing shows names and operands only. -/
theorem setComments_switches (program : Program) :
    (∀ enabled, program.setComments enabled = program.switched enabled) ∧
    (∀ settings : List Bool, settings.foldl setComments program =
      settings.getLast?.elim program program.setComments) ∧
    (∀ enabled positions, (∀ position ∈ positions, position ∉ program.sequence) →
      ((program.setComments enabled).insertAll positions).mnemonics =
        program.mnemonics.map (Mnemonic.switched enabled) ++
          positions.filterMap fun position => program.drafts[position]?) ∧
    (∀ enabled mnemonic, ((program.setComments enabled).append mnemonic).mnemonics =
      program.mnemonics.map (Mnemonic.switched enabled) ++ [mnemonic]) ∧
    (∀ enabled failure, (program.setComments enabled).listing = .error failure ↔
      program.listing = .error failure) ∧
    (program.setComments true).lines =
      List.zipWith (fun line mnemonic => line.map (· ++ ("  ; " ++ mnemonic.ownComment)))
        (program.setComments false).lines program.mnemonics ∧
    (∀ listing, program.listing = .ok listing →
      ∃ quiet : List String, quiet.length = program.size ∧
        (program.setComments false).listing = .ok ("\n".intercalate quiet) ∧
        (program.setComments true).listing = .ok ("\n".intercalate
          (List.zipWith (fun text mnemonic => text ++ ("  ; " ++ mnemonic.ownComment))
            quiet program.mnemonics))) ∧
    ∀ other : Program, other.indent = program.indent →
      other.mnemonics.map Mnemonic.bare = program.mnemonics.map Mnemonic.bare →
      (other.setComments false).listing = (program.setComments false).listing :=
  ⟨program.setComments_eq_switched, program.foldl_setComments,
    fun enabled _ => program.mnemonics_setComments_insertAll enabled,
    program.mnemonics_setComments_append,
    fun enabled _ => program.listing_setComments_eq_error_iff enabled,
    program.lines_setComments_true,
    fun _ => program.exists_listing_of_listing,
    fun _ => program.listing_setComments_false_congr⟩

-- One draft stands at two places and another at none.
example :
    let program := (((Program.new 0 "boot.asm" .bits64).append
      ⟨"inc", [.text "AX"], .generic, "step", false⟩).insert 0).draft
      ⟨"hlt", [], .generic, "", false⟩
    (program.setComments true).listing = .ok "inc AX  ; step\ninc AX  ; step" ∧
      ((program.setComments true).insert 1).listing =
        .ok "inc AX  ; step\ninc AX  ; step\nhlt" := by
  decide

end Program

end AsmListing
