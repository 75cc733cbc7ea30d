import AsmListing.Proofs.Program.Division

/-!
# Kinds show in comments only

Disassembly looks up a kind for every instruction, and falls back to the
generic kind if the operands do not fit.  The kind decides how the default
comment reads and nothing else.  With its kinds erased, a disassembled program
is the one that a table without entries leads to, so that no two tables can be
told apart by a listing without comments.
-/

namespace AsmListing

namespace KindTable

def vacant : KindTable := ⟨[]⟩

theorem fitting_vacant (name : String) (count : Nat) : vacant.fitting name count = .generic := by
  unfold fitting
  split
  · rfl
  · rfl

end KindTable

/-- The operands are those in front of the first empty slot. -/
theorem MachineInstruction.operands_eq (instruction : MachineInstruction) :
    instruction.operands = (instruction.slots.takeWhile Option.isSome).filterMap id := by
  unfold operands
  induction instruction.slots with
  | nil => rfl
  | cons slot rest induction =>
      cases slot with
      | none => rfl
      | some operand => simp [leading, induction]

/-! ## Erasing kinds -/

/-- The instruction as one of the generic kind. -/
def Mnemonic.erased (mnemonic : Mnemonic) : Mnemonic :=
  { mnemonic with kind := .generic }

/-- A line without a comment does not show the kind. -/
theorem Mnemonic.construct_erased {mnemonic : Mnemonic} (quiet : mnemonic.commentEnabled = false)
    (indent : String) : mnemonic.erased.construct indent = mnemonic.construct indent := by
  have silent : ∀ texts, mnemonic.remark texts = "" := by
    intro texts
    rw [remark, quiet]
    rfl
  have silentErased : ∀ texts, mnemonic.erased.remark texts = "" := by
    intro texts
    rw [remark, erased, quiet]
    rfl
  simp only [construct, silent, silentErased]
  rfl

namespace Program

def erased (program : Program) : Program :=
  { program with
    drafts := program.drafts.map Mnemonic.erased
    sequence_lt := by simpa using program.sequence_lt }

section Erased

variable (program : Program)

theorem erased_append (mnemonic : Mnemonic) :
    (program.append mnemonic).erased = program.erased.append mnemonic.erased := by
  simp [append, insert, draft, erased]

theorem mnemonics_erased : program.erased.mnemonics = program.mnemonics.map Mnemonic.erased := by
  simp [mnemonics, erased, List.map_filterMap]

/-- Lines are decided by what instructions are called and how they are
written. -/
theorem linesFrom_map {change : Mnemonic → Mnemonic} {indent : String}
    {mnemonics : List Mnemonic}
    (kept : ∀ mnemonic ∈ mnemonics, (change mnemonic).name = mnemonic.name ∧
      (change mnemonic).construct indent = mnemonic.construct indent) (index : Nat) :
    linesFrom indent index (mnemonics.map change) = linesFrom indent index mnemonics := by
  induction mnemonics generalizing index with
  | nil => rfl
  | cons mnemonic rest induction =>
      obtain ⟨name, construct⟩ := kept mnemonic List.mem_cons_self
      have later := induction (fun other member =>
        kept other (List.mem_cons_of_mem mnemonic member)) (index + 1)
      rw [List.map_cons, linesFrom, linesFrom, name, construct, later]

/-- A program without comments reads the same with its kinds erased. -/
theorem listing_setComments_erased :
    (program.erased.setComments false).listing = (program.setComments false).listing := by
  -- Kinds are erased after the comments are off, for only then do lines not show
  -- them.
  let silenced := program.mnemonics.map fun mnemonic => { mnemonic with commentEnabled := false }
  have erasedLater : (program.erased.setComments false).mnemonics =
      silenced.map Mnemonic.erased := by
    rw [mnemonics_setComments, mnemonics_erased, List.map_map, List.map_map]
    rfl
  have kept : ∀ mnemonic ∈ silenced, mnemonic.erased.name = mnemonic.name ∧
      mnemonic.erased.construct program.indent = mnemonic.construct program.indent := by
    intro mnemonic member
    obtain ⟨original, _, rfl⟩ := List.mem_map.mp member
    exact ⟨rfl, Mnemonic.construct_erased rfl program.indent⟩
  have indent : program.erased.indent = program.indent := rfl
  have lines : (program.erased.setComments false).lines = (program.setComments false).lines := by
    rw [lines_eq, lines_eq, erasedLater, mnemonics_setComments, setComments_indent,
      setComments_indent, indent]
    exact linesFrom_map kept 0
  rw [listing_eq_collect, listing_eq_collect, lines]

end Erased

end Program

/-! ## Disassembly with kinds erased -/

namespace Disassembly

def Outcome.erased (outcome : Outcome) : Outcome :=
  { outcome with program := outcome.program.erased }

section Walk

variable (decoder : InstructionDecoder) (kinds : KindTable)

theorem mnemonic_erased (registers : RegisterSet) (instruction : MachineInstruction) :
    (mnemonic kinds registers instruction).erased =
      mnemonic .vacant registers instruction := by
  rw [mnemonic_eq, mnemonic_eq, KindTable.fitting_vacant]
  rfl

/-- A walk with its kinds erased is a walk without a table. -/
theorem walk_erased (registers : RegisterSet) (fuel : Nat) (program : Program) (offset : Nat)
    (bytes : List UInt8) (log : List String) :
    (walk decoder kinds registers fuel program offset bytes log).erased =
      walk decoder .vacant registers fuel program.erased offset bytes log := by
  induction fuel generalizing program offset bytes log with
  | zero => rfl
  | succ fuel induction =>
      cases bytes with
      | nil => rfl
      | cons byte rest =>
          -- The decoder is asked before there is a kind, and so alike in both walks.
          have mode : program.erased.mode = program.mode := rfl
          rw [walk, walk, mode]
          cases next decoder program.mode (byte :: rest) with
          | error cause => rfl
          | ok instruction =>
              dsimp only
              rw [induction, Program.erased_append, mnemonic_erased]
              rfl

theorem runWith_erased (program : Program) (code : List UInt8) :
    (runWith decoder kinds program code).erased =
      runWith decoder .vacant program.erased code := by
  have registers : program.erased.registers = program.registers := rfl
  rw [runWith, runWith, registers]
  cases program.registers with
  | none => rfl
  | some registers => exact walk_erased decoder kinds registers code.length program 0 code []

end Walk

/-- A disassembled instruction has its name in small letters, and its operands up
to the first empty slot.  Its kind is the one of its name if that takes the
operands, and the generic one otherwise.  Whatever kinds there are, disassembly
consumes the same bytes and fails alike.  The programs it leads to differ in
kinds only, and without comments they have the same listing. -/
theorem runWith_kinds_unseen :
    (∀ (kinds : KindTable) (registers : RegisterSet) (instruction : MachineInstruction),
      let name := Text.lower instruction.name
      let operands :=
        ((instruction.slots.takeWhile Option.isSome).filterMap id).map (operand registers)
      let made := mnemonic kinds registers instruction
      made.name = name ∧ made.operands = operands ∧
        made.kind = if (kinds.lookup name).takes operands.length then kinds.lookup name
          else .generic) ∧
    ∀ (decoder : InstructionDecoder) (first second : KindTable) (program : Program)
      (code : List UInt8),
      let left := runWith decoder first program code
      let right := runWith decoder second program code
      left.consumed = right.consumed ∧ left.error? = right.error? ∧ left.log = right.log ∧
      left.program.erased = right.program.erased ∧
      (left.program.setComments false).listing = (right.program.setComments false).listing := by
  refine ⟨?_, ?_⟩
  · intro kinds registers instruction name operands made
    have shape : made = _ := mnemonic_eq kinds registers instruction
    rw [instruction.operands_eq] at shape
    rw [shape]
    refine ⟨rfl, rfl, ?_⟩
    simp only [KindTable.fitting, operands, List.length_map]
    rfl
  · intro decoder first second program code left right
    have same : left.erased = right.erased :=
      (runWith_erased decoder first program code).trans
        (runWith_erased decoder second program code).symm
    have consumed := congrArg Outcome.consumed same
    have error? := congrArg Outcome.error? same
    have log := congrArg Outcome.log same
    have programs : left.program.erased = right.program.erased := congrArg Outcome.program same
    refine ⟨consumed, error?, log, programs, ?_⟩
    calc (left.program.setComments false).listing
        = (left.program.erased.setComments false).listing :=
          (Program.listing_setComments_erased left.program).symm
      _ = (right.program.erased.setComments false).listing := by rw [programs]
      _ = (right.program.setComments false).listing :=
          Program.listing_setComments_erased right.program

/-- With comments, the listing tells a table with a kind for `NOP` from one
without. -/
example :
    let program := Program.new 0 "" .bits64
    let further := (KindTable.standard.register "nop" (some (.fixed 0 "Waiting"))).toOption
    (run .standard program [0x90]).program.listing = .ok "nop  ; NOP operation." ∧
      further.map (fun kinds => (run kinds program [0x90]).program.listing) =
        some (.ok "nop  ; Waiting") := by
  decide +kernel

end Disassembly

end AsmListing
