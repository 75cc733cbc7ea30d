import AsmListing.Machine.Decode
import AsmListing.Proofs.Result

/-!
# The bytes of decoded instructions

Reading an instruction takes bytes off the front of a text of bytes, and what
was read is decided by the bytes that were taken.  A decoded instruction
therefore stays the same whatever stands behind its bytes.  The operation
itself takes at least one byte, so every decoded instruction has at least one
byte and no more bytes than it was read from.
-/

namespace AsmListing

namespace Machine

/-! ## Readers -/

/-- A reader takes bytes off the front and leaves the rest.  What it reads is
decided by the bytes that it takes: whatever else stands behind them is left in
the same way. -/
def Takes {Result : Type} (read : List UInt8 → Except Stop Result) (bytes rest : List UInt8)
    (result : List UInt8 → Result) : Prop :=
  ∃ taken, bytes = taken ++ rest ∧ ∀ more, read (taken ++ more) = .ok (result more)

namespace Takes

variable {First Second : Type} {read : List UInt8 → Except Stop First}
  {bytes between rest : List UInt8} {first : List UInt8 → First} {second : List UInt8 → Second}

/-- A reader that leaves all bytes. -/
theorem nothing (bytes : List UInt8) (first : List UInt8 → First) :
    Takes (fun bytes => .ok (first bytes)) bytes bytes first :=
  ⟨[], rfl, fun _ => rfl⟩

/-- A reader that goes on where another one stopped. -/
theorem bind {next : First → Except Stop Second} (early : Takes read bytes between first)
    (late : Takes (fun bytes => next (first bytes)) between rest second) :
    Takes (fun bytes => read bytes >>= next) bytes rest second := by
  obtain ⟨front, rfl, reads⟩ := early
  obtain ⟨back, rfl, continues⟩ := late
  refine ⟨front ++ back, (List.append_assoc front back rest).symm, fun more => ?_⟩
  simp only [List.append_assoc, reads]
  exact continues more

theorem map (convert : First → Second) (early : Takes read bytes rest first) :
    Takes (fun bytes => (read bytes).map convert) bytes rest fun rest => convert (first rest) := by
  obtain ⟨taken, rfl, reads⟩ := early
  refine ⟨taken, rfl, fun more => ?_⟩
  simp only [reads, Except.map]

end Takes

theorem readUnsigned_takes {count value : Nat} {bytes rest : List UInt8}
    (success : readUnsigned count bytes = .ok (value, rest)) :
    Takes (readUnsigned count) bytes rest fun rest => (value, rest) := by
  unfold readUnsigned at success
  split at success
  · contradiction
  · rename_i enough
    obtain ⟨rfl, rfl⟩ := Prod.mk.inj (Except.ok.inj success)
    refine ⟨bytes.take count, (List.take_append_drop count bytes).symm, fun more => ?_⟩
    have length : (bytes.take count).length = count := by
      rw [List.length_take]
      omega
    rw [readUnsigned, if_neg (by rw [List.length_append]; omega),
      List.take_left' length, List.drop_left' length]

theorem readSigned_takes {count : Nat} {value : Int} {bytes rest : List UInt8}
    (success : readSigned count bytes = .ok (value, rest)) :
    Takes (readSigned count) bytes rest fun rest => (value, rest) := by
  obtain ⟨⟨number, left⟩, read, same⟩ := exists_ok_of_map success
  obtain ⟨rfl, rfl⟩ := Prod.mk.inj same
  exact (readUnsigned_takes read).map _

theorem readDisplacement_takes {wide narrow : Bool} {size : Nat} {value : Int}
    {bytes rest : List UInt8}
    (success : readDisplacement wide narrow size bytes = .ok (value, rest)) :
    Takes (readDisplacement wide narrow size) bytes rest fun rest => (value, rest) := by
  unfold readDisplacement at success ⊢
  split at success
  · rename_i isWide
    simp only [isWide, if_true]
    obtain ⟨⟨number, left⟩, read, same⟩ := exists_ok_of_map success
    obtain ⟨rfl, rfl⟩ := Prod.mk.inj same
    exact (readUnsigned_takes read).map _
  split at success
  · rename_i notWide isNarrow
    simp only [notWide, isNarrow, if_true]
    exact readSigned_takes success
  · rename_i notWide notNarrow
    simp only [notWide, notNarrow]
    obtain ⟨rfl, rfl⟩ := Prod.mk.inj (Except.ok.inj success)
    exact .nothing _ _

/-! ## Addresses -/

theorem readWordAddress_takes {segment : MachineRegister} {form other : Nat}
    {memory : MemoryReference} {bytes rest : List UInt8}
    (success : readWordAddress segment form other bytes = .ok (memory, rest)) :
    Takes (readWordAddress segment form other) bytes rest fun rest => (memory, rest) := by
  obtain ⟨⟨displacement, left⟩, read, success⟩ := exists_ok_of_bind success
  refine (readDisplacement_takes read).bind ?_
  dsimp only at success ⊢
  split at success <;>
    · obtain ⟨rfl, rfl⟩ := Prod.mk.inj (Except.ok.inj success)
      exact .nothing _ _

theorem readScaledAddress_takes {leading : Leading} {form : Nat} {memory : MemoryReference}
    {used : UInt8} {bytes rest : List UInt8}
    (success : readScaledAddress leading form bytes = .ok (memory, used, rest)) :
    Takes (readScaledAddress leading form) bytes rest fun rest => (memory, used, rest) := by
  obtain ⟨⟨scale, left⟩, readScale, success⟩ := exists_ok_of_bind success
  obtain ⟨⟨displacement, rest⟩, read, success⟩ := exists_ok_of_bind success
  refine (readUnsigned_takes readScale).bind ((readDisplacement_takes read).bind ?_)
  have same := Except.ok.inj success
  simp only [Prod.mk.injEq] at same
  obtain ⟨rfl, rfl, rfl⟩ := same
  exact .nothing _ _

theorem readPlainAddress_takes {leading : Leading} {form other : Nat}
    {memory : MemoryReference} {bytes rest : List UInt8}
    (success : readPlainAddress leading form other bytes = .ok (memory, rest)) :
    Takes (readPlainAddress leading form other) bytes rest fun rest => (memory, rest) := by
  obtain ⟨⟨displacement, left⟩, read, success⟩ := exists_ok_of_bind success
  refine (readDisplacement_takes read).bind ?_
  obtain ⟨rfl, rfl⟩ := Prod.mk.inj (Except.ok.inj success)
  exact .nothing _ _

theorem readAddressing_takes {leading : Leading} {addressing : Addressing}
    {bytes rest : List UInt8}
    (success : readAddressing leading bytes = .ok (addressing, rest)) :
    Takes (readAddressing leading) bytes rest fun rest => (addressing, rest) := by
  obtain ⟨⟨byte, left⟩, readByte, success⟩ := exists_ok_of_bind success
  refine (readUnsigned_takes readByte).bind ?_
  dsimp only at success ⊢
  split at success
  · rename_i words
    simp only [words, if_true]
    split at success
    · rename_i direct
      simp only [direct, if_true]
      obtain ⟨rfl, rfl⟩ := Prod.mk.inj (Except.ok.inj success)
      exact .nothing _ _
    · rename_i indirect
      simp only [indirect]
      obtain ⟨⟨memory, rest⟩, read, success⟩ := exists_ok_of_bind success
      refine (readWordAddress_takes read).bind ?_
      obtain ⟨rfl, rfl⟩ := Prod.mk.inj (Except.ok.inj success)
      exact .nothing _ _
  rename_i notWords
  simp only [notWords]
  split at success
  · rename_i scaled
    simp only [scaled, if_true]
    obtain ⟨⟨memory, used, rest⟩, read, success⟩ := exists_ok_of_bind success
    refine (readScaledAddress_takes read).bind ?_
    obtain ⟨rfl, rfl⟩ := Prod.mk.inj (Except.ok.inj success)
    exact .nothing _ _
  rename_i unscaled
  simp only [unscaled]
  split at success
  · rename_i direct
    simp only [direct, if_true]
    obtain ⟨rfl, rfl⟩ := Prod.mk.inj (Except.ok.inj success)
    exact .nothing _ _
  · rename_i indirect
    simp only [indirect]
    obtain ⟨⟨memory, rest⟩, read, success⟩ := exists_ok_of_bind success
    refine (readPlainAddress_takes read).bind ?_
    obtain ⟨rfl, rfl⟩ := Prod.mk.inj (Except.ok.inj success)
    exact .nothing _ _

/-! ## Operands -/

namespace Reading

/-- The reading with other bytes left. -/
def leaving (reading : Reading) (rest : List UInt8) : Reading :=
  { reading with rest := rest }

section Push

variable (reading : Reading)

theorem pushAddressed_rest (addressing : Addressing) (bits : Nat) :
    (reading.pushAddressed addressing bits).rest = reading.rest := by
  unfold pushAddressed
  split <;> rfl

theorem pushVector_rest (addressing : Addressing) (register : MachineRegister) :
    (reading.pushVector addressing register).rest = reading.rest := by
  unfold pushVector
  split <;> rfl

theorem pushAddressed_leaving (addressing : Addressing) (bits : Nat) (rest : List UInt8) :
    (reading.leaving rest).pushAddressed addressing bits =
      (reading.pushAddressed addressing bits).leaving rest := by
  unfold pushAddressed
  split <;> rfl

theorem pushVector_leaving (addressing : Addressing) (register : MachineRegister)
    (rest : List UInt8) :
    (reading.leaving rest).pushVector addressing register =
      (reading.pushVector addressing register).leaving rest := by
  unfold pushVector
  split <;> rfl

end Push

variable {reading filled : Reading}

theorem pushSigned_takes {count : Nat} {make : Int → MachineOperand}
    (success : reading.pushSigned count make = .ok filled) :
    Takes (fun bytes => (reading.leaving bytes).pushSigned count make) reading.rest filled.rest
      filled.leaving := by
  obtain ⟨⟨value, rest⟩, read, rfl⟩ := exists_ok_of_map success
  exact (readSigned_takes read).map fun result =>
    (reading.push (make result.1) 0).leaving result.2

theorem pushUnsigned_takes {count : Nat}
    (success : reading.pushUnsigned count = .ok filled) :
    Takes (fun bytes => (reading.leaving bytes).pushUnsigned count) reading.rest filled.rest
      filled.leaving := by
  obtain ⟨⟨value, rest⟩, read, rfl⟩ := exists_ok_of_map success
  exact (readUnsigned_takes read).map fun result =>
    (reading.push (.immediate result.1) 0).leaving result.2

/-- A slot takes bytes off the front, or none. -/
theorem fillSlot_takes {operation : Nat} {addressing : Addressing} {slot : Slot}
    (success : reading.fillSlot operation addressing slot = .ok filled) :
    Takes (fun bytes => (reading.leaving bytes).fillSlot operation addressing slot)
      reading.rest filled.rest filled.leaving := by
  cases slot with
  | unsigned8 => exact pushUnsigned_takes success
  | unsigned16 => exact pushUnsigned_takes success
  | signed8 => exact pushSigned_takes success
  | immediate => exact pushSigned_takes success
  | immediateFull => exact pushSigned_takes success
  | near8 => exact pushSigned_takes success
  | near => exact pushSigned_takes success
  | direct =>
      obtain ⟨⟨address, rest⟩, read, rfl⟩ := exists_ok_of_map success
      exact (readUnsigned_takes read).map fun result =>
        { reading.push
            (.memory ⟨reading.leading.segmentRegister, .absent, 0, .absent, result.1⟩) 0
          with rest := result.2, leading := reading.leading.hide .segment }
  | memory =>
      simp only [fillSlot] at success ⊢
      split at success
      · obtain rfl := Except.ok.inj success
        exact .nothing _ _
      · contradiction
  | segment =>
      simp only [fillSlot] at success ⊢
      split at success
      · rename_i known
        obtain rfl := Except.ok.inj success
        simp only [known, if_true]
        exact .nothing _ _
      · contradiction
  | stackRegister =>
      simp only [fillSlot] at success ⊢
      split at success
      · contradiction
      · obtain rfl := Except.ok.inj success
        exact .nothing _ _
  | addressed | addressedSized | addressedStack | addressedTarget =>
      obtain rfl := Except.ok.inj success
      simp only [fillSlot, pushAddressed_leaving, pushAddressed_rest]
      exact .nothing _ _
  | mmxAddressed | xmmAddressed =>
      obtain rfl := Except.ok.inj success
      simp only [fillSlot, pushVector_leaving, pushVector_rest]
      exact .nothing _ _
  | _ =>
      obtain rfl := Except.ok.inj success
      exact .nothing _ _

/-- The first slot is filled, and then the others with what it leaves. -/
theorem fillSlots_cons (reading : Reading) (operation : Nat) (addressing : Addressing)
    (slot : Slot) (slots : List Slot) :
    reading.fillSlots operation addressing (slot :: slots) =
      (reading.fillSlot operation addressing slot >>= fun reading =>
        reading.fillSlots operation addressing slots) := by
  rw [fillSlots]
  cases reading.fillSlot operation addressing slot <;> rfl

theorem fillSlots_takes {operation : Nat} {addressing : Addressing} {slots : List Slot}
    (success : reading.fillSlots operation addressing slots = .ok filled) :
    Takes (fun bytes => (reading.leaving bytes).fillSlots operation addressing slots)
      reading.rest filled.rest filled.leaving := by
  induction slots generalizing reading with
  | nil =>
      obtain rfl := Except.ok.inj success
      exact .nothing _ _
  | cons slot slots induction =>
      rw [fillSlots_cons] at success
      obtain ⟨between, first, success⟩ := exists_ok_of_bind success
      simp only [fillSlots_cons]
      exact (fillSlot_takes first).bind (induction success)

end Reading

/-! ## Operations -/

/-- The draft of an instruction with other bytes left. -/
def Draft.leaving (draft : Draft) (rest : List UInt8) : Draft :=
  { draft with reading := draft.reading.leaving rest }

section Operation

variable {leading : Leading} {operation : Nat} {bytes : List UInt8} {draft : Draft}

theorem readForm_takes {addressing : Addressing} {form : Form}
    (success : readForm leading operation addressing form bytes = .ok draft) :
    Takes (readForm leading operation addressing form) bytes draft.reading.rest draft.leaving := by
  obtain ⟨reading, read, success⟩ := exists_ok_of_bind success
  refine (Reading.fillSlots_takes read).bind ?_
  obtain rfl := Except.ok.inj success
  exact .nothing _ _

theorem readRow_takes {row : Row}
    (success : readRow leading operation row bytes = .ok draft) :
    Takes (readRow leading operation row) bytes draft.reading.rest draft.leaving := by
  cases row with
  | absent => contradiction
  | plain form => exact readForm_takes success
  | addressed form =>
      obtain ⟨⟨addressing, rest⟩, read, success⟩ := exists_ok_of_bind success
      exact (readAddressing_takes read).bind (readForm_takes success)
  | grouped forms =>
      obtain ⟨⟨addressing, rest⟩, read, success⟩ := exists_ok_of_bind success
      refine (readAddressing_takes read).bind ?_
      dsimp only at success ⊢
      split at success
      · exact readForm_takes success
      · contradiction
  | selected bare size repeatNot repeatWhile =>
      obtain ⟨⟨chosen, form⟩, select, success⟩ := exists_ok_of_bind success
      obtain ⟨⟨addressing, rest⟩, read, success⟩ := exists_ok_of_bind success
      -- Which form is selected does not depend on the bytes.
      change Takes (fun bytes => readRow leading operation _ bytes) _ _ _
      simp only [readRow, select]
      exact (readAddressing_takes read).bind (readForm_takes success)

/-- The operation itself takes a byte. -/
theorem readOperation_takes (success : readOperation leading bytes = .ok draft) :
    ∃ first rest, bytes = first :: rest ∧
      Takes (fun rest => readOperation leading (first :: rest)) rest draft.reading.rest
        draft.leaving := by
  unfold readOperation at success
  split at success
  · contradiction
  · rename_i first rest
    refine ⟨first, rest, rfl, ?_⟩
    simp only [readOperation]
    split at success
    · rename_i escape
      simp only [escape, if_true]
      split at success
      · contradiction
      · rename_i second rest
        obtain ⟨taken, rfl, reads⟩ := readRow_takes success
        exact ⟨second :: taken, rfl, reads⟩
    · rename_i plain
      simp only [plain]
      exact readRow_takes success

end Operation

/-! ## Leading bytes -/

/-- Leading bytes are read up to the first byte that is none. -/
theorem Leading.read_takes {leading after : Leading} {bytes rest : List UInt8}
    (success : leading.read bytes = some (after, rest)) (inhabited : rest ≠ []) :
    ∃ taken, bytes = taken ++ rest ∧
      ∀ more, more.head? = rest.head? → leading.read (taken ++ more) = some (after, more) := by
  induction bytes generalizing leading with
  | nil => simp_all [Leading.read]
  | cons byte bytes induction =>
      simp only [Leading.read] at success
      split at success
      · rename_i ordinary
        obtain ⟨rfl, rfl⟩ := Prod.mk.inj (Option.some.inj success)
        refine ⟨[], rfl, fun more same => ?_⟩
        obtain ⟨others, rfl⟩ := List.head?_eq_some_iff.mp same
        simp [Leading.read, ordinary]
      · rename_i entry special
        split at success
        · rename_i room
          obtain ⟨taken, rfl, reads⟩ := induction success
          refine ⟨byte :: taken, rfl, fun more same => ?_⟩
          simp [Leading.read, special, room, reads more same]
        · contradiction

/-- An extension byte is taken, and any other byte is left. -/
theorem Leading.readExtension_takes {leading after : Leading} {bytes rest : List UInt8}
    (success : leading.readExtension bytes = some (after, rest)) (inhabited : rest ≠ []) :
    ∃ taken, bytes = taken ++ rest ∧
      ∀ more, more.head? = rest.head? →
        leading.readExtension (taken ++ more) = some (after, more) := by
  cases bytes with
  | nil => simp_all [Leading.readExtension]
  | cons byte bytes =>
      simp only [Leading.readExtension] at success
      split at success
      · rename_i extending
        split at success
        · rename_i room
          obtain ⟨rfl, rfl⟩ := Prod.mk.inj (Option.some.inj success)
          refine ⟨[byte], rfl, fun more _ => ?_⟩
          simp only [Leading.readExtension, List.singleton_append, extending, room, if_true]
        · contradiction
      · rename_i ordinary
        obtain ⟨rfl, rfl⟩ := Prod.mk.inj (Option.some.inj success)
        refine ⟨[], rfl, fun more same => ?_⟩
        obtain ⟨others, rfl⟩ := List.head?_eq_some_iff.mp same
        simp only [Leading.readExtension, List.nil_append, if_neg ordinary]

/-! ## Instructions -/

theorem settleExchange_leaving (draft : Draft) (rest : List UInt8) :
    settleExchange (draft.leaving rest) = (settleExchange draft).leaving rest := by
  simp only [settleExchange, apply_ite (fun draft : Draft => draft.leaving rest)]
  rfl

/-- The bytes that are left have no part in the text of an instruction. -/
theorem settle_leaving (draft : Draft) (rest : List UInt8) (length : Nat) :
    settle (draft.leaving rest) length = settle draft length := by
  unfold settle
  rw [settleExchange_leaving]
  rfl

theorem settle_length (draft : Draft) (length : Nat) :
    (settle draft length).length = length := rfl

/-- How an instruction is read from a window of bytes: leading bytes, an
extension byte and the operation, one behind the other. -/
def Reads (mode : Mode) (window : List UInt8) (draft : Draft) : Prop :=
  ∃ leading extended behindLeading behindExtension,
    (Leading.start mode.number.toNat).read window = some (leading, behindLeading) ∧
    leading.readExtension behindLeading = some (extended, behindExtension) ∧
    readOperation extended behindExtension = .ok draft

theorem decode_eq_some_iff {mode : Mode} {bytes : List UInt8}
    {instruction : MachineInstruction} :
    decode mode bytes = .ok (some instruction) ↔
      mode.supported = true ∧ ∃ draft, Reads mode (bytes.take instructionLimit) draft ∧
        instruction = settle draft
          ((bytes.take instructionLimit).length - draft.reading.rest.length) := by
  constructor
  · intro success
    unfold decode at success
    split at success
    · rename_i supported
      dsimp only at success
      split at success
      · simp at success
      · rename_i leading behindLeading readLeading
        split at success
        · simp at success
        · rename_i extended behindExtension readExtension
          split at success
          · simp at success
          · split at success <;> simp at success
          · rename_i draft readOperation
            simp only [Except.ok.injEq, Option.some.injEq] at success
            exact ⟨supported, draft, ⟨_, _, _, _, readLeading, readExtension, readOperation⟩,
              success.symm⟩
    · contradiction
  · rintro ⟨supported, draft, ⟨leading, extended, behindLeading, behindExtension,
      readLeading, readExtension, readOperation⟩, rfl⟩
    simp only [decode, supported, if_true, readLeading, readExtension, readOperation]

/-- What is read from a window is decided by the bytes that are taken from it. -/
theorem Reads.takes {mode : Mode} {window : List UInt8} {draft : Draft}
    (reads : Reads mode window draft) :
    ∃ taken, window = taken ++ draft.reading.rest ∧ 1 ≤ taken.length ∧
      ∀ more, Reads mode (taken ++ more) (draft.leaving more) := by
  obtain ⟨leading, extended, behindLeading, behindExtension, readLeading, readExtension,
    readOperation⟩ := reads
  obtain ⟨first, rest, rfl, back, rfl, operates⟩ := readOperation_takes readOperation
  obtain ⟨middle, rfl, extending⟩ := Leading.readExtension_takes readExtension (by simp)
  obtain ⟨front, rfl, leads⟩ := Leading.read_takes readLeading (by simp)
  refine ⟨front ++ (middle ++ first :: back), by simp, by simp; omega, fun more => ?_⟩
  refine ⟨leading, extended, middle ++ first :: (back ++ more), first :: (back ++ more), ?_, ?_,
    operates more⟩
  · have read := leads (middle ++ first :: (back ++ more)) (by simp [List.head?_append])
    simpa using read
  · exact extending (first :: (back ++ more)) rfl

/-- A decoded instruction is decided by its own bytes, of which there is at
least one and no more than an instruction can have. -/
theorem decode_takes {mode : Mode} {bytes : List UInt8} {instruction : MachineInstruction}
    (success : decode mode bytes = .ok (some instruction)) :
    ∃ taken rest, bytes = taken ++ rest ∧ taken.length = instruction.length ∧
      1 ≤ taken.length ∧ taken.length ≤ instructionLimit ∧
      ∀ more, decode mode (taken ++ more) = .ok (some instruction) := by
  obtain ⟨supported, draft, reads, rfl⟩ := decode_eq_some_iff.mp success
  obtain ⟨taken, window, positive, stable⟩ := reads.takes
  have total : taken.length + draft.reading.rest.length =
      (bytes.take instructionLimit).length := by
    rw [window, List.length_append]
  have limited : taken.length ≤ instructionLimit := by
    rw [List.length_take] at total
    omega
  refine ⟨taken, draft.reading.rest ++ bytes.drop instructionLimit, ?_, ?_, positive, limited,
    fun more => ?_⟩
  · rw [← List.append_assoc, ← window, List.take_append_drop]
  · rw [settle_length]
    omega
  · have cut : (taken ++ more).take instructionLimit =
        taken ++ more.take (instructionLimit - taken.length) := by
      rw [List.take_append, List.take_of_length_le limited]
    refine decode_eq_some_iff.mpr ⟨supported, _, cut ▸ stable _, ?_⟩
    rw [settle_leaving, cut, List.length_append]
    congr 1
    simp only [Draft.leaving, Reading.leaving]
    omega

/-- A decoded instruction has at least one byte, and no more bytes than there
are or than an instruction can have. -/
theorem decode_length {mode : Mode} {bytes : List UInt8} {instruction : MachineInstruction}
    (success : decode mode bytes = .ok (some instruction)) :
    1 ≤ instruction.length ∧ instruction.length ≤ min instructionLimit bytes.length := by
  obtain ⟨taken, rest, rfl, length, positive, limited, _⟩ := decode_takes success
  rw [List.length_append]
  omega

end Machine

end AsmListing
