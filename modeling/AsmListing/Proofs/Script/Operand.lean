import AsmListing.Proofs.Mnemonic
import AsmListing.Proofs.Program.Growth
import AsmListing.Proofs.Script.Bindings
import AsmListing.Proofs.Script.Checks
import AsmListing.Proofs.Script.Integer

/-!
# Values of a script as operands

A script can give any value as an operand.  Registers, texts and integers have
a text as operands, and integers have their exact decimal text however large
they are.  All other values are accepted, too, and stop the instruction from
being written at their own positions.
-/

namespace AsmListing

namespace Script

/-- The text of a value as an operand.  A register has its own name, a text is
its own text, and an integer has its decimal text. -/
inductive Value.Spelled : Value → String → Prop where
  | register (register : Register) : Spelled (.register register) register.name
  | text (text : String) : Spelled (.text text) text
  | integer (number : Int) : Spelled (.integer number) (toString number)

/-- The type by which a value is refused as an operand. -/
def Value.refusedType : Value → String
  | .none => "<nil>"
  | value => value.hostType

namespace Heap

def operand (heap : Heap) (value : Value) : Datum :=
  (heap.hostValue value).datum

/-- An integer is carried by a word of 64 bits, if it comes through unchanged,
and by its text otherwise. -/
theorem operand_integer (heap : Heap) (number : Int) :
    heap.operand (.integer number) =
      if (Int64.ofInt number).toInt = number then .integer .int number
      else .text (toString number) := by
  rw [operand, hostValue, HostValue.datum]
  by_cases fits : fitsInt64 number = true
  · rw [if_pos fits, if_pos ((fitsInt64_iff number).mp fits)]
  · rw [if_neg fits, if_neg fun kept => fits ((fitsInt64_iff number).mpr kept)]

variable (heap : Heap) {value : Value}

theorem operandText_of_spelled {text : String} (spelled : value.Spelled text) :
    (heap.operand value).operandText = .ok text := by
  cases spelled with
  | register register => rfl
  | text text => rfl
  | integer number =>
      rw [operand_integer]
      split
      · rfl
      · rfl

theorem operandText_of_not_spelled (unspelled : ∀ text, ¬ value.Spelled text) :
    (heap.operand value).operandText = .error value.refusedType := by
  cases value with
  | register register => exact absurd (.register register) (unspelled _)
  | text text => exact absurd (.text text) (unspelled _)
  | integer number => exact absurd (.integer number) (unspelled _)
  | _ => rfl

/-- Exactly the values that are spelled have a text as operands. -/
theorem operandText_eq_ok_iff {text : String} :
    (heap.operand value).operandText = .ok text ↔ value.Spelled text := by
  constructor
  · intro written
    by_contra wrong
    by_cases spelled : ∃ other, value.Spelled other
    · obtain ⟨other, spelled⟩ := spelled
      rw [operandText_of_spelled heap spelled] at written
      exact wrong (Except.ok.inj written ▸ spelled)
    · rw [operandText_of_not_spelled heap (not_exists.mp spelled)] at written
      contradiction
  · exact operandText_of_spelled heap

theorem operandText_eq_error_iff {type : String} :
    (heap.operand value).operandText = .error type ↔
      (∀ text, ¬ value.Spelled text) ∧ type = value.refusedType := by
  constructor
  · intro refused
    have unspelled : ∀ text, ¬ value.Spelled text := by
      intro text spelled
      rw [operandText_of_spelled heap spelled] at refused
      contradiction
    rw [operandText_of_not_spelled heap unspelled] at refused
    exact ⟨unspelled, (Except.error.inj refused).symm⟩
  · rintro ⟨unspelled, rfl⟩
    exact operandText_of_not_spelled heap unspelled

/-! ## Instructions with values as operands -/

theorem operand_of_spelled {text : String} (spelled : value.Spelled text) :
    (heap.operand value).admissible = true ∧ (heap.operand value).print = text := by
  have written := operandText_of_spelled heap spelled
  rw [Datum.operandText_eq] at written
  split at written
  · rename_i fit
    exact ⟨fit, Except.ok.inj written⟩
  · contradiction

theorem operand_of_not_spelled (unspelled : ∀ text, ¬ value.Spelled text) :
    (heap.operand value).admissible = false ∧
      (heap.operand value).refusedType = value.refusedType := by
  have refused := operandText_of_not_spelled heap unspelled
  rw [Datum.operandText_eq] at refused
  split at refused
  · contradiction
  · rename_i unfit
    exact ⟨by simpa using unfit, Except.error.inj refused⟩

theorem operands_of_spelled {values : List Value} {texts : List String}
    (spelled : List.Forall₂ Value.Spelled values texts) :
    (∀ operand ∈ values.map heap.operand, operand.admissible = true) ∧
      (values.map heap.operand).map Datum.print = texts := by
  induction spelled with
  | nil => simp
  | cons one others induction =>
      obtain ⟨fit, printed⟩ := operand_of_spelled heap one
      refine ⟨?_, by simp only [List.map_cons, printed, induction.2]⟩
      rw [List.map_cons, List.forall_mem_cons]
      exact ⟨fit, induction.1⟩

variable {mnemonic : Mnemonic} {values : List Value}

/-- An instruction whose operands all have a text is written with these
texts. -/
theorem construct_of_spelled (given : mnemonic.operands = values.map heap.operand)
    {texts : List String} (spelled : List.Forall₂ Value.Spelled values texts) (indent : String) :
    mnemonic.construct indent =
      .ok (indent ++ Mnemonic.code mnemonic.name texts ++ mnemonic.remark texts) := by
  obtain ⟨fit, printed⟩ := operands_of_spelled heap spelled
  rw [← given] at fit printed
  rw [Mnemonic.construct_of_fit fit, printed]

/-- A value without a text is reported at its own position, if it is the first
one. -/
theorem construct_of_not_spelled (given : mnemonic.operands = values.map heap.operand)
    {front rest : List Value} (split : values = front ++ value :: rest)
    (earlier : ∀ other ∈ front, ∃ text, other.Spelled text)
    (unspelled : ∀ text, ¬ value.Spelled text) (indent : String) :
    mnemonic.construct indent = .error ⟨front.length + 1, value.refusedType⟩ := by
  obtain ⟨unfit, type⟩ := operand_of_not_spelled heap unspelled
  refine Mnemonic.construct_of_blames ⟨front.map heap.operand, heap.operand value,
    rest.map heap.operand, ?_, ?_, unfit, ?_⟩ indent
  · rw [given, split, List.map_append, List.map_cons]
  · intro operand member
    obtain ⟨other, inside, rfl⟩ := List.mem_map.mp member
    obtain ⟨text, spelled⟩ := earlier other inside
    exact (operand_of_spelled heap spelled).1
  · rw [List.length_map, type]

/-- What becomes of values as the operands of an instruction.  The line has
their texts, if all of them have one, and otherwise the first value without a
text is reported with its position and its type. -/
structure Renders (values : List Value) (mnemonic : Mnemonic) : Prop where
  operands : mnemonic.operands = values.map heap.operand
  written : ∀ texts, List.Forall₂ Value.Spelled values texts → ∀ indent,
    mnemonic.construct indent =
      .ok (indent ++ Mnemonic.code mnemonic.name texts ++ mnemonic.remark texts)
  reported : ∀ front value rest, values = front ++ value :: rest →
    (∀ other ∈ front, ∃ text, other.Spelled text) → (∀ text, ¬ value.Spelled text) → ∀ indent,
      mnemonic.construct indent = .error ⟨front.length + 1, value.refusedType⟩

theorem renders (given : mnemonic.operands = values.map heap.operand) :
    heap.Renders values mnemonic where
  operands := given
  written := fun _ spelled => heap.construct_of_spelled given spelled
  reported := fun _ _ _ split earlier unspelled =>
    heap.construct_of_not_spelled given split earlier unspelled

end Heap

/-! ## Registers by their keys -/

namespace Host

variable {host : Host} {registers : RegisterSet}

/-- A script that reaches a register by a key, as a binding or by looking the
key up in any case of letters, has the name of the register as an operand. -/
structure NamesBy (host : Host) (heap : Heap) (registers : RegisterSet) (key : String)
    (register : Register) : Prop where
  bound : ∀ mode, (find? (host.bindings registers mode) key).map
    (fun binding => (heap.operand binding.value).operandText) = some (.ok register.name)
  looked : ∀ program text, program.registers = some registers → Text.upper text = key →
    ∃ reply, host.answer program ⟨findName, ⟨[.text text], []⟩⟩ = .ok reply ⟨program, []⟩ ∧
      (heap.operand reply.value).operandText = .ok register.name

theorem namesBy_of_index (capital : Capital registers) (orderly : host.kinds.Orderly)
    (heap : Heap) {key : String} {register : Register}
    (indexed : registers.index key = .ok register) :
    host.NamesBy heap registers key register := by
  have written := heap.operandText_of_spelled (.register register)
  constructor
  · intro mode
    rw [find?_of_index capital orderly mode indexed, Option.map_some]
    exact congrArg some written
  · intro program text present capitals
    rw [answer_find capital orderly program.mode present, capitals,
      find?_of_index capital orderly program.mode indexed]
    exact ⟨.register register, rfl, written⟩

/-- In a supported mode every key of a register that is not taken by a later
one leads to the name of the register. -/
theorem exists_namesBy (orderly : host.kinds.Orderly) (heap : Heap) {mode : Mode}
    (supported : mode ∈ Mode.all) (serial : Nat) :
    ∃ registers, RegisterSet.ofMode? serial mode = some registers ∧
      ∀ key register, registers.index key = .ok register →
        key ∈ register.keys ∧ host.NamesBy heap registers key register := by
  obtain ⟨_, listed, _, _, present⟩ := RegisterSet.exists_ofMode? supported serial
  obtain ⟨registers, found, capital⟩ := exists_capital supported serial
  have same : registers = .ofList mode listed := Option.some.inj (found.symm.trans present)
  refine ⟨registers, found, fun key register indexed => ⟨?_, ?_⟩⟩
  · rw [same] at indexed
    obtain ⟨_, bearer⟩ := (RegisterSet.ofList_index_eq_ok_iff mode listed key register).mp indexed
    exact bearer.bears
  · exact namesBy_of_index capital orderly heap indexed

end Host

/-! ## Calls with values as operands -/

/-- A call gives values as the operands of an instruction, either to the
function of its kind or behind its name. -/
inductive Call.Gives (heap : Heap) (name : String) (values : List Value) : Call → Prop where
  | byKind (named : List (String × HostValue)) (ordinary : name ∉ Host.ownNames) :
      Gives heap name values ⟨name, ⟨values.map heap.hostValue, named⟩⟩
  | byName (named : List (String × HostValue)) (nonempty : name ≠ "") :
      Gives heap name values
        ⟨Host.emitName, ⟨.text name :: values.map heap.hostValue, named⟩⟩

namespace Host

variable {host : Host} {program : Program} {heap : Heap} {name : String} {values : List Value}
  {call : Call}

/-- Of the operands of a call only their number is checked. -/
theorem answer_of_gives (gives : call.Gives heap name values) :
    host.answer program call =
      Attempt.passing (host.checked call.function name values.length call.arguments.named)
        ⟨program, []⟩ fun remark =>
          .ok .nothing (host.passed program name (values.map heap.hostValue) remark) := by
  cases gives with
  | byKind named ordinary =>
      rw [answer, apply_ordinary ordinary, insert_eq_passing, List.length_map]
  | byName named nonempty =>
      have filled : name.isEmpty = false := by simpa using nonempty
      simp only [answer, apply_emit, emit, filled, Bool.false_eq_true, if_false]
      rw [insert_eq_passing, List.length_map]

/-- Without named arguments a call is answered if the kind takes the number of
operands, whatever they are. -/
theorem exists_answer_of_takes (gives : call.Gives heap name values)
    (unnamed : call.arguments.named = [])
    (taken : (host.kinds.lookup name).takes values.length = true) :
    ∃ reply work, host.answer program call = .ok reply work := by
  have unremarked : remarks call.function [] = .ok (.none, true) := rfl
  rw [answer_of_gives gives, unnamed, checked, unremarked]
  simp only [bind, Except.bind, Kind.validate_of_takes taken]
  exact ⟨_, _, rfl⟩

theorem exists_renders_of_gives (gives : call.Gives heap name values) {reply : Reply}
    {work : Work} (answered : host.answer program call = .ok reply work) :
    ∃ mnemonic : Mnemonic, work.program = program.append mnemonic ∧ mnemonic.name = name ∧
      heap.Renders values mnemonic := by
  rw [answer_of_gives gives] at answered
  obtain ⟨remark, _, done⟩ := Attempt.exists_ok_of_passing answered
  refine ⟨host.worded name (values.map heap.hostValue) remark, ?_, rfl, heap.renders ?_⟩
  · rw [← (EStateM.Result.ok.inj done).2]
    rfl
  · rw [worded, List.map_map]
    rfl

end Host

/-- A value has a text as an operand exactly if it is a register, a text or an
integer.  An integer has its decimal text, which is read back as the integer,
whether a word of 64 bits can carry it or not, so different integers have
different texts.  A register has its own name, whatever key it was reached by.
Calls accept all values, check only how many there are, and append an
instruction that shows their texts or reports the first value that has none. -/
theorem operands_rendered (heap : Heap) :
    (∀ value text, (heap.operand value).operandText = .ok text ↔ value.Spelled text) ∧
    (∀ value type, (heap.operand value).operandText = .error type ↔
      (∀ text, ¬ value.Spelled text) ∧ type = value.refusedType) ∧
    (∀ number : Int,
      (heap.operand (.integer number) =
        if (Int64.ofInt number).toInt = number then .integer .int number
        else .text (toString number)) ∧
      integerOf (.text (toString number)) none = .ok (.integer number)) ∧
    (∀ first second : Int, (heap.operand (.integer first)).operandText =
      (heap.operand (.integer second)).operandText → first = second) ∧
    (∀ host : Host, host.kinds.Orderly → ∀ mode ∈ Mode.all, ∀ serial,
      ∃ registers, RegisterSet.ofMode? serial mode = some registers ∧
        ∀ key register, registers.index key = .ok register →
          key ∈ register.keys ∧ host.NamesBy heap registers key register) ∧
    ∀ (host : Host) program name values (call : Call), call.Gives heap name values →
      (host.answer program call =
        Attempt.passing (host.checked call.function name values.length call.arguments.named)
          ⟨program, []⟩ fun remark =>
            .ok .nothing (host.passed program name (values.map heap.hostValue) remark)) ∧
      (call.arguments.named = [] → (host.kinds.lookup name).takes values.length = true →
        ∃ reply work, host.answer program call = .ok reply work) ∧
      ∀ reply work, host.answer program call = .ok reply work →
        ∃ mnemonic, work.program = program.append mnemonic ∧ mnemonic.name = name ∧
          heap.Renders values mnemonic := by
  refine ⟨fun _ _ => heap.operandText_eq_ok_iff, fun _ _ => heap.operandText_eq_error_iff,
    fun number => ⟨heap.operand_integer number, integerOf_toString number⟩, ?_,
    fun _ orderly _ supported serial => Host.exists_namesBy orderly heap supported serial,
    fun _ _ _ _ _ gives =>
      ⟨Host.answer_of_gives gives, Host.exists_answer_of_takes gives,
        fun _ _ => Host.exists_renders_of_gives gives⟩⟩
  intro first second same
  rw [heap.operandText_of_spelled (.integer first), heap.operandText_of_spelled (.integer second),
    Except.ok.injEq] at same
  have numbers := (integerOf_toString first).symm.trans (same ▸ integerOf_toString second)
  exact Value.integer.inj (Except.ok.inj numbers)

end Script

end AsmListing
