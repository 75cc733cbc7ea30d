import AsmListing.Mnemonic
import Mathlib.Data.List.Basic

/-!
# Lines and default comments of instructions

Registers, texts and ordinary integers can be operands, and as operands they
have the text that they print.  The first operand of any other type stops an
instruction from being written, whatever else the instruction is made of.  The
default comment is never stopped.  It shows what every operand prints, and so
it is the same for a reader of the line and for one who asks for the comment
alone.
-/

namespace AsmListing

/-! ## Numbers of operands -/

namespace Kind

def takes : Kind → Nat → Bool
  | generic, _ => true
  | fixed operands _, count => decide ((count : Int) = operands)

theorem validate_of_takes {kind : Kind} {count : Nat} (taken : kind.takes count = true)
    (name : String) : kind.validate name count = .ok () := by
  cases kind with
  | generic => rfl
  | fixed operands template => rw [validate, if_pos (of_decide_eq_true taken)]

theorem exists_validate_of_not_takes {kind : Kind} {count : Nat}
    (refused : kind.takes count = false) (name : String) :
    ∃ failure, kind.validate name count = .error failure := by
  cases kind with
  | generic => contradiction
  | fixed operands template =>
      rw [validate, if_neg (of_decide_eq_false refused)]
      exact ⟨_, rfl⟩

end Kind

/-! ## Texts of operands -/

/-- The types of integers that can be operands. -/
def IntegerType.ordinary : List IntegerType :=
  [.int, .int8, .int16, .int32, .int64, .uint, .uint8, .uint16, .uint32, .uint64]

namespace Datum

/-- Whether a datum can be an operand: a register that is there, a text, or an
integer of an ordinary type. -/
def admissible : Datum → Bool
  | register _ => true
  | text _ => true
  | integer type _ => decide (type ∈ IntegerType.ordinary)
  | _ => false

/-- The type by which a datum is refused as an operand. -/
def refusedType : Datum → String
  | noRegister => "nil register"
  | other => other.typeName

theorem operandText_eq (datum : Datum) :
    datum.operandText =
      if datum.admissible then .ok datum.print else .error datum.refusedType := by
  cases datum with
  | integer type value => cases type <;> rfl
  | _ => rfl

end Datum

namespace Mnemonic

/-- Operands that can be written have the texts that they print, and the
position goes on behind them. -/
theorem operandTexts_append (position : Nat) {front : List Datum}
    (fit : ∀ operand ∈ front, operand.admissible = true) (rest : List Datum) :
    operandTexts position (front ++ rest) =
      (operandTexts (position + front.length) rest).map (front.map Datum.print ++ ·) := by
  induction front generalizing position with
  | nil =>
      cases written : operandTexts position rest with
      | error failure => simp [written, Except.map]
      | ok texts => simp [written, Except.map]
  | cons operand front induction =>
      have head : operand.operandText = .ok operand.print := by
        rw [Datum.operandText_eq, if_pos (fit operand List.mem_cons_self)]
      have shifted : position + 1 + front.length = position + (operand :: front).length := by
        rw [List.length_cons]
        omega
      have tail := induction (position + 1) fun other member =>
        fit other (List.mem_cons_of_mem operand member)
      rw [List.cons_append, operandTexts, head, tail, shifted]
      cases operandTexts (position + (operand :: front).length) rest with
      | error failure => rfl
      | ok texts => rfl

theorem operandTexts_eq_ok (position : Nat) {operands : List Datum}
    (fit : ∀ operand ∈ operands, operand.admissible = true) :
    operandTexts position operands = .ok (operands.map Datum.print) := by
  have whole := operandTexts_append position fit []
  rw [List.append_nil] at whole
  simpa [operandTexts, Except.map] using whole

/-- The first operand that cannot be written decides the failure. -/
theorem operandTexts_eq_error (position : Nat) {front : List Datum}
    (fit : ∀ operand ∈ front, operand.admissible = true) {operand : Datum}
    (unfit : operand.admissible = false) (rest : List Datum) :
    operandTexts position (front ++ operand :: rest) =
      .error ⟨position + front.length, operand.refusedType⟩ := by
  have refused : operand.operandText = .error operand.refusedType := by
    rw [Datum.operandText_eq, if_neg (ne_true_of_eq_false unfit)]
  rw [operandTexts_append position fit, operandTexts, refused]
  rfl

/-! ## Instructions that can be written -/

/-- All operands of an instruction have a text. -/
def Writable (mnemonic : Mnemonic) : Prop :=
  ∃ texts, operandTexts 1 mnemonic.operands = .ok texts

theorem construct_of_operandTexts {mnemonic : Mnemonic} {texts : List String}
    (written : operandTexts 1 mnemonic.operands = .ok texts) (indent : String) :
    mnemonic.construct indent =
      .ok (indent ++ code mnemonic.name texts ++ mnemonic.remark texts) := by
  rw [construct, written]
  rfl

/-- Neither the indent nor the comment decides whether an instruction can be
written. -/
theorem construct_isOk_iff {mnemonic : Mnemonic} {indent : String} :
    (mnemonic.construct indent).isOk = true ↔ mnemonic.Writable := by
  unfold Writable construct
  cases operandTexts 1 mnemonic.operands with
  | error failure => simp [Except.map, Except.isOk, Except.toBool]
  | ok texts => simp [Except.map, Except.isOk, Except.toBool]

/-- The failure tells the first operand that cannot be an operand, by its
position counted from one and its type. -/
def Blames (mnemonic : Mnemonic) (failure : OperandTypeError) : Prop :=
  ∃ front operand rest, mnemonic.operands = front ++ operand :: rest ∧
    (∀ earlier ∈ front, earlier.admissible = true) ∧ operand.admissible = false ∧
    failure = ⟨front.length + 1, operand.refusedType⟩

section Outcome

variable {mnemonic : Mnemonic}

/-- An instruction either has fit operands only, or a first one that is not. -/
theorem fit_or_blames (mnemonic : Mnemonic) :
    (∀ operand ∈ mnemonic.operands, operand.admissible = true) ∨
      ∃ failure, mnemonic.Blames failure := by
  cases first : mnemonic.operands.find? fun operand => !operand.admissible with
  | none =>
      left
      intro operand member
      simpa using List.find?_eq_none.mp first operand member
  | some operand =>
      right
      obtain ⟨unfit, front, rest, split, fit⟩ := List.find?_eq_some_iff_append.mp first
      refine ⟨_, front, operand, rest, split, ?_, by simpa using unfit, rfl⟩
      intro earlier member
      simpa using fit earlier member

theorem construct_of_fit (fit : ∀ operand ∈ mnemonic.operands, operand.admissible = true)
    (indent : String) :
    mnemonic.construct indent =
      .ok (indent ++ code mnemonic.name (mnemonic.operands.map Datum.print) ++
        mnemonic.remark (mnemonic.operands.map Datum.print)) :=
  construct_of_operandTexts (operandTexts_eq_ok 1 fit) indent

theorem construct_of_blames {failure : OperandTypeError} (blames : mnemonic.Blames failure)
    (indent : String) : mnemonic.construct indent = .error failure := by
  obtain ⟨front, operand, rest, split, fit, unfit, rfl⟩ := blames
  rw [construct, split, operandTexts_eq_error 1 fit unfit, Nat.add_comm]
  rfl

theorem construct_eq_error_iff {indent : String} {failure : OperandTypeError} :
    mnemonic.construct indent = .error failure ↔ mnemonic.Blames failure := by
  constructor
  · intro failed
    rcases fit_or_blames mnemonic with fit | ⟨blamed, blames⟩
    · rw [construct_of_fit fit] at failed
      contradiction
    · rw [construct_of_blames blames] at failed
      rwa [← Except.error.inj failed]
  · intro blames
    exact construct_of_blames blames indent

theorem construct_eq_ok_iff {indent line : String} :
    mnemonic.construct indent = .ok line ↔
      (∀ operand ∈ mnemonic.operands, operand.admissible = true) ∧
        line = indent ++ code mnemonic.name (mnemonic.operands.map Datum.print) ++
          mnemonic.remark (mnemonic.operands.map Datum.print) := by
  constructor
  · intro constructed
    rcases fit_or_blames mnemonic with fit | ⟨failure, blames⟩
    · rw [construct_of_fit fit] at constructed
      exact ⟨fit, (Except.ok.inj constructed).symm⟩
    · rw [construct_of_blames blames] at constructed
      contradiction
  · rintro ⟨fit, rfl⟩
    exact construct_of_fit fit indent

theorem code_eq (name : String) (texts : List String) :
    code name texts = name ++ if texts.isEmpty then "" else " " ++ ", ".intercalate texts := by
  unfold code
  split
  · exact String.append_empty.symm
  · exact String.append_assoc

theorem construct_indent (mnemonic : Mnemonic) (indent : String) :
    mnemonic.construct indent = (mnemonic.construct "").map (indent ++ ·) := by
  unfold construct
  cases operandTexts 1 mnemonic.operands with
  | error failure => rfl
  | ok texts => simp [Except.map, String.append_assoc]

end Outcome

/-- An instruction is written exactly if all its operands can be.  It fails for
the first operand that cannot, and neither the indent nor the name, the kind or
the comment has a part in this.  The line has the indent, the name, the operands
and the comment, if it is enabled. -/
theorem construct_outcome (mnemonic : Mnemonic) (indent : String) :
    let texts := mnemonic.operands.map Datum.print
    ((∃ line, mnemonic.construct indent = .ok line) ↔
      ∀ operand ∈ mnemonic.operands, operand.admissible = true) ∧
    (∀ failure, mnemonic.construct indent = .error failure ↔ mnemonic.Blames failure) ∧
    (∀ name kind comment enabled otherIndent failure,
      construct ⟨name, mnemonic.operands, kind, comment, enabled⟩ otherIndent =
          .error failure ↔
        mnemonic.construct indent = .error failure) ∧
    (∀ line, mnemonic.construct indent = .ok line ↔
      (∀ operand ∈ mnemonic.operands, operand.admissible = true) ∧
      line = indent ++ mnemonic.name ++
        (if texts.isEmpty then "" else " " ++ ", ".intercalate texts) ++
        (if mnemonic.commentEnabled then
          "  ; " ++ (if mnemonic.comment = "" then mnemonic.kind.comment mnemonic.name texts
            else mnemonic.comment)
        else "")) ∧
    mnemonic.construct indent = (mnemonic.construct "").map (indent ++ ·) := by
  intro texts
  refine ⟨?_, fun failure => construct_eq_error_iff, ?_, fun line => ?_,
    construct_indent mnemonic indent⟩
  · constructor
    · rintro ⟨line, constructed⟩
      exact (construct_eq_ok_iff.mp constructed).1
    · intro fit
      exact ⟨_, construct_of_fit fit indent⟩
  · intro name kind comment enabled otherIndent failure
    -- Who is to blame is read off the operands alone.
    have same : Blames ⟨name, mnemonic.operands, kind, comment, enabled⟩ failure ↔
        mnemonic.Blames failure := Iff.rfl
    rw [construct_eq_error_iff, construct_eq_error_iff, same]
  · rw [construct_eq_ok_iff, code_eq, remark, ← String.append_assoc]
    simp only [texts, String.isEmpty_iff]

/-- An absent register is refused before the operand behind it is looked at. -/
example : construct ⟨"mov", [.text "AX", .noRegister, .null], .generic, "", true⟩ "  " =
    .error ⟨2, "nil register"⟩ :=
  rfl

/-! ## Default comments -/

/-- The default comment shows what operands print, whether they can be written
or not. -/
theorem defaultComment_eq (mnemonic : Mnemonic) :
    mnemonic.defaultComment =
      mnemonic.kind.comment mnemonic.name (mnemonic.operands.map Datum.print) := by
  unfold defaultComment
  congr 1
  apply List.map_congr_left
  intro operand _
  rw [Datum.operandText_eq]
  cases operand.admissible with
  | true => rfl
  | false => rfl

/-- An explicit comment that shows differs from no comment, unless it is the
default. -/
theorem remark_comment_eq_iff (mnemonic : Mnemonic) (comment : String) :
    remark { mnemonic with comment := comment } (mnemonic.operands.map Datum.print) =
        remark { mnemonic with comment := "" } (mnemonic.operands.map Datum.print) ↔
      comment = "" ∨ comment = mnemonic.defaultComment ∨ mnemonic.commentEnabled = false := by
  rw [defaultComment_eq]
  cases mnemonic.commentEnabled with
  | false => simp [remark]
  | true =>
      by_cases blank : comment = ""
      · simp [blank]
      · simp [remark, blank]

theorem construct_comment_eq_iff (mnemonic : Mnemonic) (indent comment : String) :
    construct { mnemonic with comment := comment } indent =
        construct { mnemonic with comment := "" } indent ↔
      comment = "" ∨ comment = mnemonic.defaultComment ∨ mnemonic.commentEnabled = false ∨
        ∃ failure, mnemonic.Blames failure := by
  rcases fit_or_blames mnemonic with fit | ⟨failure, blames⟩
  · have faultless : ¬ ∃ failure, mnemonic.Blames failure := by
      rintro ⟨failure, blames⟩
      have failed := construct_of_blames blames indent
      rw [construct_of_fit fit] at failed
      contradiction
    have explicit := @construct_of_fit { mnemonic with comment := comment } fit indent
    have silent := @construct_of_fit { mnemonic with comment := "" } fit indent
    rw [explicit, silent, Except.ok.injEq, String.append_right_inj, remark_comment_eq_iff]
    simp only [faultless, or_false]
  · have explicit := @construct_of_blames { mnemonic with comment := comment } _ blames indent
    have silent := @construct_of_blames { mnemonic with comment := "" } _ blames indent
    rw [explicit, silent]
    exact iff_of_true rfl (.inr (.inr (.inr ⟨failure, blames⟩)))

/-- The default comment is a comment of the kind on what the operands print.  It
is there for all operands, and no comment of the instruction has a part in it.
As an explicit comment it makes no difference to the line or to the failure, and
no other comment that shows can take its place. -/
theorem construct_defaultComment (mnemonic : Mnemonic) :
    (∀ comment enabled,
      defaultComment { mnemonic with comment := comment, commentEnabled := enabled } =
        mnemonic.kind.comment mnemonic.name (mnemonic.operands.map Datum.print)) ∧
    (∀ indent, construct { mnemonic with comment := mnemonic.defaultComment } indent =
      construct { mnemonic with comment := "" } indent) ∧
    ∀ indent comment,
      construct { mnemonic with comment := comment } indent =
          construct { mnemonic with comment := "" } indent ↔
        comment = "" ∨ comment = mnemonic.defaultComment ∨ mnemonic.commentEnabled = false ∨
          ∃ failure, mnemonic.Blames failure := by
  refine ⟨?_, ?_, mnemonic.construct_comment_eq_iff⟩
  · intro comment enabled
    exact defaultComment_eq { mnemonic with comment := comment, commentEnabled := enabled }
  · intro indent
    exact (mnemonic.construct_comment_eq_iff indent _).mpr (.inr (.inl rfl))

/-- A kind may have nothing to say. -/
example : construct ⟨"nop", [], .fixed 0 "", "", true⟩ "" = .ok "nop  ; " := by
  decide

end Mnemonic

end AsmListing
