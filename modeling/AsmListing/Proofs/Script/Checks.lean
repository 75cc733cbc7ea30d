import AsmListing.Proofs.Script.Call

/-!
# What a call for an instruction is checked for

A call that asks for an instruction is checked in three steps: its named
arguments, the number of its operands, and the type of its comment.  No check
looks at an operand.  The function that was called shows only in the wording of
a problem with the named arguments, which has the name of the function in
front.
-/

namespace AsmListing

namespace Script

namespace Arguments

variable {Item : Type}

/-- Results of taking arguments for functions of any name.  They are the same
for all functions, or a problem that is worded behind the name of the
function. -/
inductive Uniform {Value : Type} (answer : String → Except String Value) : Prop where
  | taken (value : Value) (same : ∀ function, answer function = .ok value)
  | refused (problem : String) (same : ∀ function, answer function = .error (function ++ problem))

theorem takeNamed_uniform (parameters : List (Parameter Item)) (named : List (String × Item))
    (taken : List (Option Item)) :
    Uniform fun function => takeNamed function parameters named taken := by
  induction named generalizing taken with
  | nil => exact .taken taken fun function => rfl
  | cons entry rest induction =>
      obtain ⟨name, item⟩ := entry
      simp only [takeNamed]
      cases parameters.findIdx? fun parameter => parameter.name == name with
      | none =>
          exact .refused _ fun function => congrArg Except.error
            (String.append_assoc.trans String.append_assoc)
      | some index =>
          dsimp only
          split
          · exact .refused _ fun function => congrArg Except.error String.append_assoc
          · cases parameters[index]?.bind fun parameter => parameter.want item with
            | some problem =>
                exact .refused _ fun function => congrArg Except.error
                  (String.append_assoc.trans (String.append_assoc.trans String.append_assoc))
            | none => exact induction (taken.set index (some item))

/-- Arguments that are all given by name are taken alike by all functions, up
to the name of the function. -/
theorem byName_uniform (parameters : List (Parameter Item)) (named : List (String × Item)) :
    Uniform fun function => byName ⟨[], named⟩ function parameters := by
  simp only [byName, List.length_nil, Nat.not_lt_zero, if_false, misfit?_nil, List.map_nil,
    List.nil_append, Nat.sub_zero]
  cases takeNamed_uniform parameters named (List.replicate parameters.length none) with
  | refused problem same =>
      refine .refused problem fun function => ?_
      rw [same]
      rfl
  | taken values same =>
      cases missing : (parameters.zip values).find? fun entry =>
          entry.1.required && entry.2.isNone with
      | some entry =>
          refine .refused (": missing argument for " ++ entry.1.name) fun function => ?_
          simp only [same, bind, Except.bind, missing]
          exact congrArg Except.error String.append_assoc
      | none =>
          refine .taken values fun function => ?_
          simp only [same, bind, Except.bind, missing]
          rfl

end Arguments

namespace Host

/-- The named arguments of an instruction say the same whatever function is
called, or they are at fault, which is worded behind the name of the
function. -/
theorem remarks_uniform (named : List (String × HostValue)) :
    (∃ remark, ∀ function, remarks function named = .ok remark) ∨
      ∃ problem, ∀ function, remarks function named = .error (.other (function ++ problem)) := by
  have taking := Arguments.byName_uniform
    [⟨"comment", false, HostValue.wantAny⟩, ⟨"enable_comment", false, HostValue.wantBool⟩] named
  cases taking with
  | refused problem same =>
      refine .inr ⟨problem, fun function => ?_⟩
      simp only [remarks, same]
  | taken values same =>
      refine .inl ?_
      simp only [remarks, same]
      split
      · contradiction
      · exact ⟨_, fun function => rfl⟩
      · exact ⟨_, fun function => rfl⟩

/-- The checks of a call that asks for an instruction with a number of operands.
They result in the comment and in whether it is shown. -/
def checked (host : Host) (function name : String) (count : Nat)
    (named : List (String × HostValue)) : Except Failure (String × Bool) := do
  let (comment, enabled) ← remarks function named
  match (host.kinds.lookup name).validate name count with
  | .error failure => .error (.operandCount failure)
  | .ok () =>
      let text ← commentText comment
      return (text, enabled)

/-- The instruction of a call that passes the checks. -/
def worded (host : Host) (name : String) (operands : List HostValue) (remark : String × Bool) :
    Mnemonic :=
  ⟨name, operands.map HostValue.datum, host.kinds.lookup name, remark.1, remark.2⟩

/-- What a call leaves behind that passes the checks. -/
def passed (host : Host) (program : Program) (name : String) (operands : List HostValue)
    (remark : String × Bool) : Work :=
  ⟨program.append (host.worded name operands remark),
    if host.verbose then [notice program.filename (host.worded name operands remark)] else []⟩

theorem instruction_eq_map_checked (host : Host) (function name : String)
    (operands : List HostValue) (named : List (String × HostValue)) :
    host.instruction function name operands named =
      (host.checked function name operands.length named).map (host.worded name operands) := by
  rw [instruction, checked, Mnemonic.named, Mnemonic.make, List.length_map, Option.getD_some]
  cases remarks function named with
  | error failure => rfl
  | ok remark =>
      cases (host.kinds.lookup name).validate name operands.length with
      | error failure => simp [bind, Except.bind, Except.map]
      | ok accepted =>
          obtain ⟨comment, enabled⟩ := remark
          cases text : commentText comment with
          | error failure => simp [text, bind, Except.bind, Except.map]
          | ok text => simp [text, bind, Except.bind, Except.map, pure, Except.pure, worded]

/-- A call does nothing but append the instruction that passes the checks. -/
theorem insert_eq_passing (host : Host) (program : Program) (function name : String)
    (operands : List HostValue) (named : List (String × HostValue)) :
    (host.insert function name operands named).run ⟨program, []⟩ =
      Attempt.passing (host.checked function name operands.length named) ⟨program, []⟩
        fun remark => .ok .nothing (host.passed program name operands remark) := by
  rw [insert_run, instruction_eq_map_checked, Attempt.passing_map]
  simp only [recorded_new, passed]

/-- The checks come out the same whatever function is called, or the named
arguments are at fault. -/
theorem checked_uniform (host : Host) (name : String) (count : Nat)
    (named : List (String × HostValue)) :
    (∃ remark, ∀ function, host.checked function name count named = .ok remark) ∨
    (∃ failure, (∀ problem, failure ≠ .other problem) ∧
      ∀ function, host.checked function name count named = .error failure) ∨
    ∃ problem, ∀ function,
      remarks function named = .error (.other (function ++ problem)) ∧
      host.checked function name count named = .error (.other (function ++ problem)) := by
  rcases remarks_uniform named with ⟨⟨comment, enabled⟩, same⟩ | ⟨problem, same⟩
  · simp only [checked, same, bind, Except.bind]
    cases (host.kinds.lookup name).validate name count with
    | error failure => exact .inr (.inl ⟨.operandCount failure, nofun, fun function => rfl⟩)
    | ok accepted =>
        cases worded : commentText comment with
        | ok text => exact .inl ⟨(text, enabled), fun function => rfl⟩
        | error failure =>
            have wrongType : failure = .commentType := by
              cases comment <;> simp_all [commentText]
            exact .inr (.inl ⟨failure, by simp [wrongType], fun function => rfl⟩)
  · refine .inr (.inr ⟨problem, fun function => ⟨same function, ?_⟩⟩)
    rw [checked, same]
    rfl

end Host

end Script

end AsmListing
