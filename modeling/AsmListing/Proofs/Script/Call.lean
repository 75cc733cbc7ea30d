import AsmListing.Script.Host
import AsmListing.Proofs.Attempt
import AsmListing.Proofs.Program.Growth
import AsmListing.Proofs.Result
import Mathlib.Data.List.Nodup

/-!
# What a call of the host does

A call that the host answers either appends the instruction it asks for, sets
the indent to its one text, or leaves the program as it was.  What a call asks
for is said here by its words alone, without the checks that it has to pass.
All checks come before anything is changed, so a call that fails leaves the
program and the log as they were.
-/

namespace AsmListing

namespace Mnemonic

/-- An instruction is made with its comment enabled and left to its kind. -/
theorem make_ok {kind? : Option Kind} {name : String} {operands : List Datum}
    {mnemonic : Mnemonic} (success : make kind? name operands = .ok mnemonic) :
    mnemonic = ⟨name, operands, kind?.getD .generic, "", true⟩ := by
  unfold make at success
  dsimp only at success
  split at success
  · contradiction
  · simpa using success.symm

theorem named_ok {kinds : KindTable} {name : String} {operands : List Datum}
    {mnemonic : Mnemonic} (success : named kinds name operands = .ok mnemonic) :
    mnemonic = ⟨name, operands, kinds.lookup name, "", true⟩ :=
  make_ok success

end Mnemonic

namespace Script

namespace Arguments

variable {Item : Type} {function : String} {parameters : List (Parameter Item)}

/-- An argument that is taken by name goes to the parameter of that name,
which has nothing yet. -/
theorem takeNamed_cons_ok {name : String} {item : Item} {rest : List (String × Item)}
    {taken result : List (Option Item)}
    (success : takeNamed function parameters ((name, item) :: rest) taken = .ok result) :
    ∃ (found : Nat) (inside : found < parameters.length),
      parameters[found].name = name ∧ taken[found]?.join = none ∧
        takeNamed function parameters rest (taken.set found (some item)) = .ok result := by
  simp only [takeNamed] at success
  split at success
  · contradiction
  · rename_i found search
    obtain ⟨inside, sameName, _⟩ := List.findIdx?_eq_some_iff_getElem.mp search
    split at success
    · contradiction
    · rename_i vacant
      split at success
      · contradiction
      · exact ⟨found, inside, by simpa using sameName, by simpa using vacant, success⟩

/-- The parameters after arguments were taken by name: each has what it had
before, or else what was given under its name. -/
theorem takeNamed_ok (distinct : (parameters.map Parameter.name).Nodup)
    {named : List (String × Item)} {taken result : List (Option Item)}
    (lengths : taken.length = parameters.length)
    (success : takeNamed function parameters named taken = .ok result) :
    result.length = parameters.length ∧
      ∀ (index : Nat) (inside : index < parameters.length),
        result[index]?.join =
          (taken[index]?.join).or (named.lookup parameters[index].name) := by
  induction named generalizing taken with
  | nil =>
      simp only [takeNamed, Except.ok.injEq] at success
      subst success
      exact ⟨lengths, by simp⟩
  | cons entry rest induction =>
      obtain ⟨name, item⟩ := entry
      obtain ⟨found, foundLt, nameEq, vacant, success⟩ := takeNamed_cons_ok success
      obtain ⟨resultLength, held⟩ := induction (by simpa using lengths) success
      refine ⟨resultLength, fun index inside => ?_⟩
      rw [held index inside]
      by_cases same : index = found
      · subst same
        have placed : (taken.set index (some item))[index]? = some (some item) :=
          List.getElem?_set_self (by omega)
        simp [placed, vacant, nameEq]
      · have indexBound : index < (parameters.map Parameter.name).length := by
          simpa using inside
        have foundBound : found < (parameters.map Parameter.name).length := by
          simpa using foundLt
        have other : parameters[index].name ≠ name := by
          intro clash
          have names : (parameters.map Parameter.name)[index] =
              (parameters.map Parameter.name)[found] := by
            simp [clash, nameEq]
          exact same (distinct.getElem_inj_iff.mp names)
        rw [List.getElem?_set_ne (Ne.symm same), List.lookup_cons, beq_false_of_ne other]

@[simp] theorem misfit?_nil (label : Nat → String) (index : Nat) (wants : List (Want Item)) :
    misfit? label index wants [] = none := by
  cases wants <;> rfl

/-- Arguments that are all given by name. -/
theorem byName_ok {named : List (String × Item)} {result : List (Option Item)}
    (success : byName ⟨[], named⟩ function parameters = .ok result) :
    takeNamed function parameters named (List.replicate parameters.length none) =
      .ok result := by
  simp only [byName, List.length_nil, Nat.not_lt_zero, if_false, misfit?_nil, List.map_nil,
    List.nil_append, Nat.sub_zero] at success
  obtain ⟨values, taken, complete⟩ := exists_ok_of_bind success
  split at complete
  · contradiction
  · exact taken.trans complete

/-- Arguments that are taken by position are the ones given, all of which fit,
and none is given by name. -/
theorem byPosition_ok {arguments : Arguments Item} {least : Nat} {wants : List (Want Item)}
    {items : List Item} (success : arguments.byPosition function least wants = .ok items) :
    items = arguments.positional ∧ arguments.named = [] ∧
      least ≤ items.length ∧ items.length ≤ wants.length ∧
      misfit? (fun index => toString (index + 1)) 0 wants items = none := by
  simp only [byPosition] at success
  split at success
  · contradiction
  split at success
  · contradiction
  split at success
  · contradiction
  rename_i named few many
  split at success
  · contradiction
  · rename_i fits
    simp only [Except.ok.injEq] at success
    subst success
    exact ⟨rfl, by simpa using named, by omega, by omega, fits⟩

end Arguments

/-- The comment among named arguments.  It is empty unless it is given as a
text. -/
def commentGiven (named : List (String × HostValue)) : String :=
  match named.lookup "comment" with
  | some (.text value) => value
  | _ => ""

/-- Whether named arguments leave the comment switched on. -/
def commentShown (named : List (String × HostValue)) : Bool :=
  match named.lookup "enable_comment" with
  | some (.bool value) => value
  | _ => true

namespace Call

/-- Whether a call asks for an instruction.  All do but those that set the
indent and those that find a register. -/
def appends (call : Call) : Bool :=
  call.function != Host.indentName && call.function != Host.findName

def setsIndent (call : Call) : Bool :=
  call.function == Host.indentName

/-- The name of an instruction and then its operands.  A function that stands
for a kind of instruction has its name. -/
def words (call : Call) : List HostValue :=
  if call.function = Host.emitName then call.arguments.positional
  else .text call.function :: call.arguments.positional

/-- The instruction that the words of a call ask for. -/
def asked? (kinds : KindTable) (call : Call) : Option Mnemonic :=
  match call.words with
  | .text name :: operands =>
      some ⟨name, operands.map HostValue.datum, kinds.lookup name,
        commentGiven call.arguments.named, commentShown call.arguments.named⟩
  | _ => none

/-- What an answered call makes of a program: it appends the instruction that
it asks for, sets the indent to its one text, or changes nothing. -/
inductive Effect (kinds : KindTable) (call : Call) (before : Program) : Program → Prop where
  | append (mnemonic : Mnemonic) (appending : call.appends = true)
      (asked : call.asked? kinds = some mnemonic) :
      Effect kinds call before (before.append mnemonic)
  | indent (text : String) (indenting : call.setsIndent = true)
      (only : call.arguments.positional = [.text text]) :
      Effect kinds call before { before with indent := text }
  | nothing (appendsNothing : call.appends = false) (setsNothing : call.setsIndent = false) :
      Effect kinds call before before

/-- No call both appends an instruction and sets the indent. -/
theorem setsIndent_eq_false_of_appends {call : Call} (appending : call.appends = true) :
    call.setsIndent = false := by
  simp_all [appends, setsIndent]

theorem appends_eq_false_of_setsIndent {call : Call} (indenting : call.setsIndent = true) :
    call.appends = false := by
  simp_all [appends, setsIndent]

end Call

namespace Host

variable {host : Host} {program : Program}

theorem remarks_ok {function : String} {named : List (String × HostValue)}
    {comment : HostValue} {enabled : Bool}
    (success : remarks function named = .ok (comment, enabled)) :
    comment = (named.lookup "comment").getD .none ∧ enabled = commentShown named := by
  simp only [remarks] at success
  split at success
  · contradiction
  · rename_i comment? enabled? taken
    have given := Arguments.takeNamed_ok (by simp) (by simp) (Arguments.byName_ok taken)
    have commentEq : comment? = named.lookup "comment" := by
      simpa using given.2 0 (by simp)
    have enabledEq : enabled? = named.lookup "enable_comment" := by
      simpa using given.2 1 (by simp)
    simp only [Except.ok.injEq, Prod.mk.injEq] at success
    rw [commentEq, enabledEq] at success
    exact ⟨success.1.symm, success.2.symm⟩
  · rename_i result wrong taken
    have given := Arguments.takeNamed_ok (by simp) (by simp) (Arguments.byName_ok taken)
    obtain ⟨comment?, enabled?, rfl⟩ := List.length_eq_two.mp given.1
    exact (wrong comment? enabled? rfl).elim

theorem commentText_ok {named : List (String × HostValue)} {text : String}
    (success : commentText ((named.lookup "comment").getD .none) = .ok text) :
    text = commentGiven named := by
  unfold commentGiven
  cases given : named.lookup "comment" with
  | none => simpa [given, commentText] using success.symm
  | some value =>
      cases value with
      | none => simpa [given, commentText] using success.symm
      | text value => simpa [given, commentText] using success.symm
      | _ => simp [given, commentText] at success

/-- The instruction of a call that passes all checks is made by its name, and
then given the remarks of the call. -/
theorem exists_named_of_instruction {function name : String} {operands : List HostValue}
    {named : List (String × HostValue)} {mnemonic : Mnemonic}
    (success : host.instruction function name operands named = .ok mnemonic) :
    ∃ bare, Mnemonic.named host.kinds name (operands.map HostValue.datum) = .ok bare ∧
      mnemonic = { bare with
        comment := commentGiven named
        commentEnabled := commentShown named } := by
  unfold instruction at success
  obtain ⟨⟨comment, enabled⟩, remarked, success⟩ := exists_ok_of_bind success
  obtain ⟨rfl, rfl⟩ := remarks_ok remarked
  simp only at success
  split at success
  · contradiction
  · rename_i bare made
    obtain ⟨text, commented, success⟩ := exists_ok_of_bind success
    have textEq := commentText_ok commented
    simp only [pure, Except.pure, Except.ok.injEq] at success
    exact ⟨bare, made, by rw [← success, textEq]⟩

/-! ## Calls that fail -/

theorem insert_atomic (host : Host) (function name : String) (operands : List HostValue)
    (named : List (String × HostValue)) :
    (host.insert function name operands named).Atomic := by
  apply (Attempt.ofExcept_checks _).bind_atomic
  intro mnemonic
  apply Attempt.Certain.atomic
  apply (Attempt.modify_certain _).bind
  intro _
  exact (Attempt.modify_certain _).bind fun _ => Attempt.pure_certain _

theorem emit_atomic (host : Host) (call : Call) : (host.emit call).Atomic := by
  unfold emit
  split
  · split
    · exact (Attempt.throw_checks _).atomic
    · exact host.insert_atomic _ _ _ _
  · exact (Attempt.throw_checks _).atomic

theorem setIndent_atomic (call : Call) : (setIndent call).Atomic := by
  apply (Attempt.ofExcept_checks _).bind_atomic
  intro text
  exact ((Attempt.modify_certain _).bind fun _ => Attempt.pure_certain _).atomic

theorem findRegister_atomic (call : Call) : (findRegister call).Atomic := by
  apply (Attempt.ofExcept_checks _).bind_atomic
  intro name
  apply Attempt.get_checks.bind_atomic
  exact fun work => (Attempt.pure_certain _).atomic

/-- A call that fails changes neither the program nor the log. -/
theorem apply_atomic (host : Host) (call : Call) : (host.apply call).Atomic := by
  unfold apply
  split
  · exact host.emit_atomic call
  · split
    · exact setIndent_atomic call
    · split
      · exact findRegister_atomic call
      · exact host.insert_atomic _ _ _ _

theorem answer_error {call : Call} {failure : Failure} {left : Work}
    (failed : host.answer program call = .error failure left) : left = ⟨program, []⟩ :=
  host.apply_atomic call failed

/-! ## Calls that are answered -/

/-- What the host makes of its work when it appends an instruction. -/
def recorded (host : Host) (mnemonic : Mnemonic) (work : Work) : Work :=
  ⟨work.program.append mnemonic, (host.announce mnemonic work).log⟩

theorem recorded_new (host : Host) (mnemonic : Mnemonic) (program : Program) :
    host.recorded mnemonic ⟨program, []⟩ =
      ⟨program.append mnemonic,
        if host.verbose then [notice program.filename mnemonic] else []⟩ := by
  unfold recorded announce
  split <;> rfl

theorem insert_run (function name : String) (operands : List HostValue)
    (named : List (String × HostValue)) (work : Work) :
    (host.insert function name operands named).run work =
      Attempt.passing (host.instruction function name operands named) work fun mnemonic =>
        .ok .nothing (host.recorded mnemonic work) := by
  rw [insert, Attempt.ofExcept_bind_run]
  congr 1
  funext mnemonic
  have same : (host.announce mnemonic work).program = work.program := by
    unfold announce
    split <;> rfl
  rw [recorded, ← same]
  rfl

theorem exists_instruction_of_insert {function name : String} {operands : List HostValue}
    {named : List (String × HostValue)} {reply : Reply} {work changed : Work}
    (success : (host.insert function name operands named).run work = .ok reply changed) :
    ∃ mnemonic, host.instruction function name operands named = .ok mnemonic ∧
      changed.program = work.program.append mnemonic := by
  rw [insert_run] at success
  obtain ⟨mnemonic, asked, recorded⟩ := Attempt.exists_ok_of_passing success
  refine ⟨mnemonic, asked, ?_⟩
  rw [← (EStateM.Result.ok.inj recorded).2]
  rfl

/-- What a call that appends an instruction leaves behind. -/
theorem insert_ok {function name : String} {operands : List HostValue}
    {named : List (String × HostValue)} {reply : Reply} {work changed : Work}
    (success : (host.insert function name operands named).run work = .ok reply changed) :
    changed.program = work.program.append ⟨name, operands.map HostValue.datum,
      host.kinds.lookup name, commentGiven named, commentShown named⟩ := by
  obtain ⟨mnemonic, asked, appended⟩ := exists_instruction_of_insert success
  obtain ⟨bare, made, remarked⟩ := exists_named_of_instruction asked
  rw [appended, remarked, Mnemonic.named_ok made]

/-- An instruction that is asked for with operands only, and so without any
remark, is made by its name or refused for their number. -/
theorem insert_positional (function name : String) (operands : List HostValue) :
    (host.insert function name operands []).run ⟨program, []⟩ =
      match Mnemonic.named host.kinds name (operands.map HostValue.datum) with
      | .error failure => .error (.operandCount failure) ⟨program, []⟩
      | .ok mnemonic => .ok .nothing ⟨program.append mnemonic,
          if host.verbose then [notice program.filename mnemonic] else []⟩ := by
  have unremarked : remarks function [] = .ok (.none, true) := rfl
  rw [insert_run, instruction, unremarked]
  cases made : Mnemonic.named host.kinds name (operands.map HostValue.datum) with
  | error failure => rfl
  | ok mnemonic =>
      rw [Mnemonic.named_ok made]
      exact congrArg (EStateM.Result.ok Reply.nothing) (host.recorded_new _ program)

/-- The one text that a call has. -/
theorem onlyText_ok {call : Call} {text : String} (success : onlyText call = .ok text) :
    call.arguments.positional = [.text text] := by
  unfold onlyText at success
  split at success
  · contradiction
  · rename_i value taken
    obtain ⟨positional, _⟩ := Arguments.byPosition_ok taken
    simp only [Except.ok.injEq] at success
    rw [← positional, success]
  · rename_i items wrong taken
    obtain ⟨_, _, least, most, fits⟩ := Arguments.byPosition_ok taken
    obtain ⟨item, rfl⟩ := List.length_eq_one_iff.mp (Nat.le_antisymm most least)
    cases item with
    | text value => exact (wrong value rfl).elim
    | _ => simp [Arguments.misfit?, HostValue.wantText] at fits

theorem exists_insert_of_emit {call : Call} {reply : Reply} {work changed : Work}
    (answered : (host.emit call).run work = .ok reply changed) :
    ∃ name operands, call.arguments.positional = .text name :: operands ∧
      (host.insert call.function name operands call.arguments.named).run work =
        .ok reply changed := by
  unfold emit at answered
  split at answered
  · rename_i name operands words
    split at answered
    · contradiction
    · exact ⟨name, operands, words, answered⟩
  · contradiction

theorem setIndent_run (call : Call) (work : Work) :
    (setIndent call).run work = Attempt.passing (onlyText call) work fun text =>
      .ok .nothing { work with program := { work.program with indent := text } } :=
  Attempt.ofExcept_bind_run _ _ work

theorem findRegister_run (call : Call) (work : Work) :
    (findRegister call).run work = Attempt.passing (onlyText call) work fun name =>
      .ok (.ofRegister? (work.program.registers.bind fun registers => registers.get? name))
        work :=
  Attempt.ofExcept_bind_run _ _ work

/-- A function that stands for a kind of instruction appends one of its own
name. -/
theorem apply_ordinary {call : Call}
    (ordinary : call.function ∉ [emitName, indentName, findName]) :
    host.apply call =
      host.insert call.function call.function call.arguments.positional
        call.arguments.named := by
  simp only [List.mem_cons, List.not_mem_nil, or_false, not_or] at ordinary
  obtain ⟨notEmit, notIndent, notFind⟩ := ordinary
  simp only [apply, beq_iff_eq, notEmit, notIndent, notFind, if_false]

theorem apply_emit {call : Call} (emits : call.function = emitName) :
    host.apply call = host.emit call := by
  rw [apply, if_pos (by simp [emits])]

theorem apply_indent {call : Call} (indents : call.function = indentName) :
    host.apply call = setIndent call := by
  rw [apply, if_neg (by simp [indents, indentName, emitName]), if_pos (by simp [indents])]

theorem apply_find {call : Call} (finds : call.function = findName) :
    host.apply call = findRegister call := by
  rw [apply, if_neg (by simp [finds, findName, emitName]),
    if_neg (by simp [finds, findName, indentName]), if_pos (by simp [finds])]

/-- The ways to answer a call.  It inserts the instruction that its words name,
it sets the indent to its one text, or it finds a register and changes
nothing. -/
theorem apply_cases {call : Call} {reply : Reply} {work changed : Work}
    (answered : (host.apply call).run work = .ok reply changed) :
    (call.appends = true ∧ ∃ name operands, call.words = .text name :: operands ∧
      (host.insert call.function name operands call.arguments.named).run work =
        .ok reply changed) ∨
    (call.setsIndent = true ∧ ∃ text, call.arguments.positional = [.text text] ∧
      changed.program = { work.program with indent := text }) ∨
    (call.appends = false ∧ call.setsIndent = false ∧ changed.program = work.program) := by
  by_cases ordinary : call.function ∈ [emitName, indentName, findName]
  · simp only [List.mem_cons, List.not_mem_nil, or_false] at ordinary
    rcases ordinary with emits | indents | finds
    · rw [apply_emit emits] at answered
      obtain ⟨name, operands, words, inserted⟩ := exists_insert_of_emit answered
      refine .inl ⟨?_, name, operands, ?_, inserted⟩
      · simp [Call.appends, emits, emitName, indentName, findName]
      · rw [Call.words, if_pos emits, words]
    · rw [apply_indent indents, setIndent_run] at answered
      obtain ⟨text, only, done⟩ := Attempt.exists_ok_of_passing answered
      refine .inr (.inl ⟨by simp [Call.setsIndent, indents], text, onlyText_ok only, ?_⟩)
      rw [← (EStateM.Result.ok.inj done).2]
    · rw [apply_find finds, findRegister_run] at answered
      obtain ⟨name, _, done⟩ := Attempt.exists_ok_of_passing answered
      refine .inr (.inr ⟨?_, ?_, ?_⟩)
      · simp [Call.appends, finds]
      · simp [Call.setsIndent, finds, findName, indentName]
      · rw [(EStateM.Result.ok.inj done).2]
  · rw [apply_ordinary ordinary] at answered
    simp only [List.mem_cons, List.not_mem_nil, or_false, not_or] at ordinary
    refine .inl ⟨?_, call.function, call.arguments.positional, ?_, answered⟩
    · simp [Call.appends, ordinary]
    · rw [Call.words, if_neg ordinary.1]

/-- All that a call does when it is answered. -/
theorem answer_ok {call : Call} {reply : Reply} {work : Work}
    (answered : host.answer program call = .ok reply work) :
    call.Effect host.kinds program work.program := by
  rcases apply_cases answered with
    ⟨appending, name, operands, words, inserted⟩ | ⟨indenting, text, only, changed⟩ |
      ⟨appendsNothing, setsNothing, unchanged⟩
  · rw [insert_ok inserted]
    exact .append _ appending (by rw [Call.asked?, words])
  · rw [changed]
    exact .indent text indenting only
  · rw [unchanged]
    exact .nothing appendsNothing setsNothing

end Host

end Script

end AsmListing
