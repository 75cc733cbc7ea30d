import AsmListing.Proofs.Script.Bindings
import AsmListing.Proofs.Script.Checks
import AsmListing.Proofs.Script.Effects

/-!
# Instructions by function and by name

An instruction of a kind can be asked for in two ways: by the function that
stands for the kind, and by name.  Both take the same operands and the same
named arguments, do the same to the program and fail for the same reason.  Only
a problem with the named arguments tells which function was called.
-/

namespace AsmListing

/-! ## Names of kinds -/

theorem Text.lower_eq_empty_iff {text : String} : Text.lower text = "" ↔ text = "" := by
  rw [← String.toList_inj, ← String.toList_inj, Text.lower, String.toList_ofList]
  simp

/-- No request gives a kind to the empty name. -/
theorem KindTable.find?_empty (requests : List Request) :
    (standard.afterAll requests).find? "" = none := by
  have unasked : firstAsked? requests "" = none := by
    refine List.findSome?_eq_none_iff.mpr fun request _ => ?_
    simp [Request.asks?, Text.lower_eq_empty_iff]
  rw [afterAll_find?, unasked, Option.or_none]
  decide

namespace Script

/-! ## Answers that differ in the name of the function -/

namespace Host

/-- Answers to calls of two functions with the same named arguments.  They are
the same, unless the named arguments are at fault.  Then both calls fail, and
the problem is worded behind the name of the function that was called.  Either
way they leave the same work. -/
inductive Alike (named : List (String × HostValue)) (first second : String) :
    EStateM.Result Failure Work Reply → EStateM.Result Failure Work Reply → Prop where
  | answered (reply : Reply) (work : Work) :
      Alike named first second (.ok reply work) (.ok reply work)
  | refused (failure : Failure) (work : Work) (nameless : ∀ problem, failure ≠ .other problem) :
      Alike named first second (.error failure work) (.error failure work)
  | faulty (problem : String) (work : Work)
      (fault : ∀ function, remarks function named = .error (.other (function ++ problem))) :
      Alike named first second (.error (.other (first ++ problem)) work)
        (.error (.other (second ++ problem)) work)

section Alike

variable {named : List (String × HostValue)} {first second : String} {work : Work}
  {called other : EStateM.Result Failure Work Reply}

theorem Alike.ok (alike : Alike named first second called other) {reply : Reply}
    (answered : called = .ok reply work) : other = .ok reply work := by
  cases alike with
  | answered reply work => exact answered
  | refused failure work nameless => contradiction
  | faulty problem work fault => contradiction

theorem Alike.exists_error (alike : Alike named first second called other) {failure : Failure}
    (failed : called = .error failure work) : ∃ reason, other = .error reason work := by
  cases alike with
  | answered reply work => contradiction
  | refused failure work nameless => exact ⟨_, failed⟩
  | faulty problem work fault =>
      rw [(EStateM.Result.error.inj failed).2]
      exact ⟨_, rfl⟩

end Alike

variable (host : Host) (program : Program)

theorem insert_alike (first second name : String) (operands : List HostValue)
    (named : List (String × HostValue)) :
    Alike named first second ((host.insert first name operands named).run ⟨program, []⟩)
      ((host.insert second name operands named).run ⟨program, []⟩) := by
  rw [insert_eq_passing, insert_eq_passing]
  rcases host.checked_uniform name operands.length named with
    ⟨remark, same⟩ | ⟨failure, nameless, same⟩ | ⟨problem, same⟩
  · rw [same, same]
    exact .answered .nothing _
  · rw [same, same]
    exact .refused failure _ nameless
  · rw [(same first).2, (same second).2]
    exact .faulty problem _ fun function => (same function).1

/-- Answers a call of the function that stands for a kind, whatever else its
name means. -/
def ofKind (call : Call) : EStateM.Result Failure Work Reply :=
  (host.insert call.function call.function call.arguments.positional
    call.arguments.named).run ⟨program, []⟩

end Host

/-- The call that asks by name for the instruction of a function. -/
def Call.byName (call : Call) : Call :=
  ⟨Host.emitName,
    ⟨.text call.function :: call.arguments.positional, call.arguments.named⟩⟩

/-- A call for a kind of instruction, made by name.  All other calls stay as
they are, and so do those of a kind whose name means something else. -/
def Call.renamed (kinds : KindTable) (call : Call) : Call :=
  if call.function ∈ kinds.names ∧ call.function ∉ Host.ownNames then call.byName else call

theorem Host.apply_byName (host : Host) {call : Call} (named : call.function ≠ "") :
    host.apply call.byName =
      host.insert emitName call.function call.arguments.positional call.arguments.named := by
  have nonempty : call.function.isEmpty = false := by simpa using named
  simp [apply, emit, Call.byName, nonempty]

theorem Host.ofKind_alike (host : Host) (program : Program) (call : Call)
    (named : call.function ≠ "") :
    Alike call.arguments.named call.function emitName (host.ofKind program call)
      (host.answer program call.byName) := by
  rw [answer, host.apply_byName named]
  exact host.insert_alike program call.function emitName call.function _ _

theorem Host.answer_ordinary (host : Host) (program : Program) {call : Call}
    (ordinary : call.function ∉ ownNames) :
    host.answer program call = host.ofKind program call := by
  rw [answer, apply_ordinary ordinary, ofKind]

/-! ## Scripts -/

namespace Action

/-- A script with every kind of instruction asked for by name. -/
def renamed {State Result : Type} (kinds : KindTable) :
    Action State Result → Action State Result
  | done state result => done state result
  | failed state failure => failed state failure
  | exhausted state => exhausted state
  | print text next => print text (next.renamed kinds)
  | call state request resume =>
      call state (request.renamed kinds) fun reply => (resume reply).renamed kinds

/-- Endings that differ at most in the name of the function that a problem is
about. -/
inductive Ending.Renamed : Ending → Ending → Prop where
  | same (ending : Ending) : Renamed ending ending
  | faulty (function problem : String) :
      Renamed (.failed (.other (function ++ problem)))
        (.failed (.other (Host.emitName ++ problem)))

/-- Runs that leave the same behind and end alike. -/
structure Trace.Renamed {State : Type} (first second : Trace State) : Prop where
  program : second.program = first.program
  log : second.log = first.log
  state : second.state = first.state
  ending : first.ending.Renamed second.ending

theorem Trace.Renamed.after {State : Type} {first second : Trace State}
    (renamed : first.Renamed second) (lines : List String) :
    (first.after lines).Renamed (second.after lines) where
  program := renamed.program
  log := congrArg (lines ++ ·) renamed.log
  state := renamed.state
  ending := renamed.ending

/-- Asked for by name, a kind of instruction gets the answer of its function, or
both calls fail. -/
theorem answer_renamed (host : Host) (nameless : host.kinds.find? "" = none)
    (program : Program) (call : Call) :
    (∃ reply work, host.answer program call = .ok reply work ∧
      host.answer program (call.renamed host.kinds) = .ok reply work) ∨
    ∃ first second work, host.answer program call = .error first work ∧
      host.answer program (call.renamed host.kinds) = .error second work ∧
      Ending.Renamed (.failed first) (.failed second) := by
  by_cases kind : call.function ∈ host.kinds.names ∧ call.function ∉ Host.ownNames
  · have named : call.function ≠ "" := by
      intro empty
      exact KindTable.not_mem_names_iff.mpr nameless (empty ▸ kind.1)
    have alike := host.ofKind_alike program call named
    rw [Call.renamed, if_pos kind, host.answer_ordinary program kind.2]
    revert alike
    generalize host.ofKind program call = first
    generalize host.answer program call.byName = second
    rintro (⟨reply, work⟩ | ⟨failure, work⟩ | ⟨problem, work⟩)
    · exact .inl ⟨reply, work, rfl, rfl⟩
    · exact .inr ⟨failure, failure, work, rfl, rfl, .same _⟩
    · exact .inr ⟨_, _, work, rfl, rfl, .faulty call.function problem⟩
  · rw [Call.renamed, if_neg kind]
    cases host.answer program call with
    | ok reply work => exact .inl ⟨reply, work, rfl, rfl⟩
    | error failure work => exact .inr ⟨failure, failure, work, rfl, rfl, .same _⟩

/-- It makes no difference to a run how kinds of instructions are asked for. -/
theorem run_renamed {State Result : Type} (host : Host) (nameless : host.kinds.find? "" = none)
    (script : String) (program : Program) (action : Action State Result) :
    (action.run host script program).Renamed
      ((action.renamed host.kinds).run host script program) := by
  induction action generalizing program with
  | done state result => exact ⟨rfl, rfl, rfl, .same _⟩
  | failed state failure => exact ⟨rfl, rfl, rfl, .same _⟩
  | exhausted state => exact ⟨rfl, rfl, rfl, .same _⟩
  | print text next induction => exact (induction program).after _
  | call state request resume induction =>
      rw [renamed, run, run]
      rcases answer_renamed host nameless program request with
        ⟨reply, work, called, renamed⟩ | ⟨first, second, work, called, renamed, ending⟩
      · rw [called, renamed]
        exact (induction reply work.program).after work.log
      · rw [called, renamed]
        exact ⟨rfl, rfl, rfl, ending⟩

end Action

/-- The function of a kind and a call by name are interchangeable.  Their
answers are alike for all arguments, and an answered call appends an
instruction of the kind.  A call that fails leaves the program as it was.  The
function of a kind is what a script calls under its name, unless the name is
that of a function of the host itself, and a script can ask for all its
instructions by name. -/
theorem ofKind_interchangeable (requests : List KindTable.Request) (verbose : Bool)
    {name : String} {kind : Kind}
    (known : (KindTable.standard.afterAll requests).find? name = some kind)
    (program : Program) (arguments : Arguments HostValue) :
    let host : Host := ⟨KindTable.standard.afterAll requests, verbose⟩
    let call : Call := ⟨name, arguments⟩
    Host.Alike arguments.named name Host.emitName (host.ofKind program call)
      (host.answer program call.byName) ∧
    (∀ reply work, host.ofKind program call = .ok reply work →
      work.program = program.append ⟨name, arguments.positional.map HostValue.datum, kind,
        commentGiven arguments.named, commentShown arguments.named⟩) ∧
    (∀ failure left, host.ofKind program call = .error failure left →
      left = ⟨program, []⟩ ∧ (host.session program [call.byName]).program = program) ∧
    (name ∉ Host.ownNames → host.answer program call = host.ofKind program call ∧
      (host.session program [call.byName]).program = (host.session program [call]).program) ∧
    ∀ {State Result : Type} (script : String) (action : Action State Result),
      (action.run host script program).Renamed
        ((action.renamed host.kinds).run host script program) := by
  intro host call
  have nameless : host.kinds.find? "" = none := KindTable.find?_empty requests
  have orderly : host.kinds.Orderly := KindTable.standard_orderly.afterAll requests
  have named : name ≠ "" := by
    rintro rfl
    rw [nameless] at known
    contradiction
  have alike := host.ofKind_alike program call named
  refine ⟨alike, fun reply work answered => ?_, ?_, ?_,
    fun script => Action.run_renamed host nameless script program⟩
  · rw [Host.insert_ok answered, orderly.lookup_eq known]
  · intro failure left failed
    obtain rfl := host.insert_atomic _ _ _ _ failed
    obtain ⟨reason, refused⟩ := alike.exists_error failed
    exact ⟨rfl, by simp only [Host.session, refused]⟩
  · intro ordinary
    have called : host.answer program call = host.ofKind program call :=
      host.answer_ordinary program ordinary
    refine ⟨called, ?_⟩
    cases answer : host.ofKind program call with
    | ok reply work => simp only [Host.session, alike.ok answer, called, answer, Session.after]
    | error failure work =>
        obtain ⟨reason, refused⟩ := alike.exists_error answer
        simp only [Host.session, refused, called, answer]

/-- A kind that was added, with a named argument that no function takes. -/
theorem ofKind_interchangeable_neg :
    let kind : Kind := .fixed 1 "Negating %[1]v"
    let host : Host := ⟨KindTable.standard.afterAll [⟨"NEG", some kind⟩], false⟩
    let call : Call := ⟨"neg", ⟨[.text "AX"], [("note", .text "sign")]⟩⟩
    let program := Program.new 0 "boot.asm" .bits64
    host.kinds.find? "neg" = some kind ∧
      Host.Alike [("note", .text "sign")] "neg" "emit" (host.ofKind program call)
        (host.answer program call.byName) ∧
      host.answer program call = host.ofKind program call := by
  intro kind host call program
  have known : host.kinds.find? "neg" = some kind := by decide +kernel
  have alike := ofKind_interchangeable [⟨"NEG", some kind⟩] false known program call.arguments
  exact ⟨known, alike.1, (alike.2.2.2.1 (by decide)).1⟩

end Script

end AsmListing
