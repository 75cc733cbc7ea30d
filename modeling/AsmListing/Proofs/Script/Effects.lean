import AsmListing.Script.Run
import AsmListing.Proofs.Script.Call

/-!
# The effects of scripts on programs

A script reaches a program only through calls of its host.  A sequence of
calls is answered up to the first one that fails.  Afterwards the program is
the old one with one instruction more for every answered call that asks for
one, and a call that fails leaves no trace.
-/

namespace AsmListing

namespace Script

/-- What a sequence of calls leaves behind: the program, the calls that were
answered, and the failure that stopped the sequence. -/
structure Session where
  program : Program
  answered : List Call
  failure? : Option Failure

/-- Puts an answered call before a session. -/
def Session.after (call : Call) (session : Session) : Session :=
  { session with answered := call :: session.answered }

/-- Answers calls in order, up to the first one that fails. -/
def Host.session (host : Host) (program : Program) : List Call → Session
  | [] => ⟨program, [], none⟩
  | call :: rest =>
      match host.answer program call with
      | .error failure left => ⟨left.program, [], some failure⟩
      | .ok _ work => (host.session work.program rest).after call

namespace Session

/-- The calls that were answered are all of them, or those before a call that
fails on the program that is left behind, and leaves it so. -/
def Answers (session : Session) (host : Host) (calls : List Call) : Prop :=
  match session.failure? with
  | none => session.answered = calls
  | some failure => ∃ call rest, calls = session.answered ++ call :: rest ∧
      host.answer session.program call = .error failure ⟨session.program, []⟩

/-- The indent is the one text of the last answered call that sets it, and the
old indent if there is no such call. -/
def Indents (session : Session) (before : Program) : Prop :=
  match (session.answered.filter Call.setsIndent).getLast? with
  | none => session.program.indent = before.indent
  | some call => call.arguments.positional = [.text session.program.indent]

/-- What a sequence of calls does to a program: it appends what the answered
calls ask for, one instruction for each call that asks for one, and sets the
indent.  Everything else stays as it was. -/
structure Effects (session : Session) (host : Host) (before : Program)
    (calls : List Call) : Prop where
  answers : session.Answers host calls
  grows : ∃ appended, before.Grown appended session.program ∧
    (session.answered.filter Call.appends).map (Call.asked? host.kinds) = appended.map some
  indents : session.Indents before

variable {host : Host} {before changed : Program} {session : Session} {call : Call}
  {rest : List Call}

theorem Answers.after (answers : session.Answers host rest) :
    (session.after call).Answers host (call :: rest) := by
  unfold Answers at answers ⊢
  cases ended : session.failure? with
  | none =>
      rw [ended] at answers
      simp [Session.after, ended, answers]
  | some failure =>
      rw [ended] at answers
      obtain ⟨failing, left, split, fails⟩ := answers
      simp only [Session.after, ended]
      exact ⟨failing, left, by rw [split, List.cons_append], fails⟩

/-- A call puts at most its own instruction before those of the calls that
follow it. -/
theorem grown_after (effect : call.Effect host.kinds before changed)
    {appended : List Mnemonic} (grown : changed.Grown appended session.program)
    (asked : (session.answered.filter Call.appends).map (Call.asked? host.kinds) =
      appended.map some) :
    ∃ appended, before.Grown appended (session.after call).program ∧
      ((session.after call).answered.filter Call.appends).map (Call.asked? host.kinds) =
        appended.map some := by
  cases effect with
  | append mnemonic appending wanted =>
      refine ⟨mnemonic :: appended, (Program.Grown.append before mnemonic).trans grown, ?_⟩
      simp [Session.after, appending, wanted, asked]
  | indent text indenting only =>
      have appendsNothing := Call.appends_eq_false_of_setsIndent indenting
      refine ⟨appended, (Program.Grown.setIndent before text).trans grown, ?_⟩
      simp [Session.after, appendsNothing, asked]
  | nothing appendsNothing setsNothing =>
      exact ⟨appended, grown, by simp [Session.after, appendsNothing, asked]⟩

/-- A call that sets the indent counts if no later one does. -/
theorem Indents.after (effect : call.Effect host.kinds before changed)
    (indents : session.Indents changed) :
    (session.after call).Indents before := by
  unfold Indents at indents ⊢
  cases effect with
  | append mnemonic appending wanted =>
      have setsNothing := Call.setsIndent_eq_false_of_appends appending
      simpa [Session.after, setsNothing] using indents
  | indent text indenting only =>
      cases last : (session.answered.filter Call.setsIndent).getLast? with
      | none =>
          rw [last] at indents
          simp [Session.after, indenting, List.getLast?_cons, last, only, indents]
      | some other =>
          rw [last] at indents
          simpa [Session.after, indenting, List.getLast?_cons, last] using indents
  | nothing appendsNothing setsNothing =>
      simpa [Session.after, setsNothing] using indents

/-- An answered call followed by a session. -/
theorem Effects.after (effect : call.Effect host.kinds before changed)
    (effects : session.Effects host changed rest) :
    (session.after call).Effects host before (call :: rest) := by
  obtain ⟨appended, grown, asked⟩ := effects.grows
  exact ⟨effects.answers.after, grown_after effect grown asked, effects.indents.after effect⟩

end Session

/-- The instructions that a sequence of calls leaves behind are the old ones
and then those that the answered calls ask for. -/
theorem Session.Effects.mnemonics {host : Host} {before : Program} {session : Session}
    {calls : List Call} (effects : session.Effects host before calls) :
    session.program.mnemonics = before.mnemonics ++
      (session.answered.filter Call.appends).filterMap (Call.asked? host.kinds) := by
  obtain ⟨appended, grown, asked⟩ := effects.grows
  have all : (session.answered.filter Call.appends).filterMap (Call.asked? host.kinds) =
      appended := by
    have kept := congrArg (List.filterMap id) asked
    simpa [List.filterMap_map] using kept
  rw [grown.mnemonics, all]

/-- A sequence of calls has the effects of the calls that were answered, and
no others. -/
theorem Host.session_effects (host : Host) (program : Program) (calls : List Call) :
    (host.session program calls).Effects host program calls := by
  induction calls generalizing program with
  | nil => exact ⟨rfl, ⟨[], .refl program, rfl⟩, rfl⟩
  | cons call rest induction =>
      unfold Host.session
      split
      · rename_i failure left fails
        obtain rfl := Host.answer_error fails
        exact ⟨⟨call, rest, rfl, fails⟩, ⟨[], .refl program, rfl⟩, rfl⟩
      · rename_i reply work answered
        exact (induction work.program).after (Host.answer_ok answered)

/-- A running script changes a program as a sequence of calls does, and a
call that fails ends the run. -/
theorem Action.run_session {State Result : Type} (host : Host) (name : String)
    (program : Program) (action : Action State Result) :
    ∃ calls, (action.run host name program).program = (host.session program calls).program ∧
      ∀ failure, (host.session program calls).failure? = some failure →
        (action.run host name program).ending = .failed failure := by
  induction action generalizing program with
  | done state result => exact ⟨[], rfl, by simp [Host.session]⟩
  | failed state failure => exact ⟨[], rfl, by simp [Host.session]⟩
  | exhausted state => exact ⟨[], rfl, by simp [Host.session]⟩
  | print text next induction => exact induction program
  | call state request resume induction =>
      cases answer : host.answer program request with
      | error failure left =>
          refine ⟨[request], ?_, ?_⟩
          · simp [Action.run, Host.session, answer]
          · simp [Action.run, Host.session, answer]
      | ok reply work =>
          obtain ⟨calls, same, stops⟩ := induction reply work.program
          refine ⟨request :: calls, ?_, ?_⟩
          · simpa [Action.run, Action.Trace.after, Host.session, Session.after, answer] using same
          · simpa [Action.run, Action.Trace.after, Host.session, Session.after, answer] using stops

theorem exec_session (host : Host) (program : Program) (name source : String) :
    ∃ calls, (exec host program name source).program = (host.session program calls).program ∧
      ∀ failure, (host.session program calls).failure? = some failure →
        (exec host program name source).error? = some (.stopped failure) := by
  unfold exec
  split
  · exact ⟨[], rfl, by simp [Host.session]⟩
  · split
    · exact ⟨[], rfl, by simp [Host.session]⟩
    · rename_i action prepared
      obtain ⟨calls, same, stops⟩ := action.run_session host name program
      refine ⟨calls, same, fun failure failed => ?_⟩
      simp [Outcome.ofTrace, stops failure failed]

/-- Calls of a host only append, and each does all of its work or none.  A
script changes its program as the calls do that it makes, so whether it fails
or not, the instructions inserted before it stay as they were in front of the
new ones. -/
theorem effects_appendOnly (host : Host) (program : Program) :
    (∀ calls, (host.session program calls).Effects host program calls ∧
      (host.session program calls).program.mnemonics = program.mnemonics ++
        ((host.session program calls).answered.filter Call.appends).filterMap
          (Call.asked? host.kinds)) ∧
    ∀ name source,
      (∃ calls,
        (exec host program name source).program = (host.session program calls).program ∧
        ∀ failure, (host.session program calls).failure? = some failure →
          (exec host program name source).error? = some (.stopped failure)) ∧
      (∃ appended, program.Grown appended (exec host program name source).program) ∧
      program.mnemonics <+: (exec host program name source).program.mnemonics := by
  have effects := host.session_effects program
  refine ⟨fun calls => ⟨effects calls, (effects calls).mnemonics⟩, fun name source => ?_⟩
  obtain ⟨calls, same, stops⟩ := exec_session host program name source
  obtain ⟨appended, grown, _⟩ := (effects calls).grows
  rw [← same] at grown
  refine ⟨⟨calls, same, stops⟩, ⟨appended, grown⟩, ?_⟩
  exact ⟨appended, grown.mnemonics.symm⟩

example :
    let calls : List Call :=
      [⟨"emit", ⟨[.text "nop"], []⟩⟩, ⟨"inc", ⟨[.text "CX"], [("comment", .text "next")]⟩⟩,
       ⟨"add", ⟨[.text "AX"], []⟩⟩, ⟨"emit", ⟨[.text "hlt"], []⟩⟩]
    let session := Host.session ⟨.standard, false⟩ (.new 0 "" ⟨0⟩) calls
    session.program.mnemonics.map Mnemonic.name = ["nop", "inc"] ∧
      session.failure? = some (.operandCount ⟨"add", 2, 1⟩) := by
  decide

end Script

end AsmListing
