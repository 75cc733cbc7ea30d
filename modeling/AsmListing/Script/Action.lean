import AsmListing.Script.Host

/-!
# Actions of a running script

A running script is a tree: it ends, fails, prints, or calls its host and goes
on with the answer.  The script itself never sees the program it works on.  A
call that fails ends the run, so nothing follows it.
-/

namespace AsmListing

namespace Script

/-- What a running script does, over the state that it leaves behind. -/
inductive Action (State Result : Type) where
  | done (state : State) (result : Result)
  | failed (state : State) (failure : Failure)
  | exhausted (state : State)
  | print (text : String) (next : Action State Result)
  | call (state : State) (request : Call) (resume : Reply → Action State Result)

namespace Action

/-- Goes on with what an action results in. -/
def bind {State First Second : Type} (next : State → First → Action State Second) :
    Action State First → Action State Second
  | done state result => next state result
  | failed state failure => failed state failure
  | exhausted state => exhausted state
  | print text rest => print text (bind next rest)
  | call state request resume => call state request fun reply => bind next (resume reply)

inductive Ending where
  | finished
  | failed (failure : Failure)
  | exhausted

/-- What a run leaves behind: the program, the log, the state of the script,
and how it ended. -/
structure Trace (State : Type) where
  program : Program
  log : List String
  state : State
  ending : Ending

/-- Puts lines before the log of a run. -/
def Trace.after {State : Type} (lines : List String) (trace : Trace State) : Trace State :=
  { trace with log := lines ++ trace.log }

def run {State Result : Type} (host : Host) (name : String) (program : Program) :
    Action State Result → Trace State
  | done state _ => ⟨program, [], state, .finished⟩
  | failed state failure => ⟨program, [], state, .failed failure⟩
  | exhausted state => ⟨program, [], state, .exhausted⟩
  | print text next => (run host name program next).after [s!"{name}: {text}"]
  | call state request resume =>
      match host.answer program request with
      | .error failure left => ⟨left.program, left.log, state, .failed failure⟩
      | .ok reply work => (run host name work.program (resume reply)).after work.log

end Action

end Script

end AsmListing
