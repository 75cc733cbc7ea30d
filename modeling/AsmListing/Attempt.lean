/-!
# Attempts

An attempt changes a state step by step.  A step that fails ends it, and the
state stays as the steps before have left it.  Whether a failed attempt has
changed anything therefore depends on the order of its steps.
-/

namespace AsmListing

/-- Steps that change a state and may fail.  A failure comes with the state
that it leaves. -/
abbrev Attempt (State Failure : Type) : Type → Type :=
  EStateM Failure State

namespace Attempt

variable {State Failure Result : Type}

/-- The step that has a given result and changes nothing. -/
def ofExcept : Except Failure Result → Attempt State Failure Result
  | .ok result => pure result
  | .error failure => throw failure

/-- The state that is left in any case, and what went wrong. -/
def outcome (attempt : Attempt State Failure Unit) (state : State) : State × Option Failure :=
  match attempt.run state with
  | .ok _ left => (left, none)
  | .error failure left => (left, some failure)

/-- The state that is left if nothing went wrong. -/
def settle (attempt : Attempt State Failure Unit) (state : State) : Except Failure State :=
  match attempt.run state with
  | .ok _ left => .ok left
  | .error failure _ => .error failure

end Attempt

end AsmListing
