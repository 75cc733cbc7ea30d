import AsmListing.Attempt

/-!
# Attempts that do all or nothing

An attempt whose failure leaves the state as it was is atomic.  That is so if
everything that can fail comes before anything that changes the state: checks
may stand in front of an atomic attempt, and steps that cannot fail may follow
it.
-/

namespace AsmListing

namespace Attempt

variable {State Failure First Second : Type}

/-! ## Kinds of attempts -/

/-- A failure leaves the state as it was. -/
def Atomic (attempt : Attempt State Failure First) : Prop :=
  ∀ ⦃state failure left⦄, attempt.run state = .error failure left → left = state

/-- The state stays as it was in any case. -/
def Checks (attempt : Attempt State Failure First) : Prop :=
  ∀ state, (∃ result, attempt.run state = .ok result state) ∨
    ∃ failure, attempt.run state = .error failure state

/-- The attempt never fails. -/
def Certain (attempt : Attempt State Failure First) : Prop :=
  ∀ state, ∃ result left, attempt.run state = .ok result left

theorem Checks.atomic {attempt : Attempt State Failure First} (checks : attempt.Checks) :
    attempt.Atomic := by
  intro state failure left failed
  rcases checks state with ⟨result, passed⟩ | ⟨other, refused⟩
  · rw [passed] at failed
    contradiction
  · rw [refused] at failed
    exact (EStateM.Result.error.inj failed).2.symm

theorem Certain.atomic {attempt : Attempt State Failure First} (certain : attempt.Certain) :
    attempt.Atomic := by
  intro state failure left failed
  obtain ⟨result, next, done⟩ := certain state
  rw [done] at failed
  contradiction

@[simp] theorem ofExcept_run_ok (result : First) (state : State) :
    (ofExcept (.ok result) : Attempt State Failure First).run state = .ok result state :=
  rfl

@[simp] theorem ofExcept_run_error (failure : Failure) (state : State) :
    (ofExcept (.error failure) : Attempt State Failure First).run state =
      .error failure state :=
  rfl

theorem ofExcept_checks (result : Except Failure First) :
    (ofExcept result : Attempt State Failure First).Checks := by
  intro state
  cases result with
  | ok value => exact .inl ⟨value, rfl⟩
  | error failure => exact .inr ⟨failure, rfl⟩

theorem throw_checks (failure : Failure) :
    (throw failure : Attempt State Failure First).Checks :=
  fun _ => .inr ⟨failure, rfl⟩

theorem get_checks : (get : Attempt State Failure State).Checks :=
  fun state => .inl ⟨state, rfl⟩

theorem pure_certain (result : First) : (pure result : Attempt State Failure First).Certain :=
  fun state => ⟨result, state, rfl⟩

theorem modify_certain (change : State → State) :
    (modify change : Attempt State Failure Unit).Certain :=
  fun state => ⟨(), change state, rfl⟩

/-! ## One attempt after another -/

section Bind

variable {attempt : Attempt State Failure First} {next : First → Attempt State Failure Second}

theorem Checks.bind_atomic (checks : attempt.Checks) (atomic : ∀ result, (next result).Atomic) :
    (attempt >>= next).Atomic := by
  intro state failure left failed
  rw [EStateM.run_bind] at failed
  rcases checks state with ⟨result, passed⟩ | ⟨other, refused⟩
  · rw [passed] at failed
    exact atomic result failed
  · rw [refused] at failed
    exact (EStateM.Result.error.inj failed).2.symm

theorem Atomic.bind_certain (atomic : attempt.Atomic) (certain : ∀ result, (next result).Certain) :
    (attempt >>= next).Atomic := by
  intro state failure left failed
  rw [EStateM.run_bind] at failed
  cases ran : attempt.run state with
  | ok result between =>
      obtain ⟨final, last, done⟩ := certain result between
      simp only [ran, done] at failed
      contradiction
  | error other between =>
      simp only [ran] at failed
      rw [← (EStateM.Result.error.inj failed).2]
      exact atomic ran

theorem Certain.bind (certain : attempt.Certain) (further : ∀ result, (next result).Certain) :
    (attempt >>= next).Certain := by
  intro state
  obtain ⟨result, between, done⟩ := certain state
  obtain ⟨final, last, ended⟩ := further result between
  exact ⟨final, last, by rw [EStateM.run_bind, done, ← ended]⟩

end Bind

section Passing

/-- What is left of steps that a check stands in front of.  If the check fails,
the state stays as it is. -/
def passing (check : Except Failure First) (state : State)
    (rest : First → EStateM.Result Failure State Second) : EStateM.Result Failure State Second :=
  match check with
  | .error failure => .error failure state
  | .ok result => rest result

variable {check : Except Failure First} {state left : State} {result : Second}
  {rest : First → EStateM.Result Failure State Second}

theorem ofExcept_bind_run (check : Except Failure First)
    (next : First → Attempt State Failure Second) (state : State) :
    (ofExcept check >>= next).run state =
      passing check state fun first => (next first).run state := by
  cases check <;> rfl

theorem passing_map {Third : Type} (check : Except Failure Third) (convert : Third → First)
    (state : State) (rest : First → EStateM.Result Failure State Second) :
    passing (check.map convert) state rest =
      passing check state fun third => rest (convert third) := by
  cases check <;> rfl

theorem exists_ok_of_passing (success : passing check state rest = .ok result left) :
    ∃ first, check = .ok first ∧ rest first = .ok result left := by
  cases check with
  | error failure => contradiction
  | ok first => exact ⟨first, rfl, success⟩

end Passing

section Optional

variable {Item : Type} {step : Item → Attempt State Failure Unit}

theorem forM_atomic (atomic : ∀ item, (step item).Atomic) (item? : Option Item) :
    (item?.forM step).Atomic := by
  cases item? with
  | none => exact (pure_certain ()).atomic
  | some item => exact atomic item

theorem forM_certain (certain : ∀ item, (step item).Certain) (item? : Option Item) :
    (item?.forM step).Certain := by
  cases item? with
  | none => exact pure_certain ()
  | some item => exact certain item

end Optional

/-! ## What is left of an attempt -/

section Left

variable {attempt : Attempt State Failure Unit} {state left : State} {failure : Failure}

theorem settle_eq_ok_iff : attempt.settle state = .ok left ↔ attempt.run state = .ok () left := by
  unfold settle
  cases attempt.run state <;> simp

theorem settle_eq_error_iff :
    attempt.settle state = .error failure ↔ ∃ left, attempt.run state = .error failure left := by
  unfold settle
  cases attempt.run state <;> simp

theorem outcome_eq_none_iff :
    attempt.outcome state = (left, none) ↔ attempt.settle state = .ok left := by
  unfold outcome settle
  cases attempt.run state <;> simp

theorem outcome_snd_eq_some_iff :
    (attempt.outcome state).2 = some failure ↔ attempt.settle state = .error failure := by
  unfold outcome settle
  cases attempt.run state <;> simp

theorem Atomic.outcome_fst (atomic : attempt.Atomic)
    (failed : (attempt.outcome state).2 = some failure) : (attempt.outcome state).1 = state := by
  obtain ⟨left, ran⟩ := settle_eq_error_iff.mp (outcome_snd_eq_some_iff.mp failed)
  unfold outcome
  rw [ran]
  exact atomic ran

end Left

end Attempt

end AsmListing
