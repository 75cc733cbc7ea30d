/-!
# Results and entries

A computation in several steps succeeds only if each of its steps does.  The
first of several entries decides what is found under its own key, and nothing
else.
-/

namespace AsmListing

variable {Failure First Second : Type}

/-- A converted result is a success only of a success. -/
theorem exists_ok_of_map {result : Except Failure First} {convert : First → Second}
    {value : Second} (success : result.map convert = .ok value) :
    ∃ first, result = .ok first ∧ convert first = value := by
  cases result with
  | error failure => simp [Except.map] at success
  | ok first => exact ⟨first, rfl, by simpa [Except.map] using success⟩

/-- Two steps succeed only if the first one does and the second one does with
its value. -/
theorem exists_ok_of_bind {result : Except Failure First}
    {next : First → Except Failure Second} {value : Second}
    (success : (result >>= next) = .ok value) :
    ∃ first, result = .ok first ∧ next first = .ok value := by
  cases result with
  | error failure => simp [bind, Except.bind] at success
  | ok first => exact ⟨first, rfl, success⟩

/-- The first entry is found under its own key. -/
theorem lookup_cons_eq_ite {Key Value : Type} [BEq Key] [LawfulBEq Key] [DecidableEq Key]
    {entries : List (Key × Value)} (other : Key) (held : Value) (key : Key) :
    ((other, held) :: entries).lookup key =
      if key = other then some held else entries.lookup key := by
  rw [List.lookup_cons]
  by_cases same : key = other
  · simp [same]
  · rw [if_neg same, beq_eq_false_iff_ne.mpr same]

end AsmListing
