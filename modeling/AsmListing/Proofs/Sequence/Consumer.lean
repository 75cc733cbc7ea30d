import AsmListing.Sequence.Push
import Mathlib.Data.List.Basic

/-!
# Consumers without effects

A consumer that does nothing but answer is known by the items it takes and by
the state they leave it in.  The items are a front part of those on offer, up
to the first one after which the consumer has enough.
-/

namespace AsmListing

namespace PushSequence

section Consumers

variable {State Item : Type} (consume : State → Item → State × Bool)

/-- The items that a consumer takes: all up to the first one after which it has
enough. -/
def taken (state : State) : List Item → List Item
  | [] => []
  | item :: rest =>
      item :: if (consume state item).2 then taken (consume state item).1 rest else []

/-- The state that items leave a consumer in. -/
def reached (state : State) (items : List Item) : State :=
  items.foldl (fun state item => (consume state item).1) state

@[simp] theorem reached_nil (state : State) : reached consume state [] = state := rfl

@[simp] theorem reached_cons (state : State) (item : Item) (rest : List Item) :
    reached consume state (item :: rest) = reached consume (consume state item).1 rest :=
  rfl

variable {consume}

theorem taken_cons_of_more {state : State} {item : Item} (more : (consume state item).2 = true)
    (rest : List Item) :
    taken consume state (item :: rest) = item :: taken consume (consume state item).1 rest := by
  rw [taken, if_pos more]

theorem taken_cons_of_enough {state : State} {item : Item}
    (enough : (consume state item).2 = false) (rest : List Item) :
    taken consume state (item :: rest) = [item] := by
  rw [taken, enough]
  rfl

theorem taken_singleton (state : State) (item : Item) : taken consume state [item] = [item] := by
  cases answer : (consume state item).2 with
  | false => exact taken_cons_of_enough answer []
  | true => exact taken_cons_of_more answer []

theorem taken_isPrefix (state : State) (items : List Item) :
    taken consume state items <+: items := by
  induction items generalizing state with
  | nil => exact List.prefix_rfl
  | cons item rest induction =>
      cases answer : (consume state item).2 with
      | false =>
          rw [taken_cons_of_enough answer]
          exact List.prefix_append [item] rest
      | true =>
          rw [taken_cons_of_more answer]
          exact (List.prefix_cons_inj item).mpr (induction (consume state item).1)

theorem taken_of_forall_more (more : ∀ state item, (consume state item).2 = true) (state : State)
    (items : List Item) : taken consume state items = items := by
  induction items generalizing state with
  | nil => rfl
  | cons item rest induction => rw [taken_cons_of_more (more state item), induction]

end Consumers

/-! ## Keeping items -/

section Keeping

variable {Item : Type}

theorem reached_keeping (more : List Item → Item → Bool) (kept items : List Item) :
    reached (fun kept item => (item :: kept, more kept item)) kept items =
      items.reverse ++ kept := by
  induction items generalizing kept with
  | nil => rfl
  | cons item rest induction =>
      rw [reached_cons, induction, List.reverse_cons, List.append_assoc, List.singleton_append]

theorem taken_counting {count : Nat} (kept items : List Item) (free : kept.length < count) :
    taken (fun (kept : List Item) item => (item :: kept, decide (kept.length + 1 < count)))
        kept items =
      items.take (count - kept.length) := by
  induction items generalizing kept with
  | nil => simp [taken]
  | cons item rest induction =>
      have split : count - kept.length = count - (kept.length + 1) + 1 := by omega
      rw [split, List.take_succ_cons]
      by_cases more : kept.length + 1 < count
      · rw [taken_cons_of_more (by simpa using more)]
        exact congrArg (item :: ·) (induction (item :: kept) more)
      · have full : count - (kept.length + 1) = 0 := by omega
        rw [taken_cons_of_enough (by simpa using more), full, List.take_zero]

end Keeping

end PushSequence

end AsmListing
