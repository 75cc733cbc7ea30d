/-!
# Push sequences

A push sequence hands its items to a consumer, one after the other, until it
has no more or the consumer wants no more.  The consumer carries a state and
answers each item with the next state and whether it wants to go on.  Whatever
sequences, consumers and conversions do besides are effects of a monad that
they share.
-/

namespace AsmListing

/-- A sequence that hands its items to a consumer and returns the consumer's
last state. -/
structure PushSequence (M : Type → Type) (Item : Type) where
  run : {State : Type} → (State → Item → M (State × Bool)) → State → M State

namespace PushSequence

variable {M : Type → Type} [Monad M] {Item : Type}

def ofList (items : List Item) : PushSequence M Item where
  run consume state := go consume state items
where
  go {State : Type} (consume : State → Item → M (State × Bool)) (state : State) :
      List Item → M State
    | [] => pure state
    | item :: rest => do
        let answer ← consume state item
        if answer.2 then go consume answer.1 rest else pure answer.1

/-- A consumer that remembers whether it has stopped. -/
def watching {State : Type} (consume : State → Item → M (State × Bool)) :
    State × Bool → Item → M ((State × Bool) × Bool) :=
  fun watched item => do
    let answer ← consume watched.1 item
    pure ((answer.1, !answer.2), answer.2)

/-- Sequences one after the other.  No sequence is started after the consumer
has stopped. -/
def concat : List (PushSequence M Item) → PushSequence M Item
  | [] => ⟨fun _ state => pure state⟩
  | first :: rest =>
      ⟨fun consume state => do
        let watched ← first.run (watching consume) (state, false)
        if watched.2 then pure watched.1 else (concat rest).run consume watched.1⟩

/-- A sequence of pairs with its values converted and its keys kept. -/
def mapValues {Key Value Converted : Type} (convert : Value → M Converted)
    (sequence : PushSequence M (Key × Value)) : PushSequence M (Key × Converted) where
  run consume state := sequence.run
    (fun state pair => do
      let converted ← convert pair.2
      consume state (pair.1, converted)) state

/-- The first items of a sequence, at most as many as the limit says. -/
def take (limit : Option Nat) (sequence : PushSequence M Item) : M (List Item) :=
  match limit with
  | none => do
      let kept ← sequence.run (fun kept item => pure (item :: kept, true)) []
      return kept.reverse
  | some 0 => pure []
  | some count => do
      let kept ← sequence.run (fun kept item => pure (item :: kept, kept.length + 1 < count)) []
      return kept.reverse

end PushSequence

end AsmListing
