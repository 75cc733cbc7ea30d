import AsmListing.Sequence.Push
import Mathlib.Data.List.Forall2
import Mathlib.Data.PFun

/-!
# The courses of push sequences

What a sequence does depends on nothing but the answers of its consumer.  After
each of them it does some work of its own, and hands over its next item or is
over.  A course says so for every list of answers, without an end if need be.
On an obedient course nothing is handed over any more once the consumer wanted
no more.  A sequence that takes such a course makes the moves of a fixed script,
up to the first item that is refused.
-/

namespace AsmListing

namespace PushSequence

variable {M : Type → Type} {Item : Type}

theorem eq_of_run {first second : PushSequence M Item}
    (same : ∀ {State : Type} (consume : State → Item → M (State × Bool)) (state : State),
      first.run consume state = second.run consume state) : first = second := by
  cases first
  cases second
  congr 1
  funext State consume state
  exact same consume state

/-! ## Courses -/

/-- What a sequence does between two answers: some work of its own, after which
it hands over an item or is over. -/
structure Stage (M : Type → Type) (Item : Type) where
  work : M Unit
  item? : Option Item

/-- What a sequence does after each list of answers, with the first answer in
front. -/
def Course (M : Type → Type) (Item : Type) : Type :=
  List Bool → Stage M Item

namespace Course

/-- What a sequence does before the first answer. -/
def start (course : Course M Item) : Stage M Item :=
  course []

/-- The course behind the first answer. -/
def after (course : Course M Item) (answer : Bool) : Course M Item :=
  fun answers => course (answer :: answers)

/-- Nothing is handed over any more after an answer that wants no more. -/
def Obedient (course : Course M Item) : Prop :=
  ∀ answers, false ∈ answers → (course answers).item? = none

theorem Obedient.after {course : Course M Item} (obedient : course.Obedient) (answer : Bool) :
    (course.after answer).Obedient :=
  fun answers refused => obedient (answer :: answers) (List.mem_cons_of_mem answer refused)

/-- The first items that are handed over to a consumer that wants them all. -/
def items : Nat → Course M Item → List Item
  | 0, _ => []
  | limit + 1, course =>
      match course.start.item? with
      | none => []
      | some item => item :: items limit (course.after true)

end Course

section Following

variable [Monad M]

def ending (work : M Unit) : PushSequence M Item where
  run _ state := do
    work
    pure state

/-- The sequence that works, hands over an item and goes on as the answer
says. -/
def handing (work : M Unit) (item : Item) (rest : Bool → PushSequence M Item) :
    PushSequence M Item where
  run consume state := do
    work
    let answer ← consume state item
    (rest answer.2).run consume answer.1

/-- A sequence does what a course says, for a number of stages. -/
inductive Follows : Nat → PushSequence M Item → Course M Item → Prop where
  | unseen (sequence : PushSequence M Item) (course : Course M Item) : Follows 0 sequence course
  | ends {stages : Nat} {course : Course M Item} (silent : course.start.item? = none) :
      Follows (stages + 1) (ending course.start.work) course
  | hands {stages : Nat} {course : Course M Item} {item : Item}
      (next : course.start.item? = some item) (rest : Bool → PushSequence M Item)
      (follows : ∀ answer, Follows stages (rest answer) (course.after answer)) :
      Follows (stages + 1) (handing course.start.work item rest) course

theorem Follows.eq_ending {stages : Nat} {sequence : PushSequence M Item}
    {course : Course M Item} (follows : Follows (stages + 1) sequence course)
    (silent : course.start.item? = none) : sequence = ending course.start.work := by
  cases follows with
  | ends _ => rfl
  | hands next rest follows =>
      rw [silent] at next
      contradiction

/-- A sequence takes a course if it does what the course says for any number of
stages. -/
def Takes (sequence : PushSequence M Item) (course : Course M Item) : Prop :=
  ∀ stages, Follows stages sequence course

end Following

/-! ## Moves -/

/-- A move of a sequence: a work of its own, or an item that it hands over,
with the work that is left to do in case the item is the last one wanted. -/
inductive Move (M : Type → Type) (Item : Type) where
  | work (effect : M Unit)
  | hand (item : Item) (leave : M Unit)

def handed (moves : List (Move M Item)) : List Item :=
  moves.filterMap fun
    | .work _ => none
    | .hand item _ => some item

section Handed

variable (moves rest : List (Move M Item))

@[simp] theorem handed_nil : handed ([] : List (Move M Item)) = [] := rfl

@[simp] theorem handed_work (effect : M Unit) : handed (.work effect :: moves) = handed moves :=
  rfl

@[simp] theorem handed_hand (item : Item) (leave : M Unit) :
    handed (.hand item leave :: moves) = item :: handed moves :=
  rfl

@[simp] theorem handed_append : handed (moves ++ rest) = handed moves ++ handed rest :=
  List.filterMap_append

theorem handed_flatMap {Source : Type} (sources : List Source)
    (movesOf : Source → List (Move M Item)) :
    handed (sources.flatMap movesOf) = sources.flatMap fun source => handed (movesOf source) := by
  induction sources with
  | nil => rfl
  | cons source sources induction =>
      rw [List.flatMap_cons, handed_append, induction, List.flatMap_cons]

end Handed

/-- The moves on a course with a consumer that wants everything, as far as the
item of the given number. -/
def Course.moves : Nat → Course M Item → List (Move M Item)
  | 0, _ => []
  | limit + 1, course =>
      .work course.start.work ::
        match course.start.item? with
        | none => []
        | some item =>
            .hand item (course.after false).start.work :: moves limit (course.after true)

@[simp] theorem Course.handed_moves (limit : Nat) (course : Course M Item) :
    handed (course.moves limit) = course.items limit := by
  induction limit generalizing course with
  | zero => rfl
  | succ limit induction =>
      rw [moves, items, handed_work]
      cases course.start.item? with
      | none => rfl
      | some item => simp [induction]

/-- Moves as far as the item of the given number, which is handed over last. -/
def upTo : Nat → List (Move M Item) → List (Move M Item)
  | 0, _ => []
  | _ + 1, [] => []
  | count + 1, .work effect :: rest => .work effect :: upTo (count + 1) rest
  | count + 1, .hand item leave :: rest => .hand item leave :: upTo count rest

section UpTo

variable {count : Nat} {moves : List (Move M Item)}

@[simp] theorem upTo_nil (count : Nat) : upTo count ([] : List (Move M Item)) = [] := by
  cases count <;> rfl

theorem handed_upTo (count : Nat) (moves : List (Move M Item)) :
    handed (upTo count moves) = (handed moves).take count := by
  fun_induction upTo count moves with
  | case1 moves => simp
  | case2 count => rfl
  | case3 count effect rest induction => rw [handed_work, handed_work, induction]
  | case4 count item leave rest induction =>
      rw [handed_hand, handed_hand, List.take_succ_cons, induction]

theorem upTo_append_of_le (enough : count ≤ (handed moves).length) (rest : List (Move M Item)) :
    upTo count (moves ++ rest) = upTo count moves := by
  fun_induction upTo count moves with
  | case1 moves => rw [upTo]
  | case2 count => simp at enough
  | case3 count effect moves induction => rw [List.cons_append, upTo, induction enough]
  | case4 count item leave moves induction =>
      rw [List.cons_append, upTo, induction (by simpa using enough)]

theorem upTo_append_of_lt (few : (handed moves).length < count) (rest : List (Move M Item)) :
    upTo count (moves ++ rest) = moves ++ upTo (count - (handed moves).length) rest := by
  fun_induction upTo count moves with
  | case1 moves => simp at few
  | case2 count => rfl
  | case3 count effect moves induction =>
      rw [List.cons_append, upTo, induction few, List.cons_append, handed_work]
  | case4 count item leave moves induction =>
      rw [List.cons_append, upTo, induction (by simpa using few), List.cons_append, handed_hand,
        List.length_cons, Nat.succ_sub_succ]

theorem exists_eq_upTo_append (count : Nat) (moves : List (Move M Item)) :
    ∃ rest, moves = upTo count moves ++ rest := by
  fun_induction upTo count moves with
  | case1 moves => exact ⟨moves, rfl⟩
  | case2 count => exact ⟨[], rfl⟩
  | case3 count effect moves induction =>
      obtain ⟨rest, same⟩ := induction
      exact ⟨rest, congrArg _ same⟩
  | case4 count item leave moves induction =>
      obtain ⟨rest, same⟩ := induction
      exact ⟨rest, congrArg _ same⟩

theorem exists_upTo_eq_concat (enough : count + 1 ≤ (handed moves).length) :
    ∃ front item leave, upTo (count + 1) moves = front ++ [.hand item leave] ∧
      (handed front).length = count := by
  induction moves generalizing count with
  | nil => simp at enough
  | cons move moves induction =>
      cases move with
      | work effect =>
          obtain ⟨front, item, leave, same, length⟩ := induction enough
          exact ⟨.work effect :: front, item, leave, by rw [upTo, same]; rfl, length⟩
      | hand item leave =>
          cases count with
          | zero => exact ⟨[], item, leave, by rw [upTo, upTo]; rfl, rfl⟩
          | succ count =>
              obtain ⟨front, last, lastLeave, same, length⟩ := induction (by simpa using enough)
              exact ⟨.hand item leave :: front, last, lastLeave, by rw [upTo, same]; rfl,
                congrArg (· + 1) length⟩

end UpTo

/-! ## Making moves -/

section Making

variable [Monad M]

/-- Makes moves with a consumer until an item is the last one wanted, and tells
whether the consumer still wants more. -/
def offer {State : Type} (consume : State → Item → M (State × Bool)) :
    List (Move M Item) → State → M (State × Bool)
  | [], state => pure (state, true)
  | .work effect :: rest, state => do
      effect
      offer consume rest state
  | .hand item leave :: rest, state => do
      let answer ← consume state item
      if answer.2 then offer consume rest answer.1
      else do
        leave
        pure (answer.1, false)

/-- The sequence that makes moves and then goes on as another one, if more is
wanted. -/
def making (moves : List (Move M Item)) (rest : PushSequence M Item) : PushSequence M Item where
  run consume state := do
    let answer ← offer consume moves state
    if answer.2 then rest.run consume answer.1 else pure answer.1

theorem making_run (moves : List (Move M Item)) (rest : PushSequence M Item) {State : Type}
    (consume : State → Item → M (State × Bool)) (state : State) :
    (making moves rest).run consume state = (do
      let answer ← offer consume moves state
      if answer.2 then rest.run consume answer.1 else pure answer.1) :=
  rfl

variable [LawfulMonad M]

theorem offer_append {State : Type} (consume : State → Item → M (State × Bool))
    (front back : List (Move M Item)) (state : State) :
    offer consume (front ++ back) state = (do
      let answer ← offer consume front state
      if answer.2 then offer consume back answer.1 else pure answer) := by
  induction front generalizing state with
  | nil => simp [offer]
  | cons move front induction =>
      cases move with
      | work effect => simp [offer, induction]
      | hand item leave =>
          simp only [List.cons_append, offer, bind_assoc]
          congr 1
          funext answer
          cases answer.2 with
          | true => simp [induction]
          | false => simp

@[simp] theorem making_nil (rest : PushSequence M Item) : making [] rest = rest := by
  refine eq_of_run fun consume state => ?_
  simp [making, offer]

theorem making_append (front back : List (Move M Item)) (rest : PushSequence M Item) :
    making (front ++ back) rest = making front (making back rest) := by
  refine eq_of_run fun consume state => ?_
  simp only [making, offer_append, bind_assoc]
  congr 1
  funext answer
  cases stays : answer.2 with
  | true => simp
  | false => simp [stays]

theorem making_work (effect : M Unit) : making [.work effect] (concat []) =
    (ending effect : PushSequence M Item) := by
  refine eq_of_run fun consume state => ?_
  simp [making, offer, ending, concat]

theorem making_handing (effect leave : M Unit) (item : Item) (moves : List (Move M Item))
    (rest : PushSequence M Item) :
    making (.work effect :: .hand item leave :: moves) rest =
      handing effect item fun wanted => if wanted then making moves rest else ending leave := by
  refine eq_of_run fun consume state => ?_
  simp only [making, offer, handing, bind_assoc]
  congr 1
  funext _
  congr 1
  funext answer
  cases answer.2 with
  | true => simp
  | false => simp [ending]

/-! ## Obedient sequences -/

/-- A sequence on an obedient course makes the moves of the course, and has
nothing left to do if these were too few items. -/
theorem Follows.exists_making {limit : Nat} {sequence : PushSequence M Item}
    {course : Course M Item} (follows : Follows (limit + 1) sequence course)
    (obedient : course.Obedient) :
    ∃ rest, sequence = making (course.moves limit) rest ∧
      ((course.items limit).length < limit → rest = concat []) := by
  -- A refusal takes one stage more than the items do, hence the additional stage.
  induction limit generalizing sequence course with
  | zero => exact ⟨sequence, (making_nil sequence).symm, fun few => absurd few (Nat.not_lt_zero _)⟩
  | succ limit induction =>
      cases follows with
      | ends silent =>
          refine ⟨concat [], ?_, fun _ => rfl⟩
          rw [Course.moves, silent, making_work]
      | @hands _ _ item next rest follows =>
          obtain ⟨behind, goesOn, ended⟩ := induction (follows true) (obedient.after true)
          have refused : (course.after false).start.item? = none :=
            obedient [false] List.mem_cons_self
          have stops := (follows false).eq_ending refused
          refine ⟨behind, ?_, ?_⟩
          · rw [Course.moves, next, making_handing]
            congr 1
            funext wanted
            cases wanted with
            | true => exact goesOn
            | false => exact stops
          · intro few
            rw [Course.items, next] at few
            exact ended (Nat.lt_of_succ_lt_succ few)

end Making

/-! ## Lists -/

section Lists

variable [Monad M]

theorem ofList_run_nil {State : Type} (consume : State → Item → M (State × Bool))
    (state : State) : (ofList []).run consume state = pure state :=
  rfl

theorem ofList_run_cons (item : Item) (rest : List Item) {State : Type}
    (consume : State → Item → M (State × Bool)) (state : State) :
    (ofList (item :: rest)).run consume state = (do
      let answer ← consume state item
      if answer.2 then (ofList rest).run consume answer.1 else pure answer.1) :=
  rfl

def Course.ofList (items : List Item) : Course M Item :=
  fun answers => ⟨pure (), if false ∈ answers then none else items[answers.length]?⟩

theorem Course.ofList_obedient (items : List Item) :
    (Course.ofList items : Course M Item).Obedient := by
  intro answers refused
  simp [Course.ofList, refused]

variable [LawfulMonad M]

theorem ofList_takes (items : List Item) :
    (ofList items : PushSequence M Item).Takes (Course.ofList items) := by
  intro stages
  induction stages generalizing items with
  | zero => exact .unseen _ _
  | succ stages induction =>
      cases items with
      | nil =>
          have same : (ofList [] : PushSequence M Item) =
              ending (Course.ofList ([] : List Item)).start.work := by
            refine eq_of_run fun consume state => ?_
            simp [ofList_run_nil, ending, Course.ofList, Course.start]
          rw [same]
          exact .ends rfl
      | cons item rest =>
          have same : (ofList (item :: rest) : PushSequence M Item) =
              handing (Course.ofList (item :: rest)).start.work item fun wanted =>
                if wanted then ofList rest else ofList [] := by
            refine eq_of_run fun consume state => ?_
            simp only [ofList_run_cons, handing, Course.ofList, Course.start, pure_bind]
            congr 1
            funext answer
            cases answer.2 <;> rfl
          rw [same]
          refine .hands rfl _ fun wanted => ?_
          cases wanted with
          | true =>
              have behind : (Course.ofList (item :: rest) : Course M Item).after true =
                  Course.ofList rest := by
                funext answers
                simp [Course.after, Course.ofList]
              rw [behind]
              exact induction rest
          | false =>
              -- After a refusal, there is as little to hand over as of no items.
              have behind : (Course.ofList (item :: rest) : Course M Item).after false =
                  Course.ofList [] := by
                funext answers
                simp [Course.after, Course.ofList]
              rw [behind]
              exact induction []

theorem ofList_eq_making (items : List Item) :
    (ofList items : PushSequence M Item) =
      making (items.map fun item => .hand item (pure ())) (concat []) := by
  refine eq_of_run fun consume state => ?_
  rw [making_run]
  induction items generalizing state with
  | nil => simp [ofList_run_nil, offer, concat]
  | cons item rest induction =>
      simp only [ofList_run_cons, List.map_cons, offer, bind_assoc]
      congr 1
      funext answer
      cases answer.2 with
      | true => simpa using induction answer.1
      | false => simp

end Lists

/-! ## Endless courses -/

/-- Programs that change a world and need not end. -/
abbrev Unbounded (World : Type) : Type → Type :=
  StateT World Part

section Endless

variable {World : Type}

/-- One stage of a course, from a position that consists of the course ahead,
the state of the consumer and the world. -/
def goOn {State : Type} (consume : State → Item → Unbounded World (State × Bool)) :
    Course (Unbounded World) Item × State × World →.
      (State × World) ⊕ (Course (Unbounded World) Item × State × World) :=
  fun position => do
    let worked ← position.1.start.work.run position.2.2
    match position.1.start.item? with
    | none => pure (.inl (position.2.1, worked.2))
    | some item => do
        let answered ← (consume position.2.1 item).run worked.2
        pure (.inr (position.1.after answered.1.2, answered.1.1, answered.2))

/-- The sequence that goes on along a course as long as it leads. -/
def along (course : Course (Unbounded World) Item) : PushSequence (Unbounded World) Item where
  run consume state := fun world => (goOn consume).fix (course, state, world)

theorem along_ending {course : Course (Unbounded World) Item}
    (silent : course.start.item? = none) : along course = ending course.start.work := by
  refine eq_of_run fun consume state => funext fun world => Part.ext fun result => ?_
  change result ∈ (goOn consume).fix (course, state, world) ↔
    result ∈ (course.start.work >>= fun _ => pure state).run world
  rw [PFun.mem_fix_iff]
  simp only [goOn, silent, StateT.run_bind, StateT.run_pure, Part.bind_eq_bind,
    Part.mem_bind_iff, Part.pure_eq_some, Part.mem_some_iff]
  constructor
  · rintro (⟨worked, done, same⟩ | ⟨_, ⟨_, _, impossible⟩, _⟩)
    · exact ⟨worked, done, Sum.inl.inj same⟩
    · contradiction
  · rintro ⟨worked, done, rfl⟩
    exact .inl ⟨worked, done, rfl⟩

theorem along_handing {course : Course (Unbounded World) Item} {item : Item}
    (next : course.start.item? = some item) :
    along course = handing course.start.work item fun answer => along (course.after answer) := by
  refine eq_of_run fun consume state => funext fun world => Part.ext fun result => ?_
  change result ∈ (goOn consume).fix (course, state, world) ↔
    result ∈ (course.start.work >>= fun _ => consume state item >>= fun answer =>
      (along (course.after answer.2)).run consume answer.1).run world
  rw [PFun.mem_fix_iff]
  simp only [goOn, next, StateT.run_bind, Part.bind_eq_bind, Part.mem_bind_iff,
    Part.pure_eq_some, Part.mem_some_iff]
  constructor
  · rintro (⟨_, _, _, _, impossible⟩ | ⟨_, ⟨worked, done, answered, given, same⟩, rest⟩)
    · contradiction
    · obtain rfl := Sum.inr.inj same
      exact ⟨worked, done, answered, given, rest⟩
  · rintro ⟨worked, done, answered, given, rest⟩
    exact .inr ⟨_, ⟨worked, done, answered, given, rfl⟩, rest⟩

/-- Every course is taken by a sequence, also if it has no end. -/
theorem along_takes (course : Course (Unbounded World) Item) : (along course).Takes course := by
  intro stages
  induction stages generalizing course with
  | zero => exact .unseen _ _
  | succ stages induction =>
      cases next : course.start.item? with
      | none =>
          rw [along_ending next]
          exact .ends next
      | some item =>
          rw [along_handing next]
          exact .hands next _ fun answer => induction (course.after answer)

end Endless

end PushSequence

end AsmListing
