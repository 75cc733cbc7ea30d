import AsmListing.Proofs.Sequence.Consumer
import AsmListing.Proofs.Sequence.Course

/-!
# Deliveries of concatenated and converted sequences

Sequences that take obedient courses are put one after the other, or have their
values converted.  The result makes the moves of one script: the moves of all
courses in their order, as far as the last item that the consumer wants.
-/

namespace AsmListing

namespace PushSequence

variable {M : Type → Type} {Item Raw : Type}

/-! ## Scripts -/

/-- The first items of courses that are taken one after the other. -/
def firstItems (limit : Nat) (courses : List (Course M Item)) : List Item :=
  (courses.flatMap (Course.items limit)).take limit

/-- The moves of courses that are taken one after the other, as far as the item
of the given number. -/
def script (limit : Nat) (courses : List (Course M Item)) : List (Move M Item) :=
  upTo limit (courses.flatMap (Course.moves limit))

theorem handed_flatMap_moves (limit : Nat) (courses : List (Course M Item)) :
    handed (courses.flatMap (Course.moves limit)) = courses.flatMap (Course.items limit) := by
  rw [handed_flatMap]
  congr 1
  funext course
  exact course.handed_moves limit

theorem handed_script (limit : Nat) (courses : List (Course M Item)) :
    handed (script limit courses) = firstItems limit courses := by
  rw [script, handed_upTo, handed_flatMap_moves, firstItems]

theorem le_length_firstItems_iff {limit : Nat} {courses : List (Course M Item)} :
    limit ≤ (firstItems limit courses).length ↔
      limit ≤ (handed (courses.flatMap (Course.moves limit))).length := by
  rw [handed_flatMap_moves, firstItems, List.length_take]
  omega

theorem script_append {limit : Nat} {courses : List (Course M Item)}
    (enough : limit ≤ (firstItems limit courses).length) (later : List (Course M Item)) :
    script limit (courses ++ later) = script limit courses := by
  rw [script, List.flatMap_append]
  exact upTo_append_of_le (le_length_firstItems_iff.mp enough) _

theorem upTo_moves (limit : Nat) (course : Course M Item) :
    upTo limit (course.moves limit) = course.moves limit := by
  induction limit generalizing course with
  | zero => rfl
  | succ limit induction =>
      rw [Course.moves]
      cases course.start.item? with
      | none => rfl
      | some item => simp only [upTo, induction]

theorem script_singleton (limit : Nat) (course : Course M Item) :
    script limit [course] = course.moves limit := by
  rw [script, List.flatMap_singleton, upTo_moves]

theorem firstItems_singleton (limit : Nat) (course : Course M Item) :
    firstItems limit [course] = course.items limit := by
  rw [← handed_script, script_singleton, Course.handed_moves]

/-! ## Consumers -/

section Consumers

variable [Monad M] {State : Type}

/-- A consumer that does anything with an item, counts its calls, and gives
answers in a fixed order. -/
def answering (answers : Nat → Bool) (react : State → Item → M State) :
    Nat × State → Item → M ((Nat × State) × Bool) :=
  fun counted item => do
    let next ← react counted.2 item
    pure ((counted.1 + 1, next), answers counted.1)

/-- The answer to the item of the given number is the first that wants no
more. -/
def StopsAfter (answers : Nat → Bool) (limit : Nat) : Prop :=
  ∃ last, limit = last + 1 ∧ (∀ call < last, answers call = true) ∧ answers last = false

/-- What is done by moves if all items are wanted. -/
def act (react : State → Item → M State) : List (Move M Item) → State → M State
  | [], state => pure state
  | .work effect :: rest, state => do
      effect
      act react rest state
  | .hand item _ :: rest, state => do
      let next ← react state item
      act react rest next

/-- The work that is left to do if the last move hands over the last item
wanted. -/
def leaving (moves : List (Move M Item)) : M Unit :=
  match moves.getLast? with
  | some (.hand _ leave) => leave
  | _ => pure ()

@[simp] theorem leaving_concat (front : List (Move M Item)) (item : Item) (leave : M Unit) :
    leaving (front ++ [.hand item leave]) = leave := by
  simp [leaving]

/-- A reaction to items that have to be prepared first. -/
def preparing {Result : Type} (prepare : Raw → M Item) (react : State → Item → M Result) :
    State → Raw → M Result :=
  fun state raw => do
    let item ← prepare raw
    react state item

variable [LawfulMonad M]

theorem act_append (react : State → Item → M State) (front back : List (Move M Item))
    (state : State) :
    act react (front ++ back) state = (do
      let next ← act react front state
      act react back next) := by
  induction front generalizing state with
  | nil => simp [act]
  | cons move front induction =>
      cases move with
      | work effect => simp [act, induction]
      | hand item leave => simp [act, induction]

theorem offer_answering (answers : Nat → Bool) (react : State → Item → M State)
    (moves : List (Move M Item)) (calls : Nat) (state : State)
    (wanted : ∀ call < (handed moves).length, answers (calls + call) = true) :
    offer (answering answers react) moves (calls, state) = (do
      let next ← act react moves state
      pure ((calls + (handed moves).length, next), true)) := by
  induction moves generalizing calls state with
  | nil => simp [offer, act]
  | cons move moves induction =>
      cases move with
      | work effect =>
          have rest := induction calls state wanted
          simp [offer, act, rest]
      | hand item leave =>
          have first : answers calls = true := wanted 0 (by simp)
          have others : ∀ call < (handed moves).length, answers (calls + 1 + call) = true := by
            intro call bound
            have later := wanted (call + 1) (by simpa using bound)
            rwa [Nat.add_right_comm]
          have rest := fun next => induction (calls + 1) next others
          have total : calls + (handed (.hand item leave :: moves)).length =
              calls + 1 + (handed moves).length := by
            rw [handed_hand, List.length_cons]
            omega
          rw [total]
          simp [offer, act, answering, first, rest]

theorem offer_answering_stop {answers : Nat → Bool} {front : List (Move M Item)}
    (wanted : ∀ call < (handed front).length, answers call = true)
    (stop : answers (handed front).length = false) (react : State → Item → M State)
    (item : Item) (leave : M Unit) (state : State) :
    offer (answering answers react) (front ++ [.hand item leave]) (0, state) = (do
      let next ← act react (front ++ [.hand item leave]) state
      leave
      pure (((handed front).length + 1, next), false)) := by
  have before := offer_answering answers react front 0 state (by simpa using wanted)
  rw [offer_append, before, act_append]
  simp [offer, act, answering, stop]

theorem preparing_answering (prepare : Raw → M Item) (answers : Nat → Bool)
    (react : State → Item → M State) :
    preparing prepare (answering answers react) = answering answers (preparing prepare react) := by
  funext counted raw
  simp [preparing, answering]

end Consumers

/-! ## Concatenation -/

section Concatenation

variable [Monad M] [LawfulMonad M]

/-- A consumer that is watched has stopped exactly if it wants no more. -/
theorem offer_watching {State : Type} (consume : State → Item → M (State × Bool))
    (moves : List (Move M Item)) (state : State) :
    offer (watching consume) moves (state, false) = (do
      let answer ← offer consume moves state
      pure ((answer.1, !answer.2), answer.2)) := by
  induction moves generalizing state with
  | nil => simp [offer]
  | cons move moves induction =>
      cases move with
      | work effect => simp [offer, induction]
      | hand item leave =>
          simp only [offer, watching, bind_assoc, pure_bind]
          congr 1
          funext answer
          cases answer.2 with
          | true => simpa using induction answer.1
          | false => simp

theorem concat_making (moves : List (Move M Item)) (rest : PushSequence M Item)
    (others : List (PushSequence M Item)) :
    concat (making moves rest :: others) = making moves (concat (rest :: others)) := by
  refine eq_of_run fun consume state => ?_
  simp only [concat, making, offer_watching, bind_assoc, pure_bind]
  congr 1
  funext answer
  cases answer.2 with
  | true => simp
  | false => simp

theorem concat_nil_cons (others : List (PushSequence M Item)) :
    concat (concat [] :: others) = concat others := by
  refine eq_of_run fun consume state => ?_
  simp [concat]

/-- Sequences on obedient courses make the moves of all courses together, one
course after the other, as far as any item. -/
theorem exists_concat_eq_making {limit count : Nat} {sequences : List (PushSequence M Item)}
    {courses : List (Course M Item)}
    (follows : List.Forall₂ (Follows (limit + 1)) sequences courses)
    (obedient : ∀ course ∈ courses, course.Obedient) (within : count ≤ limit) :
    ∃ rest, concat sequences = making (upTo count (courses.flatMap (Course.moves limit))) rest ∧
      ((courses.flatMap (Course.items limit)).length < count → rest = concat []) := by
  induction follows generalizing count with
  | nil => exact ⟨concat [], by simp, fun _ => rfl⟩
  | @cons sequence course sequences courses first others induction =>
      have obedientFirst := obedient course List.mem_cons_self
      have obedientOthers := fun other member => obedient other (List.mem_cons_of_mem course member)
      obtain ⟨rest, same, ended⟩ := first.exists_making obedientFirst
      have items := course.handed_moves limit
      rw [same, concat_making, List.flatMap_cons, List.flatMap_cons, List.length_append]
      by_cases few : (course.items limit).length < count
      · -- The first sequence ends before the item, so the others go on with the count.
        have left : count - (course.items limit).length ≤ limit := by omega
        obtain ⟨behind, sameOthers, endedOthers⟩ := induction obedientOthers left
        refine ⟨behind, ?_, fun total => endedOthers (by omega)⟩
        rw [ended (by omega), concat_nil_cons, sameOthers, ← making_append,
          upTo_append_of_lt (by rwa [items]), items]
      · -- The item is one of the first sequence, and the others are not reached.
        obtain ⟨back, split⟩ := exists_eq_upTo_append count (course.moves limit)
        refine ⟨making back (concat (rest :: sequences)), ?_, fun total => by omega⟩
        rw [← making_append, upTo_append_of_le (by rw [items]; omega), ← split]

/-! ## Lists -/

theorem concat_map_ofList (lists : List (List Item)) :
    concat (lists.map ofList) = (ofList lists.flatten : PushSequence M Item) := by
  induction lists with
  | nil => rfl
  | cons items lists induction =>
      rw [List.map_cons, ofList_eq_making, concat_making, concat_nil_cons, induction,
        ofList_eq_making, ← making_append, ← List.map_append, ← List.flatten_cons,
        ← ofList_eq_making]

theorem mapValues_ofList {Key Value Converted : Type} (convert : Value → Converted)
    (pairs : List (Key × Value)) :
    mapValues (fun value => pure (convert value)) (ofList pairs) =
      (ofList (pairs.map fun pair => (pair.1, convert pair.2)) :
        PushSequence M (Key × Converted)) := by
  refine eq_of_run fun consume state => ?_
  simp only [mapValues, pure_bind]
  induction pairs generalizing state with
  | nil => rfl
  | cons pair rest induction =>
      simp only [ofList_run_cons, List.map_cons, induction]

theorem ofList_run_pure {State : Type} (consume : State → Item → State × Bool) (state : State)
    (items : List Item) :
    (ofList items : PushSequence M Item).run (fun state item => pure (consume state item)) state =
      pure (reached consume state (taken consume state items)) := by
  induction items generalizing state with
  | nil => rfl
  | cons item rest induction =>
      rw [ofList_run_cons, pure_bind]
      by_cases more : (consume state item).2 = true
      · rw [if_pos more, induction, taken_cons_of_more more, reached_cons]
      · rw [if_neg more, taken_cons_of_enough (by simpa using more), reached_cons, reached_nil]

theorem take_ofList (limit : Option Nat) (items : List Item) :
    (ofList items : PushSequence M Item).take limit =
      pure (limit.elim items fun count => items.take count) := by
  cases limit with
  | none => simp [take, ofList_run_pure, taken_of_forall_more, reached_keeping]
  | some count =>
      cases count with
      | zero => simp [take]
      | succ count =>
          rw [take, ofList_run_pure, taken_counting [] items (Nat.succ_pos count),
            reached_keeping, pure_bind]
          · simp
          · exact Nat.succ_ne_zero count

/-- The first items of lists that are put one after the other are the first
ones of all lists together. -/
theorem take_concat_ofList (limit : Option Nat) (lists : List (List Item)) :
    (concat (lists.map ofList) : PushSequence M Item).take limit =
      pure (limit.elim lists.flatten fun count => lists.flatten.take count) := by
  rw [concat_map_ofList, take_ofList]

end Concatenation

/-! ## Deliveries -/

section Deliveries

variable [Monad M]

/-- A sequence makes the moves that lie on courses one after the other. -/
def Makes (sequence : PushSequence M Item) (courses : List (Course M Item)) : Prop :=
  ∀ limit, ∃ rest, sequence = making (script limit courses) rest ∧
    ((firstItems limit courses).length < limit → rest = concat [])

/-- A sequence delivers the items of courses that are taken one after the other,
each after some preparation. -/
structure Delivers (sequence : PushSequence M Item) (courses : List (Course M Raw))
    (prepare : Raw → M Item) : Prop where
  -- Any consumer is offered the items in their order, up to the first one it refuses.
  offers : ∀ limit, ∃ rest : PushSequence M Item,
    (∀ {State : Type} (consume : State → Item → M (State × Bool)) (state : State),
      sequence.run consume state = (do
        let answer ← offer (preparing prepare consume) (script limit courses) state
        if answer.2 then rest.run consume answer.1 else pure answer.1)) ∧
    ((firstItems limit courses).length < limit → rest = concat [])
  -- A consumer that stops with an item is not called again, whatever it would answer then.
  stops : ∀ (limit : Nat) (answers : Nat → Bool), StopsAfter answers limit →
    limit ≤ (firstItems limit courses).length →
    ∀ {State : Type} (react : State → Item → M State) (state : State),
      sequence.run (answering answers react) (0, state) = (do
        let next ← act (preparing prepare react) (script limit courses) state
        leaving (script limit courses)
        pure (limit, next))
  -- A consumer that wants more than there is gets everything.
  finishes : ∀ (limit : Nat) (answers : Nat → Bool),
    (firstItems limit courses).length < limit →
    (∀ call < (firstItems limit courses).length, answers call = true) →
    ∀ {State : Type} (react : State → Item → M State) (state : State),
      sequence.run (answering answers react) (0, state) = (do
        let next ← act (preparing prepare react) (script limit courses) state
        pure ((firstItems limit courses).length, next))
  items : ∀ limit, handed (script limit courses) =
    (courses.flatMap (Course.items limit)).take limit
  -- No course is entered behind the one with the last item.
  later : ∀ (limit : Nat) (earlier behind : List (Course M Raw)), courses = earlier ++ behind →
    limit ≤ (firstItems limit earlier).length → script limit courses = script limit earlier

/-- The sequence of the items of another one, each after some preparation. -/
def prepared (prepare : Raw → M Item) (sequence : PushSequence M Raw) : PushSequence M Item where
  run consume state := sequence.run (preparing prepare consume) state

theorem prepared_run (prepare : Raw → M Item) (sequence : PushSequence M Raw) {State : Type}
    (consume : State → Item → M (State × Bool)) (state : State) :
    (prepared prepare sequence).run consume state =
      sequence.run (preparing prepare consume) state :=
  rfl

theorem prepared_concat_nil (prepare : Raw → M Item) :
    prepared prepare (concat []) = concat [] :=
  rfl

def converting {Key Value Converted : Type} (convert : Value → M Converted)
    (pair : Key × Value) : M (Key × Converted) := do
  let converted ← convert pair.2
  pure (pair.1, converted)

variable [LawfulMonad M]

theorem prepared_pure (sequence : PushSequence M Item) : prepared pure sequence = sequence := by
  refine eq_of_run fun consume state => ?_
  have same : preparing pure consume = consume := by
    funext state item
    simp [preparing]
  rw [prepared_run, same]

theorem mapValues_eq_prepared {Key Value Converted : Type} (convert : Value → M Converted)
    (sequence : PushSequence M (Key × Value)) :
    mapValues convert sequence = prepared (converting convert) sequence := by
  refine eq_of_run fun consume state => ?_
  have same : preparing (converting convert) consume = (fun state pair => do
      let converted ← convert pair.2
      consume state (pair.1, converted)) := by
    funext state pair
    simp [preparing, converting]
  rw [prepared_run, same]
  rfl

theorem Takes.makes {sequence : PushSequence M Item} {course : Course M Item}
    (takes : sequence.Takes course) (obedient : course.Obedient) : sequence.Makes [course] := by
  intro limit
  rw [script_singleton, firstItems_singleton]
  exact (takes (limit + 1)).exists_making obedient

theorem concat_makes {sequences : List (PushSequence M Item)} {courses : List (Course M Item)}
    (takes : List.Forall₂ Takes sequences courses)
    (obedient : ∀ course ∈ courses, course.Obedient) : (concat sequences).Makes courses := by
  intro limit
  have follows : List.Forall₂ (Follows (limit + 1)) sequences courses :=
    takes.imp fun _ _ takes => takes (limit + 1)
  obtain ⟨rest, same, ended⟩ := exists_concat_eq_making follows obedient (Nat.le_refl limit)
  refine ⟨rest, same, fun few => ended ?_⟩
  rw [firstItems, List.length_take] at few
  omega

section Makes

variable {sequence : PushSequence M Raw} {courses : List (Course M Raw)}

theorem Makes.run_prepared_of_le (makes : sequence.Makes courses) (prepare : Raw → M Item)
    {limit : Nat} {answers : Nat → Bool} (stops : StopsAfter answers limit)
    (enough : limit ≤ (firstItems limit courses).length) {State : Type}
    (react : State → Item → M State) (state : State) :
    (prepared prepare sequence).run (answering answers react) (0, state) = (do
      let next ← act (preparing prepare react) (script limit courses) state
      leaving (script limit courses)
      pure (limit, next)) := by
  obtain ⟨last, rfl, wanted, stop⟩ := stops
  obtain ⟨rest, same, _⟩ := makes (last + 1)
  obtain ⟨front, item, leave, split, length⟩ :=
    exists_upTo_eq_concat (le_length_firstItems_iff.mp enough)
  rw [← length] at wanted stop
  rw [script] at same ⊢
  rw [split] at same ⊢
  rw [same, prepared_run, preparing_answering, making_run, offer_answering_stop wanted stop,
    leaving_concat]
  simp [length]

theorem Makes.run_prepared_of_lt (makes : sequence.Makes courses) (prepare : Raw → M Item)
    {limit : Nat} {answers : Nat → Bool} (few : (firstItems limit courses).length < limit)
    (wanted : ∀ call < (firstItems limit courses).length, answers call = true) {State : Type}
    (react : State → Item → M State) (state : State) :
    (prepared prepare sequence).run (answering answers react) (0, state) = (do
      let next ← act (preparing prepare react) (script limit courses) state
      pure ((firstItems limit courses).length, next)) := by
  obtain ⟨rest, same, ended⟩ := makes limit
  rw [ended few] at same
  have all := offer_answering answers (preparing prepare react) (script limit courses) 0 state
    (by simpa [handed_script] using wanted)
  rw [same, prepared_run, preparing_answering, making_run, all]
  simp [handed_script, concat]

theorem Makes.delivers (makes : sequence.Makes courses) (prepare : Raw → M Item) :
    (prepared prepare sequence).Delivers courses prepare where
  offers limit := by
    obtain ⟨rest, same, ended⟩ := makes limit
    refine ⟨prepared prepare rest, fun consume state => ?_, fun few => ?_⟩
    · rw [same]
      rfl
    · rw [ended few, prepared_concat_nil]
  stops limit answers stops enough State react state :=
    makes.run_prepared_of_le prepare stops enough react state
  finishes limit answers few wanted State react state :=
    makes.run_prepared_of_lt prepare few wanted react state
  items limit := handed_script limit courses
  later limit earlier behind split enough := by
    rw [split]
    exact script_append enough behind

end Makes

end Deliveries

/-- Sequences, of single items or of pairs, that hand over nothing after a
refusal deliver the items of all of them when they are put one after the other.
A sequence of pairs whose values are converted delivers its pairs, each after
the conversion of its value. -/
theorem concat_mapValues_deliver (M : Type → Type) [Monad M] [LawfulMonad M] :
    (∀ {Item : Type} (sequences : List (PushSequence M Item)) (courses : List (Course M Item)),
      List.Forall₂ Takes sequences courses → (∀ course ∈ courses, course.Obedient) →
        (concat sequences).Delivers courses pure) ∧
    ∀ {Key Value Converted : Type} (convert : Value → M Converted)
      (sequence : PushSequence M (Key × Value)) (course : Course M (Key × Value)),
      sequence.Takes course → course.Obedient →
        (mapValues convert sequence).Delivers [course] (converting convert) := by
  constructor
  · intro Item sequences courses takes obedient
    have delivers := (concat_makes takes obedient).delivers pure
    rwa [prepared_pure] at delivers
  · intro Key Value Converted convert sequence course takes obedient
    rw [mapValues_eq_prepared]
    exact (takes.makes obedient).delivers (converting convert)

/-! ## Notes -/

/-- What is seen of sequences, consumers and conversions from outside. -/
inductive Note where
  | opened (name : String)
  | left (name : String)
  | received (key : String) (value : Nat)
  | converted (value : Nat)

def noting (note : Note) : Unbounded (List Note) Unit :=
  modify (· ++ [note])

/-- A course that is noted when it is entered and when it is left early. -/
def noted (name : String) (itemAt : Nat → Option Item) : Course (Unbounded (List Note)) Item :=
  fun answers =>
    if false ∈ answers then ⟨noting (.left name), none⟩
    else ⟨if answers = [] then noting (.opened name) else pure (), itemAt answers.length⟩

theorem noted_obedient (name : String) (itemAt : Nat → Option Item) :
    (noted name itemAt).Obedient := by
  intro answers refused
  simp [noted, refused]

/-- Two pairs, an endless sequence and a list are put one after the other.  A
consumer that stops with the second pair keeps the endless sequence from being
started, one that stops with the fourth keeps the list from it, and nothing is
converted behind the last pair. -/
theorem concat_mapValues_deliver_endless :
    let pairs := noted "pairs" fun place => [("a", 1), ("b", 2)][place]?
    let endless := noted "endless" fun place => some ("n", place)
    let sequences := [along pairs, along endless, ofList [("z", 9)]]
    let courses := [pairs, endless, Course.ofList [("z", 9)]]
    let receive := fun (_ : Unit) (pair : String × Nat) => noting (.received pair.1 pair.2)
    let double := fun value => do
      noting (.converted value)
      pure (2 * value)
    List.Forall₂ Takes sequences courses ∧ (∀ course ∈ courses, course.Obedient) ∧
      ((concat sequences).run (answering (fun call => call < 1) receive) (0, ())).run [] =
        pure ((2, ()), [.opened "pairs", .received "a" 1, .received "b" 2, .left "pairs"]) ∧
      ((concat sequences).run (answering (fun call => call < 3) receive) (0, ())).run [] =
        pure ((4, ()), [.opened "pairs", .received "a" 1, .received "b" 2, .opened "endless",
          .received "n" 0, .received "n" 1, .left "endless"]) ∧
      ((mapValues double (along endless)).run (answering (fun call => call < 1) receive)
          (0, ())).run [] =
        pure ((2, ()), [.opened "endless", .converted 0, .received "n" 0, .converted 1,
          .received "n" 2, .left "endless"]) := by
  intro pairs endless sequences courses receive double
  have takes : List.Forall₂ Takes sequences courses :=
    .cons (along_takes pairs) (.cons (along_takes endless) (.cons (ofList_takes _) .nil))
  have obedient : ∀ course ∈ courses, course.Obedient := by
    simp [courses, pairs, endless, noted_obedient, Course.ofList_obedient]
  have delivers := (concat_mapValues_deliver (Unbounded (List Note))).1 sequences courses takes
    obedient
  have converts := (concat_mapValues_deliver (Unbounded (List Note))).2 double (along endless)
    endless (along_takes endless) (noted_obedient _ _)
  have endlessMoves : script 2 [endless] =
      [.work (noting (.opened "endless")), .hand ("n", 0) (noting (.left "endless")),
        .work (pure ()), .hand ("n", 1) (noting (.left "endless"))] := rfl
  have twoMoves : script 2 courses =
      [.work (noting (.opened "pairs")), .hand ("a", 1) (noting (.left "pairs")),
        .work (pure ()), .hand ("b", 2) (noting (.left "pairs"))] := rfl
  have fourMoves : script 4 courses =
      script 2 courses ++ .work (pure ()) :: script 2 [endless] := rfl
  rw [twoMoves, endlessMoves] at fourMoves
  refine ⟨takes, obedient, ?_, ?_, ?_⟩
  · rw [delivers.stops 2 _ ⟨1, rfl, by decide, rfl⟩ (by decide), twoMoves]
    simp [act, leaving, preparing, noting, receive]
  · rw [delivers.stops 4 _ ⟨3, rfl, by decide, rfl⟩ (by decide), fourMoves]
    simp [act, leaving, preparing, noting, receive]
  · rw [converts.stops 2 _ ⟨1, rfl, by decide, rfl⟩ (by decide), endlessMoves]
    simp [act, leaving, preparing, converting, noting, receive, double]

end PushSequence

end AsmListing
