import AsmListing.Config.File
import AsmListing.Proofs.Config.Steps
import Mathlib.Data.List.Basic

/-!
# Reading options is all or nothing

A key of a configuration belongs to the option that it is alike, whatever the
case of its letters.  Each of the five options takes one key, and a key that is
left over is an error, so options are read only if no key is alike none of them
and no two keys are alike the same one.  Then every option holds the value that
its key has.  If anything is wrong, nothing of the configuration is taken over.
The environment changes options in the same way.
-/

namespace AsmListing

namespace Text

theorem sameFold_iff {left right : String} :
    sameFold left right = true ↔
      left.toList.map foldChar = right.toList.map foldChar := by
  simp [sameFold]

theorem sameFold_refl (text : String) : sameFold text text = true :=
  sameFold_iff.mpr rfl

end Text

namespace Options

/-! ## Keys and options -/

/-- No two options are alike. -/
theorem eq_of_alike {key first second : String} (known : first ∈ names) (other : second ∈ names)
    (alikeFirst : Text.sameFold key first = true) (alikeSecond : Text.sameFold key second = true) :
    first = second := by
  have apart : ∀ first ∈ names, ∀ second ∈ names,
      Text.sameFold first second = true → first = second := by decide
  apply apart first known second other
  rw [Text.sameFold_iff] at alikeFirst alikeSecond ⊢
  exact alikeFirst.symm.trans alikeSecond

section Keys

variable {table : Config} {name key : String}

theorem alike_of_keyOf? (found : keyOf? table name = some key) :
    key ∈ table.map Prod.fst ∧ Text.sameFold key name = true := by
  unfold keyOf? at found
  dsimp only at found
  split at found
  · rename_i exact
    rw [← Option.some.inj found]
    exact ⟨by simpa using exact, Text.sameFold_refl name⟩
  · have alike := List.find?_some found
    exact ⟨List.mem_of_find?_eq_some found, by simpa using alike⟩

theorem keyOf?_eq_none_iff :
    keyOf? table name = none ↔ ∀ key ∈ table.map Prod.fst, Text.sameFold key name ≠ true := by
  constructor
  · intro missing key listed
    unfold keyOf? at missing
    dsimp only at missing
    split at missing
    · contradiction
    · exact List.find?_eq_none.mp missing key listed
  · intro foreign
    cases found : keyOf? table name with
    | none => rfl
    | some key =>
        have alike := alike_of_keyOf? found
        exact absurd alike.2 (foreign key alike.1)

/-- A key is used exactly if an option chooses it. -/
theorem unusedKeys_eq_nil_iff :
    unusedKeys table = [] ↔
      ∀ key ∈ table.map Prod.fst, ∃ name ∈ names, keyOf? table name = some key := by
  simp [unusedKeys, List.filter_eq_nil_iff]

/-- Without unused keys, an option chooses every key that is alike it. -/
theorem keyOf?_of_alike (used : unusedKeys table = []) (known : name ∈ names)
    (listed : key ∈ table.map Prod.fst) (alike : Text.sameFold key name = true) :
    keyOf? table name = some key := by
  obtain ⟨other, otherKnown, chosen⟩ := unusedKeys_eq_nil_iff.mp used key listed
  have same := eq_of_alike known otherKnown alike (alike_of_keyOf? chosen).2
  rwa [same]

end Keys

/-- Every key of a table is alike one of the options, and no two keys are alike
the same one. -/
structure Matched (table : Config) : Prop where
  known : ∀ key ∈ table.map Prod.fst, ∃ name ∈ names, Text.sameFold key name = true
  single : ∀ name ∈ names, ∀ first ∈ table.map Prod.fst, ∀ second ∈ table.map Prod.fst,
    Text.sameFold first name = true → Text.sameFold second name = true → first = second

theorem unusedKeys_eq_nil_iff_matched {table : Config} :
    unusedKeys table = [] ↔ Matched table := by
  constructor
  · intro used
    refine ⟨fun key listed => ?_, fun name known first listed second alsoListed alike both => ?_⟩
    · obtain ⟨name, known, chosen⟩ := unusedKeys_eq_nil_iff.mp used key listed
      exact ⟨name, known, (alike_of_keyOf? chosen).2⟩
    · have chosen := keyOf?_of_alike used known listed alike
      rw [keyOf?_of_alike used known alsoListed both] at chosen
      exact (Option.some.inj chosen).symm
  · intro matched
    rw [unusedKeys_eq_nil_iff]
    intro key listed
    obtain ⟨name, known, alike⟩ := matched.known key listed
    refine ⟨name, known, ?_⟩
    cases found : keyOf? table name with
    | none => exact absurd alike (keyOf?_eq_none_iff.mp found key listed)
    | some chosen =>
        have also := alike_of_keyOf? found
        rw [matched.single name known chosen also.1 key listed also.2 alike]

/-! ## Values of options -/

/-- A key that is alike an option has the value. -/
def Sets (table : Config) (name : String) (value : Datum) : Prop :=
  ∃ key, Text.sameFold key name = true ∧ table.lookup key = some value

/-- An option is not mentioned, or it is set to nothing. -/
def Silent (table : Config) (name : String) : Prop :=
  ∀ value, Sets table name value → value = .null ∨ value = .noRegister

section Values

variable {table : Config} {name : String} {value : Datum}

theorem mem_of_lookup {key : String} (found : table.lookup key = some value) :
    key ∈ table.map Prod.fst := by
  obtain ⟨front, rest, split, _⟩ := List.lookup_eq_some_iff.mp found
  simp [split]

/-- The value of an option is one that a key sets, or nothing sets it. -/
theorem sets_valueOf_or (table : Config) (name : String) :
    Sets table name (valueOf table name) ∨ valueOf table name = .null := by
  unfold valueOf
  cases found : keyOf? table name with
  | none => exact .inr rfl
  | some key =>
      obtain ⟨listed, alike⟩ := alike_of_keyOf? found
      have present : (table.lookup key).isSome = true := by
        rw [List.lookup_isSome_iff]
        obtain ⟨entry, member, same⟩ := List.mem_map.mp listed
        exact ⟨entry, member, by simp [same]⟩
      obtain ⟨value, held⟩ := Option.isSome_iff_exists.mp present
      refine .inl ⟨key, alike, ?_⟩
      rw [Option.bind_some, held, Option.getD_some]

theorem valueOf_of_sets (used : unusedKeys table = []) (known : name ∈ names)
    (sets : Sets table name value) : valueOf table name = value := by
  obtain ⟨key, alike, held⟩ := sets
  rw [valueOf, keyOf?_of_alike used known (mem_of_lookup held) alike, Option.bind_some, held,
    Option.getD_some]

theorem Silent.valueOf (silent : Silent table name) :
    Options.valueOf table name = .null ∨ Options.valueOf table name = .noRegister := by
  rcases sets_valueOf_or table name with sets | nothing
  · exact silent _ sets
  · exact .inl nothing

theorem Silent.toText (silent : Silent table name) :
    Options.toText name (Options.valueOf table name) = .ok none := by
  rcases silent.valueOf with nothing | nothing <;> rw [nothing] <;> rfl

theorem Silent.toBool (silent : Silent table name) :
    Options.toBool name (Options.valueOf table name) = .ok none := by
  rcases silent.valueOf with nothing | nothing <;> rw [nothing] <;> rfl

/-- A value that is not nothing is set. -/
theorem sets_valueOf (something : valueOf table name ≠ .null) :
    Sets table name (valueOf table name) :=
  (sets_valueOf_or table name).resolve_right something

/-- A conversion that lets nothing pass refuses only a value that is set. -/
theorem exists_ok_or_sets {Result : Type} (convert : Datum → Except String Result)
    {nothing : Result} (passes : convert .null = .ok nothing) (table : Config) (name : String) :
    (∃ result, convert (valueOf table name) = .ok result) ∨
      ∃ value problem, Sets table name value ∧ convert value = .error problem := by
  cases converted : convert (valueOf table name) with
  | ok result => exact .inl ⟨result, rfl⟩
  | error problem =>
      refine .inr ⟨_, problem, sets_valueOf ?_, converted⟩
      intro null
      rw [null, passes] at converted
      contradiction

end Values

/-! ## Tables that are read -/

/-- All values of a table are converted, and all keys are used. -/
structure Converted (table : Config) (mode? indent? output? : Option String)
    (comments? verbose? : Option Bool) : Prop where
  mode : toText "mode" (valueOf table "mode") = .ok mode?
  indent : toText "indent" (valueOf table "indent") = .ok indent?
  output : toText "output" (valueOf table "output") = .ok output?
  comments : toBool "comments" (valueOf table "comments") = .ok comments?
  verbose : toBool "verbose" (valueOf table "verbose") = .ok verbose?
  used : unusedKeys table = []

theorem Reading.ofTable_of_converted {table : Config} {mode? indent? output? : Option String}
    {comments? verbose? : Option Bool}
    (converted : Converted table mode? indent? output? comments? verbose?) :
    Reading.ofTable table = .ok ⟨mode?.getD "", indent?.getD "", comments?, output?.getD "",
      verbose?.getD false⟩ := by
  simp [Reading.ofTable, converted.mode, converted.indent, converted.output, converted.comments,
    converted.verbose, converted.used, problemOf, resultOf, unusedProblem]

/-- A text for the mode that is missing counts as one that is empty. -/
theorem Reading.mode?_getD (text? : Option String) (indent : String) (comments? : Option Bool)
    (output : String) (verbose : Bool) :
    Reading.mode? ⟨text?.getD "", indent, comments?, output, verbose⟩ =
      text?.filter fun text => !text.isEmpty := by
  cases text? with
  | none => rfl
  | some text => by_cases empty : text.isEmpty = true <;> simp [Reading.mode?, Option.filter, empty]

/-- What is wrong with a table: a key that is alike no option, two keys that are
alike one option, a value that cannot be converted, or a text that is no mode. -/
inductive Flawed (table : Config) : Prop where
  | unknown (key : String) (listed : key ∈ table.map Prod.fst)
      (foreign : ∀ name ∈ names, Text.sameFold key name ≠ true)
  | rivals (name : String) (known : name ∈ names) (first second : String)
      (listed : first ∈ table.map Prod.fst ∧ second ∈ table.map Prod.fst)
      (alike : Text.sameFold first name = true ∧ Text.sameFold second name = true)
      (different : first ≠ second)
  | text (name : String) (known : name ∈ ["mode", "indent", "output"]) (value : Datum)
      (sets : Sets table name value) (problem : String)
      (refused : toText name value = .error problem)
  | truth (name : String) (known : name ∈ ["comments", "verbose"]) (value : Datum)
      (sets : Sets table name value) (problem : String)
      (refused : toBool name value = .error problem)
  | mode (value : Datum) (text : String) (sets : Sets table "mode" value)
      (written : toText "mode" value = .ok (some text)) (meant : text ≠ "")
      (unsupported : Mode.ofText? text = none)

section Tables

variable {table : Config} {options : Options}

theorem flawed_of_not_matched (unmatched : ¬ Matched table) : Flawed table := by
  by_contra sound
  apply unmatched
  constructor
  · intro key listed
    by_contra foreign
    simp only [not_exists, not_and] at foreign
    exact sound (.unknown key listed foreign)
  · intro name known first listed second alsoListed alike both
    by_contra different
    exact sound (.rivals name known first second ⟨listed, alsoListed⟩ ⟨alike, both⟩ different)

/-- A table without a flaw is converted. -/
theorem exists_converted (sound : ¬ Flawed table) :
    ∃ mode? indent? output? comments? verbose?,
      Converted table mode? indent? output? comments? verbose? := by
  have texts : ∀ name ∈ ["mode", "indent", "output"],
      ∃ text?, toText name (valueOf table name) = .ok text? := by
    intro name known
    rcases exists_ok_or_sets (toText name) rfl table name with
      converted | ⟨value, problem, sets, refused⟩
    · exact converted
    · exact absurd (.text name known value sets problem refused) sound
  have truths : ∀ name ∈ ["comments", "verbose"],
      ∃ truth?, toBool name (valueOf table name) = .ok truth? := by
    intro name known
    rcases exists_ok_or_sets (toBool name) rfl table name with
      converted | ⟨value, problem, sets, refused⟩
    · exact converted
    · exact absurd (.truth name known value sets problem refused) sound
  have matched : Matched table := by
    by_contra unmatched
    exact sound (flawed_of_not_matched unmatched)
  obtain ⟨mode?, mode⟩ := texts "mode" (by simp)
  obtain ⟨indent?, indent⟩ := texts "indent" (by simp)
  obtain ⟨output?, output⟩ := texts "output" (by simp)
  obtain ⟨comments?, comments⟩ := truths "comments" (by simp)
  obtain ⟨verbose?, verbose⟩ := truths "verbose" (by simp)
  exact ⟨mode?, indent?, output?, comments?, verbose?, mode, indent, output, comments, verbose,
    unusedKeys_eq_nil_iff_matched.mpr matched⟩

theorem problemOf_eq_nil_iff {Result : Type} {result : Except String Result} :
    problemOf result = [] ↔ ∃ value, result = .ok value := by
  cases result <;> simp [problemOf]

theorem unusedProblem_eq_nil_iff {keys : List String} : unusedProblem keys = [] ↔ keys = [] := by
  simp [unusedProblem]

/-- A table with a reading is converted. -/
theorem Reading.exists_converted {reading : Reading} (read : Reading.ofTable table = .ok reading) :
    ∃ mode? indent? output? comments? verbose?,
      Converted table mode? indent? output? comments? verbose? := by
  simp only [Reading.ofTable] at read
  split at read
  · rename_i clean
    simp only [List.isEmpty_iff, List.append_eq_nil_iff, problemOf_eq_nil_iff,
      unusedProblem_eq_nil_iff] at clean
    obtain ⟨⟨⟨⟨⟨⟨mode?, mode⟩, indent?, indent⟩, comments?, comments⟩, output?, output⟩,
      verbose?, verbose⟩, used⟩ := clean
    exact ⟨mode?, indent?, output?, comments?, verbose?,
      mode, indent, output, comments, verbose, used⟩
  · contradiction

/-- The mode that a converted table names. -/
def modeIn (text? : Option String) : Option Mode :=
  Mode.after? (text?.filter fun text => !text.isEmpty) default.mode

/-- The options in a converted table. -/
theorem ofTable_eq_ok_iff_of_converted {mode? indent? output? : Option String}
    {comments? verbose? : Option Bool}
    (converted : Converted table mode? indent? output? comments? verbose?) :
    ofTable table = .ok options ↔ ∃ mode, modeIn mode? = some mode ∧
      options = ⟨mode, indent?.getD "", comments?.getD default.comments, output?.getD "",
        verbose?.getD false⟩ := by
  rw [ofTable_eq_ok_iff, Reading.ofTable_of_converted converted]
  simp only [Except.ok.injEq, exists_and_left, exists_eq_left', Reading.mode?_getD, modeIn,
    Reading.upon]

theorem modeIn_eq_none_iff {text? : Option String} :
    modeIn text? = none ↔ ∃ text, text? = some text ∧ text ≠ "" ∧ Mode.ofText? text = none := by
  unfold modeIn
  rw [Mode.after?_eq_none_iff]
  cases text? with
  | none => simp
  | some text => by_cases empty : text = "" <;> simp [Option.filter, empty]

theorem modeIn_mem {text? : Option String} {mode : Mode} (named : modeIn text? = some mode) :
    mode ∈ Mode.all :=
  Mode.mem_all_of_after? (by decide) named

theorem Converted.not_flawed {mode? indent? output? : Option String}
    {comments? verbose? : Option Bool}
    (converted : Converted table mode? indent? output? comments? verbose?)
    {mode : Mode} (named : modeIn mode? = some mode) : ¬ Flawed table := by
  have matched := unusedKeys_eq_nil_iff_matched.mp converted.used
  rintro (⟨key, listed, foreign⟩ | ⟨name, known, first, second, listed, alike, different⟩ |
    ⟨name, known, value, sets, problem, refused⟩ |
    ⟨name, known, value, sets, problem, refused⟩ |
    ⟨value, text, sets, written, meant, unsupported⟩)
  · obtain ⟨name, known, alike⟩ := matched.known key listed
    exact foreign name known alike
  · exact different
      (matched.single name known first listed.1 second listed.2 alike.1 alike.2)
  · have option : ["mode", "indent", "output"] ⊆ names := by decide
    rw [← valueOf_of_sets converted.used (option known) sets] at refused
    simp only [List.mem_cons, List.not_mem_nil, or_false] at known
    rcases known with rfl | rfl | rfl
    · simp [converted.mode] at refused
    · simp [converted.indent] at refused
    · simp [converted.output] at refused
  · have option : ["comments", "verbose"] ⊆ names := by decide
    rw [← valueOf_of_sets converted.used (option known) sets] at refused
    simp only [List.mem_cons, List.not_mem_nil, or_false] at known
    rcases known with rfl | rfl
    · simp [converted.comments] at refused
    · simp [converted.verbose] at refused
  · rw [← valueOf_of_sets converted.used (by decide) sets, converted.mode,
      Except.ok.injEq] at written
    rw [modeIn_eq_none_iff.mpr ⟨text, written, meant, unsupported⟩] at named
    contradiction

/-- A table is read exactly if it has no flaw. -/
theorem exists_ofTable_iff : (∃ options, ofTable table = .ok options) ↔ ¬ Flawed table := by
  constructor
  · rintro ⟨options, read⟩
    obtain ⟨reading, mode, converts, _⟩ := ofTable_eq_ok_iff.mp read
    obtain ⟨mode?, indent?, output?, comments?, verbose?, converted⟩ :=
      Reading.exists_converted converts
    obtain ⟨mode, named, _⟩ := (ofTable_eq_ok_iff_of_converted converted).mp read
    exact converted.not_flawed named
  · intro sound
    obtain ⟨mode?, indent?, output?, comments?, verbose?, converted⟩ := exists_converted sound
    cases named : modeIn mode? with
    | some mode =>
        exact ⟨_, (ofTable_eq_ok_iff_of_converted converted).mpr ⟨mode, named, rfl⟩⟩
    | none =>
        obtain ⟨text, rfl, meant, unsupported⟩ := modeIn_eq_none_iff.mp named
        have something : valueOf table "mode" ≠ .null := by
          intro nothing
          have silent := converted.mode
          simp [nothing, toText] at silent
        exact absurd (.mode _ text (sets_valueOf something) converted.mode meant unsupported)
          sound

/-! ## What options hold -/

/-- Any value that a table has for an option is nothing, or it is converted to
a result of which something holds. -/
def Heeds {Result : Type} (table : Config) (name : String)
    (convert : String → Datum → Except String (Option Result)) (holds : Result → Prop) : Prop :=
  ∀ value, Sets table name value →
    (value = .null ∨ value = .noRegister) ∨
      ∃ result, convert name value = .ok (some result) ∧ holds result

/-- The options that a table is read to.  No key of the table is left out.  An
option that the table is silent about has its default, and any other one holds
the value that it is set to, as converted.  The mode is supported. -/
structure Faithful (table : Config) (options : Options) : Prop extends Matched table where
  mode : Silent table "mode" → options.mode = default.mode
  indent : Silent table "indent" → options.indent = default.indent
  comments : Silent table "comments" → options.comments = default.comments
  output : Silent table "output" → options.output = default.output
  verbose : Silent table "verbose" → options.verbose = default.verbose
  heedsMode : Heeds table "mode" toText fun text =>
    if text = "" then options.mode = default.mode else Mode.ofText? text = some options.mode
  heedsIndent : Heeds table "indent" toText fun text => options.indent = text
  heedsComments : Heeds table "comments" toBool fun truth => options.comments = truth
  heedsOutput : Heeds table "output" toText fun text => options.output = text
  heedsVerbose : Heeds table "verbose" toBool fun truth => options.verbose = truth
  supported : options.mode ∈ Mode.all

theorem toText_eq_none_iff {name : String} {value : Datum} :
    toText name value = .ok none ↔ value = .null ∨ value = .noRegister := by
  cases value with
  | integer type number => cases type <;> simp [toText]
  | _ => simp [toText]

theorem toBool_eq_none_iff {name : String} {value : Datum} :
    toBool name value = .ok none ↔ value = .null ∨ value = .noRegister := by
  cases value with
  | integer type number => cases type <;> simp [toBool]
  | text text =>
      simp only [toBool]
      split
      · simp
      · split <;> simp
  | _ => simp [toBool]

/-- An option that takes over what its value is converted to heeds the table. -/
theorem heeds_of_converted {Result : Type} {name : String}
    {convert : String → Datum → Except String (Option Result)}
    (nothing : ∀ value, convert name value = .ok none → value = .null ∨ value = .noRegister)
    (used : unusedKeys table = []) (known : name ∈ names) {result? : Option Result}
    (converted : convert name (valueOf table name) = .ok result?) {holds : Result → Prop}
    (held : ∀ result, result? = some result → holds result) :
    Heeds table name convert holds := by
  intro value sets
  rw [valueOf_of_sets used known sets] at converted
  cases result? with
  | none => exact .inl (nothing value converted)
  | some result => exact .inr ⟨result, converted, held result rfl⟩

theorem faithful_of_ofTable (read : ofTable table = .ok options) : Faithful table options := by
  obtain ⟨reading, _, converts, _⟩ := ofTable_eq_ok_iff.mp read
  obtain ⟨mode?, indent?, output?, comments?, verbose?, converted⟩ :=
    Reading.exists_converted converts
  obtain ⟨mode, named, rfl⟩ := (ofTable_eq_ok_iff_of_converted converted).mp read
  have texts := fun name => fun value => (@toText_eq_none_iff name value).mp
  have truths := fun name => fun value => (@toBool_eq_none_iff name value).mp
  refine
    { toMatched := unusedKeys_eq_nil_iff_matched.mp converted.used
      mode := fun silent => ?_
      indent := fun silent => ?_
      comments := fun silent => ?_
      output := fun silent => ?_
      verbose := fun silent => ?_
      heedsMode := heeds_of_converted (texts _) converted.used (by decide) converted.mode ?_
      heedsIndent := heeds_of_converted (texts _) converted.used (by decide) converted.indent ?_
      heedsComments :=
        heeds_of_converted (truths _) converted.used (by decide) converted.comments ?_
      heedsOutput := heeds_of_converted (texts _) converted.used (by decide) converted.output ?_
      heedsVerbose :=
        heeds_of_converted (truths _) converted.used (by decide) converted.verbose ?_
      supported := modeIn_mem named }
  · have nothing := converted.mode.symm.trans silent.toText
    rw [Except.ok.inj nothing] at named
    exact (Option.some.inj named).symm
  · have nothing := converted.indent.symm.trans silent.toText
    rw [Except.ok.inj nothing]
    rfl
  · have nothing := converted.comments.symm.trans silent.toBool
    rw [Except.ok.inj nothing]
    rfl
  · have nothing := converted.output.symm.trans silent.toText
    rw [Except.ok.inj nothing]
    rfl
  · have nothing := converted.verbose.symm.trans silent.toBool
    rw [Except.ok.inj nothing]
    rfl
  · rintro text rfl
    by_cases empty : text = ""
    · have standard : default.mode = mode := by
        simpa [modeIn, Mode.after?, Option.filter, empty] using named
      rw [if_pos empty, standard]
    · rw [if_neg empty]
      simpa [modeIn, Mode.after?, Option.filter, empty] using named
  · rintro text rfl
    rfl
  · rintro truth rfl
    rfl
  · rintro text rfl
    rfl
  · rintro truth rfl
    rfl

end Tables

end Options

/-! ## All or nothing -/

/-- Options are read from a table exactly if it has no flaw, and then faithfully.
Otherwise they are the default ones.  An environment that names a mode that does
not exist leaves options as they are, and any other one is heeded. -/
theorem Options.decode_all_or_nothing (table : Config) :
    ((∃ failure, (decode table).2 = some failure) ↔ Flawed table) ∧
    ((decode table).2 = none → Faithful table (decode table).1) ∧
    (∀ failure, (decode table).2 = some failure → (decode table).1 = default) ∧
    ∀ (environment : Environment) (options : Options),
      ((∃ failure, (environment.apply options).2 = some failure) ↔
        ∃ text, environment.get? Environment.modeName = some text ∧ Mode.ofText? text = none) ∧
      ((environment.apply options).2 = none →
        environment.Heeded options (environment.apply options).1) ∧
      ∀ failure, (environment.apply options).2 = some failure →
        (environment.apply options).1 = options := by
  refine ⟨?_, ?_, ?_, fun environment options => ⟨?_, ?_, ?_⟩⟩
  · simp only [decode_snd_eq_some_iff]
    rw [← not_iff_not, ← exists_ofTable_iff]
    cases ofTable table <;> simp
  · intro complete
    exact faithful_of_ofTable (decode_eq_none_iff.mp (Prod.ext rfl complete))
  · intro failure failed
    exact (read_atomic table).outcome_fst failed
  · simp only [Environment.apply, Attempt.outcome_snd_eq_some_iff,
      Environment.settle_eq_error_iff, exists_and_left, exists_eq, and_true,
      Mode.after?_eq_none_iff]
  · intro complete
    exact Environment.settle_eq_ok_iff.mp
      (Attempt.outcome_eq_none_iff.mp (Prod.ext rfl complete))
  · intro failure failed
    exact environment.override_atomic.outcome_fst failed

-- A key in other letters counts, but not beside the exact one.
example :
    Options.decode [("Mode", .integer .int 16), ("verboſe", .null)] =
      ({ Options.default with mode := .bits16 }, none) ∧
    Options.decode [("Mode", .integer .int 16), ("mode", .text "32")] =
      (Options.default, some (.table ["'' has invalid keys: Mode"])) := by
  decide +kernel

end AsmListing
