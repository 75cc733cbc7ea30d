import AsmListing.Command.Line
import AsmListing.Proofs.Command.Delivery
import AsmListing.Proofs.Command.Precedence
import AsmListing.Proofs.Program.Comments

/-!
# Which comments a listing has

A flag switches the comments of a listing off.  Without it the environment
decides, then the configuration file, and then the default, which is on.  The
flag can also be given as false, but that is the same as not giving it.  A
listing with comments has those of the instructions that a script left enabled,
and a listing without comments has none.
-/

namespace AsmListing

/-! ## Comments of a listing -/

namespace Program

/-- A text lists a program line by line, with the comments of the instructions
that show one.  It ends with a line end unless it is empty. -/
def Lists (program : Program) (shows : Mnemonic → Bool) (text : String) : Prop :=
  ∃ plain : List String, plain.length = program.size ∧
    (program.setComments false).lines = plain.map .ok ∧
    let listing := "\n".intercalate (List.zipWith (fun line mnemonic =>
      if shows mnemonic then line ++ ("  ; " ++ mnemonic.ownComment) else line)
        plain program.mnemonics)
    text = if listing = "" then "" else listing ++ "\n"

end Program

namespace Command

namespace Build

section Listed

variable (options : Options) (program : Program)

theorem listed_setComments_false :
    (listed options program).setComments false = program.setComments false := by
  unfold listed
  split
  · rfl
  · exact program.setComments_setComments false false

theorem listed_mnemonics :
    (listed options program).mnemonics = program.mnemonics.map fun mnemonic =>
      mnemonic.switched (options.comments && mnemonic.commentEnabled) := by
  unfold listed
  cases options.comments with
  | true =>
      have same : ∀ mnemonic : Mnemonic, mnemonic.switched mnemonic.commentEnabled = mnemonic :=
        fun _ => rfl
      simp [same]
  | false =>
      rw [if_neg Bool.false_ne_true, Program.mnemonics_setComments]
      rfl

/-- The lines of the listed program are those without comments, each with its
comment behind if it shows one. -/
theorem listed_lines :
    (listed options program).lines =
      List.zipWith (fun line mnemonic => line.map fun text =>
          if options.comments && mnemonic.commentEnabled
          then text ++ ("  ; " ++ mnemonic.ownComment) else text)
        (program.setComments false).lines program.mnemonics := by
  rw [Program.lines_eq_zipWith, listed_setComments_false, listed_mnemonics,
    List.zipWith_map_right]
  refine congrArg (List.zipWith · _ _) (funext fun line => funext fun mnemonic => ?_)
  have own : (mnemonic.switched (options.comments && mnemonic.commentEnabled)).trail =
      if options.comments && mnemonic.commentEnabled then "  ; " ++ mnemonic.ownComment else "" :=
    rfl
  rw [own]
  cases line with
  | error failure => rfl
  | ok text =>
      simp only [Except.map]
      split <;> simp

variable {options program}

theorem lists_of_output {text : String} (output : (listed options program).output = .ok text) :
    program.Lists (fun mnemonic => options.comments && mnemonic.commentEnabled) text := by
  rw [Program.output_eq_map] at output
  obtain ⟨listing, listable, rfl⟩ := exists_ok_of_map output
  obtain ⟨texts, written⟩ := Program.exists_written_of_listing listable
  -- Comments do not decide whether a program can be listed.
  have writable := (Program.exists_listing_iff _).mp ⟨listing, listable⟩
  obtain ⟨_, quiet⟩ := Program.exists_listing_setComments writable false
  rw [listed_setComments_false] at quiet
  obtain ⟨plain, without⟩ := Program.exists_written_of_listing quiet
  have shown : texts = List.zipWith (fun line mnemonic =>
      if options.comments && mnemonic.commentEnabled
      then line ++ ("  ; " ++ mnemonic.ownComment) else line) plain program.mnemonics := by
    have lines := written.lines
    rw [listed_lines, without.lines, List.zipWith_map_left] at lines
    apply List.map_injective_iff.mpr fun _ _ => Except.ok.inj
    rw [← lines, List.map_zipWith]
    rfl
  have listed : listing = "\n".intercalate texts :=
    Except.ok.inj (listable.symm.trans written.listing)
  refine ⟨plain, by rw [without.length, Program.setComments_size], without.lines, ?_⟩
  simp only [listed, shown, String.isEmpty_iff]
  split
  · assumption
  · rfl

end Listed

/-! ## What decides about comments -/

/-- What is said about comments behind the flags: by the environment, or else by
the configuration file, or else by the default. -/
def Choices.commentsBehind (choices : Choices) (tree : FileTree) (environment : Environment) :
    Bool :=
  (((environment.get? Environment.commentsName).map Environment.affirms).or
    (Options.resultOf (Options.toBool "comments"
      (Options.valueOf (choices.table tree) "comments")))).getD Options.default.comments

section Resolved

variable {choices : Choices} {tree : FileTree} {environment : Environment} {options : Options}

theorem exists_ofTable_of_loadedFrom {name : String} {read : Except PathError (List UInt8)}
    (loaded : loadedFrom name read = .ok options) :
    ∃ table, Config.ofFile name (.ofFilename name) read = .ok table ∧
      Options.ofTable table = .ok options := by
  unfold loadedFrom Config.load at loaded
  cases found : Config.ofFile name (.ofFilename name) read with
  | error failure => simp [found] at loaded
  | ok table =>
      refine ⟨table, rfl, ?_⟩
      rcases decoded : Options.decode table with ⟨other, failure?⟩
      cases failure? with
      | some failure => simp [found, decoded] at loaded
      | none =>
          have same : other = options := by simpa [found, decoded] using loaded
          exact same ▸ Options.decode_eq_none_iff.mp decoded

theorem exists_override_of_resolve {loaded : Options}
    (resolved : resolve (.ok loaded) environment choices = .ok options) :
    ∃ overridden, environment.override.settle loaded = .ok overridden ∧
      choices.override.settle overridden = .ok options := by
  unfold resolve at resolved
  dsimp only at resolved
  cases between : environment.override.settle loaded with
  | error failure => simp [between] at resolved
  | ok overridden =>
      refine ⟨overridden, rfl, ?_⟩
      cases final : choices.override.settle overridden with
      | error failure => simp [between, final] at resolved
      | ok other => simpa [between, final] using resolved

/-- Resolved options come from a configuration, by way of the environment and of
the flags. -/
theorem exists_loaded (resolved : choices.resolved tree environment = .ok options) :
    ∃ loaded overridden, Options.ofTable (choices.table tree) = .ok loaded ∧
      environment.override.settle loaded = .ok overridden ∧
      choices.override.settle overridden = .ok options := by
  unfold Choices.resolved at resolved
  unfold Choices.table
  by_cases absent : choices.config.isEmpty = true
  · rw [if_pos absent] at resolved ⊢
    obtain ⟨overridden, first, second⟩ := exists_override_of_resolve resolved
    exact ⟨.default, overridden, ofTable_nil, first, second⟩
  · rw [if_neg absent] at resolved ⊢
    cases loading : loadedFrom choices.config (tree.read choices.config) with
    | error failure =>
        rw [loading] at resolved
        contradiction
    | ok loaded =>
        rw [loading] at resolved
        obtain ⟨table, found, read⟩ := exists_ofTable_of_loadedFrom loading
        obtain ⟨overridden, first, second⟩ := exists_override_of_resolve resolved
        refine ⟨loaded, overridden, ?_, first, second⟩
        rw [found]
        exact read

theorem ofTable_comments {table : Config} (read : Options.ofTable table = .ok options) :
    options.comments =
      (Options.resultOf (Options.toBool "comments" (Options.valueOf table "comments"))).getD
        Options.default.comments := by
  obtain ⟨reading, _, converts, _⟩ := Options.ofTable_eq_ok_iff.mp read
  obtain ⟨mode?, indent?, output?, comments?, verbose?, converted⟩ :=
    Options.Reading.exists_converted converts
  obtain ⟨mode, _, rfl⟩ := (Options.ofTable_eq_ok_iff_of_converted converted).mp read
  rw [converted.comments, Options.resultOf]

theorem override_comments {before : Options}
    (settled : choices.override.settle before = .ok options) :
    options.comments = if choices.noComments then false else before.comments := by
  rw [Attempt.settle_eq_ok_iff, choices.override_run] at settled
  cases named : Mode.after? choices.mode? before.mode with
  | none => simp [named] at settled
  | some mode =>
      rw [named, Option.elim_some] at settled
      rw [← (EStateM.Result.ok.inj settled).2]
      rfl

/-- Only a flag that is true is heard. -/
theorem resolved_comments (resolved : choices.resolved tree environment = .ok options) :
    options.comments = (!choices.noComments && choices.commentsBehind tree environment) := by
  obtain ⟨loaded, overridden, read, first, second⟩ := exists_loaded resolved
  have flagged := override_comments second
  have heeded := (Environment.settle_eq_ok_iff.mp first).comments
  rw [flagged, heeded, ofTable_comments read]
  unfold Choices.commentsBehind
  cases choices.noComments with
  | true => rfl
  | false => cases environment.get? Environment.commentsName <;> rfl

end Resolved

/-! ## Successful builds -/

/-- A build that succeeds has options, has read and run its script, and has
delivered the listing of the program with the comments that the options
leave. -/
structure Succeeds (filename : String) (options : Options) (tree : FileTree)
    (result : Result) (bytes : List UInt8) (text : String) : Prop where
  read : tree.read filename = .ok bytes
  complete : (executed filename options bytes).error? = none
  lists : (executed filename options bytes).program.Lists
    (fun mnemonic => options.comments && mnemonic.commentEnabled) text
  delivered : result.Delivered tree options.output text

theorem exists_succeeds {filename : String} {options : Options} {tree : FileTree}
    (success : ((ofScript filename options).run tree).failure? = none) :
    ∃ bytes text, Succeeds filename options tree ((ofScript filename options).run tree)
      bytes text := by
  by_cases missing : (emptyProgram filename options).registers = none
  · rw [ofScript_of_missing missing] at success
    contradiction
  cases read : tree.read filename with
  | error failure =>
      rw [ofScript_run_of_unread missing read] at success
      contradiction
  | ok bytes =>
      cases ended : (executed filename options bytes).error? with
      | some failure =>
          rw [ofScript_run_of_error read ended] at success
          contradiction
      | none =>
          rw [ofScript_run_of_complete read ended] at success ⊢
          cases output : (listed options (executed filename options bytes).program).output with
          | error failure =>
              rw [conclude_of_output_error output] at success
              contradiction
          | ok text =>
              rw [conclude_of_output output]
              refine ⟨bytes, text, read, ended, lists_of_output output, ?_⟩
              exact ((deliver_delivered options text tree).logged _).logged _

end Build

theorem Verb.exists_filename {environment : Environment} {words : Words} {tree : FileTree}
    (success : ((Verb.build.task environment words).run tree).failure? = none) :
    ∃ filename, words.arguments = [filename] := by
  dsimp only [Verb.task] at success
  split at success
  · exact ⟨_, by assumption⟩
  · contradiction

/-- A build that succeeds lists the comments that the script left enabled if the
comments are on, and none if they are off.  A flag that is true switches them
off.  A flag that is false is passed over like one that is not given, so it
decides about comments as it should unless they are off without it. -/
theorem build_comments_iff (environment : Environment) (words : Words) (tree : FileTree)
    (success : ((Verb.build.task environment words).run tree).failure? = none) :
    let choices := Build.Choices.ofWords words
    let given? := words.switch? "no-comments"
    let behind := choices.commentsBehind tree environment
    ∃ filename options bytes text, words.arguments = [filename] ∧
      choices.resolved tree environment = .ok options ∧
      Build.Succeeds filename options tree ((Verb.build.task environment words).run tree)
        bytes text ∧
      options.comments = (given? != some true && behind) ∧
      (options.comments = (given?.map (!·)).getD behind ↔
        ¬ (given? = some false ∧ behind = false)) := by
  intro choices given? behind
  obtain ⟨filename, argument⟩ := Verb.exists_filename success
  have task : Verb.build.task environment words = Build.task filename environment choices := by
    simp only [Verb.task, argument]
    rfl
  have run := Build.task_run filename environment choices tree
  rw [task] at success ⊢
  cases resolved : choices.resolved tree environment with
  | error failure =>
      rw [run.1 failure resolved] at success
      contradiction
  | ok options =>
      rw [run.2 options resolved] at success ⊢
      obtain ⟨bytes, text, succeeds⟩ := Build.exists_succeeds success
      have comments : options.comments = (given? != some true && behind) := by
        have noted : choices.noComments = given?.getD false := rfl
        rw [Build.resolved_comments resolved, noted]
        cases given? with
        | none => rfl
        | some off => cases off <;> rfl
      refine ⟨filename, options, bytes, text, argument, rfl, succeeds, comments, ?_⟩
      rw [comments]
      cases given? with
      | none => simp
      | some off => cases off <;> simp

section Boot

/-- The single file of a directory, a script. -/
def boot (script : String) : FileTree :=
  ⟨[(["boot.star"], script.toUTF8.toList)]⟩

theorem read_boot (script : String) :
    (boot script).read "boot.star" = .ok script.toUTF8.toList := by
  refine FileTree.read_single ?_ (by decide) (by decide) _
  rw [FileTree.parts, String.splitOn, if_neg (by decide)]
  -- None of the nine characters is a slash.
  iterate 9
    unfold String.splitOnAux
    rw [if_neg (by decide +kernel), if_neg (by decide +kernel)]
  unfold String.splitOnAux
  rw [if_pos (by decide +kernel)]
  decide +kernel

theorem run_boot {environment : Environment} {words : Words} {options : Options}
    (script : String) (argument : words.arguments = ["boot.star"])
    (equipped : (Build.emptyProgram "boot.star" options).registers.isSome = true)
    (resolved : (Build.Choices.ofWords words).resolved (boot script) environment = .ok options) :
    (Verb.build.task environment words).run (boot script) =
      (Build.ofSource "boot.star" options
        (String.ofList (Text.decodeLossy script.toUTF8.toList))).run (boot script) := by
  simp only [Verb.task, argument]
  have run := (Build.task_run "boot.star" environment (.ofWords words) (boot script)).2 _ resolved
  exact run.trans (Build.ofScript_run_of_read (Option.isSome_iff_ne_none.mp equipped)
    (read_boot script))

/-- Of two instructions one has its comment disabled by the script, and a flag
that is false leaves the comment of the other. -/
theorem build_comments_one_of_two :
    let tree := boot "emit(\"nop\", comment=\"wait\")\nemit(\"hlt\", enable_comment=False)\n"
    let words : Words :=
      ⟨[⟨"mode", .text "16"⟩, ⟨"no-comments", .switch false⟩], ["boot.star"]⟩
    let result := (Verb.build.task ⟨[]⟩ words).run tree
    result.failure? = none ∧ result.printed = "nop  ; wait\nhlt\n" ∧
      ∃ options, (Build.Choices.ofWords words).resolved tree ⟨[]⟩ = .ok options ∧
        options.comments = true := by
  intro tree words result
  have resolved : (Build.Choices.ofWords words).resolved tree ⟨[]⟩ =
      .ok { Options.default with mode := .bits16 } := rfl
  have done : result.failure?.isNone = true ∧ result.printed = "nop  ; wait\nhlt\n" := by
    rw [show result = _ from run_boot _ rfl (by decide +kernel) resolved]
    decide +kernel
  have success : result.failure? = none := Option.isNone_iff_eq_none.mp done.1
  obtain ⟨_, options, _, _, _, found, _, _, heard⟩ := build_comments_iff ⟨[]⟩ words tree success
  exact ⟨success, done.2, options, found, heard.mpr (by decide)⟩

/-- Comments that a flag asks for are off if the environment says so. -/
theorem build_explicit_comments_ignored :
    let tree := boot "emit(\"nop\", comment=\"wait\")\n"
    let environment : Environment := ⟨[("NGPASM_COMMENTS", "no")]⟩
    let words : Words :=
      ⟨[⟨"mode", .text "16"⟩, ⟨"no-comments", .switch false⟩], ["boot.star"]⟩
    let result := (Verb.build.task environment words).run tree
    Words.read Verb.build.flags ["-m", "16", "--no-comments=false", "boot.star"] = .ok words ∧
      words.switch? "no-comments" = some false ∧ result.failure? = none ∧
      (∃ options, (Build.Choices.ofWords words).resolved tree environment = .ok options ∧
        options.comments = false) ∧
      result.printed = "nop\n" := by
  intro tree environment words result
  have resolved : (Build.Choices.ofWords words).resolved tree environment =
      .ok { Options.default with mode := .bits16, comments := false } := rfl
  have done : result.failure?.isNone = true ∧ result.printed = "nop\n" := by
    rw [show result = _ from run_boot _ rfl (by decide +kernel) resolved]
    decide +kernel
  exact ⟨rfl, rfl, Option.isNone_iff_eq_none.mp done.1, ⟨_, resolved, rfl⟩, done.2⟩

end Boot

end Command

end AsmListing
