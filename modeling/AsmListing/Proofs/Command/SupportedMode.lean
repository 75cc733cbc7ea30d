import AsmListing.Command.Line
import AsmListing.Proofs.Command.Precedence
import AsmListing.Proofs.Disassembly.Tiling
import AsmListing.Proofs.Register.Catalog

/-!
# Commands run in supported modes

A mode reaches a command as a default, from a configuration, from the
environment or from a flag, and always by way of its text.  Only supported
modes have a text that can be read, so a command has registers for its mode,
and none of the failures for want of a mode can come out of a command line.
-/

namespace AsmListing

/-- A supported mode, which has registers of its own. -/
structure Mode.Equipped (mode : Mode) : Prop where
  listed : mode ∈ Mode.all
  registers : ∀ serial, ∃ registers,
    RegisterSet.ofMode? serial mode = some registers ∧ registers.mode = mode

theorem Mode.equipped_of_mem {mode : Mode} (listed : mode ∈ Mode.all) : mode.Equipped where
  listed := listed
  registers := by
    intro serial
    obtain ⟨_, registers, _, _, found⟩ := RegisterSet.exists_ofMode? listed serial
    exact ⟨_, found, RegisterSet.ofList_mode mode registers⟩

/-! ## Failures for want of a mode -/

theorem Script.exec_noRegisters_iff (host : Host) (program : Program) (name source : String) :
    (exec host program name source).error? = some .noRegisters ↔ program.registers = none := by
  unfold exec
  cases program.registers with
  | none => exact iff_of_true rfl rfl
  | some registers =>
      refine iff_of_false ?_ (by simp)
      unfold prepare
      cases parse source with
      | error place => simp [Outcome.refused]
      | ok script =>
          dsimp only
          cases resolve ((host.bindings registers program.mode).map Prod.fst) script with
          | error errors => simp [Outcome.refused]
          | ok resolved =>
              dsimp only [Outcome.ofTrace]
              split <;> simp

theorem Machine.decode_invalidMode_iff (mode : Mode) (bytes : List UInt8) :
    decode mode bytes = .error .invalidMode ↔ mode ∉ Mode.all := by
  have supported : mode.supported = true ↔ mode ∈ Mode.all := List.contains_iff_mem
  rw [← supported]
  unfold decode
  dsimp only
  -- The branches of a supported mode report other errors, if any.
  grind

namespace Disassembly

theorem run_error_cases (kinds : KindTable) {program : Program} {registers : RegisterSet}
    (present : program.registers = some registers) (code : List UInt8) :
    (run kinds program code).error? = none ∨ ∃ offset cause,
      (run kinds program code).error? = some (.decode offset cause) ∧
        InstructionDecoder.Fails Machine.decode program.mode (code.drop offset) cause := by
  have ran : run kinds program code =
      walk Machine.decode kinds registers code.length program 0 code [] := by
    rw [run, runWith, present]
  have walked : Walked Machine.decode kinds registers program code 0 (run kinds program code) := by
    rw [ran]
    exact walk_walked decode_bounded code code.length program 0 [] (Nat.zero_le _) (by simp)
  rcases walked.ends with ⟨clean, _⟩ | ⟨_, cause, failed, fails⟩
  · exact .inl clean
  · exact .inr ⟨_, cause, failed, fails⟩

end Disassembly

namespace Command

/-- The failure of a command whose mode is not supported. -/
inductive CommandError.BlamesMode : CommandError → Prop where
  | script : BlamesMode (.script .noRegisters)
  | code : BlamesMode (.disassembly .noRegisters)
  | decoder (offset : Nat) : BlamesMode (.disassembly (.decode offset .invalidMode))

namespace Task

/-- However files are read and created, a task can only fail as allowed. -/
def FailsWithin (allowed : CommandError → Prop) : Task → Prop
  | finish failure? => ∀ failure, failure? = some failure → allowed failure
  | log _ next | print _ next => next.FailsWithin allowed
  | read _ next => ∀ answer, (next answer).FailsWithin allowed
  | create _ _ next => ∀ answer, (next answer).FailsWithin allowed

theorem FailsWithin.run {allowed : CommandError → Prop} {task : Task}
    (within : task.FailsWithin allowed) {tree : FileTree} {failure : CommandError}
    (failed : (task.run tree).failure? = some failure) : allowed failure := by
  induction task generalizing tree with
  | finish failure? => exact within failure failed
  | log entries next induction => exact induction within failed
  | print text next induction => exact induction within failed
  | read name next induction => exact induction _ (within _) failed
  | create name contents next induction =>
      rw [Task.run] at failed
      split at failed
      · exact induction _ (within _) failed
      · exact induction _ (within _) failed

/-- A task that cannot fail for want of a mode. -/
abbrev SparesMode (task : Task) : Prop :=
  task.FailsWithin fun failure => ¬ failure.BlamesMode

theorem fail_sparesMode {failure : CommandError} (other : ¬ failure.BlamesMode) :
    (fail failure).SparesMode := by
  rintro blamed ⟨⟩
  exact other

theorem say_sparesMode (text : String) : (say text).SparesMode := by
  rintro failure ⟨⟩

theorem rendering_sparesMode (program : Program) {next : String → Task}
    (spared : ∀ text, (next text).SparesMode) : (rendering program next).SparesMode := by
  unfold rendering
  rcases program.written.run [] with ⟨text, entries⟩
  cases text with
  | error failure => exact fail_sparesMode nofun
  | ok text => exact spared text

end Task

/-! ## Building listings -/

namespace Build

theorem Settled.mode_mem {sources : List Source} {options : Options}
    (settled : Settled sources options) : options.mode ∈ Mode.all := by
  have named := settled.mode
  cases said : sources.findSome? Source.mode? with
  | none =>
      rw [said, Option.elim_none, Option.some.injEq] at named
      rw [← named]
      decide
  | some text =>
      rw [said, Option.elim_some] at named
      exact Mode.mem_all_of_ofText? named

theorem resolve_mode_mem {sources : List Source} {loaded : Options}
    (settled : Settled sources loaded) {environment : Environment} {choices : Choices}
    {options : Options} (resolved : resolve (.ok loaded) environment choices = .ok options) :
    options.mode ∈ Mode.all := by
  rcases resolve_loaded environment choices settled with
    ⟨_, refused⟩ | ⟨found, _, _, done, settled⟩
  · rw [refused] at resolved
    contradiction
  · rw [done, Except.ok.injEq] at resolved
    exact resolved ▸ settled.mode_mem

theorem resolved_mode_mem {choices : Choices} {tree : FileTree} {environment : Environment}
    {options : Options} (resolved : choices.resolved tree environment = .ok options) :
    options.mode ∈ Mode.all := by
  rcases resolved_cases choices environment tree with
    ⟨_, _, failed⟩ | ⟨_, ⟨_, refused⟩ | ⟨found, _, _, done, settled⟩⟩
  · rw [failed] at resolved
    contradiction
  · rw [refused] at resolved
    contradiction
  · rw [done, Except.ok.injEq] at resolved
    exact resolved ▸ settled.mode_mem

theorem deliver_sparesMode (options : Options) (text : String) :
    (deliver options text).SparesMode := by
  unfold deliver
  split
  · intro answer failure failed blames
    cases answer with
    | none => simp at failed
    | some cause =>
        rw [Option.map_some, Option.some.injEq] at failed
        rw [← failed] at blames
        cases blames
  · exact Task.say_sparesMode text

theorem conclude_sparesMode (options : Options) (program : Program) :
    (conclude options program).SparesMode :=
  Task.rendering_sparesMode _ (deliver_sparesMode options)

theorem ofScript_sparesMode (filename : String) {options : Options}
    (supported : options.mode ∈ Mode.all) : (ofScript filename options).SparesMode := by
  obtain ⟨registers, present, _⟩ := (Mode.equipped_of_mem supported).registers 0
  have found : (emptyProgram filename options).registers = some registers := present
  rw [ofScript, found, Option.isNone_some, if_neg Bool.false_ne_true]
  intro answer
  cases answer with
  | error failure => exact Task.fail_sparesMode nofun
  | ok bytes =>
      unfold ofSource
      dsimp only [Task.FailsWithin]
      split
      · rename_i failure stopped
        refine Task.fail_sparesMode ?_
        rintro ⟨⟩
        have missing := (Script.exec_noRegisters_iff _ _ _ _).mp stopped
        rw [missing] at found
        contradiction
      · exact conclude_sparesMode options _

theorem configured_sparesMode (filename : String) (environment : Environment)
    (choices : Choices) {loaded : Except LoadError Options}
    (settled : ∀ options, loaded = .ok options → ∃ sources, Settled sources options) :
    (configured filename environment choices loaded).SparesMode := by
  unfold configured
  cases loaded with
  | error failure =>
      exact Task.fail_sparesMode nofun
  | ok before =>
      obtain ⟨sources, said⟩ := settled before rfl
      rcases resolve_loaded environment choices said with
        ⟨_, refused⟩ | ⟨options, _, _, done, decided⟩
      · rw [refused]
        exact Task.fail_sparesMode nofun
      · rw [done]
        exact ofScript_sparesMode filename decided.mode_mem

theorem task_sparesMode (filename : String) (environment : Environment) (choices : Choices) :
    (task filename environment choices).SparesMode := by
  unfold task
  split
  · apply configured_sparesMode
    rintro options ⟨⟩
    exact ⟨[], settled_nil⟩
  · intro answer
    apply configured_sparesMode
    intro options loaded
    rcases loadedFrom_cases choices.config answer with
      ⟨_, _, failed⟩ | ⟨table, found, _, _, done, applied⟩
    · rw [failed] at loaded
      contradiction
    · rw [done, Except.ok.injEq] at loaded
      exact ⟨[.ofTable table], loaded ▸ settled_nil.cons applied⟩

end Build

/-! ## Listing machine code -/

namespace Disassemble

theorem options_mode_mem {words : Words} {chosen : Options}
    (usable : options words = .ok chosen) : chosen.mode ∈ Mode.all := by
  rw [options, Attempt.settle_eq_ok_iff] at usable
  cases named : Mode.ofText? ((words.text? "mode").getD Mode.bits64.text) with
  | none =>
      rw [Options.setMode_run_of_none named] at usable
      contradiction
  | some mode =>
      rw [Options.setMode_run_of_some named] at usable
      rw [← (EStateM.Result.ok.inj usable).2]
      exact Mode.mem_all_of_ofText? named

theorem ofCode_sparesMode (filename : String) {chosen : Options}
    (supported : chosen.mode ∈ Mode.all) (code : List UInt8) :
    (ofCode filename chosen code).SparesMode := by
  obtain ⟨registers, found, _⟩ := (Mode.equipped_of_mem supported).registers 0
  have present : ({ Program.new 0 filename chosen.mode with
      indent := chosen.indent
      verbose := chosen.verbose } : Program).registers = some registers := found
  unfold ofCode
  dsimp only [Task.SparesMode, Task.FailsWithin]
  split
  · rename_i failure stopped
    refine Task.fail_sparesMode fun blames => ?_
    rcases Disassembly.run_error_cases .standard present code with
      complete | ⟨offset, cause, failed, fails⟩
    · rw [complete] at stopped
      contradiction
    · rw [failed, Option.some.injEq] at stopped
      subst stopped
      cases blames with
      | decoder =>
          rcases fails with reported | ⟨_, truncated⟩
          · exact (Machine.decode_invalidMode_iff _ _).mp reported supported
          · contradiction
  · exact Task.rendering_sparesMode _ Task.say_sparesMode

theorem task_sparesMode (filename : String) (words : Words) :
    (task filename words).SparesMode := by
  unfold task
  split
  · exact Task.fail_sparesMode nofun
  · rename_i chosen usable
    intro answer
    cases answer with
    | error failure => exact Task.fail_sparesMode nofun
    | ok code => exact ofCode_sparesMode filename (options_mode_mem usable) code

end Disassemble

/-! ## Command lines -/

theorem drawRegisters_sparesMode (mode : String) : (drawRegisters mode).SparesMode := by
  unfold drawRegisters
  split
  · exact Task.fail_sparesMode nofun
  · exact Task.say_sparesMode _

theorem Verb.task_sparesMode (environment : Environment) (words : Words) (verb : Verb) :
    (verb.task environment words).SparesMode := by
  cases verb with
  | build =>
      dsimp only [Verb.task]
      split
      · exact Build.task_sparesMode _ environment _
      · exact Task.fail_sparesMode nofun
  | disassemble =>
      dsimp only [Verb.task]
      split
      · exact Disassemble.task_sparesMode _ words
      · exact Task.fail_sparesMode nofun
  | registers =>
      dsimp only [Verb.task]
      split
      · exact drawRegisters_sparesMode _
      · exact drawRegisters_sparesMode _
      · exact Task.fail_sparesMode nofun
  | modes =>
      dsimp only [Verb.task]
      split
      · exact Task.say_sparesMode _
      · exact Task.fail_sparesMode nofun
  | help => exact Task.say_sparesMode _

theorem withWords_sparesMode (flags : List Flag) (line : List String) {next : Words → Task}
    (spares : ∀ words, (next words).SparesMode) : (withWords flags line next).SparesMode := by
  unfold withWords
  split
  · exact Task.fail_sparesMode nofun
  · split
    · exact Task.say_sparesMode usage
    · exact spares _

theorem task_sparesMode (environment : Environment) (line : List String) :
    (task environment line).SparesMode := by
  unfold task
  split
  · exact withWords_sparesMode _ line fun _ => Task.say_sparesMode usage
  · split
    · exact withWords_sparesMode _ _ fun words => Verb.task_sparesMode environment words _
    · exact Task.fail_sparesMode nofun

/-- Options that a build or a disassembly goes on with have a supported mode,
for which there are registers.  No command line fails because a program has no
registers or because the decoder does not know the mode, however the mode was
given. -/
theorem task_mode_supported (environment : Environment) (line : List String)
    (tree : FileTree) :
    (∀ filename choices options, Build.Choices.resolved choices tree environment = .ok options →
      options.mode.Equipped ∧ (Build.task filename environment choices).run tree =
        (Build.ofScript filename options).run tree) ∧
    (∀ table loaded choices options, Options.ofTable table = .ok loaded →
      Build.resolve (.ok loaded) environment choices = .ok options → options.mode.Equipped) ∧
    (∀ words options, Disassemble.options words = .ok options → options.mode.Equipped) ∧
    ∀ failure, ((task environment line).run tree).failure? = some failure →
      ¬ failure.BlamesMode := by
  refine ⟨?_, ?_, ?_, ?_⟩
  · intro filename choices options resolved
    exact ⟨Mode.equipped_of_mem (Build.resolved_mode_mem resolved),
      (Build.task_run filename environment choices tree).2 options resolved⟩
  · intro table loaded choices options read resolved
    have settled := Build.settled_nil.cons (Build.ofTable_applied read)
    exact Mode.equipped_of_mem (Build.resolve_mode_mem settled resolved)
  · intro words options usable
    exact Mode.equipped_of_mem (Disassemble.options_mode_mem usable)
  · intro failure failed
    exact (task_sparesMode environment line).run failed

/-- A variable names the 16-bit mode, a configuration has the 32-bit mode as an
integer, and a command line names nothing. -/
theorem task_mode_supported_three_sources :
    let environment : Environment := ⟨[("NGPASM_MODE", "16")]⟩
    let choices : Build.Choices := ⟨"", none, none, none, none, false⟩
    let words : Words := ⟨[], ["code.bin"]⟩
    (∃ options, choices.resolved ⟨[]⟩ environment = .ok options ∧
      options.mode = .bits16 ∧ options.mode.Equipped) ∧
    (∃ loaded options, Options.ofTable [("mode", .integer .int 32)] = .ok loaded ∧
      Build.resolve (.ok loaded) ⟨[]⟩ choices = .ok options ∧
      options.mode = .bits32 ∧ options.mode.Equipped) ∧
    ∃ options, Disassemble.options words = .ok options ∧
      options.mode = .bits64 ∧ options.mode.Equipped := by
  intro environment choices words
  have supported := task_mode_supported environment ["disasm", "code.bin"] ⟨[]⟩
  have bare := task_mode_supported ⟨[]⟩ ["disasm", "code.bin"] ⟨[]⟩
  refine ⟨⟨_, rfl, rfl, (supported.1 "boot.star" choices _ rfl).1⟩,
    ⟨_, _, rfl, rfl, rfl, bare.2.1 [("mode", .integer .int 32)] _ choices _ rfl rfl⟩,
    ⟨_, rfl, rfl, supported.2.2.1 words _ rfl⟩⟩

end Command

end AsmListing
