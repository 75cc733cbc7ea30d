import AsmListing.Command.Task

/-!
# Listing machine code

A file of machine code is read, and the listing of its instructions is
printed.
-/

namespace AsmListing

namespace Command

namespace Disassemble

def options (words : Words) : Except OptionsError Options :=
  (Options.setMode ((words.text? "mode").getD Mode.bits64.text)).settle
    { Options.default with
      indent := (words.text? "indent").getD ""
      comments := !(words.switch? "no-comments").getD false
      verbose := (words.switch? "verbose").getD false }

def ofCode (filename : String) (options : Options) (code : List UInt8) : Task :=
  let program : Program :=
    { Program.new 0 filename options.mode with
      indent := options.indent
      verbose := options.verbose }
  let outcome := Disassembly.run .standard program code
  .log outcome.log <|
    match outcome.error? with
    | some failure => .fail (.disassembly failure)
    | none =>
        .rendering (outcome.program.setComments options.comments) .say

/-- Lists the machine code of a file. -/
def task (filename : String) (words : Words) : Task :=
  match options words with
  | .error failure => .fail (.options failure)
  | .ok options =>
      .read filename fun read =>
        match read with
        | .error failure => .fail (.path failure)
        | .ok code => ofCode filename options code

end Disassemble

end Command

end AsmListing
