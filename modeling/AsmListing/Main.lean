import AsmListing.Command.Line

/-!
# The command line program

Carries out the task of a command line on the files of the computer.
-/

namespace AsmListing

/-- Why a path cannot be used, by what the computer says. -/
def pathCause (failure : IO.Error) : PathCause :=
  match failure with
  | .noFileOrDirectory _ _ _ => .missing
  | .inappropriateType _ _ details =>
      if details.toList.take 2 == ['I', 's'] then .isDirectory else .notDirectory
  | other => .other (toString other)

def readBytes (name : String) : IO (Except PathError (List UInt8)) := do
  try
    let contents ← IO.FS.readBinFile name
    return .ok contents.toList
  catch failure =>
    let cause := pathCause failure
    let attempt := if cause = .isDirectory then "read" else "open"
    return .error ⟨attempt, name, cause⟩

def createFile (name contents : String) : IO (Option PathError) := do
  try
    IO.FS.writeFile name contents
    return none
  catch failure =>
    return some ⟨"open", name, pathCause failure⟩

/-- Writes entries of a log, each on lines of its own. -/
def writeLog (entries : List String) : IO Unit := do
  let stream ← IO.getStderr
  for entry in entries do
    if entry.endsWith "\n" then stream.putStr entry else stream.putStrLn entry

def perform : Command.Task → IO (Option Command.CommandError)
  | .finish failure? => return failure?
  | .log entries next => do
      writeLog entries
      perform next
  | .print text next => do
      let stream ← IO.getStdout
      stream.putStr text
      perform next
  | .read name next => do
      let contents ← readBytes name
      perform (next contents)
  | .create name contents next => do
      let failure? ← createFile name contents
      perform (next failure?)

/-- The variables of the environment that are looked at. -/
def currentEnvironment : IO Environment := do
  let names := [Environment.modeName, Environment.indentName, Environment.commentsName,
    Environment.verboseName]
  let mut bindings := []
  for name in names do
    match ← IO.getEnv name with
    | some value => bindings := (name, value) :: bindings
    | none => pure ()
  return ⟨bindings⟩

end AsmListing

def main (line : List String) : IO UInt32 := do
  let environment ← AsmListing.currentEnvironment
  match ← AsmListing.perform (AsmListing.Command.task environment line) with
  | none => return 0
  | some failure => do
      let stream ← IO.getStderr
      stream.putStrLn ("Error: " ++ failure.message)
      return 1
