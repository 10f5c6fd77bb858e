import Std.Time.Format
import StubGen.Command.Run

/-!
# The program

The outer layer of the command line: it reads the files that the command line may need, runs it, and
prints the outcome. Starting a service is left to the surroundings of the program.
-/

namespace StubGen.Program

/-- Reads the bytes of a file. -/
def access (path : Files.Path) : IO (Except Files.ReadError (List UInt8)) := do
  if path.spelling.toList.contains '\x00' then return .error .nullCharacter
  try
    return .ok (← IO.FS.readBinFile path.spelling).toList
  catch
    | .noFileOrDirectory _ _ _ => return .error .missing
    | .inappropriateType _ 21 _ => return .error .isDirectory
    | .inappropriateType _ _ _ => return .error .notDirectory
    | .permissionDenied _ _ _ => return .error (.refused 13 "Permission denied")
    | _ => return .error (.refused 5 "Input/output error")

def readAll (paths : List Files.Path) : IO Files.Source := do
  let contents ← paths.mapM fun path => return (path, ← access path)
  return fun path => (contents.lookup path).getD (.error .missing)

/-- The variables of the environment that settings depend on. -/
def readEnvironment : IO Environment := do
  match ← IO.getEnv Settings.logLevelVariable with
  | some value => return [(Settings.logLevelVariable, value)]
  | none => return []

/-- The local time as log records show it. -/
def now : IO String := return (← Std.Time.PlainDateTime.now).format "uuuu-MM-dd HH:mm:ss,SSS"

end StubGen.Program

/-- Runs the command line. -/
def main (line : List String) : IO UInt32 := do
  let directory := StubGen.Files.Path.ofString (← IO.currentDir).toString
  let files ← StubGen.Program.readAll (StubGen.Command.filesRead directory line)
  let environment ← StubGen.Program.readEnvironment
  match (StubGen.Command.run .builtin ⟨files, directory, environment⟩ line).value with
  | .error interruption =>
    IO.eprintln interruption.message
    return 1
  | .ok outcome =>
    IO.print outcome.standardOutput.lossy
    IO.eprint (outcome.errorOutput (← StubGen.Program.now)).lossy
    return outcome.exitCode.toUInt32
