import SheetQuery.CommandLine.Run

/-!
# The command line

Reads the variables and the files that a run needs, and prints how it ends. The program has no
network: to a run, the service is not reachable.
-/

namespace SheetQuery.CommandLine

/-- Nothing is reached. -/
def offline : Transport Unit := ⟨fun _ s => (.unreachable, s)⟩

/-- The content of a file. -/
def readContent (path : String) : IO (Except Dataset.FileFault String) := do
  try
    let octets ← IO.FS.readBinFile path
    match String.fromUTF8? octets with
    | some text => return .ok text
    | none => return .error .notText
  catch
    | .noFileOrDirectory .. => return .error .notFound
    | .inappropriateType .. => return .error .isDirectory
    | fault => throw fault

/-- The variables of these names that the environment has. -/
def readVariables (names : List String) : IO (List (String × String)) :=
  names.filterMapM fun name => do return (← IO.getEnv name).map fun value => (name, value)

/-- A run with the given arguments. -/
def run (words : List String) : IO Ending := do
  let file := (← readContent ".env").toOption
  let environment ← readVariables (asked file)
  runWith readContent offline words environment file ()

end SheetQuery.CommandLine

/-- Runs the program and reports how it ended. -/
def main (words : List String) : IO UInt32 := do
  let ending ← SheetQuery.CommandLine.run words
  IO.print ending.output
  IO.eprint ending.complaint
  return ending.status.toUInt32
