import QueryGuard.CommandLine.Run

/-!
The command: gathers arguments, environment and input, and writes what a run gives.
-/

namespace QueryGuard.CommandLine

/-- The names of the variables that a run looks at. -/
def variableNames : List String :=
  [Config.dialectVariable, TableList.variableName, logVariable]

/-- The environment. Where the system gives it as a block, the values of variables are the bytes
they are; elsewhere a value that is no text cannot be had. -/
def readEnvironment : IO Environment := do
  try
    return .ofBlock (← IO.FS.readBinFile "/proc/self/environ")
  catch _ =>
    let pairs ← variableNames.mapM fun name => return (name, ← IO.getEnv name)
    return fun name => ((pairs.lookup name).bind id).map String.toUTF8

/-- The whole input, if a run looks at it. -/
def readInput (arguments : List String) : IO ByteArray := do
  if readsInput arguments then (← IO.getStdin).readBinToEnd else return ByteArray.empty

end QueryGuard.CommandLine

open QueryGuard.CommandLine in
/-- Runs the command. -/
def main (arguments : List String) : IO UInt32 := do
  let env ← readEnvironment
  let input ← readInput arguments
  let outcome := run arguments env input
  IO.eprint outcome.errors
  IO.print outcome.output
  return outcome.code.toUInt32
