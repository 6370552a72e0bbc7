import SpaServer.Server.Startup

/-!
# The command line

Starts a process in the working directory: reads the settings, writes the log to standard error and
what the server loop is given to standard output. The environment is read from the block that the
system keeps of it, so that its variables come in their order and under any spelling of their names.
-/

namespace SpaServer.CommandLine

def binding? (entry : Bytes) : Option (Text × Text) :=
  match Utf8.decode entry with
  | .error _ => none
  | .ok text =>
    match Text.cut '=' text with
    | (name, some value) => some (name, value)
    | (_, none) => none

/-- The environment that a block of entries makes, each of them ended by a zero byte. Of entries with
the same name only the first counts. -/
def environmentOf (block : Bytes) : Environment :=
  ((block.splitOn 0).filterMap binding?).eraseDupsBy fun entry other => entry.1 == other.1

def environmentFile : Text := "/proc/self/environ".toList

def readFile (name : Text) : IO (Option Bytes) := do
  try
    let content ← IO.FS.readBinFile (String.ofList name)
    return some content.toList
  catch _ => return none

/-- Whether there is a directory of the given name, which is told by opening it by way of its own
entry for itself. -/
def isDirectory (name : Text) : IO Bool := do
  try
    let _ ← IO.FS.Handle.mk (String.ofList (name ++ "/.".toList)) .read
    return true
  catch _ => return false

/-- The part of the working directory that matters when a process starts. -/
def readTree (file : Option Bytes) : IO Node := do
  let mut tree := Node.empty
  if let some content := file then tree := tree.insert [envFileName] (.file content)
  for name in [Bundle.directory, Bundle.alphaDirectory] do
    if ← isDirectory name then tree := tree.insert [name] .empty
  return tree

def logLine (entry : LogEntry) : Text :=
  entry.level.label ++ ' ' :: entry.logger ++ ": ".toList ++ entry.message

def launchLine (launch : Launch) : Text :=
  "host ".toList ++ launch.host ++ " port ".toList ++ Text.ofInt launch.port ++
    " level ".toList ++ launch.logLevel.name

def run : IO UInt32 := do
  let environment := environmentOf ((← readFile environmentFile).getD [])
  match start .package environment (← readTree (← readFile envFileName)) with
  | .error error =>
    IO.eprintln (String.ofList error.message)
    return 1
  | .ok (launch, logs) =>
    for entry in logs do IO.eprintln (String.ofList (logLine entry))
    IO.println (String.ofList (launchLine launch))
    return 0

end SpaServer.CommandLine

def main : IO UInt32 := SpaServer.CommandLine.run
