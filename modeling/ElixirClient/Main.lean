import ElixirClient.CommandLine

/-!
# The program

Reads the files that an invocation names, runs it, and writes what the run yields.
-/

namespace ElixirClient.CommandLine

def usageLine : String :=
  "usage: oapi_generator [-h] [-c CONFIG] [-o OUTPUT_DIR] [-v] descriptors\n"

def helpText : String :=
  usageLine ++ "\nGenerate client code from processed OpenAPI descriptors.\n\n"
    ++ "positional arguments:\n"
    ++ "  descriptors           Path or URL of the descriptor JSON document\n\n"
    ++ "options:\n"
    ++ "  -h, --help            show this help message and exit\n"
    ++ "  -c, --config CONFIG   Path to the JSON configuration\n"
    ++ "  -o, --output-dir OUTPUT_DIR\n"
    ++ "                        Output directory\n"
    ++ "  -v, --verbose         Log every rendered artifact\n"

/-- The text of a file on disk, or why there is none. -/
def readFromDisk (name : String) : IO (Except Fault String) := do
  try
    return .ok (← IO.FS.readFile name)
  catch
    | .noFileOrDirectory .. => return .error (.file (.missing name))
    | _ => return .error (.file .isDirectory)

/-- The files that an invocation names. Addresses are out of reach. -/
def sourcesOnDisk (invocation : Invocation) : IO Sources := do
  let names := invocation.descriptors
    :: (invocation.config.map fun name => (Path.ofString name).text).toList
  let texts ← names.mapM fun name => do return (name, ← readFromDisk name)
  return {
    file := fun name => (texts.lookup name).getD (.error (.file (.missing name)))
    fetch := fun _ => .failure "no network" }

def writeToDisk (tree : SourceTree) (path : Path) : IO Unit := do
  if path.length > 1 then IO.FS.createDirAll (Path.text path.dropLast)
  IO.FS.writeFile path.text ((tree.lookup path).getD "")

def execute (invocation : Invocation) : IO UInt32 := do
  match run (← sourcesOnDisk invocation) invocation [] with
  | .ok report =>
    report.written.forM (writeToDisk report.tree)
    IO.print report.stdout
    report.stderr.forM fun line => IO.eprintln line
    return report.exitCode.toUInt32
  | .error fault =>
    IO.eprintln ("error: " ++ fault.message?.getD "the input has a value of the wrong kind")
    return 1

end ElixirClient.CommandLine

open ElixirClient.CommandLine in
def main (arguments : List String) : IO UInt32 := do
  match Invocation.ofArguments arguments with
  | .ok invocation => execute invocation
  | .error .help =>
    IO.print helpText
    return 0
  | .error .wrong =>
    IO.eprint usageLine
    return 2
