import ElixirClient.CommandLine.Invocation
import ElixirClient.Config.Document
import ElixirClient.Generation
import ElixirClient.Layout

/-!
# One run of the program

A run loads the configuration and the descriptors, generates, and writes below the output
directory. `run` is the whole of it but for the access to files and addresses, which it is given.
-/

namespace ElixirClient.CommandLine

/-- What a run can get at: the text of a file, by its name, and the document at an address. -/
structure Sources where
  file : String → Except Fault String
  fetch : String → Fetched

/-- The files of a tree, and nothing to fetch. -/
def Sources.ofTree (tree : SourceTree) : Sources where
  file := tree.read
  fetch _ := .failure "no network"

/-- What is left when a run is over. -/
structure Report where
  exitCode : Nat
  stdout : String := ""
  stderr : List String := []
  /-- All files, the new ones among them. -/
  tree : SourceTree
  /-- The paths written, in order. -/
  written : List Path := []
deriving Repr

/-- Without a file the configuration is the default one. -/
def loadConfig (sources : Sources) : Option String → Except Fault Config
  | none => .ok {}
  | some name => do
    let name := (Path.ofString name).text
    readConfigDocument name (← sources.file name)

def isAddress (source : String) : Bool :=
  "http://".toList.isPrefixOf source.toList || "https://".toList.isPrefixOf source.toList

/-- Descriptors come from an address or from a file. -/
def loadDescriptors (sources : Sources) (source : String) : Except Fault Descriptors :=
  if isAddress source then readFetched source (sources.fetch source)
  else do readDocument source (← sources.file source)

/-- Everything up to the written files. -/
def generateFiles (sources : Sources) (invocation : Invocation) (tree : SourceTree) :
    Render (GenerationResult × Layout.Written) := do
  let config ← Render.ofExcept (loadConfig sources invocation.config)
  let descriptors ← Render.ofExcept (loadDescriptors sources invocation.descriptors)
  let result ← generate Renderer.default descriptors.schemas descriptors.operations config
  let written ← Render.ofExcept
    (Layout.write result config (Path.ofString invocation.outputDir) tree)
  return (result, written)

/-- Log lines that are shown: all of them, or warnings only. -/
def shownLog (verbose : Bool) (log : List LogLine) : List String :=
  (log.filter fun line => verbose || line.level = .warning).map LogLine.text

/-- The message of a fault that ends a run in an orderly way: the input is refused, or a file is
missing. -/
def reported? : Fault → Option String
  | fault@(.configuration _) | fault@(.descriptor _) | fault@(.dangling _)
  | fault@(.file (.missing _)) => fault.message?
  | _ => none

/-- One run. A fault that is not reported is left to the caller. -/
def run (sources : Sources) (invocation : Invocation) (tree : SourceTree) :
    Except Fault Report :=
  let (outcome, trace) := (generateFiles sources invocation tree).run.run {}
  match outcome with
  | .ok (result, written) =>
    .ok {
      exitCode := 0
      stdout := Layout.summary result (Path.ofString invocation.outputDir) ++ "\n"
      stderr := shownLog invocation.verbose (trace.log ++ written.log)
      tree := written.tree
      written := written.paths }
  | .error fault =>
    match reported? fault with
    | some message =>
      .ok {
        exitCode := 1
        stderr := shownLog invocation.verbose trace.log ++ ["error: " ++ message]
        tree := tree }
    | none => .error fault

end ElixirClient.CommandLine
