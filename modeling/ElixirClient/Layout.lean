import ElixirClient.Artifact
import ElixirClient.Config
import ElixirClient.Session
import ElixirClient.Source.Definition
import ElixirClient.SourceTree
import ElixirClient.Text.Case

/-!
# Layout of generated files

One file for each schema and one for each module of operations. Files are written one after the
other, so a fault leaves those before it.
-/

namespace ElixirClient.Layout

/-- A text with two blanks in front of its first line and of every other line that is not empty.
Every line end becomes a line feed. -/
def indentBlock (s : String) : String :=
  let contents := (Text.lines (s.toList ++ ['\n'])).map Text.Line.content
  let indented := match contents with
    | [] => []
    | first :: rest =>
      (' ' :: ' ' :: first) :: rest.map fun (line : List Char) =>
        if line.isEmpty then [] else ' ' :: ' ' :: line
  "\n".intercalate (indented.map String.ofList)

/-- Entries on lines of their own, with commas between them. -/
def entryLines (margin : String) : List (String × String) → String
  | [] => ""
  | [(name, value)] => margin ++ Source.atomKey name ++ " " ++ value ++ "\n"
  | (name, value) :: rest =>
    margin ++ Source.atomKey name ++ " " ++ value ++ ",\n" ++ entryLines margin rest

/-- The file of a schema: its documentation, type, struct and decoder. -/
def schemaText (artifact : SchemaArtifact) : Except Fault String := do
  let doc ← Source.moduledocText artifact.doc
  let types ← artifact.fieldTypes.mapM fun (name, node) => do
    return (name, ← Source.typeText node)
  let decoders ← artifact.decoders.mapM fun (name, node) => do
    return (name, ← Source.exprText node)
  return "defmodule " ++ artifact.module ++ " do\n"
    ++ indentBlock doc ++ "\n\n"
    ++ "  @type t :: %__MODULE__\x7b\n"
    ++ entryLines "          " types
    ++ "        \x7d\n\n"
    ++ "  defstruct [" ++ ", ".intercalate (artifact.fieldNames.map Source.atom) ++ "]\n\n"
    ++ "  @doc false\n"
    ++ "  @spec decode(map) :: t\n"
    ++ "  def decode(value) do\n"
    ++ "    %__MODULE__\x7b\n"
    ++ entryLines "      " decoders
    ++ "    \x7d\n"
    ++ "  end\n"
    ++ "end\n"

/-- The documentation, specification and definition of one function. -/
def operationText (artifact : OperationArtifact) : Except Fault String := do
  let doc ← Source.docText artifact.doc
  let spec ← Source.specText artifact.signature
  let function ← Source.functionText artifact.function
  return "\n" ++ indentBlock doc ++ "\n" ++ indentBlock spec ++ "\n" ++ indentBlock function ++ "\n"

/-- The file of a module of operations. -/
def moduleText (clientModule : Json) (module : OperationModule) : Except Fault String := do
  let operations ← module.operations.mapM operationText
  return "defmodule " ++ module.module ++ " do\n"
    ++ "  @moduledoc \"\"\"\n"
    ++ "  Provides API endpoints related to " ++ String.ofList (Text.lower module.name.toList)
    ++ "\n"
    ++ "  \"\"\"\n\n"
    ++ "  @default_client " ++ clientModule.plain ++ "\n"
    ++ String.join operations
    ++ "end\n"

/-- The path of a file below a directory. A directory has to be text. -/
def filePath (root : Path) (directory extension : Json) (location : String) :
    Except Fault Path :=
  match directory with
  | .str directory =>
    .ok ((root.join (Path.ofString directory)).join (Path.ofString (location ++ extension.plain)))
  | _ => .error .wrongKind

/-- The path and the text of the file of a schema. -/
def schemaFile (config : Config) (root : Path) (artifact : SchemaArtifact) :
    Except Fault (Path × String) := do
  let path ← filePath root config.output.schemaDir config.output.extension artifact.location
  return (path, ← schemaText artifact)

def moduleFile (config : Config) (root : Path) (module : OperationModule) :
    Except Fault (Path × String) := do
  let path ← filePath root config.output.operationDir config.output.extension module.location
  return (path, ← moduleText config.clientModule module)

/-- Files and log lines of a run, and the paths written, in order. -/
structure Written where
  tree : SourceTree
  paths : List Path := []
  log : List LogLine := []
deriving Repr

/-- Writes one more file. -/
def Written.add (done : Written) (file : Except Fault (Path × String)) : Except Fault Written := do
  let (path, content) ← file
  let tree ← done.tree.write path content
  return {
    tree := tree
    paths := done.paths ++ [path]
    log := done.log ++ [⟨.debug, .codegen, "Wrote " ++ path.text⟩] }

/-- Writes the files of all artifacts below a directory, schemas first. -/
def write (result : GenerationResult) (config : Config) (root : Path) (tree : SourceTree) :
    Except Fault Written := do
  let files := result.schemas.map (schemaFile config root)
    ++ result.modules.map (moduleFile config root)
  files.foldlM Written.add { tree := tree }

/-- What is said at the end of a run. -/
def summary (result : GenerationResult) (root : Path) : String :=
  "Generated " ++ toString result.schemas.length ++ " schemas and "
    ++ toString result.modules.length ++ " operation modules in " ++ root.text

end ElixirClient.Layout
