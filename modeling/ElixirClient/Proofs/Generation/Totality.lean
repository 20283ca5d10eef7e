import Mathlib
import ElixirClient.Proofs.Descriptor.Reading
import ElixirClient.Proofs.Generation.Faults
import ElixirClient.Proofs.Generation.Rendered
import ElixirClient.Proofs.Rendering.WellFormed
import ElixirClient.Proofs.Source.Printing

/-!
# From a document to code

Reading, resolving, rendering and writing each take values that the next of them could not go on
with. Where everything in a document that names or tells something is text, no such value comes up:
a run on what was read has a result that can be written down to its last node, or it ends in a
complaint about the path of an operation (`generate_total`).
-/

namespace ElixirClient

/-- Everything in the descriptors that names or tells something is text. -/
structure Descriptors.TextNamed (descriptors : Descriptors) : Prop where
  schemas : ∀ schema ∈ descriptors.schemas, schema.TextNamed
  operations : ∀ operation ∈ descriptors.operations, operation.TextNamed

namespace GenerationResult

/-- The types in all artifacts. -/
def types (result : GenerationResult) : List Node :=
  result.schemas.flatMap SchemaArtifact.types ++ result.operations.flatMap OperationArtifact.types

/-- The expressions in all artifacts. -/
def expressions (result : GenerationResult) : List Node :=
  result.schemas.flatMap SchemaArtifact.expressions ++
    result.operations.flatMap OperationArtifact.expressions

/-- All of the result can be written, down to the last node, and scalars are written by their own
entries of the tables. -/
structure Printable (result : GenerationResult) : Prop where
  moduledocs : ∀ artifact ∈ result.schemas, ∃ text, Source.moduledocText artifact.doc = .ok text
  docs : ∀ artifact ∈ result.operations, ∃ text, Source.docText artifact.doc = .ok text
  specs : ∀ artifact ∈ result.operations, ∃ text, Source.specText artifact.signature = .ok text
  functions : ∀ artifact ∈ result.operations,
    ∃ text, Source.functionText artifact.function = .ok text
  types : ∀ node ∈ result.types, ∀ part ∈ node.parts,
    (∃ text, Source.typeText part = .ok text) ∧ ∃ text, Source.markerText part = .ok text
  expressions : ∀ node ∈ result.expressions,
    (∃ text, Source.exprText node = .ok text) ∧ ∀ part ∈ node.parts, Source.Prints part
  scalars : ∀ node ∈ result.types ++ result.expressions, ∀ name,
    .scalar name ∈ node.parts → name ∈ Node.scalarNames

end GenerationResult

section Run

variable {schemas : List Schema} {operations : List Operation} {config : Config} {scope : Scope}
  {result : GenerationResult} {trace : Trace}
  (hscope : Scope.ofSchemas schemas config = .ok scope)
  (hrun : (generate .default schemas operations config).run.run {} = (.ok result, trace))

include hscope hrun

/-- The nodes of a result come from artifacts, and every artifact is that of a descriptor. -/
theorem forall_nodes {P : Node → Prop} {ofSchema : SchemaArtifact → List Node}
    {ofOperation : OperationArtifact → List Node}
    (hschema : ∀ (schema : Schema) artifact, schema.artifact scope = .ok artifact →
      ∀ node ∈ ofSchema artifact, P node)
    (hoperation : ∀ operation ∈ operations, ∀ artifact, operation.artifact scope = .ok artifact →
      ∀ node ∈ ofOperation artifact, P node) :
    ∀ node ∈ result.schemas.flatMap ofSchema ++ result.operations.flatMap ofOperation, P node := by
  intro node hnode
  rcases List.mem_append.mp hnode with hnode | hnode
  · obtain ⟨artifact, hmem, hnode⟩ := List.mem_flatMap.mp hnode
    obtain ⟨schema, _, _, _, _, hartifact⟩ := (mem_schemas_iff hscope hrun).mp hmem
    exact hschema schema artifact hartifact node hnode
  · obtain ⟨artifact, hmem, hnode⟩ := List.mem_flatMap.mp hnode
    obtain ⟨operation, hmem, hartifact⟩ := (mem_operations_iff hscope hrun).mp hmem
    exact hoperation operation hmem artifact hartifact node hnode

theorem isType_of_mem_types : ∀ node ∈ result.types, node.IsType :=
  forall_nodes hscope hrun (fun _ _ hartifact => Schema.isType_of_artifact hartifact)
    fun _ _ _ hartifact => Operation.isType_of_artifact hartifact

variable (htext : ∀ operation ∈ operations, operation.TextNamed)

include htext

/-- For expressions the texts of the operations are needed as well. -/
theorem isExpr_of_mem_expressions : ∀ node ∈ result.expressions, node.IsExpr :=
  forall_nodes hscope hrun (fun _ _ hartifact => Schema.isExpr_of_artifact hartifact)
    fun operation hmem _ hartifact => Operation.isExpr_of_artifact (htext operation hmem) hartifact

/-- All that a run has to write down can be written: types and expressions by what they are,
documentation because it is text. -/
theorem printable_of_run : result.Printable where
  moduledocs artifact hmem := by
    obtain ⟨schema, _, _, _, _, hartifact⟩ := (mem_schemas_iff hscope hrun).mp hmem
    exact Source.exists_documentation (Schema.isText_doc_of_artifact hartifact) _
  docs artifact hmem := by
    obtain ⟨operation, hoperation, hartifact⟩ := (mem_operations_iff hscope hrun).mp hmem
    -- the docstring of an operation is passed on without being looked at
    have hdoc : artifact.doc = operation.doc := (Operation.artifact_eq_ok hartifact).2.2
    exact Source.exists_documentation (hdoc ▸ (htext operation hoperation).docstring) _
  specs artifact hmem := by
    obtain ⟨operation, _, hartifact⟩ := (mem_operations_iff hscope hrun).mp hmem
    have hsignature := (Operation.artifact_eq_ok hartifact).1
    obtain ⟨harguments, hreturn⟩ := Operation.isType_of_signature hsignature
    exact Source.exists_specText harguments hreturn
  functions artifact hmem := by
    obtain ⟨operation, hoperation, hartifact⟩ := (mem_operations_iff hscope hrun).mp hmem
    have hfunction := (Operation.artifact_eq_ok hartifact).2.1
    obtain ⟨hdefaults, hbody⟩ := Operation.isExpr_of_function (htext operation hoperation) hfunction
    exact Source.exists_functionText hdefaults hbody
  types node hnode part hpart := by
    have htype : part.IsType := (isType_of_mem_types hscope hrun node hnode).parts part hpart
    exact ⟨Source.writesTypes_typeText.exists_text htype,
      Source.writesTypes_markerText.exists_text htype⟩
  expressions node hnode := by
    have hexpr : node.IsExpr := isExpr_of_mem_expressions hscope hrun htext node hnode
    refine ⟨Source.exists_exprText hexpr, fun part hpart => ?_⟩
    rcases hexpr.parts part hpart with hpart | hpart
    · exact Source.prints_of_isExpr hpart
    · exact Source.prints_of_isType hpart
  scalars node hnode name hpart := by
    -- no expression is a scalar, so a scalar in an expression lies in a type
    have hscalar : (Node.scalar name).IsType := by
      rcases List.mem_append.mp hnode with hnode | hnode
      · exact (isType_of_mem_types hscope hrun node hnode).parts _ hpart
      · have hexpr : node.IsExpr := isExpr_of_mem_expressions hscope hrun htext node hnode
        exact (hexpr.parts _ hpart).resolve_left nofun
    cases hscalar with
    | scalar hname => exact hname

end Run

/-- **Only a path can go wrong.** A run on a document in which everything that names or tells
something is text has a result, all of which can be written, or it ends in a complaint about the
configuration. Rename rules are left out: their replacements may be at fault. -/
theorem generate_total {document : Json} {descriptors : Descriptors} {config : Config}
    (hread : readDescriptors document = .ok descriptors) (htext : descriptors.TextNamed)
    (hrename : config.naming.rename = []) (herror : ∀ ref ∈ config.errorType, ref.Sound) :
    (∃ result trace,
        (generate .default descriptors.schemas descriptors.operations config).run.run {} =
          (.ok result, trace) ∧ result.Printable) ∨
      ∃ cause trace,
        (generate .default descriptors.schemas descriptors.operations config).run.run {} =
          (.error (.configuration cause), trace) := by
  obtain ⟨table, htable⟩ :=
    NameTable.exists_build (fun schema hmem => (htext.schemas schema hmem).name) hrename
  have hscope : Scope.ofSchemas descriptors.schemas config = .ok ⟨config, table⟩ :=
    Scope.ofSchemas_eq_ok.mpr ⟨htable, rfl⟩
  -- what was read has references throughout, so only their names have to be asked for
  have hinput : InputSound descriptors.schemas descriptors.operations config := by
    refine ⟨htext.schemas, fun operation hmem => ?_, herror⟩
    exact (htext.operations operation hmem).sound (proper_of_readDescriptors hread operation hmem)
  rcases generate_outcome hinput hscope with ⟨result, trace, hrun⟩ | ⟨cause, trace, _, hrun⟩
  · exact .inl ⟨result, trace, hrun, printable_of_run hscope hrun htext.operations⟩
  · exact .inr ⟨cause, trace, hrun⟩

section Sample

/-- A document with a schema of two fields and an operation that refers to it at some depth. -/
def petDocument : Json :=
  .obj [
    ("schemas", .arr [.obj [("name", .str "pet"), ("properties", .obj [
      ("parent", .obj [("$ref", .str "pet")]),
      ("tags", .obj [("type", .str "array"), ("items", .obj [("type", .str "string")])])])]]),
    ("operations", .arr [.obj [("function_name", .str "show"), ("module_name", .str "Pets"),
      ("method", .str "GET"), ("path", .str "/pets"),
      ("responses", .obj [("200", .obj [("application/json", .obj [("oneOf", .arr [
        .obj [("$ref", .str "pet")], .obj [("type", .str "null")]])])])])]])]

def petDescriptors : Descriptors where
  schemas := [{
    name := .str "pet", kind := .primitive .object
    properties := [
      ("parent", { name := .str "parent", kind := .reference, ref := .str "pet" }),
      ("tags", {
        name := .str "tags", kind := .array
        items := some { name := .str "", kind := .primitive .string } })] }]
  operations := [{
    functionName := .str "show", moduleName := .str "Pets", method := "get", path := .str "/pets"
    responses := [(.code 200, [("application/json",
      .union [.schema (.str "pet"), .primitive .null])])] }]

theorem petDescriptors_textNamed : petDescriptors.TextNamed where
  schemas := by
    refine List.forall_mem_singleton.mpr ⟨⟨_, rfl⟩, ?_⟩
    simp [Schema.typeRef, TypeRef.TextNamed, TypeRef.IsTextNamed, Json.IsText, Json.orElse,
      Json.truthy]
  operations := by
    refine List.forall_mem_singleton.mpr
      ⟨⟨⟨_, rfl⟩, List.forall_mem_nil _, List.forall_mem_nil _⟩, ⟨⟨_, rfl⟩, ⟨_, rfl⟩⟩, ⟨_, rfl⟩,
        List.forall_mem_nil _, ?_⟩
    simp [Operation.refs, Operation.contentRefs, TypeRef.TextNamed, TypeRef.IsTextNamed,
      Json.IsText]

theorem generate_total_petDocument :
    readDescriptors petDocument = .ok petDescriptors ∧
      ((∃ result trace,
          (generate .default petDescriptors.schemas petDescriptors.operations {}).run.run {} =
            (.ok result, trace) ∧ result.Printable) ∨
        ∃ cause trace,
          (generate .default petDescriptors.schemas petDescriptors.operations {}).run.run {} =
            (.error (.configuration cause), trace)) := by
  have hread : readDescriptors petDocument = .ok petDescriptors := by rfl
  exact ⟨hread, generate_total hread petDescriptors_textNamed rfl nofun⟩

end Sample

end ElixirClient
