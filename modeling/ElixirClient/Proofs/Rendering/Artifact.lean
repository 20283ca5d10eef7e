import ElixirClient.Proofs.Fault.Confined
import ElixirClient.Proofs.Fault.Loops
import ElixirClient.Proofs.Session.Detached
import ElixirClient.Renderer

/-!
# What the default steps make of a descriptor

The default steps neither read nor write the trace, so rendering with them is a function of the
descriptor: `Schema.artifact` and `Operation.artifact`. `default_renderSchema` and
`default_renderOperation` replace the steps by these functions once and for all.

The faults of both are unattributed (`Schema.unattributed_artifact`,
`Operation.unattributed_artifact`): the only dangling references in them are those that
`Resolver.moduleName` reports, and that one knows of no artifact.
-/

namespace ElixirClient

/-! ## Rendering as a function -/

def Schema.artifact (scope : Scope) (schema : Schema) : Except Fault SchemaArtifact := do
  let name ← schema.normalizedName scope
  let fieldTypes ← schema.fieldTypes scope
  let decoders ← schema.decoders scope
  return {
    name, fieldTypes, decoders
    doc := schema.doc
    fieldNames := schema.fieldNames
    module := scope.config.qualified (.str name)
    location := Naming.underscore name }

def Operation.artifact (scope : Scope) (operation : Operation) :
    Except Fault OperationArtifact := do
  let signature ← operation.signature scope
  let function ← operation.function scope
  return { name := operation.functionName, doc := operation.doc, signature, function }

/-- The parts of a schema put together, whatever its documentation is. -/
theorem renderSchemaParts_eq (doc : Schema → Doc) (scope : Scope) (schema : Schema) :
    renderSchemaParts { Renderer.default.schemaParts with
      doc := fun _ schema => pure (doc schema) } scope schema = Render.ofExcept (do
        let name ← schema.normalizedName scope
        let fieldTypes ← schema.fieldTypes scope
        let decoders ← schema.decoders scope
        return {
          name, fieldTypes, decoders
          doc := doc schema
          fieldNames := schema.fieldNames
          module := scope.config.qualified (.str name)
          location := Naming.underscore name }) := by
  unfold renderSchemaParts
  -- no default step reads or writes the trace, so they can be run one after the other
  cases schema.normalizedName scope with
  | error fault => rfl
  | ok name =>
    show (Render.ofExcept (schema.fieldTypes scope) >>= _ : Render SchemaArtifact) = _
    cases schema.fieldTypes scope with
    | error fault => rfl
    | ok types =>
      show (Render.ofExcept (schema.decoders scope) >>= _ : Render SchemaArtifact) = _
      cases schema.decoders scope <;> rfl

/-- What a run of the default steps makes of a schema is a function of it, and leaves the trace as
it is. All that is proved of `Schema.artifact` is so proved of the run. -/
theorem default_renderSchema (scope : Scope) (schema : Schema) :
    Renderer.default.renderSchema scope schema =
      Render.ofExcept (schema.artifact scope) :=
  renderSchemaParts_eq Schema.doc scope schema

/-- The parts of an operation put together, whatever its documentation is. -/
theorem renderOperationParts_eq (doc : Operation → Doc) (scope : Scope) (operation : Operation) :
    renderOperationParts { Renderer.default.operationParts with
      doc := fun _ operation => pure (doc operation) } scope operation = Render.ofExcept (do
        let signature ← operation.signature scope
        let function ← operation.function scope
        return { name := operation.functionName, doc := doc operation, signature, function }) := by
  unfold renderOperationParts
  -- the signature is first, so its fault hides one of the path
  show (Render.ofExcept (operation.signature scope) >>= _ : Render OperationArtifact) = _
  cases operation.signature scope with
  | error fault => rfl
  | ok signature =>
    show (Render.ofExcept (operation.function scope) >>= _ : Render OperationArtifact) = _
    cases operation.function scope <;> rfl

/-- The same for an operation. -/
theorem default_renderOperation (scope : Scope) (operation : Operation) :
    Renderer.default.renderOperation scope operation =
      Render.ofExcept (operation.artifact scope) :=
  renderOperationParts_eq Operation.doc scope operation

/-- Place and field names of an artifact are never resolved: the place is what its name says, and
the fields are called as the properties are. -/
theorem Schema.unresolved_artifact {scope : Scope} {schema : Schema} {artifact : SchemaArtifact}
    (h : schema.artifact scope = .ok artifact) :
    artifact.location = Naming.underscore artifact.name ∧
      artifact.fieldNames = schema.fieldNames := by
  obtain ⟨name, _, h⟩ := bind_eq_ok.mp h
  obtain ⟨types, _, h⟩ := bind_eq_ok.mp h
  obtain ⟨decoders, _, h⟩ := bind_eq_ok.mp h
  cases h
  exact ⟨rfl, rfl⟩

/-- A schema has the name that the table has for its raw name. -/
theorem Schema.normalizedName_eq_ok {scope : Scope} {schema : Schema} {name : String} :
    schema.normalizedName scope = .ok name ↔ scope.names.find? schema.name = .ok (some name) := by
  unfold normalizedName
  constructor
  · intro h
    obtain ⟨found, hfound, h⟩ := bind_eq_ok.mp h
    cases found with
    -- a schema that the table does not know ends the run
    | none => cases h
    | some found =>
      cases h
      exact hfound
  · intro h
    exact bind_eq_ok.mpr ⟨some name, h, rfl⟩

/-! ## Resolving names no artifact -/

/-- Nothing dangles in a value of the wrong kind. -/
theorem Fault.unattributed_wrongKind : Fault.wrongKind.Unattributed :=
  unattributed_of_ne (by nofun)

theorem Fault.unattributed_configuration (cause : ConfigurationFault) :
    (Fault.configuration cause).Unattributed :=
  unattributed_of_ne (by nofun)

/-- A lookup does not know what is being rendered. It ends in a fault only if the raw name is no
key. -/
theorem NameTable.unattributed_find? (table : NameTable) (raw : Json) :
    Confined Fault.Unattributed (table.find? raw) := by
  unfold NameTable.find?
  -- lists and objects are no keys; any other value is one, and only texts are ever found
  split
  · exact .ok _
  · exact .error Fault.unattributed_wrongKind
  · exact .error Fault.unattributed_wrongKind
  · exact .ok _

/-- A merge has resolved all its members, and fails only on a module that is no key. -/
theorem Node.unattributed_merge (nodes : List Node) :
    Confined Fault.Unattributed (Node.merge nodes) := by
  unfold Node.merge
  simp only
  split
  · exact .error Fault.unattributed_wrongKind
  · exact .ok _

namespace Resolver

variable (r : Resolver)

/-- The one place where references dangle. The fault names the reference and leaves the artifact
open. -/
theorem unattributed_moduleName (raw : Json) :
    Confined Fault.Unattributed (r.moduleName raw) := by
  unfold moduleName
  refine (NameTable.unattributed_find? r.names raw).bind fun found _ => ?_
  -- the table may fail, find nothing, or find a name
  cases found with
  -- the one place where a reference dangles
  | none => exact .error ((Fault.unattributed_dangling _).mpr rfl)
  | some normalized => exact .ok _

mutual
/-- All other faults of resolving are those of lookups and merges. -/
theorem unattributed_resolve : (ref : TypeRef) → Confined Fault.Unattributed (r.resolve ref)
  | .primitive kind => by
    rw [resolve]
    exact .ok _
  | .array item => by
    rw [resolve]
    exact (unattributed_resolve item).map _
  | .schema name => by
    rw [resolve]
    exact (r.unattributed_moduleName name).map _
  | .external module => by
    rw [resolve]
    exact .ok _
  | .union members => by
    rw [resolve]
    exact (unattributed_resolveAll members).bind fun nodes _ => Node.unattributed_merge nodes
  | .stray value => by
    rw [resolve]
    exact .error (Fault.unattributed_of_ne (by nofun))

theorem unattributed_resolveAll :
    (refs : List TypeRef) → Confined Fault.Unattributed (r.resolveAll refs)
  | [] => by
    rw [resolveAll]
    exact .ok _
  | ref :: rest => by
    rw [resolveAll]
    refine (unattributed_resolve ref).bind fun node _ => ?_
    exact (unattributed_resolveAll rest).bind fun nodes _ => .ok _
end

theorem unattributed_union (refs : List TypeRef) :
    Confined Fault.Unattributed (r.union refs) :=
  (r.unattributed_resolveAll refs).bind fun nodes _ => Node.unattributed_merge nodes

end Resolver

/-! ## Nor does rendering -/

namespace Schema

variable (scope : Scope) (schema : Schema)

/-- A schema whose own name is missing is no dangling reference: nothing refers to it. -/
theorem unattributed_normalizedName :
    Confined Fault.Unattributed (schema.normalizedName scope) := by
  unfold normalizedName
  refine (NameTable.unattributed_find? scope.names schema.name).bind fun found _ => ?_
  cases found with
  | none => exact .error (Fault.unattributed_of_ne (by nofun))
  | some name => exact .ok name

theorem unattributed_decoder (name : String) (property : Schema) :
    Confined Fault.Unattributed (property.decoder scope name) := by
  unfold decoder
  simp only
  split
  · exact .ok _
  · exact (scope.resolver.unattributed_moduleName _).bind fun module _ => .ok _
  · exact .ok _

/-- Rendering a schema knows the name of the artifact and still does not put it into a fault. That
is left to the run, which leaves the artifact out. -/
theorem unattributed_artifact : Confined Fault.Unattributed (schema.artifact scope) := by
  have htypes : Confined Fault.Unattributed (schema.fieldTypes scope) :=
    .mapM fun entry _ => (scope.resolver.unattributed_resolve _).bind fun node _ => .ok _
  have hdecoders : Confined Fault.Unattributed (schema.decoders scope) :=
    .mapM fun entry _ => (unattributed_decoder scope entry.1 entry.2).bind fun node _ => .ok _
  refine (unattributed_normalizedName scope schema).bind fun name _ => ?_
  exact htypes.bind fun types _ => hdecoders.bind fun decoders _ => .ok _

end Schema

namespace Operation

variable (scope : Scope) (operation : Operation)

/-- The second arm of the return type. -/
def errorOutcome : Except Fault Node :=
  match scope.config.errorType with
  | some type => .tagged "error" <$> scope.resolver.resolve type
  | none => outcome scope.resolver "error" (operation.outcomeTypes false)

/-- The two arms of the return type in order. The configured error type takes the place of the
errors that are declared. -/
theorem returnType_eq : operation.returnType scope = do
    let ok ← outcome scope.resolver "ok" (operation.outcomeTypes true)
    let error ← operation.errorOutcome scope
    return .union [ok, error] := by
  unfold returnType errorOutcome
  cases scope.config.errorType <;> rfl

/-- The type of the body as a list: empty for an operation without one. -/
def bodyTypes : Except Fault (List Node) :=
  if operation.hasBody then
    (fun node => [node]) <$> scope.resolver.union (operation.requestBody.map (·.2))
  else .ok []

/-- The body adds one argument in front of the options, or none. -/
theorem signature_eq : operation.signature scope = do
    let params ← scope.resolver.resolveAll (operation.pathParams.map Param.type)
    let body ← operation.bodyTypes scope
    let returnType ← operation.returnType scope
    return {
      name := operation.functionName
      arguments := params ++ body ++ [.options]
      returnType := returnType } := by
  unfold signature bodyTypes
  cases operation.hasBody <;> rfl

/-- An arm fails only where the union of its types does. -/
theorem unattributed_outcome (resolver : Resolver) (tag : String) (types : List TypeRef) :
    Confined Fault.Unattributed (outcome resolver tag types) := by
  unfold outcome
  split
  · exact .ok _
  · exact (resolver.unattributed_union types).map _

theorem unattributed_returnType : Confined Fault.Unattributed (operation.returnType scope) := by
  have herror : Confined Fault.Unattributed (operation.errorOutcome scope) := by
    unfold errorOutcome
    split
    · exact (scope.resolver.unattributed_resolve _).map _
    · exact unattributed_outcome _ _ _
  rw [returnType_eq]
  exact (unattributed_outcome _ _ _).bind fun ok _ => herror.bind fun error _ => .ok _

/-- The arguments of a signature, the body and both arms, in this order. -/
theorem unattributed_signature : Confined Fault.Unattributed (operation.signature scope) := by
  have hbody : Confined Fault.Unattributed (operation.bodyTypes scope) := by
    unfold bodyTypes
    split
    · exact (scope.resolver.unattributed_union _).map _
    · exact .ok _
  rw [signature_eq]
  refine (scope.resolver.unattributed_resolveAll _).bind fun params _ => ?_
  refine hbody.bind fun body _ => ?_
  exact (unattributed_returnType scope operation).bind fun returnType _ => .ok _

/-- What is wrong with the names of path parameters is a complaint about the configuration and ends
the run. No reference is looked at. -/
theorem unattributed_pathArguments : Confined Fault.Unattributed operation.pathArguments := by
  unfold pathArguments
  refine .foldlM (fun done param _ => ?_) []
  unfold addArgument
  -- a reserved argument and one that is taken are complaints about the configuration
  split
  · simp only
    split
    · exact .error (Fault.unattributed_configuration _)
    · split
      · exact .error (Fault.unattributed_configuration _)
      · exact .ok _
  · exact .error Fault.unattributed_wrongKind

/-- Nor is one looked at where the path is checked against the parameters. -/
theorem unattributed_checkPath (path : String) (arguments : Arguments) :
    Confined Fault.Unattributed (operation.checkPath path arguments) := by
  unfold checkPath
  simp only
  split
  · exact .error (Fault.unattributed_configuration _)
  · split
    · exact .error (Fault.unattributed_configuration _)
    · exact .ok _

theorem unattributed_url : Confined Fault.Unattributed operation.url := by
  have hpath : Confined Fault.Unattributed operation.pathText := by
    unfold pathText
    split
    · exact .ok _
    · exact .error Fault.unattributed_wrongKind
  -- the parts of the url are made after the check and cannot fail
  refine (unattributed_pathArguments operation).bind fun arguments _ => ?_
  refine hpath.bind fun path _ => ?_
  exact (unattributed_checkPath operation path arguments).bind fun _ _ => .ok _

/-- An entry that is left away has no faults. -/
theorem unattributed_entryIf (condition : Bool) (key : String) {value : Except Fault Node}
    (hvalue : Confined Fault.Unattributed value) :
    Confined Fault.Unattributed (entryIf condition key value) := by
  unfold entryIf
  split
  · exact hvalue.map _
  · exact .ok _

/-- The entries of a call in order. Those for request and response are the only ones that resolve
types. -/
theorem unattributed_call : Confined Fault.Unattributed (operation.call scope) := by
  have hrequest : Confined Fault.Unattributed (operation.requestTable scope.resolver) := by
    refine Confined.bind (.mapM fun entry _ => ?_) fun pairs _ => .ok _
    exact (scope.resolver.unattributed_resolve _).bind fun node _ => .ok _
  have hresponse : Confined Fault.Unattributed (operation.responseTable scope.resolver) := by
    refine Confined.bind (.mapM fun entry _ => ?_) fun pairs _ => .ok _
    exact (scope.resolver.unattributed_union _).bind fun node _ => .ok _
  refine (unattributed_pathArguments operation).bind fun arguments _ => ?_
  refine (unattributed_url operation).bind fun url _ => ?_
  refine (unattributed_entryIf _ _ (.ok _)).bind fun body _ => ?_
  refine (unattributed_entryIf _ _ (.ok _)).bind fun query _ => ?_
  refine (unattributed_entryIf _ _ hrequest).bind fun request _ => ?_
  exact (unattributed_entryIf _ _ hresponse).bind fun response _ => .ok _

theorem unattributed_query : Confined Fault.Unattributed operation.query := by
  unfold query
  split
  · exact .ok _
  · exact (Confined.orderly Fault.unattributed_wrongKind _).bind fun keys _ => .ok _

/-- Rendering an operation does not name it in a fault either: first the signature is resolved, then
the path is checked, then the call is put together. -/
theorem unattributed_artifact : Confined Fault.Unattributed (operation.artifact scope) := by
  refine (unattributed_signature scope operation).bind fun signature _ => Confined.bind ?_ ?_
  · refine (unattributed_pathArguments operation).bind fun arguments _ => ?_
    refine (unattributed_query operation).bind fun query _ => ?_
    exact (unattributed_call scope operation).bind fun call _ => .ok _
  · intro function _
    exact .ok _

end Operation

end ElixirClient
