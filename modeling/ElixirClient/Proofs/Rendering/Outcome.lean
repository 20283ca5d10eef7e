import ElixirClient.Proofs.PathTemplate.Fit
import ElixirClient.Proofs.Rendering.Artifact
import ElixirClient.Proofs.Resolver.Resolution

/-!
# How rendering an artifact ends

For descriptors that are called by text, rendering ends in one of a few ways. A schema is rendered
if all schemas in its properties are known (`Schema.artifact_restsOn`). An operation has its
signature made first, then its path checked, then its tables made; so an unknown schema in the
signature comes before a path that does not fit (`Operation.artifact_of_not_fits`), and for a path
that fits only the schemas count (`Operation.artifact_of_fits`).
-/

namespace ElixirClient

open Resolver (RestsOn)
open TypeRef (Mentions)

/-! ## Schemas -/

namespace Schema

variable {scope : Scope} {schema : Schema}

/-- The types of the fields. -/
def fieldRefs (schema : Schema) : List TypeRef :=
  schema.propertiesByName.map fun entry => entry.2.typeRef

theorem mem_propertiesByName {entry : String × Schema} :
    entry ∈ schema.propertiesByName ↔ entry ∈ schema.properties :=
  (List.mergeSort_perm _ _).mem_iff

/-- What a property stands for is a reference at every depth. -/
theorem proper_typeRef : (schema : Schema) → schema.typeRef.Proper
  | ⟨_, .reference, _, _, _, _, _⟩ => by simp [typeRef, TypeRef.Proper, TypeRef.IsProper]
  | ⟨_, .array, _, _, _, none, _⟩ => by simp [typeRef, TypeRef.Proper, TypeRef.IsProper]
  | ⟨_, .array, _, _, _, some items, _⟩ => by
    have hitems := proper_typeRef items
    rwa [typeRef, TypeRef.Proper, TypeRef.leaves_array]
  | ⟨_, .primitive _, _, _, _, _, _⟩ => by simp [typeRef, TypeRef.Proper, TypeRef.IsProper]

/-- The name of a schema and the schemas in its properties are text. -/
structure TextNamed (schema : Schema) : Prop where
  name : schema.name.IsText
  properties : ∀ entry ∈ schema.properties, entry.2.typeRef.TextNamed

theorem fieldTypes_restsOn (h : schema.TextNamed) :
    scope.resolver.RestsOn schema.fieldRefs (schema.fieldTypes scope) := by
  rw [fieldRefs, List.map_eq_flatMap]
  refine RestsOn.mapM fun entry hentry => ?_
  have htext := h.properties entry (mem_propertiesByName.mp hentry)
  exact (Resolver.resolve_restsOn ⟨proper_typeRef entry.2, htext⟩).map _

/-- A decoder asks for nothing that the type of its field has not asked for. -/
theorem exists_decoder {name : String} {property : Schema} {node : Node}
    (h : scope.resolver.resolve property.typeRef = .ok node) :
    ∃ node, property.decoder scope name = .ok node := by
  unfold decoder
  simp only
  cases hkind : property.kind with
  | array => exact ⟨_, rfl⟩
  | primitive kind => exact ⟨_, rfl⟩
  | reference =>
    rw [typeRef_reference hkind, Resolver.resolve] at h
    obtain ⟨module, hmodule, _⟩ := map_eq_ok.mp h
    simp only [hmodule]
    exact ⟨_, rfl⟩

/-- A schema of the table is rendered if the schemas in its properties are known. -/
theorem artifact_restsOn (h : schema.TextNamed) {name : String}
    (hname : schema.normalizedName scope = .ok name) :
    scope.resolver.RestsOn schema.fieldRefs (schema.artifact scope) := by
  unfold artifact
  rw [hname]
  refine (fieldTypes_restsOn h).bind_ok fun types htypes => ?_
  have hdecoders : ∃ decoders, schema.decoders scope = .ok decoders := by
    refine exists_mapM_eq_ok fun entry hentry => ?_
    obtain ⟨_, hround⟩ := exists_of_mapM_eq_ok htypes entry hentry
    obtain ⟨node, hnode, _⟩ := bind_eq_ok.mp hround
    obtain ⟨decoder, hdecoder⟩ : ∃ decoder, entry.2.decoder scope entry.1 = .ok decoder :=
      exists_decoder hnode
    exact ⟨(entry.1, decoder), bind_eq_ok.mpr ⟨decoder, hdecoder, rfl⟩⟩
  obtain ⟨decoders, hdecoders⟩ := hdecoders
  rw [hdecoders]
  exact ⟨_, rfl⟩

end Schema

/-! ## Operations -/

namespace Operation

variable {scope : Scope} {operation : Operation}

/-- The types in the error arm of a return type. -/
def errorRefs (config : Config) (operation : Operation) : List TypeRef :=
  match config.errorType with
  | some type => [type]
  | none => operation.outcomeTypes false

/-- The types in the signature of an operation. -/
def signatureRefs (config : Config) (operation : Operation) : List TypeRef :=
  operation.pathParams.map Param.type ++ (operation.requestBody.map (·.2) ++
    (operation.outcomeTypes true ++ operation.errorRefs config))

/-- The types of one response. -/
def contentRefs (response : Status × Content) : List TypeRef := response.2.map (·.2)

/-- The types in the tables of an operation. -/
def tableRefs (operation : Operation) : List TypeRef :=
  operation.requestBody.map (·.2) ++ operation.responsesByStatus.flatMap contentRefs

/-- All types of an operation that come to be in the generated code. -/
def refs (operation : Operation) : List TypeRef :=
  operation.pathParams.map Param.type ++ operation.requestBody.map (·.2) ++
    operation.responses.flatMap contentRefs

theorem mem_responsesByStatus {response : Status × Content} :
    response ∈ operation.responsesByStatus ↔ response ∈ operation.responses :=
  (List.mergeSort_perm _ _).mem_iff

/-- The types of an operation are those of its path parameters and those in its tables. -/
theorem mem_refs {ref : TypeRef} : ref ∈ operation.refs ↔
    ref ∈ operation.pathParams.map Param.type ∨ ref ∈ operation.tableRefs := by
  unfold refs tableRefs
  simp only [List.mem_append, List.mem_flatMap, mem_responsesByStatus, or_assoc]

theorem mem_refs_of_body {ref : TypeRef} (h : ref ∈ operation.requestBody.map (·.2)) :
    ref ∈ operation.refs :=
  mem_refs.mpr (.inr (List.mem_append_left _ h))

theorem mem_refs_of_response {response : Status × Content}
    (hresponse : response ∈ operation.responsesByStatus) {ref : TypeRef}
    (h : ref ∈ contentRefs response) : ref ∈ operation.refs :=
  mem_refs.mpr (.inr (List.mem_append_right _ (List.mem_flatMap.mpr ⟨response, hresponse, h⟩)))

theorem mem_refs_of_mem_outcomeTypes {success : Bool} {ref : TypeRef}
    (h : ref ∈ operation.outcomeTypes success) : ref ∈ operation.refs := by
  obtain ⟨response, hresponse, h⟩ := List.mem_flatMap.mp h
  simp only at h
  split at h
  · cases h
  · exact mem_refs_of_response hresponse h

/-- An error type from the configuration takes the place of the types of the error responses. -/
theorem mem_refs_of_mem_errorRefs {config : Config} {ref : TypeRef}
    (h : ref ∈ operation.errorRefs config) : ref ∈ operation.refs ∨ ref ∈ config.errorType := by
  unfold errorRefs at h
  cases herror : config.errorType with
  | none =>
    rw [herror] at h
    exact .inl (mem_refs_of_mem_outcomeTypes h)
  | some type =>
    rw [herror] at h
    exact .inr (congrArg some (List.mem_singleton.mp h).symm)

theorem mem_refs_of_mem_signatureRefs {config : Config} {ref : TypeRef}
    (h : ref ∈ operation.signatureRefs config) :
    ref ∈ operation.refs ∨ ref ∈ config.errorType := by
  rcases List.mem_append.mp h with h | h
  · exact .inl (mem_refs.mpr (.inl h))
  rcases List.mem_append.mp h with h | h
  · exact .inl (mem_refs_of_body h)
  rcases List.mem_append.mp h with h | h
  · exact .inl (mem_refs_of_mem_outcomeTypes h)
  · exact mem_refs_of_mem_errorRefs h

/-- Every type of an operation has a place in its artifact, and so has the configured error. -/
theorem mem_signatureRefs_append_tableRefs {config : Config} {ref : TypeRef} :
    ref ∈ operation.signatureRefs config ++ operation.tableRefs ↔
      ref ∈ operation.refs ∨ ref ∈ config.errorType := by
  constructor
  · intro h
    rcases List.mem_append.mp h with h | h
    · exact mem_refs_of_mem_signatureRefs h
    · exact .inl (mem_refs.mpr (.inr h))
  · rintro (h | h)
    · rcases mem_refs.mp h with h | h
      · exact List.mem_append_left _ (List.mem_append_left _ h)
      · exact List.mem_append_right _ h
    · have herror : operation.errorRefs config = [ref] := by
        unfold errorRefs
        rw [h]
      refine List.mem_append_left _ (List.mem_append_right _ (List.mem_append_right _
        (List.mem_append_right _ ?_)))
      rw [herror]
      exact List.mem_cons_self

/-- Everything in an operation that names something is text, and its types are references. -/
structure Sound (operation : Operation) : Prop extends operation.PathTextNamed where
  names : operation.moduleName.IsText ∧ operation.functionName.IsText
  refs : ∀ ref ∈ operation.refs, ref.Sound

/-- Without a body there are no types of one. -/
theorem requestRefs_eq_nil (h : operation.hasBody = false) :
    operation.requestBody.map (·.2) = [] := by
  rw [hasBody, Bool.not_eq_false', List.isEmpty_iff] at h
  rw [h, List.map_nil]

/-- Without responses there are no types of these. -/
theorem responseRefs_eq_nil (h : (!operation.responses.isEmpty) = false) :
    operation.responsesByStatus.flatMap contentRefs = [] := by
  rw [Bool.not_eq_false', List.isEmpty_iff] at h
  rw [responsesByStatus, h, List.mergeSort_nil, List.flatMap_nil]

section Sound

variable (h : operation.Sound) (herror : ∀ ref ∈ scope.config.errorType, ref.Sound)

/-- An outcome without types is a marker and rests on nothing. -/
theorem outcome_restsOn {tag : String} {types : List TypeRef} (h : ∀ ref ∈ types, ref.Sound) :
    scope.resolver.RestsOn types (outcome scope.resolver tag types) := by
  unfold outcome
  split
  · next hempty =>
    rw [List.isEmpty_iff.mp hempty]
    exact .nil _
  · exact (Resolver.union_restsOn h).map _

include h in
theorem bodyTypes_restsOn :
    scope.resolver.RestsOn (operation.requestBody.map (·.2)) (operation.bodyTypes scope) := by
  unfold bodyTypes
  split
  · refine (Resolver.union_restsOn fun ref href => h.refs ref ?_).map _
    exact mem_refs_of_body href
  · next hbody =>
    rw [requestRefs_eq_nil (Bool.not_eq_true _ ▸ hbody)]
    exact .nil _

include h herror

/-- The arm of successes is resolved in front of the arm of errors. -/
theorem returnType_restsOn :
    scope.resolver.RestsOn (operation.outcomeTypes true ++ operation.errorRefs scope.config)
      (operation.returnType scope) := by
  have herrorOutcome : scope.resolver.RestsOn (operation.errorRefs scope.config)
      (operation.errorOutcome scope) := by
    unfold errorRefs errorOutcome
    cases htype : scope.config.errorType with
    | none => exact outcome_restsOn fun ref href => h.refs ref (mem_refs_of_mem_outcomeTypes href)
    | some type => exact (Resolver.resolve_restsOn (herror type htype)).map _
  have hok : scope.resolver.RestsOn (operation.outcomeTypes true)
      (outcome scope.resolver "ok" (operation.outcomeTypes true)) :=
    outcome_restsOn fun ref href => h.refs ref (mem_refs_of_mem_outcomeTypes href)
  rw [returnType_eq]
  exact hok.bind fun ok _ => herrorOutcome.map _

/-- Parameters, body and return type, in this order, are all that a signature resolves. -/
theorem signature_restsOn :
    scope.resolver.RestsOn (operation.signatureRefs scope.config) (operation.signature scope) := by
  have hparams : scope.resolver.RestsOn (operation.pathParams.map Param.type)
      (scope.resolver.resolveAll (operation.pathParams.map Param.type)) :=
    Resolver.resolveAll_restsOn fun ref href =>
      h.refs ref (mem_refs.mpr (.inl href))
  rw [signature_eq]
  refine hparams.bind fun params _ => (bodyTypes_restsOn h).bind fun body _ => ?_
  exact (returnType_restsOn h herror).map _

end Sound

/-! ### The body of the function -/

/-- Query parameters are sorted by name, and text can always be sorted. -/
theorem exists_query (h : ∀ param ∈ operation.queryParams, param.name.IsText) :
    ∃ query, operation.query = .ok query := by
  unfold query
  split
  · exact ⟨_, rfl⟩
  · have hkeys : ∀ key ∈ operation.queryParams.map Param.name, (id key).IsText := by
      intro key hkey
      obtain ⟨param, hparam, rfl⟩ := List.mem_map.mp hkey
      exact h param hparam
    rw [Json.sortBy?_text hkeys]
    exact ⟨_, rfl⟩

theorem requestTable_restsOn (h : operation.Sound) :
    scope.resolver.RestsOn (operation.requestBody.map (·.2))
      (operation.requestTable scope.resolver) := by
  have hpairs : scope.resolver.RestsOn (operation.requestBody.flatMap fun entry => [entry.2])
      (operation.requestBody.mapM fun entry => do
        return Node.pair (.literal entry.1) (.typeValue (← scope.resolver.resolve entry.2))) := by
    refine RestsOn.mapM fun entry hentry => ?_
    refine (Resolver.resolve_restsOn (h.refs entry.2 ?_)).map _
    exact mem_refs_of_body (List.mem_map.mpr ⟨entry, hentry, rfl⟩)
  rw [List.map_eq_flatMap]
  exact hpairs.map _

theorem responseTable_restsOn (h : operation.Sound) :
    scope.resolver.RestsOn (operation.responsesByStatus.flatMap contentRefs)
      (operation.responseTable scope.resolver) := by
  have hpairs : scope.resolver.RestsOn (operation.responsesByStatus.flatMap contentRefs)
      (operation.responsesByStatus.mapM fun response => do
        return Node.pair response.1.node
          (.typeValue (← scope.resolver.union (response.2.map (·.2))))) := by
    refine RestsOn.mapM fun response hresponse => ?_
    refine (Resolver.union_restsOn fun ref href => h.refs ref ?_).map _
    exact mem_refs_of_response hresponse href
  exact hpairs.map _

/-- An entry of the descriptor is there if what it is made of is not empty. -/
theorem entryIf_restsOn {condition : Bool} {key : String} {value : Except Fault Node}
    {refs : List TypeRef} (hvalue : scope.resolver.RestsOn refs value)
    (hrefs : condition = false → refs = []) :
    scope.resolver.RestsOn refs (entryIf condition key value) := by
  unfold entryIf
  split
  · exact hvalue.map _
  · next hcondition =>
    rw [hrefs (Bool.not_eq_true _ ▸ hcondition)]
    exact .nil _

theorem exists_entryIf (condition : Bool) (key : String) (node : Node) :
    ∃ entries, entryIf condition key (.ok node) = .ok entries := by
  unfold entryIf
  split <;> exact ⟨_, rfl⟩

/-- With a path that is rendered, only the two tables can meet an unknown schema. They rest on the
references of the operation even where they are left out, as then there are no references for
them. -/
theorem call_restsOn (h : operation.Sound) {pieces : List Piece}
    (hurl : operation.url = .ok pieces) :
    scope.resolver.RestsOn operation.tableRefs (operation.call scope) := by
  obtain ⟨_, arguments, _, harguments, _⟩ := url_eq_ok.mp hurl
  have hrequest : scope.resolver.RestsOn (operation.requestBody.map (·.2))
      (entryIf operation.hasBody "request" (operation.requestTable scope.resolver)) :=
    entryIf_restsOn (requestTable_restsOn h) requestRefs_eq_nil
  have hresponse : scope.resolver.RestsOn (operation.responsesByStatus.flatMap contentRefs)
      (entryIf (!operation.responses.isEmpty) "response"
        (operation.responseTable scope.resolver)) :=
    entryIf_restsOn (responseTable_restsOn h) responseRefs_eq_nil
  -- body and query are variables and need no schema
  obtain ⟨body, hbody⟩ := exists_entryIf operation.hasBody "body" (.var "body")
  obtain ⟨query, hquery⟩ :=
    exists_entryIf (!operation.queryParams.isEmpty) "query" (.var "query")
  unfold call tableRefs
  rw [harguments, hurl, hbody, hquery]
  exact hrequest.bind fun request _ => hresponse.map _

/-- As `call_restsOn`, since the statements in front of the request need no schema. -/
theorem function_restsOn (h : operation.Sound) (hfits : operation.Fits) :
    scope.resolver.RestsOn operation.tableRefs (operation.function scope) := by
  obtain ⟨pieces, hurl⟩ := (fits_iff h.path h.pathParams).mp hfits
  obtain ⟨_, arguments, _, harguments, _⟩ := url_eq_ok.mp hurl
  obtain ⟨query, hquery⟩ := exists_query h.queryParams
  unfold function
  rw [harguments, hquery]
  exact (call_restsOn h hurl).map _

/-- A path that does not fit is noticed before any type is looked at. -/
theorem function_eq_error (h : operation.Sound) (hfits : ¬ operation.Fits) :
    ∃ cause, operation.function scope = .error (.configuration cause) := by
  obtain ⟨cause, hurl⟩ :=
    ((url_cases h.path h.pathParams).resolve_left fun hcase => hfits hcase.1).2
  obtain ⟨query, hquery⟩ := exists_query h.queryParams
  refine ⟨cause, ?_⟩
  unfold function
  -- either the parameters have no arguments, or the path is checked against these first of all
  cases harguments : operation.pathArguments with
  | error fault =>
    rw [url, harguments] at hurl
    obtain rfl : fault = .configuration cause := Except.error.inj hurl
    rfl
  | ok arguments =>
    unfold call
    rw [hquery, harguments, hurl]
    rfl

/-! ### The whole artifact -/

section Artifact

variable (h : operation.Sound) (herror : ∀ ref ∈ scope.config.errorType, ref.Sound)

include h herror

/-- Where the path fits, rendering rests on the references alone, first those of the signature and
then those of the tables. -/
theorem artifact_of_fits (hfits : operation.Fits) :
    scope.resolver.RestsOn (operation.signatureRefs scope.config ++ operation.tableRefs)
      (operation.artifact scope) :=
  (signature_restsOn h herror).bind fun _ _ => (function_restsOn h hfits).map _

/-- Of two faults in one operation, the one in its signature comes first. -/
theorem artifact_of_not_fits (hfits : ¬ operation.Fits) :
    ((∀ raw, Mentions (operation.signatureRefs scope.config) raw → scope.resolver.Knows raw) ∧
        ∃ cause, operation.artifact scope = .error (.configuration cause)) ∨
      ∃ raw, Mentions (operation.signatureRefs scope.config) raw ∧ ¬ scope.resolver.Knows raw ∧
        operation.artifact scope = .error (.dangling ⟨raw, none⟩) := by
  unfold artifact
  rcases signature_restsOn h herror with ⟨hknown, signature, hsignature⟩ | ⟨raw, hraw, hsig⟩
  · obtain ⟨cause, hcause⟩ : ∃ cause, operation.function scope = .error (.configuration cause) :=
      function_eq_error h hfits
    refine .inl ⟨hknown, cause, ?_⟩
    rw [hsignature, hcause]
    rfl
  · refine .inr ⟨raw, hraw.mentions, hraw.not_knows, ?_⟩
    rw [hsig]
    rfl

/-- A complaint about the path is made only if the signature could be made before. -/
theorem of_artifact_eq_configuration {cause : ConfigurationFault}
    (hartifact : operation.artifact scope = .error (.configuration cause)) :
    ¬ operation.Fits ∧
      ∀ raw, Mentions (operation.signatureRefs scope.config) raw → scope.resolver.Knows raw := by
  have hfits : ¬ operation.Fits := by
    intro hfits
    rcases artifact_of_fits h herror hfits with ⟨_, artifact, hok⟩ | ⟨raw, _, hraw⟩
    · rw [hartifact] at hok
      cases hok
    · rw [hartifact] at hraw
      cases hraw
  refine ⟨hfits, ?_⟩
  rcases artifact_of_not_fits h herror hfits with ⟨hknown, _⟩ | ⟨raw, _, _, hraw⟩
  · exact hknown
  · rw [hartifact] at hraw
    cases hraw

end Artifact

end Operation

end ElixirClient
