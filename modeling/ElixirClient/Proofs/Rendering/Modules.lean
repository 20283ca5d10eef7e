import ElixirClient.Proofs.Node.Parts
import ElixirClient.Proofs.Rendering.Outcome
import ElixirClient.Proofs.Rendering.Parts

/-!
# Modules that artifacts name

The types of an artifact name the modules that its descriptor refers to: `Carries` says so of a list
of references and a list of nodes, and goes from the parts of an artifact to the whole. So an
artifact names exactly the modules that its references lead to (`Schema.names_artifact`,
`Operation.names_artifact`), and decoders call no other (`Schema.decodesBy_artifact`).
-/

namespace ElixirClient

open TypeRef (Mentions)

namespace Resolver

variable {r : Resolver} {refs refs' : List TypeRef} {nodes nodes' : List Node}

/-! ## Nodes that carry references -/

/-- The nodes are made of the references: the schemas in these are known, and the nodes name the
modules that they lead to. -/
structure Carries (r : Resolver) (refs : List TypeRef) (nodes : List Node) : Prop where
  known : ∀ raw, Mentions refs raw → r.Knows raw
  names : ∀ module, (∃ node ∈ nodes, node.Names module) ↔ ∃ ref ∈ refs, r.LeadsTo ref module

namespace Carries

/-- Nodes without types carry no references. -/
theorem of_not_names (h : ∀ node ∈ nodes, ∀ module, ¬ node.Names module) : r.Carries [] nodes where
  known _ hraw := absurd hraw List.not_mem_nil
  names module := by
    constructor
    · rintro ⟨node, hnode, hmodule⟩
      exact absurd hmodule (h node hnode module)
    · rintro ⟨ref, href, _⟩
      cases href

theorem append (h : r.Carries refs nodes) (h' : r.Carries refs' nodes') :
    r.Carries (refs ++ refs') (nodes ++ nodes') where
  known raw hraw := (TypeRef.mentions_append.mp hraw).elim (h.known raw) (h'.known raw)
  names module := by
    simp only [List.mem_append, or_and_right, exists_or]
    rw [h.names module, h'.names module]

theorem flatMap {α : Type} {xs : List α} {refsOf : α → List TypeRef} {nodeOf : α → Node}
    (h : ∀ x ∈ xs, r.Carries (refsOf x) [nodeOf x]) :
    r.Carries (xs.flatMap refsOf) (xs.map nodeOf) := by
  induction xs with
  | nil => exact of_not_names nofun
  | cons x rest ih =>
    have hrest := ih fun y hy => h y (List.mem_cons_of_mem x hy)
    exact (h x List.mem_cons_self).append hrest

/-- A node around others that adds no module of its own. -/
theorem wrap {node : Node} (h : r.Carries refs nodes)
    (hnode : ∀ module, node.Names module ↔ ∃ inner ∈ nodes, inner.Names module) :
    r.Carries refs [node] where
  known := h.known
  names module := by
    rw [← h.names module, ← hnode module]
    simp only [List.mem_singleton, exists_eq_left]

end Carries

/-- A type names what its reference leads to, and has a reference for each name. -/
theorem carries_of_resolve {ref : TypeRef} (hmodules : ref.ModulesText) {node : Node}
    (h : r.resolve ref = .ok node) : r.Carries [ref] [node] where
  known _ hraw := knows_of_resolve h hraw
  names module := by
    simp only [List.mem_singleton, exists_eq_left]
    exact names_iff_of_resolve hmodules h module

/-- A union names what any of its members leads to; merging drops no module. -/
theorem carries_of_union (hmodules : ∀ ref ∈ refs, ref.ModulesText) {node : Node}
    (h : r.union refs = .ok node) : r.Carries refs [node] := by
  rw [union_eq] at h
  -- a union of references is resolved as one reference
  have hunion : (TypeRef.union refs).ModulesText := by
    intro module hmodule
    rw [TypeRef.leaves_union] at hmodule
    obtain ⟨ref, href, hmodule⟩ := List.mem_flatMap.mp hmodule
    exact hmodules ref href module hmodule
  refine ⟨fun raw hraw => knows_of_resolve h (TypeRef.mentions_union.mpr hraw), fun module => ?_⟩
  simp only [List.mem_singleton, exists_eq_left]
  rw [names_iff_of_resolve hunion h module, leadsTo_union]

theorem carries_of_resolveAll (hmodules : ∀ ref ∈ refs, ref.ModulesText) {nodes : List Node}
    (h : r.resolveAll refs = .ok nodes) : r.Carries refs nodes := by
  rw [resolveAll_eq] at h
  obtain ⟨type, htype, rfl⟩ := mapM_eq_ok.mp h
  have hrefs : r.Carries (refs.flatMap fun ref => [ref]) (refs.map type) :=
    .flatMap fun ref href => carries_of_resolve (hmodules ref href) (htype ref href)
  rwa [List.flatMap_singleton'] at hrefs

end Resolver

open Resolver (Carries)

/-! ## Schemas -/

namespace Schema

variable {scope : Scope} {schema : Schema} {artifact : SchemaArtifact}

theorem carries_fieldTypes (hmodules : ∀ ref ∈ schema.fieldRefs, ref.ModulesText)
    {types : List (String × Node)} (h : schema.fieldTypes scope = .ok types) :
    scope.resolver.Carries schema.fieldRefs (types.map (·.2)) := by
  obtain ⟨type, htype, rfl⟩ := fieldTypes_eq_ok h
  rw [List.map_map, fieldRefs, List.map_eq_flatMap]
  refine Carries.flatMap fun entry hentry => ?_
  have hmodules := hmodules _ (List.mem_map.mpr ⟨entry, hentry, rfl⟩)
  exact Resolver.carries_of_resolve hmodules (htype entry hentry)

/-- A decoder names no type, and calls the module that the type of its field is in. -/
theorem decoder_spec {name : String} {property : Schema} {node : Node}
    (h : property.decoder scope name = .ok node) :
    (∀ module, ¬ node.Names module) ∧
      ∀ module args, .call (.moduleRef module) "decode" args ∈ node.parts →
        scope.resolver.LeadsTo property.typeRef (.str module) := by
  rcases decoder_eq_ok h with ⟨_, rfl⟩ | ⟨_, rfl⟩ | ⟨module, hkind, hmodule, rfl⟩
  · exact ⟨by simp, by simp⟩
  · exact ⟨by simp [Node.Names], by simp⟩
  · refine ⟨by simp [Node.Names, Node.partsAll], fun other args hcall => ?_⟩
    have hsame : other = module := by
      simp [Node.partsAll] at hcall
      exact hcall.1
    rw [typeRef_reference hkind, hsame]
    exact .inr ⟨_, module, by simp, hmodule, rfl⟩

/-- All names in a schema are in the types of its fields. Decoders call modules, but hold no
types. -/
theorem names_artifact (hmodules : ∀ ref ∈ schema.fieldRefs, ref.ModulesText)
    (h : schema.artifact scope = .ok artifact) :
    scope.resolver.Carries schema.fieldRefs (artifact.types ++ artifact.expressions) := by
  obtain ⟨_, htypes, hdecoders, _⟩ := artifact_eq_ok h
  have hexpressions : scope.resolver.Carries [] artifact.expressions := by
    refine Carries.of_not_names fun node hnode => ?_
    obtain ⟨entry, hentry, rfl⟩ := List.mem_map.mp hnode
    obtain ⟨property, _, hdecoder⟩ := exists_decoder_of_mem hdecoders hentry
    exact (decoder_spec hdecoder).1
  have hboth := (carries_fieldTypes hmodules htypes).append hexpressions
  rwa [List.append_nil] at hboth

/-- A decoder calls the module that the type of its field names. -/
theorem decodesBy_artifact (h : schema.artifact scope = .ok artifact) {module : String}
    (hmodule : artifact.DecodesBy module) :
    ∃ ref ∈ schema.fieldRefs, scope.resolver.LeadsTo ref (.str module) := by
  obtain ⟨_, _, hdecoders, _⟩ := artifact_eq_ok h
  obtain ⟨node, hnode, args, hcall⟩ := hmodule
  obtain ⟨entry, hentry, rfl⟩ := List.mem_map.mp hnode
  -- the call is the decoder of a property, and of a reference
  obtain ⟨property, hproperty, hdecoder⟩ := exists_decoder_of_mem hdecoders hentry
  exact ⟨_, List.mem_map.mpr ⟨property, hproperty, rfl⟩,
    (decoder_spec hdecoder).2 module args hcall⟩

end Schema

/-! ## Operations -/

namespace Operation

variable {scope : Scope} {operation : Operation} {artifact : OperationArtifact}

/-- An arm without types names nothing. -/
theorem carries_of_outcome {tag : String} {types : List TypeRef}
    (hmodules : ∀ ref ∈ types, ref.ModulesText) {node : Node}
    (h : outcome scope.resolver tag types = .ok node) : scope.resolver.Carries types [node] := by
  rcases outcome_eq_ok h with ⟨rfl, rfl⟩ | ⟨payload, hpayload, rfl⟩
  · exact .of_not_names (by simp [Node.Names])
  · exact (Resolver.carries_of_union hmodules hpayload).wrap (by simp)

section Signature

variable (hrefs : ∀ ref ∈ operation.refs, ref.ModulesText)
  (herror : ∀ ref ∈ scope.config.errorType, ref.ModulesText)

include hrefs in
theorem carries_bodyTypes {nodes : List Node} (h : operation.bodyTypes scope = .ok nodes) :
    scope.resolver.Carries (operation.requestBody.map (·.2)) nodes := by
  rcases bodyTypes_eq_ok h with ⟨hbody, rfl⟩ | ⟨_, node, hnode, rfl⟩
  · rw [hbody]
    exact .of_not_names nofun
  · refine Resolver.carries_of_union (fun ref href => hrefs ref ?_) hnode
    exact mem_refs_of_body href

include hrefs herror

/-- The configured error type is one more reference of the operation. -/
theorem carries_errorOutcome {node : Node} (h : operation.errorOutcome scope = .ok node) :
    scope.resolver.Carries (operation.errorRefs scope.config) [node] := by
  unfold errorRefs
  rcases errorOutcome_eq_ok h with ⟨htype, h⟩ | ⟨type, payload, htype, hpayload, rfl⟩
  · rw [htype]
    exact carries_of_outcome (fun ref href => hrefs ref (mem_refs_of_mem_outcomeTypes href)) h
  · rw [htype]
    exact (Resolver.carries_of_resolve (herror type htype) hpayload).wrap (by simp)

theorem carries_returnType {node : Node} (h : operation.returnType scope = .ok node) :
    scope.resolver.Carries (operation.outcomeTypes true ++ operation.errorRefs scope.config)
      [node] := by
  obtain ⟨ok, error, hok, herrorOutcome, rfl⟩ := returnType_eq_ok h
  have hsuccess := carries_of_outcome
    (fun ref href => hrefs ref (mem_refs_of_mem_outcomeTypes href)) hok
  exact (hsuccess.append (carries_errorOutcome hrefs herror herrorOutcome)).wrap (by simp)

theorem carries_signature {signature : Signature} (h : operation.signature scope = .ok signature) :
    scope.resolver.Carries (operation.signatureRefs scope.config)
      (signature.arguments ++ [signature.returnType]) := by
  obtain ⟨params, body, hparams, hbody, hreturn, harguments⟩ := signature_eq_ok h
  have hparams : scope.resolver.Carries (operation.pathParams.map Param.type) params := by
    refine Resolver.carries_of_resolveAll (fun ref href => hrefs ref ?_) hparams
    exact mem_refs.mpr (.inl href)
  -- the type of the options stands between two others and names no module
  have hoptions : scope.resolver.Carries [] [Node.options] :=
    .of_not_names (by simp [Node.Names])
  have hall := hparams.append ((carries_bodyTypes hrefs hbody).append
    (hoptions.append (carries_returnType hrefs herror hreturn)))
  rw [harguments]
  simpa only [signatureRefs, List.nil_append, List.append_assoc] using hall

end Signature

/-- An entry that is left away carries nothing, and then there must be nothing to carry. -/
theorem carries_entryIf {condition : Bool} {key : String} {value : Except Fault Node}
    {refs : List TypeRef} (hvalue : ∀ node, value = .ok node → scope.resolver.Carries refs [node])
    (hrefs : condition = false → refs = []) {entries : List (String × Node)}
    (h : entryIf condition key value = .ok entries) :
    scope.resolver.Carries refs (entries.map (·.2)) := by
  rcases entryIf_eq_ok h with ⟨hcondition, rfl⟩ | ⟨_, node, hnode, rfl⟩
  · rw [hrefs hcondition]
    exact .of_not_names nofun
  · exact hvalue node hnode

section Function

variable (hrefs : ∀ ref ∈ operation.refs, ref.ModulesText)

include hrefs

theorem carries_requestTable {node : Node}
    (h : operation.requestTable scope.resolver = .ok node) :
    scope.resolver.Carries (operation.requestBody.map (·.2)) [node] := by
  obtain ⟨type, htype, rfl⟩ := requestTable_eq_ok h
  have hpairs : scope.resolver.Carries (operation.requestBody.flatMap fun entry => [entry.2])
      (operation.requestBody.map fun entry =>
        .pair (.literal entry.1) (.typeValue (type entry))) := by
    refine .flatMap fun entry hentry => ?_
    have hmodules : entry.2.ModulesText :=
      hrefs _ (mem_refs_of_body (List.mem_map.mpr ⟨entry, hentry, rfl⟩))
    exact (Resolver.carries_of_resolve hmodules (htype entry hentry)).wrap (by simp)
  rw [List.map_eq_flatMap]
  exact hpairs.wrap (by simp)

theorem carries_responseTable {node : Node}
    (h : operation.responseTable scope.resolver = .ok node) :
    scope.resolver.Carries (operation.responsesByStatus.flatMap contentRefs) [node] := by
  obtain ⟨type, htype, rfl⟩ := responseTable_eq_ok h
  suffices hpairs : scope.resolver.Carries (operation.responsesByStatus.flatMap contentRefs)
      (operation.responsesByStatus.map fun response =>
        .pair response.1.node (.typeValue (type response))) by
    exact hpairs.wrap (by simp)
  refine .flatMap fun response hresponse => ?_
  have hmodules : ∀ ref ∈ contentRefs response, ref.ModulesText := fun ref href =>
    hrefs ref (mem_refs_of_response hresponse href)
  -- the status in front names no module either
  have hstatus (module : Json) : ¬ response.1.node.Names module := by
    cases response.1 <;> simp [Status.node]
  refine (Resolver.carries_of_union hmodules (htype response hresponse)).wrap fun module => ?_
  rw [Node.names_pair, or_iff_right (hstatus module), Node.names_typeValue]
  simp only [List.mem_singleton, exists_eq_left]

theorem carries_call {node : Node} (h : operation.call scope = .ok node) :
    scope.resolver.Carries operation.tableRefs [node] := by
  obtain ⟨arguments, url, body, query, request, response, _, _, hbody, hquery, hrequest, hresponse,
    rfl⟩ := call_eq_ok h
  have hrequest : scope.resolver.Carries (operation.requestBody.map (·.2)) (request.map (·.2)) :=
    carries_entryIf (fun node h => carries_requestTable hrefs h) requestRefs_eq_nil hrequest
  have hresponse : scope.resolver.Carries (operation.responsesByStatus.flatMap contentRefs)
      (response.map (·.2)) :=
    carries_entryIf (fun node h => carries_responseTable hrefs h) responseRefs_eq_nil hresponse
  -- of all other entries none holds a type
  have hvar {condition : Bool} {key name : String} {entries : List (String × Node)}
      (h : entryIf condition key (.ok (.var name)) = .ok entries) (module : Json) :
      ¬ ∃ entry ∈ entries, entry.2.Names module := by
    rcases entryIf_eq_ok h with ⟨_, rfl⟩ | ⟨_, node, hnode, rfl⟩
    · simp
    · cases hnode
      simp
  refine (hrequest.append hresponse).wrap fun module => ?_
  simp [hvar hbody, hvar hquery, or_and_right, exists_or, -Prod.exists]

/-- Of the statements of a function the call alone holds types. -/
theorem carries_function {function : Function} (h : operation.function scope = .ok function) :
    scope.resolver.Carries operation.tableRefs
      (function.arguments.filterMap Argument.default ++ function.body) := by
  obtain ⟨query, call, hquery, hcall, hbody, _⟩ := function_eq_ok h
  have hfront : scope.resolver.Carries []
      (function.arguments.filterMap Argument.default ++ clientStatement :: query.toList) := by
    refine .of_not_names fun node hnode => ?_
    rcases List.mem_append.mp hnode with hnode | hnode
    · rw [default_of_function h node hnode]
      simp
    rcases List.mem_cons.mp hnode with rfl | hnode
    · simp [clientStatement, Node.Names]
    · rcases query_eq_ok hquery with ⟨_, rfl⟩ | ⟨keys, rfl, _⟩
      · cases hnode
      · rw [List.mem_singleton.mp hnode]
        simp [Node.Names]
  have hall := hfront.append (carries_call hrefs hcall)
  rwa [List.append_assoc, List.cons_append, ← List.cons_append, ← hbody] at hall

end Function

theorem names_artifact (hrefs : ∀ ref ∈ operation.refs, ref.ModulesText)
    (herror : ∀ ref ∈ scope.config.errorType, ref.ModulesText)
    (h : operation.artifact scope = .ok artifact) :
    scope.resolver.Carries (operation.signatureRefs scope.config ++ operation.tableRefs)
      (artifact.types ++ artifact.expressions) := by
  obtain ⟨hsignature, hfunction, _⟩ := artifact_eq_ok h
  exact (carries_signature hrefs herror hsignature).append (carries_function hrefs hfunction)

end Operation

end ElixirClient
