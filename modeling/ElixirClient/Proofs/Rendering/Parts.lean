import ElixirClient.Proofs.Json.Sorting
import ElixirClient.Proofs.Node.Parts
import ElixirClient.Proofs.PathTemplate.Arguments
import ElixirClient.Proofs.Rendering.Artifact
import ElixirClient.Proofs.Session.Isolation

/-!
# The parts of an artifact

A rendered artifact comes apart into what each of its steps made: `Schema.artifact_eq_ok` and
`Operation.artifact_eq_ok`, and below them an equation for every step that yields nodes, down to
`Schema.fieldTypes_eq_ok`, `Operation.signature_eq_ok` and `Operation.call_eq_ok`. The nodes in an
artifact are its `types` and its `expressions`.
-/

namespace ElixirClient

/-! ## Nodes of artifacts -/

namespace SchemaArtifact

/-- The types of the fields. -/
def types (artifact : SchemaArtifact) : List Node := artifact.fieldTypes.map (·.2)

/-- The decoders of the fields. -/
def expressions (artifact : SchemaArtifact) : List Node := artifact.decoders.map (·.2)

/-- A decoder calls `decode` of the module. -/
def DecodesBy (artifact : SchemaArtifact) (module : String) : Prop :=
  ∃ node ∈ artifact.expressions, ∃ args, .call (.moduleRef module) "decode" args ∈ node.parts

end SchemaArtifact

namespace OperationArtifact

/-- The types of the signature. -/
def types (artifact : OperationArtifact) : List Node :=
  artifact.signature.arguments ++ [artifact.signature.returnType]

/-- The statements of the function and the defaults of its arguments. -/
def expressions (artifact : OperationArtifact) : List Node :=
  artifact.function.arguments.filterMap Argument.default ++ artifact.function.body

end OperationArtifact

/-! ## Schemas -/

namespace Schema

variable {scope : Scope} {schema : Schema} {artifact : SchemaArtifact}

/-- The default renderer leaves the trace as it is. -/
theorem renderSchema_eq {outcome : Except Fault SchemaArtifact} {t t' : Trace} :
    (Renderer.default.renderSchema scope schema).run.run t = (outcome, t') ↔
      schema.artifact scope = outcome ∧ t' = t := by
  rw [default_renderSchema, Render.run_ofExcept_eq]

/-- The parts of a rendered schema. -/
theorem artifact_eq_ok (h : schema.artifact scope = .ok artifact) :
    schema.normalizedName scope = .ok artifact.name ∧
      schema.fieldTypes scope = .ok artifact.fieldTypes ∧
      schema.decoders scope = .ok artifact.decoders ∧
      artifact.doc = schema.doc ∧
      artifact.module = scope.config.qualified (.str artifact.name) := by
  unfold Schema.artifact at h
  obtain ⟨name, hname, h⟩ := bind_eq_ok.mp h
  obtain ⟨types, htypes, h⟩ := bind_eq_ok.mp h
  obtain ⟨decoders, hdecoders, h⟩ := bind_eq_ok.mp h
  cases h
  exact ⟨hname, htypes, hdecoders, rfl, rfl⟩

theorem fieldTypes_eq_ok {types : List (String × Node)} (h : schema.fieldTypes scope = .ok types) :
    ∃ type : String × Schema → Node,
      (∀ entry ∈ schema.propertiesByName,
        scope.resolver.resolve entry.2.typeRef = .ok (type entry)) ∧
      types = schema.propertiesByName.map fun entry => (entry.1, type entry) :=
  mapM_return_eq_ok (f := fun entry : String × Schema => scope.resolver.resolve entry.2.typeRef)
    (g := fun entry type => (entry.1, type)) h

/-- A decoder gives up, takes the value as it is, or calls the decoder of a module. -/
theorem decoder_eq_ok {name : String} {property : Schema} {node : Node}
    (h : property.decoder scope name = .ok node) :
    (property.kind = .array ∧ node = .literal .null) ∨
      ((∃ kind, property.kind = .primitive kind) ∧
        node = .access (.var "value") (.literal (.str name))) ∨
      ∃ module, property.kind = .reference ∧
        scope.resolver.moduleName (property.ref.orElse property.name) = .ok module ∧
        node = .call (.moduleRef module) "decode"
          [.access (.var "value") (.literal (.str name))] := by
  unfold decoder at h
  simp only at h
  split at h
  · next hkind => exact .inl ⟨hkind, (Except.ok.inj h).symm⟩
  · next hkind =>
    obtain ⟨module, hmodule, h⟩ := bind_eq_ok.mp h
    exact .inr (.inr ⟨module, hkind, hmodule, (Except.ok.inj h).symm⟩)
  · next kind hkind => exact .inr (.inl ⟨⟨kind, hkind⟩, (Except.ok.inj h).symm⟩)

theorem decoders_eq_ok {decoders : List (String × Node)} (h : schema.decoders scope = .ok decoders) :
    ∃ decoder : String × Schema → Node,
      (∀ entry ∈ schema.propertiesByName, entry.2.decoder scope entry.1 = .ok (decoder entry)) ∧
      decoders = schema.propertiesByName.map fun entry => (entry.1, decoder entry) :=
  mapM_return_eq_ok (f := fun entry : String × Schema => entry.2.decoder scope entry.1)
    (g := fun entry decoder => (entry.1, decoder)) h

theorem exists_decoder_of_mem {decoders : List (String × Node)}
    (h : schema.decoders scope = .ok decoders) {entry : String × Node} (hmem : entry ∈ decoders) :
    ∃ property ∈ schema.propertiesByName, property.2.decoder scope property.1 = .ok entry.2 := by
  obtain ⟨decoder, hdecoder, rfl⟩ := decoders_eq_ok h
  obtain ⟨property, hproperty, rfl⟩ := List.mem_map.mp hmem
  exact ⟨property, hproperty, hdecoder property hproperty⟩

end Schema

/-! ## Operations -/

namespace Operation

variable {scope : Scope} {operation : Operation} {artifact : OperationArtifact}

/-- The default renderer leaves the trace as it is. -/
theorem renderOperation_eq {outcome : Except Fault OperationArtifact} {t t' : Trace} :
    (Renderer.default.renderOperation scope operation).run.run t = (outcome, t') ↔
      operation.artifact scope = outcome ∧ t' = t := by
  rw [default_renderOperation, Render.run_ofExcept_eq]

/-- The parts of a rendered operation. -/
theorem artifact_eq_ok (h : operation.artifact scope = .ok artifact) :
    operation.signature scope = .ok artifact.signature ∧
      operation.function scope = .ok artifact.function ∧ artifact.doc = operation.doc := by
  unfold Operation.artifact at h
  obtain ⟨signature, hsignature, h⟩ := bind_eq_ok.mp h
  obtain ⟨function, hfunction, h⟩ := bind_eq_ok.mp h
  cases h
  exact ⟨hsignature, hfunction, rfl⟩

/-! ### The signature -/

/-- An arm without types is its marker, and otherwise its tag on the union of the types. -/
theorem outcome_eq_ok {resolver : Resolver} {tag : String} {types : List TypeRef} {node : Node}
    (h : outcome resolver tag types = .ok node) :
    types = [] ∧ node = .marker tag ∨
      ∃ payload, resolver.union types = .ok payload ∧ node = .tagged tag payload := by
  unfold outcome at h
  split at h
  · next hempty => exact .inl ⟨List.isEmpty_iff.mp hempty, (Except.ok.inj h).symm⟩
  · obtain ⟨payload, hpayload, rfl⟩ := map_eq_ok.mp h
    exact .inr ⟨payload, hpayload, rfl⟩

/-- The error arm has the type of the configuration, if there is one, and else those of the
responses. -/
theorem errorOutcome_eq_ok {node : Node} (h : operation.errorOutcome scope = .ok node) :
    (scope.config.errorType = none ∧
        outcome scope.resolver "error" (operation.outcomeTypes false) = .ok node) ∨
      ∃ type payload, scope.config.errorType = some type ∧
        scope.resolver.resolve type = .ok payload ∧ node = .tagged "error" payload := by
  unfold errorOutcome at h
  split at h
  · next type htype =>
    obtain ⟨payload, hpayload, rfl⟩ := map_eq_ok.mp h
    exact .inr ⟨type, payload, htype, hpayload, rfl⟩
  · next htype => exact .inl ⟨htype, h⟩

/-- There are always two arms, each with its own tag. -/
theorem returnType_eq_ok {node : Node} (h : operation.returnType scope = .ok node) :
    ∃ ok error, outcome scope.resolver "ok" (operation.outcomeTypes true) = .ok ok ∧
      operation.errorOutcome scope = .ok error ∧ node = .union [ok, error] := by
  rw [returnType_eq] at h
  obtain ⟨ok, hok, h⟩ := bind_eq_ok.mp h
  obtain ⟨error, herror, h⟩ := bind_eq_ok.mp h
  exact ⟨ok, error, hok, herror, (Except.ok.inj h).symm⟩

theorem hasBody_eq_false_iff : operation.hasBody = false ↔ operation.requestBody = [] := by
  rw [hasBody, Bool.not_eq_false', List.isEmpty_iff]

theorem hasBody_eq_true_iff : operation.hasBody = true ↔ operation.requestBody ≠ [] := by
  rw [ne_eq, ← hasBody_eq_false_iff, Bool.not_eq_false]

/-- There is an argument for the body exactly if the operation has one. -/
theorem bodyTypes_eq_ok {nodes : List Node} (h : operation.bodyTypes scope = .ok nodes) :
    (operation.requestBody = [] ∧ nodes = []) ∨
      operation.requestBody ≠ [] ∧ ∃ node,
        scope.resolver.union (operation.requestBody.map (·.2)) = .ok node ∧ nodes = [node] := by
  unfold bodyTypes at h
  split at h
  · next hbody =>
    obtain ⟨node, hnode, rfl⟩ := map_eq_ok.mp h
    exact .inr ⟨hasBody_eq_true_iff.mp hbody, node, hnode, rfl⟩
  · next hbody =>
    rw [Bool.not_eq_true, hasBody_eq_false_iff] at hbody
    exact .inl ⟨hbody, (Except.ok.inj h).symm⟩

/-- Arguments come in the order of the path, then the body, then the options. -/
theorem signature_eq_ok {signature : Signature} (h : operation.signature scope = .ok signature) :
    ∃ params body, scope.resolver.resolveAll (operation.pathParams.map Param.type) = .ok params ∧
      operation.bodyTypes scope = .ok body ∧
      operation.returnType scope = .ok signature.returnType ∧
      signature.arguments = params ++ body ++ [.options] := by
  rw [signature_eq] at h
  obtain ⟨params, hparams, h⟩ := bind_eq_ok.mp h
  obtain ⟨body, hbody, h⟩ := bind_eq_ok.mp h
  obtain ⟨returnType, hreturn, h⟩ := bind_eq_ok.mp h
  cases h
  exact ⟨params, body, hparams, hbody, hreturn, rfl⟩

/-! ### The function -/

theorem entryIf_eq_ok {condition : Bool} {key : String} {value : Except Fault Node}
    {entries : List (String × Node)} (h : entryIf condition key value = .ok entries) :
    (condition = false ∧ entries = []) ∨
      condition = true ∧ ∃ node, value = .ok node ∧ entries = [(key, node)] := by
  unfold entryIf at h
  split at h
  · next hcondition =>
    obtain ⟨node, hnode, rfl⟩ := map_eq_ok.mp h
    exact .inr ⟨hcondition, node, hnode, rfl⟩
  · next hcondition => exact .inl ⟨Bool.not_eq_true _ ▸ hcondition, (Except.ok.inj h).symm⟩

theorem forall_of_entryIf {condition : Bool} {key : String} {value : Except Fault Node}
    {P : String × Node → Prop} (hvalue : ∀ node, value = .ok node → P (key, node))
    {entries : List (String × Node)} (h : entryIf condition key value = .ok entries) :
    ∀ entry ∈ entries, P entry := by
  rcases entryIf_eq_ok h with ⟨_, rfl⟩ | ⟨_, node, hnode, rfl⟩
  · exact List.forall_mem_nil _
  · exact List.forall_mem_singleton.mpr (hvalue node hnode)

/-- What an entry is about counts only if it is there. -/
theorem forall_entryIf_iff {condition : Bool} {key : String} {value : Except Fault Node}
    {entries : List (String × Node)} {P : String × Node → Prop} {Q : Prop}
    (h : entryIf condition key value = .ok entries)
    (hvalue : ∀ node, value = .ok node → (P (key, node) ↔ Q)) (hnone : condition = false → Q) :
    (∀ entry ∈ entries, P entry) ↔ Q := by
  rcases entryIf_eq_ok h with ⟨hcondition, rfl⟩ | ⟨_, node, hnode, rfl⟩
  · exact iff_of_true (List.forall_mem_nil _) (hnone hcondition)
  · exact List.forall_mem_singleton.trans (hvalue node hnode)

theorem requestTable_eq_ok {resolver : Resolver} {node : Node}
    (h : operation.requestTable resolver = .ok node) :
    ∃ type : Json × TypeRef → Node,
      (∀ entry ∈ operation.requestBody, resolver.resolve entry.2 = .ok (type entry)) ∧
      node = .list (operation.requestBody.map fun entry =>
        .pair (.literal entry.1) (.typeValue (type entry))) := by
  obtain ⟨pairs, hpairs, h⟩ := bind_eq_ok.mp h
  cases h
  obtain ⟨type, htype, rfl⟩ := mapM_return_eq_ok
    (f := fun entry : Json × TypeRef => resolver.resolve entry.2)
    (g := fun entry type => Node.pair (.literal entry.1) (.typeValue type)) hpairs
  exact ⟨type, htype, rfl⟩

theorem responseTable_eq_ok {resolver : Resolver} {node : Node}
    (h : operation.responseTable resolver = .ok node) :
    ∃ type : Status × Content → Node,
      (∀ response ∈ operation.responsesByStatus,
        resolver.union (response.2.map (·.2)) = .ok (type response)) ∧
      node = .list (operation.responsesByStatus.map fun response =>
        .pair response.1.node (.typeValue (type response))) := by
  obtain ⟨pairs, hpairs, h⟩ := bind_eq_ok.mp h
  cases h
  obtain ⟨type, htype, rfl⟩ := mapM_return_eq_ok
    (f := fun response : Status × Content => resolver.union (response.2.map (·.2)))
    (g := fun response type => Node.pair response.1.node (.typeValue type)) hpairs
  exact ⟨type, htype, rfl⟩

/-- The call of the client, with those entries of the descriptor that depend on the operation. -/
theorem call_eq_ok {node : Node} (h : operation.call scope = .ok node) :
    ∃ (arguments : Arguments) (url : List Piece) (body query request response : List (String × Node)),
      operation.pathArguments = .ok arguments ∧ operation.url = .ok url ∧
      entryIf operation.hasBody "body" (.ok (.var "body")) = .ok body ∧
      entryIf (!operation.queryParams.isEmpty) "query" (.ok (.var "query")) = .ok query ∧
      entryIf operation.hasBody "request" (operation.requestTable scope.resolver) = .ok request ∧
      entryIf (!operation.responses.isEmpty) "response"
        (operation.responseTable scope.resolver) = .ok response ∧
      node = .call (.var "client") "request" [.mapLiteral (
        [("args", Node.list ((arguments.map fun argument =>
            Node.pair (.atom (.str argument.1)) (.var argument.2)) ++
              if operation.hasBody then [Node.pair (.atom (.str "body")) (.var "body")] else [])),
          ("call", .pair (.moduleRef (scope.config.qualified operation.moduleName))
            (.atom operation.functionName)),
          ("url", .interpolation url)] ++ body ++ [("method", .atom (.str operation.method))]
          ++ query ++ request ++ response ++ [("opts", .var "opts")])] := by
  unfold call at h
  obtain ⟨arguments, harguments, h⟩ := bind_eq_ok.mp h
  obtain ⟨url, hurl, h⟩ := bind_eq_ok.mp h
  obtain ⟨body, hbody, h⟩ := bind_eq_ok.mp h
  obtain ⟨query, hquery, h⟩ := bind_eq_ok.mp h
  obtain ⟨request, hrequest, h⟩ := bind_eq_ok.mp h
  obtain ⟨response, hresponse, h⟩ := bind_eq_ok.mp h
  exact ⟨arguments, url, body, query, request, response, harguments, hurl, hbody, hquery, hrequest,
    hresponse, (Except.ok.inj h).symm⟩

/-- What holds of everything that can be in the request descriptor holds of its entries. The last
one of them is for the options. -/
theorem exists_entries_of_call {P : Node → Prop} {node : Node} (h : operation.call scope = .ok node)
    (hlist : ∀ items, (∀ item ∈ items, P item) → P (.list items))
    (hword : ∀ raw, ∀ name ∈ "body" :: operation.pathParams.map Param.argument,
      P (.pair (.atom (.str raw)) (.var name)))
    (htarget : P (.pair (.moduleRef (scope.config.qualified operation.moduleName))
      (.atom operation.functionName)))
    (hurl : ∀ url, operation.url = .ok url → P (.interpolation url))
    (hmethod : P (.atom (.str operation.method)))
    (hvar : ∀ name ∈ ["body", "query", "opts"], P (.var name))
    (hrequest : ∀ table, operation.requestTable scope.resolver = .ok table → P table)
    (hresponse : ∀ table, operation.responseTable scope.resolver = .ok table → P table) :
    ∃ front, node = .call (.var "client") "request"
        [.mapLiteral (front ++ [("opts", .var "opts")])] ∧
      ∀ entry ∈ front ++ [("opts", .var "opts")], P entry.2 := by
  obtain ⟨arguments, url, body, query, request, response, harguments, hurl', hbody, hquery,
    hrequest', hresponse', rfl⟩ := call_eq_ok h
  obtain ⟨_, _, _, rfl⟩ := pathArguments_eq_ok.mp harguments
  have hargs : ∀ pair ∈ (operation.pathParams.map Param.entry).map (fun argument =>
        Node.pair (.atom (.str argument.1)) (.var argument.2)) ++
      (if operation.hasBody then [Node.pair (.atom (.str "body")) (.var "body")] else []),
      P pair := by
    refine List.forall_mem_append.mpr ⟨fun pair hpair => ?_, ?_⟩
    · obtain ⟨argument, hargument, rfl⟩ := List.mem_map.mp hpair
      obtain ⟨param, hparam, rfl⟩ := List.mem_map.mp hargument
      exact hword _ _ (List.mem_cons_of_mem _ (List.mem_map.mpr ⟨param, hparam, rfl⟩))
    · split
      · exact List.forall_mem_singleton.mpr (hword _ _ List.mem_cons_self)
      · exact List.forall_mem_nil _
  have hvarEntry {condition : Bool} {key name : String} {entries : List (String × Node)}
      (h : entryIf condition key (.ok (.var name)) = .ok entries)
      (hname : name ∈ ["body", "query", "opts"]) : ∀ entry ∈ entries, P entry.2 := by
    refine forall_of_entryIf (fun node hnode => ?_) h
    cases hnode
    exact hvar name hname
  refine ⟨_, rfl, ?_⟩
  simp only [List.append_assoc, List.cons_append, List.nil_append, List.forall_mem_append,
    List.forall_mem_cons]
  exact ⟨hlist _ hargs, htarget, hurl url hurl', hvarEntry hbody (by simp), hmethod,
    hvarEntry hquery (by simp), forall_of_entryIf hrequest hrequest',
    forall_of_entryIf hresponse hresponse', hvar _ (by simp), List.forall_mem_nil _⟩

/-- The statement that restricts the options, if there is one. -/
theorem query_eq_ok {query : Option Node} (h : operation.query = .ok query) :
    (operation.queryParams = [] ∧ query = none) ∨
      ∃ keys, query = some (.assign "query" (.selectKeys (.var "opts") keys)) ∧
        keys.Perm (operation.queryParams.map Param.name) := by
  unfold Operation.query at h
  split at h
  · next hempty =>
    cases h
    exact .inl ⟨List.isEmpty_iff.mp hempty, rfl⟩
  · obtain ⟨keys, hkeys, h⟩ := bind_eq_ok.mp h
    cases h
    exact .inr ⟨keys, rfl, Json.perm_of_sortBy? (orderly_eq_ok.mp hkeys)⟩

/-- The arguments of the function: those of the path parameters, the body, and the options. -/
def formals (operation : Operation) : List Argument :=
  (operation.pathParams.map fun param => ⟨param.argument, none⟩) ++
    (if operation.hasBody then [⟨"body", none⟩] else []) ++ [⟨"opts", some (.list [])⟩]

/-- The body of a function is made of the client, the options and the call. -/
theorem function_eq_ok {function : Function} (h : operation.function scope = .ok function) :
    ∃ query call, operation.query = .ok query ∧ operation.call scope = .ok call ∧
      function.body = clientStatement :: query.toList ++ [call] ∧
      function.arguments = operation.formals := by
  unfold Operation.function at h
  obtain ⟨arguments, harguments, h⟩ := bind_eq_ok.mp h
  obtain ⟨query, hquery, h⟩ := bind_eq_ok.mp h
  obtain ⟨call, hcall, h⟩ := bind_eq_ok.mp h
  cases h
  obtain ⟨_, _, _, rfl⟩ := pathArguments_eq_ok.mp harguments
  refine ⟨query, call, hquery, hcall, rfl, ?_⟩
  rw [formals, List.map_map]
  rfl

/-- Of the arguments of a function only the options have a default. -/
theorem default_of_function {function : Function} (h : operation.function scope = .ok function) :
    ∀ node ∈ function.arguments.filterMap Argument.default, node = .list [] := by
  obtain ⟨_, _, _, _, _, harguments⟩ := function_eq_ok h
  intro node hnode
  rw [harguments, formals, List.filterMap_append, List.filterMap_append, List.filterMap_map,
    List.mem_append, List.mem_append] at hnode
  rcases hnode with (hnode | hnode) | hnode
  · obtain ⟨param, _, hparam⟩ := List.mem_filterMap.mp hnode
    cases hparam
  · split at hnode <;> cases hnode
  · exact List.mem_singleton.mp hnode

end Operation

end ElixirClient
