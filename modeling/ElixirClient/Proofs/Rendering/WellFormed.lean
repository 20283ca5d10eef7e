import ElixirClient.Proofs.Node.Kinds
import ElixirClient.Proofs.Rendering.Outcome
import ElixirClient.Proofs.Rendering.Parts

/-!
# Artifacts hold types and expressions

What rendering puts in the place of a type is a tree of types, and what it puts in the place of an
expression is a tree of expressions. For a schema this takes nothing (`Schema.isType_of_artifact`,
`Schema.isExpr_of_artifact`); for an operation it takes that atoms and content types, which come
from the descriptor as they are, are text (`Operation.isType_of_artifact`,
`Operation.isExpr_of_artifact`).
-/

namespace ElixirClient

/-! ## Schemas -/

namespace Schema

variable {scope : Scope} {schema : Schema} {artifact : SchemaArtifact}

/-- Types of fields come out of the resolver, whatever the properties are. -/
theorem isType_of_artifact (h : schema.artifact scope = .ok artifact) :
    ∀ node ∈ artifact.types, node.IsType := by
  obtain ⟨_, htypes, _⟩ := artifact_eq_ok h
  obtain ⟨type, htype, heq⟩ := fieldTypes_eq_ok htypes
  intro node hnode
  rw [SchemaArtifact.types, heq, List.map_map] at hnode
  obtain ⟨entry, hentry, rfl⟩ := List.mem_map.mp hnode
  exact Resolver.isType_of_resolve (htype entry hentry)

/-- The three decoders there are: none, the raw value, and a call with it. -/
theorem isExpr_of_decoder {name : String} {property : Schema} {node : Node}
    (h : property.decoder scope name = .ok node) : node.IsExpr := by
  have hraw : (Node.access (.var "value") (.literal (.str name))).IsExpr :=
    .access (.var _) (.literal trivial)
  rcases decoder_eq_ok h with ⟨_, rfl⟩ | ⟨_, rfl⟩ | ⟨module, _, _, rfl⟩
  · exact .literal trivial
  · exact hraw
  · exact .call _ (.moduleRef module) (List.forall_mem_singleton.mpr hraw)

theorem isExpr_of_artifact (h : schema.artifact scope = .ok artifact) :
    ∀ node ∈ artifact.expressions, node.IsExpr := by
  obtain ⟨_, _, hdecoders, _⟩ := artifact_eq_ok h
  intro node hnode
  obtain ⟨entry, hentry, rfl⟩ := List.mem_map.mp hnode
  obtain ⟨property, _, hdecoder⟩ := exists_decoder_of_mem hdecoders hentry
  exact isExpr_of_decoder hdecoder

/-- The documentation of a schema is text whatever its title and description are. -/
theorem isText_doc_of_artifact (h : schema.artifact scope = .ok artifact) :
    artifact.doc.text.IsText := by
  obtain ⟨_, _, _, hdoc, _⟩ := artifact_eq_ok h
  rw [hdoc]
  exact ⟨_, rfl⟩

end Schema

/-! ## Operations -/

namespace Operation

variable {scope : Scope} {operation : Operation} {artifact : OperationArtifact}

/-- Everything in an operation that names or tells something is text. -/
structure TextNamed (operation : Operation) : Prop extends operation.PathTextNamed where
  names : operation.moduleName.IsText ∧ operation.functionName.IsText
  docstring : operation.docstring.IsText
  contentTypes : ∀ entry ∈ operation.requestBody, entry.1.IsText
  refs : ∀ ref ∈ operation.refs, ref.TextNamed

/-- References that have been read are proper, so names are all that is left to ask. -/
theorem TextNamed.sound (h : operation.TextNamed) (hproper : ∀ ref ∈ operation.refs, ref.Proper) :
    operation.Sound where
  toPathTextNamed := h.toPathTextNamed
  names := h.names
  refs ref href := ⟨hproper ref href, h.refs ref href⟩

/-! ### The signature -/

/-- An arm without types is its mark alone. -/
theorem isType_of_outcome {tag : String} {types : List TypeRef} {node : Node}
    (h : outcome scope.resolver tag types = .ok node) : node.IsType := by
  rcases outcome_eq_ok h with ⟨_, rfl⟩ | ⟨payload, hpayload, rfl⟩
  · exact .marker tag
  · exact .tagged tag (Resolver.isType_of_union hpayload)

theorem isType_of_returnType {node : Node} (h : operation.returnType scope = .ok node) :
    node.IsType := by
  obtain ⟨ok, error, hok, herror, rfl⟩ := returnType_eq_ok h
  have herrorType : error.IsType := by
    rcases errorOutcome_eq_ok herror with ⟨_, herror⟩ | ⟨_, payload, _, hpayload, rfl⟩
    · exact isType_of_outcome herror
    · exact .tagged _ (Resolver.isType_of_resolve hpayload)
  refine .union fun member hmember => ?_
  rcases List.mem_pair.mp hmember with rfl | rfl
  · exact isType_of_outcome hok
  · exact herrorType

theorem isType_of_bodyTypes {nodes : List Node} (h : operation.bodyTypes scope = .ok nodes) :
    ∀ node ∈ nodes, node.IsType := by
  rcases bodyTypes_eq_ok h with ⟨_, rfl⟩ | ⟨_, node, hnode, rfl⟩
  · nofun
  · exact List.forall_mem_singleton.mpr (Resolver.isType_of_union hnode)

theorem isType_of_signature {signature : Signature} (h : operation.signature scope = .ok signature) :
    (∀ node ∈ signature.arguments, node.IsType) ∧ signature.returnType.IsType := by
  obtain ⟨params, body, hparams, hbody, hreturn, harguments⟩ := signature_eq_ok h
  simp only [harguments, List.forall_mem_append, List.forall_mem_singleton]
  exact ⟨⟨⟨Resolver.isType_of_resolveAll hparams, isType_of_bodyTypes hbody⟩, .options⟩,
    isType_of_returnType hreturn⟩

/-! ### The function -/

/-- Content types are printed as literals, and only texts are printed so. -/
theorem isExpr_of_requestTable (hcontent : ∀ entry ∈ operation.requestBody, entry.1.IsText)
    {node : Node} (h : operation.requestTable scope.resolver = .ok node) : node.IsExpr := by
  obtain ⟨type, htype, rfl⟩ := requestTable_eq_ok h
  refine .list fun pair hpair => ?_
  obtain ⟨entry, hentry, rfl⟩ := List.mem_map.mp hpair
  obtain ⟨content, hcontent⟩ := hcontent entry hentry
  rw [hcontent]
  exact .pair (.literal trivial) (.typeValue (Resolver.isType_of_resolve (htype entry hentry)))

theorem isExpr_statusNode (status : Status) : status.node.IsExpr := by
  cases status with
  | code n => exact .literal trivial
  | default => exact .atom _

/-- A status is a number or the default, so the table for responses takes nothing of the
operation. -/
theorem isExpr_of_responseTable {node : Node}
    (h : operation.responseTable scope.resolver = .ok node) : node.IsExpr := by
  obtain ⟨type, htype, rfl⟩ := responseTable_eq_ok h
  refine .list fun pair hpair => ?_
  obtain ⟨response, hresponse, rfl⟩ := List.mem_map.mp hpair
  have htype : (type response).IsType := Resolver.isType_of_union (htype response hresponse)
  exact .pair (isExpr_statusNode response.1) (.typeValue htype)

/-- The call prints the name of its function as an atom, so the name must be text. So must the
content types; no other entry can fail. -/
theorem isExpr_of_call (hname : operation.functionName.IsText)
    (hcontent : ∀ entry ∈ operation.requestBody, entry.1.IsText) {node : Node}
    (h : operation.call scope = .ok node) : node.IsExpr := by
  obtain ⟨name, hname⟩ := hname
  -- one condition per kind of entry, in the order of the entries
  obtain ⟨entries, rfl, hentries⟩ := exists_entries_of_call h (fun _ => .list)
    (fun _ _ _ => .pair (.atom _) (.var _)) (hname ▸ .pair (.moduleRef _) (.atom name))
    (fun url _ => .interpolation url) (.atom _) (fun name _ => .var name)
    (fun _ => isExpr_of_requestTable hcontent) (fun _ => isExpr_of_responseTable)
  exact .call _ (.var _) (List.forall_mem_singleton.mpr (.mapLiteral hentries))

/-- Query parameters are printed as atoms, in whatever order they have been sorted. -/
theorem isExpr_of_query (h : ∀ param ∈ operation.queryParams, param.name.IsText)
    {query : Option Node} (hquery : operation.query = .ok query) : ∀ node ∈ query, node.IsExpr := by
  rcases query_eq_ok hquery with ⟨_, rfl⟩ | ⟨keys, rfl, hkeys⟩
  -- without query parameters there is no statement
  · nofun
  · rintro node ⟨⟩
    refine .assign _ (.selectKeys (.var _) fun key hkey => ?_)
    obtain ⟨param, hparam, rfl⟩ := List.mem_map.mp (hkeys.mem_iff.mp hkey)
    exact h param hparam

/-- Of the texts of an operation only those count that are in the body of its function. -/
theorem isExpr_of_body (hname : operation.functionName.IsText)
    (hquery : ∀ param ∈ operation.queryParams, param.name.IsText)
    (hcontent : ∀ entry ∈ operation.requestBody, entry.1.IsText) {function : Function}
    (h : operation.function scope = .ok function) : ∀ node ∈ function.body, node.IsExpr := by
  obtain ⟨query, call, hkeys, hcall, hbody, _⟩ := function_eq_ok h
  have hclient : clientStatement.IsExpr :=
    .assign _ (.fallback (.access (.var _) (.atom _)) (.moduleAttribute _))
  rw [hbody]
  simp only [List.forall_mem_append, List.forall_mem_cons, Option.mem_toList]
  exact ⟨⟨hclient, isExpr_of_query hquery hkeys⟩, isExpr_of_call hname hcontent hcall, nofun⟩

theorem isExpr_of_function (htext : operation.TextNamed) {function : Function}
    (h : operation.function scope = .ok function) :
    (∀ node ∈ function.arguments.filterMap Argument.default, node.IsExpr) ∧
      ∀ node ∈ function.body, node.IsExpr :=
  ⟨fun node hnode => default_of_function h node hnode ▸ .list nofun,
    isExpr_of_body htext.names.2 htext.queryParams htext.contentTypes h⟩

/-! ### The artifact -/

theorem isType_of_artifact (h : operation.artifact scope = .ok artifact) :
    ∀ node ∈ artifact.types, node.IsType := by
  obtain ⟨harguments, hreturn⟩ := isType_of_signature (artifact_eq_ok h).1
  exact List.forall_mem_append.mpr ⟨harguments, List.forall_mem_singleton.mpr hreturn⟩

theorem isExpr_of_artifact (htext : operation.TextNamed)
    (h : operation.artifact scope = .ok artifact) : ∀ node ∈ artifact.expressions, node.IsExpr :=
  List.forall_mem_append.mpr (isExpr_of_function htext (artifact_eq_ok h).2.1)

end Operation

end ElixirClient
