import ElixirClient.Proofs.Node.Reads
import ElixirClient.Proofs.PathTemplate.Url
import ElixirClient.Proofs.Rendering.Capture
import ElixirClient.Proofs.Resolver.Resolution

/-!
# Scopes of a generated function

A body is in scope if each of its statements reads only what is known before it: the arguments of
the function and what earlier statements bind. `Node.Scoped` follows the statements,
`Node.scoped_iff` says the same of every statement by its place, and `Operation.scoped_function`
that every rendered function is in scope: the url reads arguments only, and the query is read
exactly where it is bound.
-/

namespace ElixirClient

/-! ## Bodies in scope -/

namespace Node

/-- Every statement reads known variables only. What a statement binds is known behind it. -/
def Scoped : List String → List Node → Prop
  | _, [] => True
  | known, statement :: rest =>
    statement.reads ⊆ known ∧ Scoped (known ++ statement.bound?.toList) rest

variable {known : List String}

/-- A body in two parts: what the first part binds is known to the second. -/
theorem scoped_append {front back : List Node} :
    Scoped known (front ++ back) ↔
      Scoped known front ∧ Scoped (known ++ front.filterMap bound?) back := by
  induction front generalizing known with
  | nil => simp [Scoped]
  | cons statement rest ih =>
    -- what a statement binds comes in front of what the rest binds
    have hbound : (statement :: rest).filterMap bound? =
        statement.bound?.toList ++ rest.filterMap bound? := by
      cases hcase : statement.bound? with
      | none => rw [List.filterMap_cons_none hcase]; rfl
      | some target => rw [List.filterMap_cons_some hcase]; rfl
    rw [List.cons_append, Scoped, Scoped, ih, hbound, List.append_assoc, and_assoc]

/-- Wherever a statement stands, what it reads is known from the start or bound in front of it. -/
theorem scoped_iff {statements : List Node} :
    Scoped known statements ↔
      ∀ before statement after, statements = before ++ statement :: after →
        ∀ name ∈ statement.reads, name ∈ known ∨ name ∈ before.filterMap bound? := by
  constructor
  · rintro h before statement after rfl name hname
    exact List.mem_append.mp ((scoped_append.mp h).2.1 hname)
  · -- from the last statement on, since the one behind all others has all of them in front
    induction statements using List.reverseRecOn with
    | nil => exact fun _ => trivial
    | append_singleton front last ih =>
      intro h
      refine scoped_append.mpr ⟨ih fun before statement after heq => ?_, fun name hname => ?_, trivial⟩
      · refine h before statement (after ++ [last]) ?_
        rw [heq, List.append_assoc, List.cons_append]
      · exact List.mem_append.mpr (h front last [] rfl name hname)

end Node

/-- The body reads only the arguments and what earlier statements bind. -/
def Function.Scoped (f : Function) : Prop := Node.Scoped (f.arguments.map Argument.name) f.body

/-! ## What rendered functions read -/

namespace Operation

variable {scope : Scope} {operation : Operation} {f : Function}

/-- A url reads arguments of path parameters and no other variable. -/
theorem reads_url_subset {url : List Piece} (h : operation.url = .ok url) :
    (Node.interpolation url).reads ⊆ operation.pathParams.map Param.argument := by
  obtain ⟨path, arguments, _, harguments, hcheck, rfl⟩ := url_eq_ok.mp h
  rw [Node.reads_interpolation]
  intro name hname
  obtain ⟨piece, hpiece, hvar⟩ := List.mem_filterMap.mp hname
  obtain ⟨part, hpart, rfl⟩ := List.mem_map.mp hpiece
  cases part with
  | text cs => cases hvar
  | placeholder raw =>
    -- a placeholder is the name of a parameter, and it became the argument of that parameter
    rw [partPiece_placeholder harguments hcheck hpart] at hvar
    obtain ⟨param, hparam, _, hargument⟩ :=
      exists_param harguments (declared_of_mem_ofPath hcheck hpart)
    rw [← Option.some.inj hvar, ← hargument]
    exact List.mem_map_of_mem hparam

/-- An entry that is left away reads nothing, so its value counts only if it is there. -/
theorem reads_entryIf_subset {condition : Bool} {key : String} {value : Except Fault Node}
    {entries : List (String × Node)} {known : List String}
    (h : entryIf condition key value = .ok entries)
    (hvalue : condition = true → ∀ node, value = .ok node → node.reads ⊆ known) :
    (entries.flatMap fun entry => entry.2.reads) ⊆ known := by
  rcases entryIf_eq_ok h with ⟨_, rfl⟩ | ⟨hcondition, node, hnode, rfl⟩
  · exact List.nil_subset known
  · rw [List.flatMap_singleton]
    exact hvalue hcondition node hnode

/-- The rows of a table are types under literals and atoms, and none of these reads anything. -/
theorem reads_table {α : Type} {rows : List α} {key type : α → Node}
    (hkey : ∀ row ∈ rows, (key row).reads = []) (htype : ∀ row ∈ rows, (type row).IsType) :
    (Node.list (rows.map fun row => .pair (key row) (.typeValue (type row)))).reads = [] := by
  rw [Node.reads_list, List.flatMap_map, List.flatMap_eq_nil_iff]
  intro row hrow
  rw [Node.reads_pair, hkey row hrow, Node.reads_typeValue, (htype row hrow).reads_eq_nil,
    List.append_nil]

theorem reads_requestTable {node : Node} (h : operation.requestTable scope.resolver = .ok node) :
    node.reads = [] := by
  obtain ⟨type, htype, rfl⟩ := requestTable_eq_ok h
  exact reads_table (fun _ _ => Node.reads_literal) fun entry hentry =>
    Resolver.isType_of_resolve (htype entry hentry)

theorem reads_status (status : Status) : status.node.reads = [] := by
  cases status with
  | code n => exact Node.reads_literal
  | default => exact Node.reads_atom

theorem reads_responseTable {node : Node} (h : operation.responseTable scope.resolver = .ok node) :
    node.reads = [] := by
  obtain ⟨type, htype, rfl⟩ := responseTable_eq_ok h
  exact reads_table (fun response _ => reads_status response.1) fun response hresponse =>
    Resolver.isType_of_union (htype response hresponse)

/-- The variables that there are when the request is made. -/
def known (operation : Operation) : List String :=
  operation.formals.map Argument.name ++ operation.locals

/-- The arguments of path parameters are known throughout the body. -/
theorem subset_known {names : List String} (h : names ⊆ operation.pathParams.map Param.argument) :
    names ⊆ operation.known := by
  intro name hname
  have hparam : name ∈ operation.pathParams.map Param.argument := h hname
  simpa [known, formals, or_assoc] using .inl (by simpa using hparam)

theorem opts_mem_known : "opts" ∈ operation.known := by simp [known, formals]

theorem client_mem_known : "client" ∈ operation.known := by simp [known, locals]

theorem body_mem_known (h : operation.hasBody = true) : "body" ∈ operation.known := by
  simp [known, formals, h]

/-- The query is known exactly where the call reads it: both ask whether there are query
parameters. -/
theorem query_mem_known (h : (!operation.queryParams.isEmpty) = true) : "query" ∈ operation.known := by
  rw [Bool.not_eq_true'] at h
  simp [known, locals, h]

/-- The descriptor reads the arguments and, besides the client, the query if there is one. -/
theorem reads_call_subset {call : Node} (h : operation.call scope = .ok call) :
    call.reads ⊆ operation.known := by
  obtain ⟨arguments, url, body, query, request, response, harguments, hurl, hbody, hquery, hrequest,
    hresponse, rfl⟩ := call_eq_ok h
  obtain ⟨_, _, _, rfl⟩ := pathArguments_eq_ok.mp harguments
  have hvar {condition : Bool} {key name : String} {entries : List (String × Node)}
      (h : entryIf condition key (.ok (.var name)) = .ok entries)
      (hname : condition = true → name ∈ operation.known) :
      (entries.flatMap fun entry => entry.2.reads) ⊆ operation.known := by
    refine reads_entryIf_subset h fun hcondition node hnode => ?_
    cases hnode
    rw [Node.reads_var]
    exact List.cons_subset.mpr ⟨hname hcondition, List.nil_subset _⟩
  have hrequest : (request.flatMap fun entry => entry.2.reads) ⊆ operation.known :=
    reads_entryIf_subset hrequest fun _ node hnode =>
      reads_requestTable hnode ▸ List.nil_subset _
  have hresponse : (response.flatMap fun entry => entry.2.reads) ⊆ operation.known :=
    reads_entryIf_subset hresponse fun _ node hnode =>
      reads_responseTable hnode ▸ List.nil_subset _
  have hparams : ((operation.pathParams.map Param.entry).map fun argument =>
      Node.pair (.atom (.str argument.1)) (.var argument.2)).flatMap Node.reads ⊆
        operation.known := by
    refine subset_known ?_
    rw [List.map_map, List.flatMap_map]
    intro name hname
    obtain ⟨param, hparam, hname⟩ := List.mem_flatMap.mp hname
    simp only [Function.comp_apply, Node.reads_pair, Node.reads_atom, Node.reads_var,
      List.nil_append, List.mem_singleton] at hname
    rw [hname]
    exact List.mem_map_of_mem hparam
  have hbodyArg : (if operation.hasBody then [Node.pair (.atom (.str "body")) (.var "body")]
      else []).flatMap Node.reads ⊆ operation.known := by
    split
    · next h => simpa using body_mem_known h
    · exact List.nil_subset _
  -- the entries of the descriptor, in the order in which they are put together
  simp only [Node.reads_call, Node.reads_var, Node.reads_mapLiteral, Node.reads_list,
    Node.reads_pair, Node.reads_moduleRef, Node.reads_atom, List.flatMap_append, List.flatMap_cons,
    List.flatMap_nil, List.append_nil, List.nil_append, List.append_subset, List.cons_subset]
  exact ⟨⟨client_mem_known, List.nil_subset _⟩, ⟨⟨⟨⟨⟨⟨⟨hparams, hbodyArg⟩,
    subset_known (reads_url_subset hurl)⟩, hvar hbody body_mem_known⟩,
    hvar hquery query_mem_known⟩, hrequest⟩, hresponse⟩, opts_mem_known, List.nil_subset _⟩⟩

theorem scoped_query {query : Option Node} {known : List String} (h : operation.query = .ok query)
    (hopts : "opts" ∈ known) : Node.Scoped known query.toList := by
  rcases query_eq_ok h with ⟨_, rfl⟩ | ⟨keys, rfl, _⟩
  · trivial
  · refine ⟨?_, trivial⟩
    rw [Node.reads_assign, Node.reads_selectKeys, Node.reads_var]
    exact List.cons_subset.mpr ⟨hopts, List.nil_subset _⟩

/-- The body of a rendered function reads only its arguments and what it binds before. -/
theorem scoped_function (h : operation.function scope = .ok f) : f.Scoped := by
  obtain ⟨query, call, hquery, hcall, hbody, harguments⟩ := function_eq_ok h
  have hopts : "opts" ∈ operation.formals.map Argument.name := by simp [formals]
  have hclient : clientStatement.reads ⊆ operation.formals.map Argument.name := by
    simpa [clientStatement] using hopts
  -- behind the client and the query, everything is known that the call reads
  have hknown : operation.formals.map Argument.name ++ ["client"] ++
      query.toList.filterMap Node.bound? = operation.known := by
    rw [bound_query hquery, List.append_assoc]
    rfl
  rw [Function.Scoped, hbody, harguments, List.cons_append]
  refine ⟨hclient, Node.scoped_append.mpr ⟨?_, ?_, trivial⟩⟩
  · exact scoped_query hquery (List.mem_append_left _ hopts)
  · show call.reads ⊆ operation.formals.map Argument.name ++ ["client"] ++ _
    rw [hknown]
    exact reads_call_subset hcall

end Operation

end ElixirClient
