import ElixirClient.Proofs.Rendering.Parts

/-!
# The request descriptor

A rendered function ends with a call that hands a table to the client, the descriptor of its request
(`Function.request`). Which entries it has depends on the operation; `lookup_args_request` and
`lookup_response_request` read two of them off: the values of the path parameters, which are always
there, and the types of the responses, which are there if any response is declared.
-/

namespace ElixirClient

/-- The entries of the request descriptor. -/
def Function.request (f : Function) : List (String × Node) :=
  match f.body.getLast? with
  | some (.call (.var "client") "request" [.mapLiteral entries]) => entries
  | _ => []

namespace Operation

variable {scope : Scope} {operation : Operation} {f : Function}

/-- The values of the path parameters under their raw names, and the body if there is one. -/
def argPairs (operation : Operation) : List Node :=
  (operation.pathParams.map fun param => .pair (.atom param.name) (.var param.argument)) ++
    if operation.hasBody then [.pair (.atom (.str "body")) (.var "body")] else []

theorem lookup_entryIf_of_ne {condition : Bool} {key other : String} {value : Except Fault Node}
    {entries : List (String × Node)} (h : entryIf condition key value = .ok entries)
    (hne : other ≠ key) : entries.lookup other = none := by
  rcases entryIf_eq_ok h with ⟨_, rfl⟩ | ⟨_, node, _, rfl⟩
  · rfl
  · rw [List.lookup_cons, beq_eq_false_iff_ne.mpr hne, List.lookup_nil]

/-- An entry is found exactly if its condition holds, and then it is what its value has come to. -/
theorem lookup_entryIf_self {condition : Bool} {key : String} {value : Except Fault Node}
    {entries : List (String × Node)} (h : entryIf condition key value = .ok entries) :
    if condition then ∃ node, value = .ok node ∧ entries.lookup key = some node
    else entries.lookup key = none := by
  rcases entryIf_eq_ok h with ⟨rfl, rfl⟩ | ⟨rfl, node, hnode, rfl⟩
  · exact List.lookup_nil
  · exact ⟨node, hnode, List.lookup_cons_self⟩

/-- The descriptor is what the last statement hands over. -/
theorem request_eq (h : operation.function scope = .ok f) :
    ∃ call, operation.call scope = .ok call ∧
      ∀ entries, call = .call (.var "client") "request" [.mapLiteral entries] →
        f.request = entries := by
  obtain ⟨query, call, _, hcall, hbody, _⟩ := function_eq_ok h
  refine ⟨call, hcall, fun entries hentries => ?_⟩
  rw [Function.request, hbody, List.getLast?_concat, hentries]
  rfl

/-- The values of the path parameters are handed over by their raw names, in the order of
declaration, and the body comes last. -/
theorem lookup_args_request (h : operation.function scope = .ok f) :
    f.request.lookup "args" = some (.list operation.argPairs) := by
  obtain ⟨call, hcall, hrequest⟩ := request_eq h
  obtain ⟨arguments, _, _, _, _, _, harguments, _, _, _, _, _, rfl⟩ := call_eq_ok hcall
  obtain ⟨htext, _, _, rfl⟩ := pathArguments_eq_ok.mp harguments
  -- a raw name is text, so the atom that is made of this text is the atom of the name
  have hpairs : ((operation.pathParams.map Param.entry).map fun argument =>
      Node.pair (.atom (.str argument.1)) (.var argument.2)) =
        operation.pathParams.map fun param => .pair (.atom param.name) (.var param.argument) := by
    rw [List.map_map]
    refine List.map_congr_left fun param hparam => ?_
    obtain ⟨raw, hraw⟩ := htext param hparam
    rw [Function.comp_apply, Param.entry, hraw]
    rfl
  rw [hrequest _ rfl, hpairs]
  simp only [List.cons_append, List.lookup_cons_self, argPairs]

theorem lookup_response_request (h : operation.function scope = .ok f) :
    if operation.responses.isEmpty then f.request.lookup "response" = none
    else ∃ table, operation.responseTable scope.resolver = .ok table ∧
      f.request.lookup "response" = some table := by
  obtain ⟨call, hcall, hrequest⟩ := request_eq h
  obtain ⟨_, _, body, query, request, response, _, _, hbody, hquery, hrequestEntry, hresponse, rfl⟩ :=
    call_eq_ok hcall
  -- all other entries have other keys
  have hlookup : f.request.lookup "response" = response.lookup "response" := by
    rw [hrequest _ rfl]
    simp [List.lookup_append, lookup_entryIf_of_ne hbody, lookup_entryIf_of_ne hquery,
      lookup_entryIf_of_ne hrequestEntry, List.lookup_cons]
  rw [hlookup]
  have hself := lookup_entryIf_self hresponse
  cases hempty : operation.responses.isEmpty <;> simpa [hempty] using hself

end Operation

end ElixirClient
