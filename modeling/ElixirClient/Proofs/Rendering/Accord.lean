import ElixirClient.Proofs.Rendering.Request
import ElixirClient.Proofs.Rendering.Scoping

/-!
# A specification and its function

The specification of an operation and its function are made by different steps, and so are the
arguments of the function and the tables of its request. `Operation.Accords` is what has to hold
between them: arguments and their types stand at the same places, the request names every parameter
with its argument, and the body reads no variable that is not there. `accords_of_renderOperation`
says that it holds of whatever rendering yields.
-/

namespace ElixirClient

open Naming (variableName)

namespace Operation

/-- The specification of an artifact fits its function, and both fit the operation. -/
structure Accords (scope : Scope) (operation : Operation) (artifact : OperationArtifact) : Prop where
  arity : artifact.signature.arguments.length = artifact.function.arguments.length
  /-- Every path parameter has one type and one argument, both at its place. -/
  param : ∀ i (hi : i < operation.pathParams.length), ∃ raw type,
    operation.pathParams[i].name = .str raw ∧
    scope.resolver.resolve operation.pathParams[i].type = .ok type ∧
    artifact.signature.arguments[i]? = some type ∧
    artifact.function.arguments[i]? = some ⟨variableName raw, none⟩
  /-- Behind the parameters come the options only, if nothing is sent in a body. -/
  withoutBody : operation.requestBody = [] →
    artifact.signature.arguments.drop operation.pathParams.length = [.options] ∧
    artifact.function.arguments.drop operation.pathParams.length = [⟨"opts", some (.list [])⟩]
  /-- A body comes before the options, with the union of its types. -/
  withBody : operation.requestBody ≠ [] → ∃ type,
    scope.resolver.union (operation.requestBody.map (·.2)) = .ok type ∧
    artifact.signature.arguments.drop operation.pathParams.length = [type, .options] ∧
    artifact.function.arguments.drop operation.pathParams.length =
      [⟨"body", none⟩, ⟨"opts", some (.list [])⟩]
  /-- The request pairs raw names with arguments, in the order of declaration. -/
  args : artifact.function.request.lookup "args" = some (.list (
    (operation.pathParams.map fun param =>
      .pair (.atom param.name) (.var (variableName param.name.plain))) ++
    if operation.requestBody = [] then [] else [.pair (.atom (.str "body")) (.var "body")]))
  distinct : (operation.pathParams.map Param.name).Nodup
  /-- What a statement reads is an argument or bound by an earlier statement. -/
  reads : ∀ before statement after, artifact.function.body = before ++ statement :: after →
    ∀ name ∈ statement.reads,
      name ∈ artifact.function.arguments.map Argument.name ∨ name ∈ before.filterMap Node.bound?

variable {scope : Scope} {operation : Operation}

/-- The types of the arguments: those of the parameters at their places, the body, the options. -/
theorem types_of_signature {signature : Signature} (h : operation.signature scope = .ok signature) :
    ∃ type : TypeRef → Node, ∃ body,
      (∀ param ∈ operation.pathParams, scope.resolver.resolve param.type = .ok (type param.type)) ∧
      operation.bodyTypes scope = .ok body ∧
      signature.arguments =
        operation.pathParams.map (fun param => type param.type) ++ (body ++ [.options]) := by
  obtain ⟨params, body, hparams, hbody, _, harguments⟩ := signature_eq_ok h
  rw [Resolver.resolveAll_eq] at hparams
  obtain ⟨type, htype, rfl⟩ := mapM_eq_ok.mp hparams
  refine ⟨type, body, fun param hparam => htype _ (List.mem_map_of_mem hparam), hbody, ?_⟩
  rw [harguments, List.map_map, List.append_assoc]
  rfl

/-- The names of the parameters are texts, and no two of them are the same: else their arguments
were the same, too. -/
theorem names_of_function {f : Function} (h : operation.function scope = .ok f) :
    (∀ param ∈ operation.pathParams, ∃ raw, param.name = .str raw) ∧
      (operation.pathParams.map Param.name).Nodup := by
  obtain ⟨query, call, _, hcall, _, _⟩ := function_eq_ok h
  obtain ⟨_, _, _, _, _, _, harguments, _⟩ := call_eq_ok hcall
  obtain ⟨htext, _, hnodup, _⟩ := pathArguments_eq_ok.mp harguments
  refine ⟨htext, List.Nodup.of_map (fun name : Json => variableName name.plain) ?_⟩
  rwa [List.map_map]

/-- **Specification and function agree.** Whatever the scope and the operation, if the operation is
rendered, its specification and its function have their arguments at the same places, and the
request and the body of the function use exactly these arguments. -/
theorem accords_of_renderOperation {artifact : OperationArtifact} {t t' : Trace}
    (h : (Renderer.default.renderOperation scope operation).run.run t = (.ok artifact, t')) :
    operation.Accords scope artifact := by
  obtain ⟨hsignature, hfunction, _⟩ := artifact_eq_ok (renderOperation_eq.mp h).1
  obtain ⟨type, body, htype, hbody, htypes⟩ := types_of_signature hsignature
  obtain ⟨_, _, _, _, _, harguments⟩ := function_eq_ok hfunction
  obtain ⟨htext, hdistinct⟩ := names_of_function hfunction
  rw [formals, List.append_assoc] at harguments
  -- both lists start with the parameters, so what follows stands behind as many places in both
  have hdropTypes : artifact.signature.arguments.drop operation.pathParams.length =
      body ++ [.options] := by
    rw [htypes, List.drop_left' (List.length_map _)]
  have hdropArguments : artifact.function.arguments.drop operation.pathParams.length =
      (if operation.hasBody then [⟨"body", none⟩] else []) ++ [⟨"opts", some (.list [])⟩] := by
    rw [harguments, List.drop_left' (List.length_map _)]
  refine ⟨?arity, ?param, ?withoutBody, ?withBody, ?args, hdistinct, ?reads⟩
  case arity =>
    rw [htypes, harguments]
    rcases bodyTypes_eq_ok hbody with ⟨hempty, rfl⟩ | ⟨hsome, node, _, rfl⟩
    · simp [hasBody_eq_false_iff.mpr hempty]
    · simp [hasBody_eq_true_iff.mpr hsome]
  case param =>
    intro i hi
    obtain ⟨raw, hraw⟩ := htext operation.pathParams[i] (List.getElem_mem hi)
    refine ⟨raw, type operation.pathParams[i].type, hraw, htype _ (List.getElem_mem hi), ?_, ?_⟩
    · rw [htypes, List.getElem?_append_left (by rwa [List.length_map]), List.getElem?_map,
        List.getElem?_eq_getElem hi, Option.map_some]
    · rw [harguments, List.getElem?_append_left (by rwa [List.length_map]), List.getElem?_map,
        List.getElem?_eq_getElem hi, Option.map_some, Param.argument, hraw]
      rfl
  case withoutBody =>
    intro hempty
    rw [hdropTypes, hdropArguments, hasBody_eq_false_iff.mpr hempty]
    obtain ⟨_, rfl⟩ := (bodyTypes_eq_ok hbody).resolve_right fun h => h.1 hempty
    exact ⟨rfl, rfl⟩
  case withBody =>
    intro hsome
    rw [hdropTypes, hdropArguments, hasBody_eq_true_iff.mpr hsome]
    obtain ⟨_, node, hnode, rfl⟩ := (bodyTypes_eq_ok hbody).resolve_left fun h => hsome h.1
    exact ⟨node, hnode, rfl, rfl⟩
  case args =>
    rw [lookup_args_request hfunction, argPairs]
    by_cases hempty : operation.requestBody = []
    · rw [if_pos hempty, hasBody_eq_false_iff.mpr hempty]
      rfl
    · rw [if_neg hempty, hasBody_eq_true_iff.mpr hempty]
      rfl
  case reads => exact Node.scoped_iff.mp (scoped_function hfunction)

/-- An operation with a parameter in its path, one in its query, and a body. -/
def updateThing : Operation :=
  { withParameters "thing-id" "page" with
    requestBody := [(.str "application/json", .schema (.str "thing"))] }

theorem accords_updateThing :
    ∃ artifact, (Renderer.default.renderOperation ⟨{}, [("thing", "Thing")]⟩ updateThing).run.run
        {} = (.ok artifact, {}) ∧
      updateThing.Accords ⟨{}, [("thing", "Thing")]⟩ artifact := by
  obtain ⟨artifact, h⟩ : ∃ artifact, updateThing.artifact ⟨{}, [("thing", "Thing")]⟩ = .ok artifact :=
    exists_eq_ok_of_isOk (by decide +kernel)
  have hrun : (Renderer.default.renderOperation ⟨{}, [("thing", "Thing")]⟩ updateThing).run.run {} =
      (.ok artifact, {}) := renderOperation_eq.mpr ⟨h, rfl⟩
  exact ⟨artifact, hrun, accords_of_renderOperation hrun⟩

end Operation

end ElixirClient
