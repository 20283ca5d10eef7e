import Mathlib.Logic.Function.Basic
import ElixirClient.Proofs.PathTemplate.Arguments
import ElixirClient.Proofs.Rendering.Parts

/-!
# Variables of a generated function

The body of a generated function binds variables of its own: the client, and the query if the
operation has query parameters (`function_spec`). The names of its arguments are made from the
path parameters, and only `body` and `opts` are kept out of them. So a path parameter can take the
name of a local variable, and the body then replaces the value that the caller passed:
`noCapture_iff` says for which operations this does not happen.

What expressions stand for is left open. All that counts is what a statement binds, so the values
of variables after the body follow from `bound` alone (`after_of_not_mem_bound`,
`after_true_of_mem_bound`).
-/

namespace ElixirClient

/-- The variable that a statement binds. -/
def Node.bound? : Node → Option String
  | .assign target _ => some target
  | _ => none

namespace Function

variable {α : Type} (value : (String → α) → Node → α)

/-- The variables that the statements of a body bind, in order. -/
def bound (f : Function) : List String := f.body.filterMap Node.bound?

/-- No statement binds an argument anew. -/
def NoCapture (f : Function) : Prop :=
  ∀ target node, .assign target node ∈ f.body → ∀ argument ∈ f.arguments, argument.name ≠ target

/-- The values of variables after a statement, for any meaning of expressions. -/
def afterStatement (env : String → α) : Node → String → α
  | .assign target node => Function.update env target (value env node)
  | _ => env

/-- The values of variables after the body. -/
def after (f : Function) (env : String → α) : String → α :=
  f.body.foldl (afterStatement value) env

theorem noCapture_iff_bound {f : Function} :
    f.NoCapture ↔ ∀ target ∈ f.bound, target ∉ f.arguments.map Argument.name := by
  constructor
  · intro h target htarget hargument
    obtain ⟨node, hnode, hbound⟩ := List.mem_filterMap.mp htarget
    obtain ⟨argument, hmem, rfl⟩ := List.mem_map.mp hargument
    cases node with
    | assign target value =>
      cases hbound
      exact h _ _ hnode argument hmem rfl
    | _ => cases hbound
  · intro h target node hnode argument hmem hname
    exact h target (List.mem_filterMap.mpr ⟨_, hnode, rfl⟩) (List.mem_map.mpr ⟨argument, hmem, hname⟩)

/-! ## Values after the body -/

/-- A variable that no statement binds keeps its value. Induction on the body, from any values
on. -/
theorem after_of_not_mem_bound {f : Function} {x : String} (h : x ∉ f.bound) (env : String → α) :
    f.after value env x = env x := by
  obtain ⟨_, _, body⟩ := f
  show body.foldl (afterStatement value) env x = env x
  replace h : x ∉ body.filterMap Node.bound? := h
  induction body generalizing env with
  | nil => rfl
  | cons statement rest ih =>
    rw [List.foldl_cons]
    cases statement with
    | assign target node =>
      have hbound : (Node.assign target node).bound? = some target := rfl
      rw [List.filterMap_cons_some hbound, List.mem_cons, not_or] at h
      rw [ih _ h.2]
      exact Function.update_of_ne h.1 _ _
    | _ => exact ih env h

/-- If all expressions are true, a variable that was true or is bound is true after the body. -/
theorem after_true_of_mem_bound {f : Function} {x : String} {env : String → Bool}
    (h : x ∈ f.bound ∨ env x = true) : f.after (fun _ _ => true) env x = true := by
  obtain ⟨_, _, body⟩ := f
  show body.foldl (afterStatement fun _ _ => true) env x = true
  replace h : x ∈ body.filterMap Node.bound? ∨ env x = true := h
  induction body generalizing env with
  | nil => exact h.resolve_left List.not_mem_nil
  | cons statement rest ih =>
    rw [List.foldl_cons]
    refine ih ?_
    -- the hypothesis has to be carried over to the values after the first statement
    cases statement with
    | assign target node =>
      have hbound : (Node.assign target node).bound? = some target := rfl
      rw [List.filterMap_cons_some hbound, List.mem_cons, or_assoc] at h
      by_cases hx : x = target
      · rw [hx]
        exact .inr (Function.update_self _ _ _)
      · refine (h.resolve_left hx).imp_right fun henv => ?_
        rw [← henv]
        exact Function.update_of_ne hx _ _
    | _ => exact h

/-- A variable keeps its value under all meanings of expressions exactly if no statement binds
it. -/
theorem forall_after_eq_iff {f : Function} {x : String} :
    (∀ (α : Type) (value : (String → α) → Node → α) (env : String → α),
      f.after value env x = env x) ↔ x ∉ f.bound := by
  constructor
  · -- with everything false before and true as an expression, a bound variable changes
    intro h hbound
    have htrue : f.after (fun _ _ => true) (fun _ => false) x = true :=
      after_true_of_mem_bound (.inl hbound)
    rw [h] at htrue
    cases htrue
  · intro h α value env
    exact after_of_not_mem_bound value h env

end Function

/-! ## What the body binds -/

namespace Operation

variable {scope : Scope} {operation : Operation} {f : Function}

/-- The variables that the body needs for itself. -/
def locals (operation : Operation) : List String :=
  "client" :: if operation.queryParams.isEmpty then [] else ["query"]

theorem bound_query {query : Option Node} (h : operation.query = .ok query) :
    query.toList.filterMap Node.bound? =
      if operation.queryParams.isEmpty then [] else ["query"] := by
  unfold Operation.query at h
  split at h
  · next hempty =>
    cases h
    rw [if_pos hempty]
    rfl
  · next hsome =>
    obtain ⟨keys, _, hquery⟩ := bind_eq_ok.mp h
    cases hquery
    rw [if_neg hsome]
    rfl

theorem bound_call {call : Node} (h : operation.call scope = .ok call) : call.bound? = none := by
  obtain ⟨_, _, _, _, _, _, _, _, _, _, _, _, rfl⟩ := call_eq_ok h
  rfl

/-- The names of the arguments of a function and of the variables that its body binds. -/
theorem function_spec (h : operation.function scope = .ok f) :
    f.arguments.map Argument.name = operation.pathParams.map Param.argument ++
        (if operation.hasBody then ["body"] else []) ++ ["opts"] ∧
      f.bound = operation.locals := by
  obtain ⟨query, call, hquery, hcall, hbody, harguments⟩ := function_eq_ok h
  refine ⟨?_, ?_⟩
  · rw [harguments, formals, List.map_append, List.map_append, List.map_map]
    congr 2
    split <;> rfl
  · -- the call comes last and binds nothing
    have hclient : clientStatement.bound? = some "client" := rfl
    rw [Function.bound, hbody, List.cons_append, List.filterMap_cons_some hclient,
      List.filterMap_append, bound_query hquery, List.filterMap_cons_none (bound_call hcall),
      List.filterMap_nil, List.append_nil, locals]

/-- No path parameter takes the name of a variable that the body needs for itself. -/
def KeepsClear (operation : Operation) : Prop :=
  ∀ param ∈ operation.pathParams,
    param.argument ≠ "client" ∧ (operation.queryParams ≠ [] → param.argument ≠ "query")

theorem keepsClear_iff :
    operation.KeepsClear ↔ ∀ param ∈ operation.pathParams, param.argument ∉ operation.locals := by
  refine forall₂_congr fun param _ => ?_
  unfold locals
  rw [List.mem_cons, not_or]
  refine and_congr_right fun _ => ?_
  cases operation.queryParams with
  | nil => exact ⟨fun _ => List.not_mem_nil, fun _ h => absurd rfl h⟩
  | cons query rest =>
    show (query :: rest ≠ [] → _) ↔ param.argument ∉ ["query"]
    rw [List.mem_singleton]
    exact ⟨fun h => h (List.cons_ne_nil _ _), fun h _ => h⟩

/-- The arguments that are not path parameters have no name of a local variable. -/
theorem not_mem_locals {name : String} (h : name = "body" ∨ name = "opts") :
    name ∉ operation.locals := by
  unfold locals
  rcases h with rfl | rfl <;> split <;> decide

/-- **Captured arguments.** The body of a generated function leaves all arguments alone exactly if
no path parameter takes the name of a variable that the body needs for itself. Under the same
condition, and no other, every path argument still has the value that the caller passed when the
request is made. -/
theorem noCapture_iff (h : operation.function scope = .ok f) :
    (f.NoCapture ↔ operation.KeepsClear) ∧
      ((∀ param ∈ operation.pathParams, ∀ (α : Type) (value : (String → α) → Node → α)
          (env : String → α), f.after value env param.argument = env param.argument) ↔
        operation.KeepsClear) := by
  obtain ⟨hnames, hbound⟩ := function_spec h
  rw [keepsClear_iff]
  constructor
  · rw [Function.noCapture_iff_bound, hbound, hnames]
    constructor
    · intro hfree param hparam hlocal
      refine hfree _ hlocal (List.mem_append_left _ (List.mem_append_left _ ?_))
      exact List.mem_map.mpr ⟨param, hparam, rfl⟩
    -- no local is called as the body or the options, so only parameters can be captured
    · intro hclear target htarget hname
      rcases List.mem_append.mp hname with hname | hname
      · rcases List.mem_append.mp hname with hname | hname
        · obtain ⟨param, hparam, rfl⟩ := List.mem_map.mp hname
          exact hclear param hparam htarget
        · split at hname
          · exact not_mem_locals (.inl (List.mem_singleton.mp hname)) htarget
          · cases hname
      · exact not_mem_locals (.inr (List.mem_singleton.mp hname)) htarget
  · refine forall₂_congr fun param _ => ?_
    rw [Function.forall_after_eq_iff, hbound]

/-- An operation with one path parameter and one query parameter. -/
def withParameters (path query : String) : Operation :=
  { functionName := .str "show", moduleName := .str "Things", method := "get"
    path := .str ("/things/\x7b" ++ path ++ "\x7d")
    pathParams := [⟨.str path, .primitive .string⟩]
    queryParams := [⟨.str query, .primitive .string⟩] }

theorem noCapture_thing_id :
    ∃ f, (withParameters "thing-id" "page").function ⟨{}, []⟩ = .ok f ∧
      (f.NoCapture ↔ (withParameters "thing-id" "page").KeepsClear) ∧
      ((∀ param ∈ (withParameters "thing-id" "page").pathParams, ∀ (α : Type)
          (value : (String → α) → Node → α) (env : String → α),
          f.after value env param.argument = env param.argument) ↔
        (withParameters "thing-id" "page").KeepsClear) := by
  obtain ⟨f, h⟩ : ∃ f, (withParameters "thing-id" "page").function ⟨{}, []⟩ = .ok f :=
    exists_eq_ok_of_isOk (by decide +kernel)
  exact ⟨f, h, noCapture_iff h⟩

/-- A path parameter of the name `client` gives way to the client. -/
theorem captured_client :
    ∃ f, (withParameters "client" "page").function ⟨{}, []⟩ = .ok f ∧ ¬ f.NoCapture ∧
      f.after (fun _ _ => true) (fun _ => false) "client" = true := by
  obtain ⟨f, h⟩ : ∃ f, (withParameters "client" "page").function ⟨{}, []⟩ = .ok f :=
    exists_eq_ok_of_isOk (by decide +kernel)
  obtain ⟨hnames, hbound⟩ := function_spec h
  have hclient : "client" ∈ f.bound := by
    rw [hbound]
    exact List.mem_cons_self
  have hargument : "client" ∈ f.arguments.map Argument.name := by
    rw [hnames]
    decide +kernel
  refine ⟨f, h, fun hfree => ?_, Function.after_true_of_mem_bound (.inl hclient)⟩
  exact Function.noCapture_iff_bound.mp hfree "client" hclient hargument

end Operation

end ElixirClient
