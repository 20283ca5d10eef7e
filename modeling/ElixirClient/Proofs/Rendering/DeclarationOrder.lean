import ElixirClient.Proofs.Rendering.Responses

/-!
# The order of declarations

Properties are rendered by name, responses by status and query parameters by name, so the order in
which a descriptor declares them does not show (`render_perm`). Names of properties and statuses are
keys, which no two entries share; query parameters may share a name, for they are rendered as names.
-/

namespace ElixirClient

variable {scope : Scope}

namespace Schema

variable {schema : Schema} {properties : List (String × Schema)}

/-- Sorting is stable, but names tell properties apart, so there is nothing for stability to
keep. -/
theorem propertiesByName_perm (hperm : properties.Perm schema.properties)
    (hdistinct : (schema.properties.map (·.1)).Nodup) :
    propertiesByName { schema with properties } = schema.propertiesByName := by
  refine StableSort.mergeSort_eq_of_perm StableSort.byText_trans StableSort.byText_total hperm ?_
  intro a ha b hb hab hba
  have hname : a.1 = b.1 :=
    le_antisymm (StableSort.byText_iff.mp hab) (StableSort.byText_iff.mp hba)
  exact List.inj_on_of_nodup_map hdistinct ha hb hname

theorem artifact_perm (hperm : properties.Perm schema.properties)
    (hdistinct : (schema.properties.map (·.1)).Nodup) :
    artifact scope { schema with properties } = schema.artifact scope := by
  unfold artifact fieldTypes decoders fieldNames
  rw [propertiesByName_perm hperm hdistinct]
  -- what is left of the two schemas is asked for fields that they share
  rfl

end Schema

namespace Operation

variable {operation : Operation} {responses : List (Status × Content)} {queryParams : List Param}

/-! ## Responses -/

section Responses

variable (hperm : responses.Perm operation.responses)

include hperm

/-- Whether the default is the only response is no matter of order. -/
theorem onlyDefault_perm :
    onlyDefault { operation with responses, queryParams } = operation.onlyDefault := by
  refine decide_eq_decide.mpr ?_
  -- a list of one status has no other order, so being that list is a matter of permutations
  rw [← List.perm_singleton, ← List.perm_singleton]
  exact ⟨(hperm.map _).symm.trans, (hperm.map _).trans⟩

variable (hstatuses : operation.statuses.Nodup)

include hstatuses

/-- Statuses tell responses apart as names do properties. -/
theorem responsesByStatus_perm :
    responsesByStatus { operation with responses, queryParams } = operation.responsesByStatus := by
  refine StableSort.mergeSort_eq_of_perm (fun a b c => Status.le_trans a.1 b.1 c.1)
    (fun a b => Status.le_total a.1 b.1) hperm ?_
  intro a ha b hb hab hba
  have hstatus : a.1 = b.1 := Status.le_antisymm hab hba
  exact List.inj_on_of_nodup_map hstatuses ha hb hstatus

/-- Which responses are successes depends on all of them, but on no order. -/
theorem outcomeTypes_perm :
    outcomeTypes { operation with responses, queryParams } = operation.outcomeTypes := by
  funext success
  have hsuccess : isSuccess { operation with responses, queryParams } = operation.isSuccess := by
    funext status
    unfold isSuccess
    rw [onlyDefault_perm hperm]
  unfold outcomeTypes
  rw [responsesByStatus_perm hperm hstatuses, hsuccess]

/-- Of responses a signature sees only what `outcomeTypes` makes of them. -/
theorem signature_perm :
    signature scope { operation with responses, queryParams } = operation.signature scope := by
  unfold signature returnType
  rw [outcomeTypes_perm hperm hstatuses]
  rfl

end Responses

/-! ## Query parameters -/

/-- The allow-list is made of the names alone, so even parameters of one name can change places. -/
theorem query_perm (hperm : queryParams.Perm operation.queryParams)
    (htext : ∀ param ∈ operation.queryParams, param.name.IsText) :
    query { operation with responses, queryParams } = operation.query := by
  have hnames : ∀ name ∈ operation.queryParams.map Param.name, (id name).IsText :=
    List.forall_mem_map.mpr htext
  unfold query
  rw [Json.sortBy?_eq_of_perm (hperm.map Param.name) hnames fun a ha b hb =>
    Json.eq_of_plain_eq (hnames a ha) (hnames b hb), hperm.isEmpty_eq]

/-! ## The artifact -/

section Artifact

variable (hresponses : responses.Perm operation.responses) (hstatuses : operation.statuses.Nodup)
  (hqueryParams : queryParams.Perm operation.queryParams)

include hresponses hstatuses hqueryParams

/-- The call has a table for responses by status, and asks besides only whether there are any
responses and any query parameters. -/
theorem call_perm :
    call scope { operation with responses, queryParams } = operation.call scope := by
  unfold call responseTable
  rw [responsesByStatus_perm hresponses hstatuses, hresponses.isEmpty_eq, hqueryParams.isEmpty_eq]
  rfl

/-- A signature, a statement for the query and a call: none of them sees the order. -/
theorem artifact_perm (htext : ∀ param ∈ operation.queryParams, param.name.IsText) :
    artifact scope { operation with responses, queryParams } = operation.artifact scope := by
  unfold artifact function
  rw [signature_perm hresponses hstatuses, query_perm hqueryParams htext,
    call_perm hresponses hstatuses hqueryParams]
  rfl

end Artifact

end Operation

/-- **Declaration order does not show.** In every scope, rendering a schema that declares the same
properties in another order is the same action, so it ends in the same artifact or the same fault;
and so is rendering an operation that declares the same responses and query parameters in other
orders. -/
theorem render_perm :
    (∀ (schema : Schema) (properties : List (String × Schema)),
      properties.Perm schema.properties → (schema.properties.map (·.1)).Nodup →
      Renderer.default.renderSchema scope { schema with properties } =
        Renderer.default.renderSchema scope schema) ∧
    ∀ (operation : Operation) (responses : List (Status × Content)) (queryParams : List Param),
      responses.Perm operation.responses → operation.statuses.Nodup →
      queryParams.Perm operation.queryParams →
      (∀ param ∈ operation.queryParams, param.name.IsText) →
      Renderer.default.renderOperation scope { operation with responses, queryParams } =
        Renderer.default.renderOperation scope operation := by
  constructor
  · intro schema properties hperm hdistinct
    rw [default_renderSchema, default_renderSchema, Schema.artifact_perm hperm hdistinct]
  · intro operation responses queryParams hresponses hstatuses hqueryParams htext
    rw [default_renderOperation, default_renderOperation,
      Operation.artifact_perm hresponses hstatuses hqueryParams htext]

section Sample

/-- A name with an owner, the other way around. -/
def nameplate : Schema where
  name := .str "nameplate"
  kind := .primitive .object
  properties := [
    ("owner", { name := .str "owner", kind := .reference, ref := .str "person" }),
    ("name", { name := .str "name", kind := .primitive .string })]

/-- A search that declares what is sorted last first. -/
def searchThings : Operation where
  functionName := .str "search"
  moduleName := .str "Things"
  method := "get"
  path := .str "/things"
  queryParams := [⟨.str "page", .primitive .integer⟩, ⟨.str "filter", .primitive .string⟩]
  responses := [
    (.default, [("application/json", .schema (.str "problem"))]),
    (.code 200, [("application/json", .array (.schema (.str "nameplate")))])]

/-- The scope names the schema but neither what its owner refers to nor what an error is. -/
def nameplateScope : Scope := ⟨{}, [("nameplate", "Nameplate")]⟩

theorem render_perm_reverse :
    Renderer.default.renderSchema nameplateScope
        { nameplate with properties := nameplate.properties.reverse } =
      Renderer.default.renderSchema nameplateScope nameplate ∧
    Renderer.default.renderOperation nameplateScope
        { searchThings with
          responses := searchThings.responses.reverse
          queryParams := searchThings.queryParams.reverse } =
      Renderer.default.renderOperation nameplateScope searchThings := by
  have htext : ∀ param ∈ searchThings.queryParams, param.name.IsText := by
    simp [searchThings, Json.IsText]
  constructor
  · exact render_perm.1 nameplate _ (List.reverse_perm _) (by decide)
  · exact render_perm.2 searchThings _ _ (List.reverse_perm _) (by decide) (List.reverse_perm _)
      htext

end Sample

end ElixirClient
