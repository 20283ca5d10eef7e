import Mathlib
import ElixirClient.Proofs.Rendering.Outcome
import ElixirClient.Proofs.Rendering.Request
import ElixirClient.Proofs.Resolver.Unions

/-!
# Responses in types and tables

The responses of an operation are told twice: the specification puts the types of all successes into
one arm and those of all errors into the other, and the request has a table with one type for each
status. `Operation.Answers` says how the two fit together: the arms are made of what the table holds
(`outcome_eq_arm`). `answers_of_renderOperation` finds them so in whatever rendering yields.
-/

namespace ElixirClient

/-! ## Statuses -/

namespace Status

/-- Codes stand before greater codes and before `default`. -/
def Before : Status → Status → Prop
  | .code a, .code b => a < b
  | .code _, .default => True
  | .default, _ => False

/-- A status that tells success, among the declared ones. -/
def Successful (declared : List Status) : Status → Prop
  | .code n => n < 300
  | .default => declared = [.default]

/-- A status that tells an error. Redirects tell neither. -/
def Erroneous (declared : List Status) : Status → Prop
  | .code n => 400 ≤ n
  | .default => declared ≠ [.default]

instance (declared : List Status) : DecidablePred (Successful declared)
  | .code n => inferInstanceAs (Decidable (n < 300))
  | .default => inferInstanceAs (Decidable (declared = [.default]))

instance (declared : List Status) : DecidablePred (Erroneous declared)
  | .code n => inferInstanceAs (Decidable (400 ≤ n))
  | .default => inferInstanceAs (Decidable (declared ≠ [.default]))

/-- The comparison that sorts the rows, without its computation. -/
theorem le_iff {a b : Status} : a.le b = true ↔ a = b ∨ a.Before b := by
  cases a <;> cases b <;> simp [le, Before, Int.le_iff_eq_or_lt]

theorem le_trans (a b c : Status) (hab : a.le b = true) (hbc : b.le c = true) : a.le c = true := by
  cases a <;> cases b <;> cases c <;> simp_all [le]
  omega

theorem le_total (a b : Status) : (a.le b || b.le a) = true := by
  cases a <;> cases b <;> simp [le]
  omega

theorem le_antisymm {a b : Status} (hab : a.le b = true) (hba : b.le a = true) : a = b := by
  cases a <;> cases b <;> simp_all [le]
  omega

end Status

/-- One arm of a return type: bare, or with the one type that all payloads make. -/
def Node.arm (tag : String) : List Node → Node
  | [] => .marker tag
  | payloads => .tagged tag (ofUnion (firstOfEach key? (payloads.flatMap unionMembers)))

namespace Operation

variable {scope : Scope} {operation : Operation}

/-- The statuses that are declared. -/
def statuses (operation : Operation) : List Status := operation.responses.map (·.1)

/-- What a function returns and what its request says of responses, for rows of statuses and
contents, a marker for each row, and an arm of errors. -/
structure Answers (scope : Scope) (operation : Operation) (artifact : OperationArtifact)
    (rows : List (Status × Content)) (marker : Status × Content → Node) (error : Node) : Prop where
  perm : rows.Perm operation.responses
  sorted : (rows.map (·.1)).Pairwise fun a b => a = b ∨ a.Before b
  /-- Statuses of responses are keys, so none of them comes twice. -/
  ascending : operation.statuses.Nodup → (rows.map (·.1)).Pairwise Status.Before
  union : ∀ row ∈ rows, scope.resolver.union (contentRefs row) = .ok (marker row)
  absent : artifact.function.request.lookup "response" = none ↔ operation.responses = []
  table : operation.responses ≠ [] → artifact.function.request.lookup "response" =
    some (.list (rows.map fun row => .pair row.1.node (.typeValue (marker row))))
  returnType : artifact.signature.returnType = .union [
    .arm "ok" ((rows.filter fun row => row.1.Successful operation.statuses ∧ row.2 ≠ []).map marker),
    error]
  declared : scope.config.errorType = none → error = .arm "error"
    ((rows.filter fun row => row.1.Erroneous operation.statuses ∧ row.2 ≠ []).map marker)
  configured : ∀ ref, scope.config.errorType = some ref → ∃ payload,
    scope.resolver.resolve ref = .ok payload ∧ error = .tagged "error" payload

/-! ## Rows of the table -/

theorem sorted_responsesByStatus :
    (operation.responsesByStatus.map (·.1)).Pairwise fun a b => a = b ∨ a.Before b := by
  refine List.pairwise_map.mpr ?_
  have hsorted : operation.responsesByStatus.Pairwise fun a b => a.1.le b.1 :=
    List.pairwise_mergeSort (fun a b c => Status.le_trans a.1 b.1 c.1)
      (fun a b => Status.le_total a.1 b.1) _
  exact hsorted.imp Status.le_iff.mp

/-- Sorting alone leaves room for a status to come twice. A descriptor with different statuses has
none. -/
theorem ascending_responsesByStatus (h : operation.statuses.Nodup) :
    (operation.responsesByStatus.map (·.1)).Pairwise Status.Before := by
  have hperm : (operation.responsesByStatus.map (·.1)).Perm operation.statuses :=
    (List.mergeSort_perm _ _).map _
  have hdistinct : (operation.responsesByStatus.map (·.1)).Nodup := hperm.nodup_iff.mpr h
  exact (sorted_responsesByStatus.and hdistinct).imp fun ⟨hle, hne⟩ => hle.resolve_left hne

/-! ## Arms of the return type -/

/-- The types of an arm are those of the rows that it is for. Rows without types add nothing. -/
theorem outcomeTypes_eq {success : Bool} {P : Status → Prop} [DecidablePred P]
    (h : ∀ status : Status,
      (status.isRedirect || operation.isSuccess status != success) = false ↔ P status) :
    operation.outcomeTypes success =
      (operation.responsesByStatus.filter fun row => P row.1 ∧ row.2 ≠ []).flatMap contentRefs := by
  unfold outcomeTypes
  induction operation.responsesByStatus with
  | nil => rfl
  | cons row rest ih =>
    rw [List.flatMap_cons, ih, List.filter_cons]
    by_cases hP : P row.1
    · simp only [(h row.1).mpr hP, Bool.false_eq_true, if_false, hP, true_and]
      by_cases hempty : row.2 = []
      · simp [hempty]
      · simp [hempty, contentRefs]
    · simp [hP, Bool.not_eq_false _ ▸ mt (h row.1).mp hP]

/-- What goes into the arm of successes is what the table calls a success. The default is one if it
is the only response. -/
theorem successful_iff (status : Status) :
    (status.isRedirect || operation.isSuccess status != true) = false ↔
      status.Successful operation.statuses := by
  cases status with
  | code n =>
    simp only [Status.isRedirect, isSuccess, Bool.bne_true, Bool.or_eq_false_iff,
      Bool.and_eq_false_imp, decide_eq_true_eq, decide_eq_false_iff_not, not_lt,
      Bool.not_eq_eq_eq_not, Bool.not_false, Status.Successful, and_iff_right_iff_imp]
    omega
  | default => simp [Status.isRedirect, isSuccess, onlyDefault, Status.Successful, statuses]

/-- As `successful_iff` for the other arm. Redirects are in neither. -/
theorem erroneous_iff (status : Status) :
    (status.isRedirect || operation.isSuccess status != false) = false ↔
      status.Erroneous operation.statuses := by
  cases status with
  | code n =>
    simp only [Status.isRedirect, isSuccess, Bool.bne_false, Bool.or_eq_false_iff,
      Bool.and_eq_false_imp, decide_eq_true_eq, decide_eq_false_iff_not, not_lt, Status.Erroneous]
    omega
  | default => simp [Status.isRedirect, isSuccess, onlyDefault, Status.Erroneous, statuses]

/-- The arm of rows that all have types is made of their markers. -/
theorem outcome_eq_arm {resolver : Resolver} {tag : String} {rows : List (Status × Content)}
    {marker : Status × Content → Node} {node : Node} (hne : ∀ row ∈ rows, row.2 ≠ [])
    (hmarker : ∀ row ∈ rows, resolver.union (contentRefs row) = .ok (marker row))
    (h : outcome resolver tag (rows.flatMap contentRefs) = .ok node) :
    node = .arm tag (rows.map marker) := by
  have hrefs : ∀ row ∈ rows, contentRefs row ≠ [] := fun row hrow =>
    mt List.map_eq_nil_iff.mp (hne row hrow)
  cases rows with
  | nil =>
    cases h
    rfl
  | cons row rest =>
    have hsome : (row :: rest).flatMap contentRefs ≠ [] := fun hempty =>
      hrefs row List.mem_cons_self (List.flatMap_eq_nil_iff.mp hempty row List.mem_cons_self)
    obtain ⟨payload, hpayload, rfl⟩ := (outcome_eq_ok h).resolve_left fun h => hsome h.1
    rw [Resolver.union_flatMap hrefs hmarker] at hpayload
    obtain ⟨_, rfl⟩ := Node.merge_eq_ok.mp hpayload
    rfl

/-- The arm of the rows that a condition picks is made of their markers. -/
theorem outcome_eq_arm_filter {tag : String} {success : Bool} {P : Status → Prop} [DecidablePred P]
    {marker : Status × Content → Node} {node : Node}
    (hP : ∀ status : Status,
      (status.isRedirect || operation.isSuccess status != success) = false ↔ P status)
    (hmarker : ∀ row ∈ operation.responsesByStatus,
      scope.resolver.union (contentRefs row) = .ok (marker row))
    (h : outcome scope.resolver tag (operation.outcomeTypes success) = .ok node) :
    node = .arm tag
      ((operation.responsesByStatus.filter fun row => P row.1 ∧ row.2 ≠ []).map marker) := by
  rw [outcomeTypes_eq hP] at h
  refine outcome_eq_arm (fun row hrow => ?_) (fun row hrow => ?_) h
  · exact (of_decide_eq_true (List.mem_filter.mp hrow).2).2
  · exact hmarker row (List.mem_filter.mp hrow).1

/-! ## The table and the arms together -/

/-- The types in the table. An operation without responses has no table, but no rows either. -/
theorem exists_marker {f : Function} (h : operation.function scope = .ok f) :
    ∃ marker : Status × Content → Node,
      (∀ row ∈ operation.responsesByStatus,
        scope.resolver.union (contentRefs row) = .ok (marker row)) ∧
      (f.request.lookup "response" = none ↔ operation.responses = []) ∧
      (operation.responses ≠ [] → f.request.lookup "response" =
        some (.list (operation.responsesByStatus.map fun row =>
          .pair row.1.node (.typeValue (marker row))))) := by
  have hlookup := lookup_response_request h
  by_cases hempty : operation.responses = []
  · rw [hempty, List.isEmpty_nil, if_pos rfl] at hlookup
    refine ⟨fun _ => default, fun row hrow => ?_, iff_of_true hlookup hempty,
      fun h => absurd hempty h⟩
    rw [mem_responsesByStatus, hempty] at hrow
    cases hrow
  · rw [if_neg (mt List.isEmpty_iff.mp hempty)] at hlookup
    obtain ⟨table, htable, hlookup⟩ := hlookup
    obtain ⟨marker, hmarker, rfl⟩ := responseTable_eq_ok htable
    refine ⟨marker, hmarker, iff_of_false ?_ hempty, fun _ => hlookup⟩
    rw [hlookup]
    nofun

/-- **Return type and response table agree.** Whatever the scope and the operation, if the operation
is rendered, its request has one row for each declared status, and the arms of its return type are
made of the markers in these rows. -/
theorem answers_of_renderOperation {artifact : OperationArtifact} {t t' : Trace}
    (h : (Renderer.default.renderOperation scope operation).run.run t = (.ok artifact, t')) :
    ∃ rows marker error, operation.Answers scope artifact rows marker error := by
  obtain ⟨hsignature, hfunction, _⟩ := artifact_eq_ok (renderOperation_eq.mp h).1
  obtain ⟨_, _, _, _, hreturn, _⟩ := signature_eq_ok hsignature
  obtain ⟨ok, error, hok, herror, htype⟩ := returnType_eq_ok hreturn
  obtain ⟨marker, hmarker, habsent, htable⟩ := exists_marker hfunction
  refine ⟨operation.responsesByStatus, marker, error, List.mergeSort_perm _ _,
    sorted_responsesByStatus, ascending_responsesByStatus, hmarker, habsent, htable, ?_, ?_, ?_⟩
  · rw [htype, outcome_eq_arm_filter successful_iff hmarker hok]
  · intro hnone
    rw [errorOutcome, hnone] at herror
    exact outcome_eq_arm_filter erroneous_iff hmarker herror
  · intro ref hsome
    rw [errorOutcome, hsome] at herror
    obtain ⟨payload, hpayload, rfl⟩ := map_eq_ok.mp herror
    exact ⟨payload, hpayload, rfl⟩

/-- An operation with successes, errors, a redirect and a status without types. -/
def fetchThing : Operation where
  functionName := .str "fetch"
  moduleName := .str "Things"
  method := "get"
  path := .str "/things"
  responses := [
    (.default, [("application/json", .schema (.str "problem"))]),
    (.code 404, [("application/json", .union [.schema (.str "problem"), .primitive .null])]),
    (.code 302, [("application/json", .schema (.str "thing"))]),
    (.code 204, []),
    (.code 200, [("application/json", .schema (.str "thing")), ("text/plain", .primitive .string)])]

/-- The schemas that `fetchThing` refers to. -/
def thingScope : Scope := ⟨{}, [("thing", "Thing"), ("problem", "Problem")]⟩

theorem answers_fetchThing :
    ∃ artifact, (Renderer.default.renderOperation thingScope fetchThing).run.run {} =
        (.ok artifact, {}) ∧
      ∃ rows marker error, fetchThing.Answers thingScope artifact rows marker error := by
  obtain ⟨artifact, h⟩ : ∃ artifact, fetchThing.artifact thingScope = .ok artifact :=
    exists_eq_ok_of_isOk (by cbv)
  have hrun : (Renderer.default.renderOperation thingScope fetchThing).run.run {} =
      (.ok artifact, {}) := renderOperation_eq.mpr ⟨h, rfl⟩
  exact ⟨artifact, hrun, answers_of_renderOperation hrun⟩

end Operation

end ElixirClient
