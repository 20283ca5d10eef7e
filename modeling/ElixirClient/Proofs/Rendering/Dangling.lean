import ElixirClient.Proofs.Rendering.Responses

/-!
# Operations with unknown schemas

An operation that has a url is rendered, unless one of its types has a schema in it that the name
table does not list; the types of query parameters do not count. Rendering looks at the types of the
path parameters first, then at those of the request body, the two arms of the return type and the
responses in the table, and it stops at the first schema that is not listed
(`renderOperation_dangles`). That the table looks at the request body again makes no difference.
-/

namespace ElixirClient

open TypeRef (Mentions)

/-- The raw name has an entry in the name table. -/
def Scope.Lists (scope : Scope) (raw : Json) : Prop :=
  raw ∈ scope.names.map fun entry => Json.str entry.1

/-- The schema is the first one in the references, from left to right, that is not listed. -/
def Scope.FirstMissing (scope : Scope) (refs : List TypeRef) (raw : Json) : Prop :=
  ∃ before behind, refs.flatMap TypeRef.leaves = before ++ .schema raw :: behind ∧
    (∀ other, .schema other ∈ before → scope.Lists other) ∧ ¬ scope.Lists raw

theorem Scope.knows_iff_lists {scope : Scope} {raw : Json} :
    scope.resolver.Knows raw ↔ scope.Lists raw := by
  have hknows : scope.resolver.Knows raw ↔ ∃ name, scope.names.find? raw = .ok (some name) := by
    constructor
    · rintro ⟨module, hmodule⟩
      obtain ⟨name, hname, _⟩ := Resolver.moduleName_eq_ok.mp hmodule
      exact ⟨name, hname⟩
    · rintro ⟨name, hname⟩
      exact ⟨_, Resolver.moduleName_eq_ok.mpr ⟨name, hname, rfl⟩⟩
  rw [hknows]
  unfold Scope.Lists NameTable.find?
  cases raw with
  | str text =>
    simp only [Except.ok.injEq, List.mem_map, Json.str.injEq]
    rw [← Option.isSome_iff_exists, ← Option.not_isNone, Bool.not_eq_true', ← Bool.not_eq_true,
      Operation.isNone_lookup_iff, not_not, List.mem_map]
  | _ => simp

theorem Scope.firstUnknown_iff {scope : Scope} {refs : List TypeRef} {raw : Json} :
    scope.resolver.FirstUnknown refs raw ↔ scope.FirstMissing refs raw := by
  constructor
  · rintro ⟨before, leaf, behind, hleaves, hbefore, rfl, hunknown⟩
    refine ⟨before, behind, hleaves, fun other hother => ?_, mt knows_iff_lists.mpr hunknown⟩
    exact knows_iff_lists.mp (hbefore _ hother other rfl)
  · rintro ⟨before, behind, hleaves, hbefore, hmissing⟩
    refine ⟨before, _, behind, hleaves, ?_, rfl, mt knows_iff_lists.mp hmissing⟩
    rintro leaf hleaf name rfl
    exact knows_iff_lists.mpr (hbefore name hleaf)

namespace Resolver.RestsOn

variable {α : Type} {r : Resolver} {refs : List TypeRef} {outcome : Except Fault α}

/-- A step that rests on references dangles if one of their schemas is unknown. -/
theorem run_dangles (h : r.RestsOn refs outcome) (t : Trace) :
    (∃ cause t', (Render.ofExcept outcome).run.run t = (.error (.dangling cause), t')) ↔
      ∃ raw, Mentions refs raw ∧ ¬ r.Knows raw := by
  rw [← h.exists_error_iff]
  simp only [Render.run_ofExcept_eq, exists_and_left, exists_eq, and_true]

/-- Its one fault is the first of these schemas, and it leaves nothing behind. -/
theorem run_eq_error (h : r.RestsOn refs outcome) {fault : Fault} {t t' : Trace} :
    (Render.ofExcept outcome).run.run t = (.error fault, t') ↔
      ∃ raw, r.FirstUnknown refs raw ∧ fault = .dangling ⟨raw, none⟩ ∧ t' = t := by
  rw [Render.run_ofExcept_eq, h.eq_error]
  constructor
  · rintro ⟨⟨raw, hraw, hfault⟩, htrace⟩
    exact ⟨raw, hraw, hfault, htrace⟩
  · rintro ⟨raw, hraw, hfault, htrace⟩
    exact ⟨⟨raw, hraw, hfault⟩, htrace⟩

end Resolver.RestsOn

namespace Operation

variable {scope : Scope} {operation : Operation}

/-- The types in the error arm, by rows of responses. -/
def errorTypes (config : Config) (operation : Operation) (rows : List (Status × Content)) :
    List TypeRef :=
  match config.errorType with
  | some type => [type]
  | none => (rows.filter fun row => row.1.Erroneous operation.statuses).flatMap contentRefs

/-- The types of an operation in the order in which they are resolved for the first time, by rows of
responses. -/
def typesInOrder (config : Config) (operation : Operation) (rows : List (Status × Content)) :
    List TypeRef :=
  operation.pathParams.map Param.type ++ (operation.requestBody.map (·.2) ++
    ((rows.filter fun row => row.1.Successful operation.statuses).flatMap contentRefs ++
      (operation.errorTypes config rows ++ rows.flatMap contentRefs)))

/-- Rows without types add nothing. -/
theorem flatMap_contentRefs_filter {P : Status → Prop} [DecidablePred P]
    (rows : List (Status × Content)) :
    (rows.filter fun row => P row.1 ∧ row.2 ≠ []).flatMap contentRefs =
      (rows.filter fun row => P row.1).flatMap contentRefs := by
  induction rows with
  | nil => rfl
  | cons row rest ih =>
    rw [List.filter_cons, List.filter_cons]
    by_cases hP : P row.1
    · by_cases hempty : row.2 = []
      · simpa [hP, hempty, contentRefs] using ih
      · simpa [hP, hempty] using ih
    · simpa [hP] using ih

theorem signatureRefs_eq {config : Config} : operation.signatureRefs config =
    operation.pathParams.map Param.type ++ (operation.requestBody.map (·.2) ++
      ((operation.responsesByStatus.filter fun row =>
          row.1.Successful operation.statuses).flatMap contentRefs ++
        operation.errorTypes config operation.responsesByStatus)) := by
  unfold signatureRefs errorRefs errorTypes
  cases config.errorType with
  | none =>
    dsimp only
    rw [outcomeTypes_eq successful_iff, outcomeTypes_eq erroneous_iff, flatMap_contentRefs_filter,
      flatMap_contentRefs_filter]
  | some type =>
    dsimp only
    rw [outcomeTypes_eq successful_iff, flatMap_contentRefs_filter]

/-- What is asked of the request body once more is known by then. -/
theorem firstUnknown_again {r : Resolver} {refs again behind : List TypeRef} {raw : Json}
    (h : ∀ raw, Mentions again raw → Mentions refs raw) :
    r.FirstUnknown (refs ++ (again ++ behind)) raw ↔ r.FirstUnknown (refs ++ behind) raw := by
  rw [Resolver.firstUnknown_append, Resolver.firstUnknown_append, Resolver.firstUnknown_append]
  refine or_congr_right (and_congr_right fun hknown => ?_)
  have hagain (raw : Json) (hraw : Mentions again raw) : r.Knows raw := hknown raw (h raw hraw)
  constructor
  · rintro (hfirst | ⟨_, hfirst⟩)
    · exact absurd (hagain raw hfirst.mentions) hfirst.not_knows
    · exact hfirst
  · exact fun hfirst => .inr ⟨hagain, hfirst⟩

theorem firstUnknown_iff {raw : Json} :
    scope.resolver.FirstUnknown (operation.signatureRefs scope.config ++ operation.tableRefs) raw ↔
      scope.FirstMissing (operation.typesInOrder scope.config operation.responsesByStatus) raw := by
  have hbody (raw : Json) (hraw : Mentions (operation.requestBody.map (·.2)) raw) :
      Mentions (operation.signatureRefs scope.config) raw := by
    unfold signatureRefs
    simp only [TypeRef.mentions_append]
    exact .inr (.inl hraw)
  rw [tableRefs, firstUnknown_again hbody, Scope.firstUnknown_iff, signatureRefs_eq, typesInOrder,
    List.append_assoc, List.append_assoc, List.append_assoc]

/-- **When an operation is dropped.** In every scope and after anything that came before, rendering
an operation that has a url comes to a dangling reference exactly if a schema in its types, or in
the configured error type, is not in the name table. It is the first one that is not there, and
there is no other fault. -/
theorem renderOperation_dangles (h : operation.Sound)
    (herror : ∀ ref ∈ scope.config.errorType, ref.Sound) {pieces : List Piece}
    (hurl : operation.url = .ok pieces) (t : Trace) :
    ((∃ cause t', (Renderer.default.renderOperation scope operation).run.run t =
        (.error (.dangling cause), t')) ↔
      ∃ raw, Mentions (operation.refs ++ scope.config.errorType.toList) raw ∧ ¬ scope.Lists raw) ∧
    ∃ rows, rows.Perm operation.responses ∧
      ((rows.map (·.1)).Pairwise fun a b => a = b ∨ a.Before b) ∧
      ∀ fault t', (Renderer.default.renderOperation scope operation).run.run t = (.error fault, t') ↔
        ∃ raw, scope.FirstMissing (operation.typesInOrder scope.config rows) raw ∧
          fault = .dangling ⟨raw, none⟩ ∧ t' = t := by
  have hfits : operation.Fits := (fits_iff h.path h.pathParams).mpr ⟨pieces, hurl⟩
  have hrests := artifact_of_fits h herror hfits
  have hmentions (raw : Json) :
      Mentions (operation.signatureRefs scope.config ++ operation.tableRefs) raw ↔
        Mentions (operation.refs ++ scope.config.errorType.toList) raw := by
    have hrefs (ref : TypeRef) : ref ∈ operation.signatureRefs scope.config ++ operation.tableRefs ↔
        ref ∈ operation.refs ++ scope.config.errorType.toList := by
      rw [mem_signatureRefs_append_tableRefs, List.mem_append, Option.mem_toList, Option.mem_def]
    rw [TypeRef.mentions_iff, TypeRef.mentions_iff]
    simp only [hrefs]
  rw [default_renderOperation]
  refine ⟨?_, operation.responsesByStatus, List.mergeSort_perm _ _, sorted_responsesByStatus, ?_⟩
  · rw [hrests.run_dangles]
    simp only [hmentions, Scope.knows_iff_lists]
  · intro fault t'
    rw [hrests.run_eq_error]
    simp only [firstUnknown_iff]

/-- An operation with a redirect and an error that the configured type stands in for. -/
def moveThing : Operation where
  functionName := .str "move"
  moduleName := .str "Things"
  method := "post"
  path := .str "/things/\x7bid\x7d"
  pathParams := [⟨.str "id", .primitive .string⟩]
  queryParams := [⟨.str "page", .schema (.str "page")⟩]
  requestBody := [(.str "application/json", .array (.schema (.str "thing")))]
  responses := [
    (.default, [("application/json", .schema (.str "problem"))]),
    (.code 302, [("text/html", .schema (.str "target"))]),
    (.code 200, [("application/json", .union [.schema (.str "thing"), .primitive .null])])]

/-- Everything that is looked at is listed, but for the type of the redirect. -/
def moveScope : Scope :=
  ⟨{ errorType := some (.schema (.str "fault")) }, [("thing", "Thing"), ("fault", "Fault")]⟩

theorem sound_moveThing : moveThing.Sound where
  path := ⟨_, rfl⟩
  pathParams := by simp [moveThing, Json.IsText]
  queryParams := by simp [moveThing, Json.IsText]
  names := ⟨⟨_, rfl⟩, ⟨_, rfl⟩⟩
  refs := by
    simp [refs, moveThing, contentRefs, TypeRef.sound_primitive, TypeRef.sound_schema,
      TypeRef.sound_array, TypeRef.sound_union]

theorem renderOperation_dangles_moveThing :
    moveThing.Sound ∧ moveThing.url = .ok [.text "/things/", .var "id"] ∧
      ∃ cause t, (Renderer.default.renderOperation moveScope moveThing).run.run {} =
        (.error (.dangling cause), t) := by
  have herror : ∀ ref ∈ moveScope.config.errorType, ref.Sound := by
    rintro ref ⟨⟩
    exact TypeRef.sound_schema "fault"
  have hurl : moveThing.url = .ok [.text "/things/", .var "id"] := by decide +kernel
  refine ⟨sound_moveThing, hurl, ?_⟩
  refine (renderOperation_dangles sound_moveThing herror hurl {}).1.mpr ⟨.str "target", ?_, ?_⟩
  · simp [Mentions, refs, moveThing, contentRefs]
  · simp [Scope.Lists, moveScope]

end Operation

end ElixirClient
