import Mathlib
import ElixirClient.Proofs.Generation.Faults
import ElixirClient.Proofs.Generation.Rendered

/-!
# Paths that end a run

A path that does not fit its parameters is a complaint about the configuration, which ends a run.
But the signature of an operation is made before its path is checked. `generate_configuration_iff`
draws the line: a run ends in such a complaint exactly if there is an operation with a path that
does not fit and a signature in which nothing dangles. Any other operation whose path does not fit
is left out like one whose only fault is a dangling reference.
-/

namespace ElixirClient

open TypeRef (Mentions)

variable {schemas : List Schema} {operations : List Operation} {config : Config} {scope : Scope}

/-- All schemas in the signature of an operation are there. -/
def Operation.SignatureKnown (operation : Operation) (schemas : List Schema) (config : Config) :
    Prop :=
  ∀ raw, Mentions (operation.signatureRefs config) raw → raw ∈ schemas.map Schema.name

/-- A run with a result has left out the operations whose paths do not fit, each for a schema in
its signature. -/
theorem leavesOut_of_not_fits (h : InputSound schemas operations config)
    (hscope : Scope.ofSchemas schemas config = .ok scope) {result : GenerationResult} {trace : Trace}
    (hrun : (generate .default schemas operations config).run.run {} = (.ok result, trace))
    {operation : Operation} (hmem : operation ∈ operations) (hfits : ¬ operation.Fits) :
    ∃ raw, Mentions (operation.signatureRefs config) raw ∧ raw ∉ schemas.map Schema.name ∧
      result.LeavesOut operation raw := by
  obtain rfl := (Scope.ofSchemas_eq_ok.mp hscope).2
  have hrendered := settled_operation hscope hrun hmem
  rcases Operation.artifact_of_not_fits (h.operations operation hmem) h.errorType
    hfits with ⟨_, cause, hcause⟩ | ⟨raw, hraw, hunknown, hdangling⟩
  · -- the complaint would have been the end of the run
    rw [hcause] at hrendered
    rcases hrendered with ⟨artifact, hok⟩ | ⟨raw, hraw, _⟩
    · cases hok
    · cases hraw
  · rw [hdangling] at hrendered
    rcases hrendered with ⟨artifact, hok⟩ | ⟨other, hother, hfailure⟩
    · cases hok
    · cases hother
      exact ⟨raw, hraw, fun hin => hunknown ((Scope.knows_iff hscope).mpr hin), hfailure⟩

/-- **When a path ends a run.** Where everything is called by text, a run ends in a complaint about
the configuration exactly if the path of one of its operations does not fit while all schemas in its
signature are there. A run with a result has left out every operation whose path does not fit, each
for a schema in its signature that is not there. -/
theorem generate_configuration_iff (h : InputSound schemas operations config)
    (hscope : Scope.ofSchemas schemas config = .ok scope) :
    ((∃ cause trace, (generate .default schemas operations config).run.run {} =
        (.error (.configuration cause), trace)) ↔
      ∃ operation ∈ operations, ¬ operation.Fits ∧ operation.SignatureKnown schemas config) ∧
    ∀ result trace,
      (generate .default schemas operations config).run.run {} = (.ok result, trace) →
      ∀ operation ∈ operations, ¬ operation.Fits → ∃ raw,
        Mentions (operation.signatureRefs config) raw ∧ raw ∉ schemas.map Schema.name ∧
        result.LeavesOut operation raw := by
  refine ⟨⟨?_, ?_⟩, fun result trace hrun operation hmem hfits =>
    leavesOut_of_not_fits h hscope hrun hmem hfits⟩
  · rintro ⟨cause, trace, hrun⟩
    rcases generate_outcome h hscope with ⟨result, _, hok⟩ | ⟨_, _, ⟨operation, hmem, hfault⟩, _⟩
    · rw [hrun] at hok
      cases hok
    -- only a path that does not fit gives this fault, and not before the signature is made
    · obtain rfl := (Scope.ofSchemas_eq_ok.mp hscope).2
      obtain ⟨hfits, hknown⟩ := Operation.of_artifact_eq_configuration
        (h.operations operation hmem) h.errorType hfault
      exact ⟨operation, hmem, hfits, fun raw hraw =>
        (Scope.knows_iff hscope).mp (hknown raw hraw)⟩
  · rintro ⟨operation, hmem, hfits, hsignature⟩
    rcases generate_outcome h hscope with ⟨result, trace, hrun⟩ | ⟨cause, trace, _, hrun⟩
    · obtain ⟨raw, hraw, hmissing, _⟩ := leavesOut_of_not_fits h hscope hrun hmem hfits
      exact absurd (hsignature raw hraw) hmissing
    · exact ⟨cause, trace, hrun⟩

section Sample

/-- An operation with a placeholder that is no parameter, and with one response. -/
def withoutParameter (type : TypeRef) : Operation :=
  { functionName := .str "show", moduleName := .str "Pets", method := "get"
    path := .str "/pets/\x7bid\x7d", responses := [(.code 200, [("application/json", type)])] }

theorem sound_withoutParameter {type : TypeRef} (h : type.Sound) :
    (withoutParameter type).Sound where
  path := ⟨_, rfl⟩
  pathParams := nofun
  queryParams := nofun
  names := ⟨⟨_, rfl⟩, ⟨_, rfl⟩⟩
  refs ref href := by
    obtain rfl : ref = type := List.mem_singleton.mp href
    exact h

theorem generate_configuration_iff_withoutParameter :
    ((∃ cause trace, (generate .default [] [withoutParameter (.primitive .any)] {}).run.run {} =
        (.error (.configuration cause), trace)) ↔
      ∃ operation ∈ [withoutParameter (.primitive .any)], ¬ operation.Fits ∧
        operation.SignatureKnown [] {}) ∧
    ∀ result trace,
      (generate .default [] [withoutParameter (.primitive .any)] {}).run.run {} =
        (.ok result, trace) →
      ∀ operation ∈ [withoutParameter (.primitive .any)], ¬ operation.Fits → ∃ raw,
        Mentions (operation.signatureRefs {}) raw ∧ raw ∉ ([] : List Schema).map Schema.name ∧
        result.LeavesOut operation raw := by
  have hsound : (TypeRef.primitive .any).Sound :=
    ⟨by simp [TypeRef.Proper, TypeRef.IsProper], by simp [TypeRef.TextNamed, TypeRef.IsTextNamed]⟩
  have hinput : InputSound [] [withoutParameter (.primitive .any)] {} :=
    ⟨List.forall_mem_nil _, List.forall_mem_singleton.mpr (sound_withoutParameter hsound),
      fun _ href => absurd href (Option.not_mem_none _)⟩
  have hscope : Scope.ofSchemas [] {} = .ok ⟨{}, []⟩ := rfl
  exact generate_configuration_iff hinput hscope

/-- An operation whose path does not fit is left out for a schema that is not there, and the run
goes on to its result. -/
theorem leftOut_before_path_is_checked :
    ¬ (withoutParameter (.schema (.str "ghost"))).Fits ∧
      (Scope.ofSchemas [] {}).isOk = true ∧
      ((generate .default [] [withoutParameter (.schema (.str "ghost"))] {}).run.run {}).1 =
        .ok ⟨[], [], [⟨.str "ghost", some "Pets.show"⟩]⟩ := by
  refine ⟨by decide +kernel, by rfl, by cbv⟩

end Sample

end ElixirClient
