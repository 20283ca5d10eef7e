import Mathlib
import ElixirClient.Proofs.Generation.Rounds

/-!
# Accounting for a run

A run takes every schema that gets a module and every operation to exactly one of two places: its
artifact stands in the result, or a failure names it. `generate_accounts` says this with the order
of both places, and that each artifact is the one that rendering makes on its own, on an empty
trace: what is left out does not show in what is not.
-/

namespace ElixirClient

open Render (Settled)

/-- What a result has to do with the schemas and operations that it comes from, each in the order of
the run. -/
structure Accounted (scope : Scope) (kept : List (Schema × String)) (ordered : List Operation)
    (result : GenerationResult) : Prop where
  schemas_settled : ∀ entry ∈ kept, Settled (scope.freshSchema entry.1)
  operations_settled : ∀ operation ∈ ordered, Settled (scope.freshOperation operation)
  schemas : result.schemas = kept.filterMap fun entry => (scope.freshSchema entry.1).toOption
  operations : result.modules.flatMap (·.operations) =
    ordered.filterMap fun operation => (scope.freshOperation operation).toOption
  /-- Every operation stands in the module that it names. -/
  of_module : ∀ module ∈ result.modules, module.operations =
    (ordered.filter fun operation => operation.moduleName = .str module.name).filterMap
      fun operation => (scope.freshOperation operation).toOption
  nonempty : ∀ module ∈ result.modules, module.operations ≠ []
  ascending : (result.modules.map (·.name)).Pairwise (· < ·)
  failures : result.failures =
    kept.filterMap scope.schemaFailure? ++ ordered.filterMap scope.operationFailure?

/-- **Accounting for a run.** Whenever a run of the default renderer has a result, the result holds
of every schema that gets a module and of every operation either the artifact that rendering makes
of it alone or one failure that names it, both in the order of the run. -/
theorem generate_accounts {schemas : List Schema} {operations : List Operation} {config : Config}
    {result : GenerationResult} {trace : Trace}
    (h : (generate .default schemas operations config).run.run {} = (.ok result, trace)) :
    ∃ scope entries ordered, Scope.ofSchemas schemas config = .ok scope ∧
      scope.named schemas = .ok entries ∧ Operation.inRunOrder operations = .ok ordered ∧
      ordered.Perm operations ∧
      ((∀ operation ∈ operations, operation.HasTextNames) →
        ordered = operations.mergeSort Operation.runsBefore) ∧
      Accounted scope (scope.kept entries) ordered result := by
  obtain ⟨scope, entries, names, group, out, hscope, hentries, hnames, hgroup, hsettled, hsettled',
    hrenders, rfl⟩ := generate_spec h
  have hordered : Operation.inRunOrder operations = .ok (names.flatMap group) :=
    Operation.inRunOrder_eq_ok.mpr ⟨names, group, hnames, hgroup, rfl⟩
  refine ⟨scope, entries, names.flatMap group, hscope, hentries, hordered,
    Operation.perm_of_inRunOrder hordered, fun htext => ?_, ?_⟩
  · rw [Operation.inRunOrder_text htext] at hordered
    exact (Except.ok.inj hordered).symm
  · exact {
      schemas_settled := hsettled
      operations_settled := by
        intro operation hmem
        obtain ⟨name, hname, hmem⟩ := List.mem_flatMap.mp hmem
        exact hsettled' name hname operation hmem
      schemas := rfl
      operations := by
        show (names.filterMap out).flatMap _ = _
        rw [List.filterMap_eq_flatMap_toList, List.flatMap_assoc, List.filterMap_flatMap]
        exact List.flatMap_congr fun name hname => (hrenders name hname).operations_eq
      of_module := by
        -- its operations are those of its group, and only text has the key of its name
        intro module hmem
        obtain ⟨name, hname, hmodule⟩ := List.mem_filterMap.mp hmem
        obtain ⟨rfl, _, hoperations⟩ := (hrenders name hname).of_eq_some hmodule
        rw [hoperations, ← Operation.filter_flatMap_group hnames hgroup hname]
        congr 1
        refine List.filter_congr fun operation _ => ?_
        rw [decide_eq_decide]
        exact Json.key?_eq_str
      nonempty := by
        intro module hmem
        obtain ⟨name, hname, hmodule⟩ := List.mem_filterMap.mp hmem
        exact ((hrenders name hname).of_eq_some hmodule).2.1
      ascending := by
        show ((names.filterMap out).map _).Pairwise _
        cases hmodules : names.filterMap out with
        | nil => exact .nil
        | cons module rest =>
          -- one name of text is enough for all names to ascend
          obtain ⟨name, hname, hmodule⟩ :=
            List.mem_filterMap.mp (hmodules ▸ List.mem_cons_self : module ∈ names.filterMap out)
          obtain ⟨rfl, _⟩ := (hrenders name hname).of_eq_some hmodule
          rw [← hmodules, List.pairwise_map, List.pairwise_filterMap]
          refine (Operation.ascending_names_of_mem hnames hname).imp_of_mem ?_
          intro m n hm hn hlt a ha b hb
          rw [((hrenders m hm).of_eq_some ha).1, ((hrenders n hn).of_eq_some hb).1] at hlt
          exact hlt
      failures := rfl }

section Sample

/-- A schema that can be rendered, one with a field of an unknown type, and one without a module. -/
def sampleSchemas : List Schema :=
  [⟨.str "tag", .primitive .object, .null, .null, [], none, .null⟩,
    ⟨.str "pet", .primitive .object, .null, .null,
      [("owner", ⟨.str "owner", .reference, .null, .null, [], none, .str "nobody"⟩)], none, .null⟩,
    ⟨.str "ids", .array, .null, .null, [], none, .null⟩]

def sampleOperation (module function type : String) : Operation :=
  { moduleName := .str module, functionName := .str function, method := "get", path := .str "/x"
    responses := [(.code 200, [("application/json", .schema (.str type))])] }

/-- One module with an operation of either fate, and one that loses its only operation. -/
def sampleOperations : List Operation :=
  [sampleOperation "Tags" "list" "tag", sampleOperation "Pets" "show" "nobody",
    sampleOperation "Tags" "find" "nobody"]

/-- What the sample comes to, by name. -/
def GenerationResult.summary (result : GenerationResult) :
    List String × List String × List (Option String) :=
  (result.schemas.map (·.name), result.modules.map (·.name), result.failures.map (·.artifact))

/-- A run whose result is summed up has a result. -/
theorem exists_result_of_summary {run : Except Fault GenerationResult × Trace}
    {names : List String × List String × List (Option String)}
    (h : run.1.map GenerationResult.summary = .ok names) :
    ∃ result trace, run = (.ok result, trace) ∧ result.summary = names := by
  obtain ⟨fault | result, trace⟩ := run
  · cases h
  · exact ⟨result, trace, rfl, Except.ok.inj h⟩

theorem generate_accounts_sample :
    ∃ result trace,
      (generate .default sampleSchemas sampleOperations {}).run.run {} = (.ok result, trace) ∧
      result.summary = (["Tag"], ["Tags"], [some "Pet", some "Pets.show", some "Tags.find"]) ∧
      ∃ scope entries ordered, Scope.ofSchemas sampleSchemas {} = .ok scope ∧
        scope.named sampleSchemas = .ok entries ∧
        Operation.inRunOrder sampleOperations = .ok ordered ∧ ordered.Perm sampleOperations ∧
        ((∀ operation ∈ sampleOperations, operation.HasTextNames) →
          ordered = sampleOperations.mergeSort Operation.runsBefore) ∧
        Accounted scope (scope.kept entries) ordered result := by
  have hsummary : ((generate .default sampleSchemas sampleOperations {}).run.run {}).1.map
      GenerationResult.summary =
        .ok (["Tag"], ["Tags"], [some "Pet", some "Pets.show", some "Tags.find"]) := by cbv
  obtain ⟨result, trace, hrun, hnames⟩ := exists_result_of_summary hsummary
  exact ⟨result, trace, hrun, hnames, generate_accounts hrun⟩

end Sample

end ElixirClient
