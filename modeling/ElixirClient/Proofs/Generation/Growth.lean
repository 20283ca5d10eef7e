import ElixirClient.Proofs.Generation.Accounting
import ElixirClient.Proofs.Generation.Scope
import ElixirClient.Proofs.Rendering.Growth

/-!
# One more schema

A run on one more schema knows one more name. Whatever could be rendered without it comes out the
same (`Scope.Grows`), and the new schema takes its place among the others without moving them
(`kept_concat`). So the result grows: `generate_grows` finds every artifact again, and besides the
new schema nothing fails that did not fail before.
-/

namespace ElixirClient

open Render (Settled failure?)

/-- The larger result has all artifacts of the smaller one, operations in the module of the same
name. Of its failures at most one is about the artifact of the given name that is new; all others
are about artifacts that have failed in the smaller result. -/
structure GenerationResult.GrowsInto (result larger : GenerationResult) (name : String) : Prop where
  schemas : result.schemas.Sublist larger.schemas
  modules : ∀ module ∈ result.modules, ∃ grown ∈ larger.modules,
    grown.name = module.name ∧ module.operations.Sublist grown.operations
  failures : ∃ front back, ∃ own : Option Dangling, larger.failures = front ++ own.toList ++ back ∧
    (∀ failure ∈ own, failure.artifact = some name) ∧
    ((front ++ back).map Dangling.artifact).Sublist (result.failures.map Dangling.artifact)

/-! ## Outcomes that persist -/

/-- Two ways of picking from a list, one of which picks more. -/
theorem filterMap_sublist {α β : Type} {f g : α → Option β} {l : List α}
    (h : ∀ x ∈ l, ∀ y, f x = some y → g x = some y) : (l.filterMap f).Sublist (l.filterMap g) := by
  induction l with
  | nil => exact List.Sublist.refl _
  | cons x rest ih =>
    have hrest := ih fun z hz => h z (List.mem_cons_of_mem x hz)
    cases hf : f x with
    | none =>
      rw [List.filterMap_cons_none hf]
      cases hg : g x with
      | none => rwa [List.filterMap_cons_none hg]
      | some y =>
        rw [List.filterMap_cons_some hg]
        exact hrest.cons y
    | some y =>
      rw [List.filterMap_cons_some hf, List.filterMap_cons_some (h x List.mem_cons_self y hf)]
      exact hrest.cons_cons y

theorem filterMap_toList {α β : Type} (f : α → Option β) (own : Option α) :
    own.toList.filterMap f = (own.bind f).toList := by
  cases own with
  | none => rfl
  | some x => rw [List.filterMap_eq_flatMap_toList]; exact List.flatMap_singleton _ _

section Outcomes

variable {α β : Type} {xs : List α} {outcome outcome' : α → Except Fault β}
  (h : ∀ x ∈ xs, Persists (outcome x) (outcome' x))

include h

theorem artifacts_sublist :
    (xs.filterMap fun x => (outcome x).toOption).Sublist
      (xs.filterMap fun x => (outcome' x).toOption) :=
  filterMap_sublist fun x hx a ha => toOption_eq_some.mpr (h x hx a (toOption_eq_some.mp ha))

/-- What fails now has failed before, though maybe for another reference. -/
theorem failures_sublist (hsettled : ∀ x ∈ xs, Settled (outcome x)) {name : α → String} :
    ((xs.filterMap fun x => failure? (name x) (outcome' x)).map Dangling.artifact).Sublist
      ((xs.filterMap fun x => failure? (name x) (outcome x)).map Dangling.artifact) := by
  rw [List.map_filterMap, List.map_filterMap]
  refine filterMap_sublist fun x hx artifact hfailure => ?_
  rcases hsettled x hx with ⟨a, ha⟩ | ⟨ref, href⟩
  · rw [h x hx a ha] at hfailure
    cases hfailure
  · obtain ⟨failure, hmissing, rfl⟩ := Option.map_eq_some_iff.mp hfailure
    obtain ⟨missing, _, rfl⟩ := Option.map_eq_some_iff.mp hmissing
    rw [href]
    rfl

end Outcomes

/-! ## The larger scope -/

section Scopes

variable {schemas : List Schema} {schema : Schema} {config : Config} {scope other : Scope}
  (hscope : Scope.ofSchemas schemas config = .ok scope)
  (hother : Scope.ofSchemas (schemas ++ [schema]) config = .ok other)

include hscope hother

theorem grows_concat : scope.Grows other := by
  obtain ⟨htable, hconfig⟩ := Scope.ofSchemas_eq_ok.mp hscope
  obtain ⟨htable', hconfig'⟩ := Scope.ofSchemas_eq_ok.mp hother
  refine ⟨hconfig'.trans hconfig.symm, fun raw name hname => ?_⟩
  obtain ⟨hmem, text, htext, hnormalize⟩ := (NameTable.find?_eq_some htable).mp hname
  refine (NameTable.find?_eq_some htable').mpr ⟨?_, text, htext, hnormalize⟩
  rw [List.map_append]
  exact List.mem_append_left _ hmem

/-- The entries of the larger run are those of the smaller one and that of the new schema. -/
theorem named_concat {entries entries' : List (Schema × String)}
    (hentries : scope.named schemas = .ok entries)
    (hentries' : other.named (schemas ++ [schema]) = .ok entries') :
    ∃ raw name, schema.name = .str raw ∧ config.naming.normalize raw = .ok name ∧
      entries' = entries ++ [(schema, name)] := by
  have hmem : schema ∈ schemas ++ [schema] := List.mem_append_right _ List.mem_cons_self
  obtain ⟨name, hname⟩ := exists_normalizedName hother hmem
  obtain ⟨_, raw, hraw, hnormalize⟩ := (NameTable.find?_eq_some (Scope.ofSchemas_eq_ok.mp hother).1).mp
    (Schema.normalizedName_eq_ok.mp hname)
  obtain ⟨rfl, hnames⟩ := named_eq_ok.mp hentries
  refine ⟨raw, name, hraw, hnormalize, ?_⟩
  have hconcat : other.named (entries.map Prod.fst ++ [schema]) = .ok (entries ++ [(schema, name)]) := by
    refine named_eq_ok.mpr ⟨List.map_append, fun entry hentry => ?_⟩
    rcases List.mem_append.mp hentry with hentry | hentry
    · exact (grows_concat hscope hother).normalizedName _ _ (hnames entry hentry)
    · rw [List.mem_singleton.mp hentry]
      exact hname
  exact Except.ok.inj (hentries'.symm.trans hconcat)

end Scopes

section Fresh

variable {scope other : Scope} (h : scope.Grows other)

include h

theorem Scope.Grows.freshSchema (schema : Schema) :
    Persists (scope.freshSchema schema) (other.freshSchema schema) := by
  rw [scope.freshSchema_eq, other.freshSchema_eq]
  exact h.schema_artifact schema

theorem Scope.Grows.freshOperation (operation : Operation) :
    Persists (scope.freshOperation operation) (other.freshOperation operation) := by
  rw [scope.freshOperation_eq, other.freshOperation_eq]
  exact h.operation_artifact operation

end Fresh

/-- The new schema takes its place among the others, or has none if it gets no module. -/
theorem kept_concat {scope other : Scope} (hconfig : other.config = scope.config)
    (entries : List (Schema × String)) (entry : Schema × String) :
    ∃ front back, ∃ own : Option (Schema × String), scope.kept entries = front ++ back ∧
      other.kept (entries ++ [entry]) = front ++ own.toList ++ back ∧ ∀ e ∈ own, e = entry := by
  unfold Scope.kept
  rw [hconfig, List.filter_append, List.filter_singleton]
  cases entry.1.getsModule entry.2 scope.config with
  | true =>
    obtain ⟨front, back, hkept, hkept'⟩ :=
      StableSort.mergeSort_concat nameBefore_trans nameBefore_total
        (entries.filter fun entry => entry.1.getsModule entry.2 scope.config) entry
    refine ⟨front, back, some entry, hkept, ?_, fun e he => (Option.mem_some_iff.mp he).symm⟩
    rw [cond_true, hkept', Option.toList_some, List.append_assoc, List.singleton_append]
  | false =>
    refine ⟨_, [], none, (List.append_nil _).symm, ?_, nofun⟩
    rw [cond_false, List.append_nil, Option.toList_none, List.append_nil, List.append_nil]

/-! ## The larger result -/

/-- A group with a module in the smaller run has one in the larger run, with more operations. -/
theorem Scope.RendersGroup.grows {scope other : Scope} (hgrows : scope.Grows other) {name : Json}
    {members : List Operation} {out out' : Option OperationModule}
    (h : scope.RendersGroup name members out) (h' : other.RendersGroup name members out')
    {module : OperationModule} (hout : out = some module) :
    ∃ grown, out' = some grown ∧ grown.name = module.name ∧
      module.operations.Sublist grown.operations := by
  obtain ⟨rfl, hne, hoperations⟩ := h.of_eq_some hout
  have hsub : (members.filterMap fun operation => (scope.freshOperation operation).toOption).Sublist
      (members.filterMap fun operation => (other.freshOperation operation).toOption) :=
    artifacts_sublist fun operation _ => hgrows.freshOperation operation
  rw [hoperations] at hne ⊢
  rcases h' with ⟨hempty, _⟩ | ⟨text, grown, htext, hout', hname, _, hgrown, _⟩
  · exact absurd (List.sublist_nil.mp (hempty ▸ hsub)) hne
  · exact ⟨grown, hout', hname.trans (Json.str.inj htext).symm, hgrown ▸ hsub⟩

theorem artifact_of_schemaFailure? {scope : Scope} {entry : Schema × String} {failure : Dangling}
    (h : scope.schemaFailure? entry = some failure) : failure.artifact = some entry.2 := by
  obtain ⟨missing, _, rfl⟩ := Option.map_eq_some_iff.mp h
  rfl

/-- **One more schema does no harm.** If runs of the default renderer with and without one more
schema both have results, all artifacts of the smaller result stand in the larger one, and whatever
fails in the larger run, the new schema apart, has failed in the smaller run. -/
theorem generate_grows {schemas : List Schema} {schema : Schema} {operations : List Operation}
    {config : Config} {result larger : GenerationResult} {trace trace' : Trace}
    (h : (generate .default schemas operations config).run.run {} = (.ok result, trace))
    (h' : (generate .default (schemas ++ [schema]) operations config).run.run {} =
      (.ok larger, trace')) :
    ∃ raw name, schema.name = .str raw ∧ config.naming.normalize raw = .ok name ∧
      result.GrowsInto larger name := by
  obtain ⟨scope, entries, names, group, out, hscope, hentries, hnames, hgroup, hsettled, hsettled',
    hrenders, rfl⟩ := generate_spec h
  obtain ⟨other, entries', names', group', out', hother, hentries', hnames', hgroup', _, _, hrenders',
    rfl⟩ := generate_spec h'
  have hgrows : scope.Grows other := grows_concat hscope hother
  -- the operations are grouped and sorted alike in both runs
  obtain rfl : names' = names := Option.some.inj (hnames'.symm.trans hnames)
  have hmembers : ∀ name ∈ names', group' name = group name := fun name hname =>
    Option.some.inj ((hgroup' name hname).symm.trans (hgroup name hname))
  obtain ⟨raw, name, hraw, hnormalize, rfl⟩ := named_concat hscope hother hentries hentries'
  obtain ⟨front, back, own, hkept, hkept', hown⟩ := kept_concat hgrows.config entries (schema, name)
  rw [hkept] at hsettled
  refine ⟨raw, name, hraw, hnormalize, ?schemas, ?modules, ?failures⟩
  case schemas =>
    have hsub : (scope.kept entries).Sublist (other.kept (entries ++ [(schema, name)])) := by
      rw [hkept, hkept']
      exact (List.sublist_append_left front own.toList).append (.refl back)
    exact (artifacts_sublist fun entry _ => hgrows.freshSchema entry.1).trans (hsub.filterMap _)
  case modules =>
    intro module hmodule
    obtain ⟨name, hname, hout⟩ := List.mem_filterMap.mp hmodule
    have hlarger := hrenders' name hname
    rw [hmembers name hname] at hlarger
    obtain ⟨grown, hgrown, hmodule⟩ := (hrenders name hname).grows hgrows hlarger hout
    exact ⟨grown, List.mem_filterMap.mpr ⟨name, hname, hgrown⟩, hmodule⟩
  case failures =>
    have hoperations : names'.flatMap group' = names'.flatMap group := List.flatMap_congr hmembers
    refine ⟨front.filterMap other.schemaFailure?, back.filterMap other.schemaFailure? ++
      (names'.flatMap group).filterMap other.operationFailure?, own.bind other.schemaFailure?,
      ?_, fun failure hfailure => ?_, ?_⟩
    · show (other.kept _).filterMap _ ++ (names'.flatMap group').filterMap _ = _
      rw [hkept', hoperations, List.filterMap_append, List.filterMap_append,
        filterMap_toList, List.append_assoc _ (back.filterMap _)]
    · obtain ⟨entry, hentry, hfailure⟩ := Option.bind_eq_some_iff.mp hfailure
      rw [hown entry hentry] at hfailure
      exact artifact_of_schemaFailure? hfailure
    · show (_ : List _).Sublist (((scope.kept entries).filterMap _ ++
        (names'.flatMap group).filterMap _).map Dangling.artifact)
      rw [hkept, ← List.append_assoc, ← List.filterMap_append, List.map_append, List.map_append]
      refine (failures_sublist (fun entry _ => hgrows.freshSchema entry.1) hsettled).append
        (failures_sublist (fun operation _ => hgrows.freshOperation operation)
          fun operation hoperation => ?_)
      obtain ⟨name, hname, hoperation⟩ := List.mem_flatMap.mp hoperation
      exact hsettled' name hname operation hoperation

/-- An object without fields. -/
def plainObject (name : String) : Schema := { name := .str name, kind := .primitive .object }

set_option maxRecDepth 1024 in
/-- The operation fails as long as the schema of its response is lacking. -/
theorem generate_grows_a_b :
    ∃ result larger trace trace',
      (generate .default [plainObject "a"] [sampleOperation "M" "f" "b"] {}).run.run {} =
        (.ok result, trace) ∧
      (generate .default ([plainObject "a"] ++ [plainObject "b"])
        [sampleOperation "M" "f" "b"] {}).run.run {} = (.ok larger, trace') ∧
      result.summary = (["A"], [], [some "M.f"]) ∧
      larger.summary = (["A", "B"], ["M"], []) ∧
      ∃ raw name, (plainObject "b").name = .str raw ∧
        ({} : Config).naming.normalize raw = .ok name ∧ result.GrowsInto larger name := by
  have hsummary : ((generate .default [plainObject "a"] [sampleOperation "M" "f" "b"]
      {}).run.run {}).1.map GenerationResult.summary =
        .ok (["A"], [], [some "M.f"]) := by cbv
  have hsummary' : ((generate .default ([plainObject "a"] ++ [plainObject "b"])
      [sampleOperation "M" "f" "b"] {}).run.run {}).1.map GenerationResult.summary =
        .ok (["A", "B"], ["M"], []) := by cbv
  obtain ⟨result, trace, hrun, hnames⟩ := exists_result_of_summary hsummary
  obtain ⟨larger, trace', hrun', hnames'⟩ := exists_result_of_summary hsummary'
  exact ⟨result, larger, trace, trace', hrun, hrun', hnames, hnames', generate_grows hrun hrun'⟩

end ElixirClient
