import Mathlib
import ElixirClient.Proofs.Generation.Accounting
import ElixirClient.Proofs.Generation.InputOrder
import ElixirClient.Proofs.Rendering.Responses

/-!
# What a configured error type changes

A configured type takes the place of the declared types of errors in a specification, and is used
nowhere else. The declared types stand in the table of responses all the same, so an operation that
refers to an unknown schema there is left out under any configuration
(`Operation.exists_errorOutcome`). What is rendered differs in one arm
(`Operation.artifact_withErrorType`), and so do whole results: `generate_withErrorType`.
-/

namespace ElixirClient

open Render (Settled)

/-- The configuration with another type of errors, or none. -/
def Config.withErrorType (config : Config) (errorType : Option TypeRef) : Config :=
  { config with errorType := errorType }

/-- The scope with another type of errors: its names are those that there were. -/
def Scope.withErrorType (scope : Scope) (errorType : Option TypeRef) : Scope :=
  ⟨scope.config.withErrorType errorType, scope.names⟩

/-- The type of errors resolves, if there is one. -/
def Scope.ResolvesError (scope : Scope) (errorType : Option TypeRef) : Prop :=
  ∀ ref ∈ errorType, ∃ node, scope.resolver.resolve ref = .ok node

/-! ## One operation -/

/-- The same but for the second arm of the return type. -/
def OperationArtifact.SameButErrorArm (artifact artifact' : OperationArtifact) : Prop :=
  ∃ ok error error', artifact.signature.returnType = .union [ok, error] ∧
    artifact' = { artifact with
      signature := { artifact.signature with returnType := .union [ok, error'] } }

namespace Operation

variable {scope : Scope} {operation : Operation}

/-- The declared types of errors are in the table, so they have a union if there is a table. -/
theorem exists_declaredErrors {function : Function}
    (h : operation.function scope = .ok function) :
    ∃ node, outcome scope.resolver "error" (operation.outcomeTypes false) = .ok node := by
  obtain ⟨marker, hmarker, _⟩ := exists_marker h
  obtain ⟨node, hnode⟩ : ∃ node, scope.resolver.union (operation.outcomeTypes false) = .ok node := by
    refine Resolver.exists_union_iff.mpr fun ref href => ?_
    obtain ⟨row, hrow, href⟩ := List.mem_flatMap.mp href
    simp only at href
    split at href
    · cases href
    · exact Resolver.exists_union_iff.mp ⟨marker row, hmarker row hrow⟩ ref href
  unfold outcome
  split
  · exact ⟨_, rfl⟩
  · exact ⟨_, map_eq_ok.mpr ⟨node, hnode, rfl⟩⟩

theorem exists_errorOutcome {function : Function} (h : operation.function scope = .ok function)
    {errorType : Option TypeRef} (herror : scope.ResolvesError errorType) :
    ∃ node, operation.errorOutcome (scope.withErrorType errorType) = .ok node := by
  cases errorType with
  | none => exact exists_declaredErrors h
  | some ref =>
    obtain ⟨node, hnode⟩ := herror ref rfl
    exact ⟨_, map_eq_ok.mpr ⟨node, hnode, rfl⟩⟩

/-- What is rendered is rendered under any type of errors that resolves, with another arm. -/
theorem artifact_withErrorType {artifact : OperationArtifact}
    (h : operation.artifact scope = .ok artifact) {errorType : Option TypeRef}
    (herror : scope.ResolvesError errorType) :
    ∃ artifact', operation.artifact (scope.withErrorType errorType) = .ok artifact' ∧
      artifact.SameButErrorArm artifact' := by
  obtain ⟨signature, hsignature, h⟩ := bind_eq_ok.mp h
  obtain ⟨function, hfunction, h⟩ := bind_eq_ok.mp h
  cases h
  rw [signature_eq] at hsignature
  obtain ⟨params, hparams, h⟩ := bind_eq_ok.mp hsignature
  obtain ⟨body, hbody, h⟩ := bind_eq_ok.mp h
  obtain ⟨returnType, hreturn, h⟩ := bind_eq_ok.mp h
  cases h
  obtain ⟨ok, error, hok, _, rfl⟩ := returnType_eq_ok hreturn
  obtain ⟨error', herror'⟩ := exists_errorOutcome hfunction herror
  have hreturn' : operation.returnType (scope.withErrorType errorType) =
      .ok (.union [ok, error']) := by
    rw [returnType_eq]
    exact bind_eq_ok.mpr ⟨ok, hok, bind_eq_ok.mpr ⟨error', herror', rfl⟩⟩
  -- everything but the return type is made as it was
  have hsignature' : operation.signature (scope.withErrorType errorType) = .ok {
      name := operation.functionName
      arguments := params ++ body ++ [.options]
      returnType := .union [ok, error'] } := by
    rw [signature_eq]
    exact bind_eq_ok.mpr ⟨params, hparams,
      bind_eq_ok.mpr ⟨body, hbody, bind_eq_ok.mpr ⟨_, hreturn', rfl⟩⟩⟩
  refine ⟨_, ?_, ok, error, error', rfl, rfl⟩
  exact bind_eq_ok.mpr ⟨_, hsignature', bind_eq_ok.mpr ⟨function, hfunction, rfl⟩⟩

end Operation

/-! ## The operations of a run -/

/-- The same but for the second arms of return types. -/
structure OperationModule.SameButErrorArms (m m' : OperationModule) : Prop where
  name : m'.name = m.name
  module : m'.module = m.module
  location : m'.location = m.location
  operations : m.operations.Forall₂ OperationArtifact.SameButErrorArm m'.operations

/-- The schemas are the same, the operations differ in the second arms of their return types, and
the same artifacts are left out, though for references that may differ. -/
structure GenerationResult.SameButErrorArms (result result' : GenerationResult) : Prop where
  schemas : result'.schemas = result.schemas
  modules : result.modules.Forall₂ OperationModule.SameButErrorArms result'.modules
  failures : result'.failures.map (·.artifact) = result.failures.map (·.artifact)

/-- Images of one list that are related where there are any are related in their order. -/
theorem forall₂_filterMap {α β : Type} {R : β → β → Prop} {f g : α → Option β} {xs : List α}
    (h : ∀ x ∈ xs, Option.Rel R (f x) (g x)) :
    List.Forall₂ R (xs.filterMap f) (xs.filterMap g) := by
  have hrel : List.Forall₂ (fun x y => x = y ∧ x ∈ xs) xs xs :=
    List.forall₂_same.mpr fun x hx => ⟨rfl, hx⟩
  refine List.rel_filterMap ?_ hrel
  rintro x _ ⟨rfl, hx⟩
  exact h x hx

section Operations

variable {scope : Scope} {errorType : Option TypeRef}
  (herror : scope.ResolvesError scope.config.errorType) (herror' : scope.ResolvesError errorType)

include herror herror'

theorem freshOperation_withErrorType (operation : Operation) :
    Option.Rel OperationArtifact.SameButErrorArm (scope.freshOperation operation).toOption
      ((scope.withErrorType errorType).freshOperation operation).toOption := by
  rw [Scope.freshOperation_eq, Scope.freshOperation_eq]
  cases hartifact : operation.artifact scope with
  | ok artifact =>
    obtain ⟨artifact', h, hsame⟩ := Operation.artifact_withErrorType hartifact herror'
    rw [h]
    exact .some hsame
  | error fault =>
    cases hartifact' : operation.artifact (scope.withErrorType errorType) with
    | error fault' => exact .none
    | ok artifact' =>
      -- it would be rendered under the type of errors that there was, too
      obtain ⟨artifact, h, _⟩ := Operation.artifact_withErrorType hartifact' herror
      rw [show (scope.withErrorType errorType).withErrorType scope.config.errorType = scope from rfl,
        hartifact] at h
      cases h

/-- A settled operation is left out under both types of errors or under none. -/
theorem operationFailure_withErrorType {operation : Operation}
    (h : Settled (scope.freshOperation operation))
    (h' : Settled ((scope.withErrorType errorType).freshOperation operation)) :
    ((scope.withErrorType errorType).operationFailure? operation).map (·.artifact) =
      (scope.operationFailure? operation).map (·.artifact) := by
  have hrel := freshOperation_withErrorType herror herror' operation
  unfold Scope.operationFailure?
  rcases h with ⟨artifact, h⟩ | ⟨raw, h⟩ <;> rcases h' with ⟨artifact', h'⟩ | ⟨raw', h'⟩ <;>
    rw [h, h'] at hrel ⊢
  · rfl
  · cases hrel
  · cases hrel
  · rfl

/-- The modules of a group have the operations that are rendered, so one is there if the other
is. -/
theorem rendersGroup_withErrorType {name : Json} {members : List Operation}
    {out out' : Option OperationModule} (h : scope.RendersGroup name members out)
    (h' : (scope.withErrorType errorType).RendersGroup name members out')
    (hmodule : ∀ m ∈ out, m.module = scope.config.qualified (.str m.name))
    (hmodule' : ∀ m ∈ out', m.module = scope.config.qualified (.str m.name)) :
    Option.Rel OperationModule.SameButErrorArms out out' := by
  have hmembers : List.Forall₂ OperationArtifact.SameButErrorArm
      (members.filterMap fun operation => (scope.freshOperation operation).toOption)
      (members.filterMap fun operation =>
        ((scope.withErrorType errorType).freshOperation operation).toOption) :=
    forall₂_filterMap fun operation _ => freshOperation_withErrorType herror herror' operation
  rcases h with ⟨hempty, rfl⟩ | ⟨text, m, rfl, rfl, rfl, hlocation, hoperations, hne⟩ <;>
    rcases h' with ⟨hempty', rfl⟩ | ⟨_, m', ⟨⟩, rfl, hname, hlocation', hoperations', hne'⟩
  · exact .none
  · rw [hempty] at hmembers
    exact absurd (List.forall₂_nil_left_iff.mp hmembers) hne'
  · rw [hempty'] at hmembers
    exact absurd (List.forall₂_nil_right_iff.mp hmembers) hne
  · rw [← hoperations, ← hoperations'] at hmembers
    refine .some ⟨hname, ?_, hlocation'.trans hlocation.symm, hmembers⟩
    rw [hmodule m rfl, hmodule' m' rfl, hname]

end Operations

/-! ## The run -/

section Run

variable {schemas : List Schema} {operations : List Operation} {config : Config} {scope : Scope}
  {result : GenerationResult} {trace : Trace}

theorem module_of_moduleOf {name : Json} {rendered : List OperationArtifact}
    {module : OperationModule} {t t' : Trace}
    (h : (moduleOf scope name rendered).run.run t = (.ok (some module), t')) :
    module.module = scope.config.qualified (.str module.name) := by
  unfold moduleOf at h
  cases rendered with
  | nil => cases h
  | cons artifact rest =>
    cases name with
    | str name =>
      cases h
      rfl
    | _ => cases h

/-- The full name of a module is its name below the base module. -/
theorem module_of_generate (hscope : Scope.ofSchemas schemas config = .ok scope)
    (hrun : (generate .default schemas operations config).run.run {} = (.ok result, trace)) :
    ∀ module ∈ result.modules, module.module = scope.config.qualified (.str module.name) := by
  rw [generate_eq hscope] at hrun
  obtain ⟨entries, _, _, hrun⟩ := Render.run_bind_eq_ok hrun
  obtain ⟨artifacts, _, _, hrun⟩ := Render.run_bind_eq_ok hrun
  obtain ⟨modules, _, hmodules, hrun⟩ := Render.run_bind_eq_ok hrun
  cases hrun
  obtain ⟨groups, _, _, hloop⟩ := Render.run_bind_eq_ok hmodules
  obtain ⟨g, hg, rfl, _⟩ := Render.run_mapM_eq_ok (fun (group : Json × List Operation) =>
    detached_generateModule scope group.2 group.1) hloop
  intro module hmem
  obtain ⟨out, hout, rfl⟩ := List.mem_filterMap.mp hmem
  obtain ⟨group, hgroup, hout⟩ := List.mem_map.mp hout
  have hmodule : (renderAllOperations Renderer.default.renderOperation scope group.2 >>=
      moduleOf scope group.1).run.run {} =
        (.ok (some module), (generateModule .default scope group).leaves) :=
    Prod.ext ((hg group hgroup).trans (congrArg _ hout)) rfl
  obtain ⟨rendered, _, _, hmodule⟩ := Render.run_bind_eq_ok hmodule
  exact module_of_moduleOf hmodule

/-- **A configured type of errors changes the arm of errors only.** Where two configurations differ
in the type of errors, and each gives one that resolves or none, the results of their runs are the
same but for the second arms of return types: the same schemas and operations are rendered, and the
same are left out. -/
theorem generate_withErrorType {errorType : Option TypeRef} {result' : GenerationResult}
    {trace' : Trace} (hscope : Scope.ofSchemas schemas config = .ok scope)
    (herror : scope.ResolvesError config.errorType) (herror' : scope.ResolvesError errorType)
    (hrun : (generate .default schemas operations config).run.run {} = (.ok result, trace))
    (hrun' : (generate .default schemas operations (config.withErrorType errorType)).run.run {} =
      (.ok result', trace')) :
    result.SameButErrorArms result' := by
  obtain ⟨htable, rfl⟩ := Scope.ofSchemas_eq_ok.mp hscope
  have hother : Scope.ofSchemas schemas (scope.config.withErrorType errorType) =
      .ok (scope.withErrorType errorType) := Scope.ofSchemas_eq_ok.mpr ⟨htable, rfl⟩
  have hmodule := module_of_generate hscope hrun
  have hmodule' := module_of_generate hother hrun'
  obtain ⟨first, entries, names, group, out, hfirst, hentries, hnames, hgroup, _, hsettled,
    hrenders, rfl⟩ := generate_spec hrun
  obtain ⟨second, entries', names', group', out', hsecond, hentries', hnames', hgroup', _,
    hsettled', hrenders', rfl⟩ := generate_spec hrun'
  obtain rfl : scope = first := Except.ok.inj (hscope.symm.trans hfirst)
  obtain rfl : scope.withErrorType errorType = second := Except.ok.inj (hother.symm.trans hsecond)
  -- names and order come from the input alone
  obtain rfl : entries = entries' := Except.ok.inj (hentries.symm.trans hentries')
  obtain rfl : names = names' := Option.some.inj (hnames.symm.trans hnames')
  have hsame : ∀ name ∈ names, group' name = group name := fun name hname =>
    Option.some.inj ((hgroup' name hname).symm.trans (hgroup name hname))
  refine ⟨rfl, forall₂_filterMap fun name hname => ?_, ?_⟩
  · have h' := hrenders' name hname
    rw [hsame name hname] at h'
    exact rendersGroup_withErrorType herror herror' (hrenders name hname) h'
      (fun m hm => hmodule m (List.mem_filterMap.mpr ⟨name, hname, hm⟩))
      (fun m hm => hmodule' m (List.mem_filterMap.mpr ⟨name, hname, hm⟩))
  · have hordered : names.flatMap group' = names.flatMap group := List.flatMap_congr hsame
    rw [hordered, List.map_append, List.map_append]
    congr 1
    rw [List.map_filterMap, List.map_filterMap]
    refine List.filterMap_congr fun operation hmem => ?_
    obtain ⟨name, hname, hoperation⟩ := List.mem_flatMap.mp hmem
    refine operationFailure_withErrorType herror herror' (hsettled name hname _ hoperation) ?_
    exact hsettled' name hname _ (hsame name hname ▸ hoperation)

end Run

section Sample

/-- An operation that can only fail. -/
def failing (function error : String) : Operation :=
  { functionName := .str function, moduleName := .str "Store", method := "get", path := .str "/"
    responses := [(.code 404, [("application/json", .schema (.str error))])] }

set_option maxRecDepth 2000 in
/-- One operation has an error of its own, the other is left out with or without the common one. -/
theorem generate_withErrorType_fault :
    ∃ result trace result' trace',
      (generate .default [emptyObject "fault"] [failing "a" "fault", failing "b" "nobody"]
        {}).run.run {} = (.ok result, trace) ∧
      (generate .default [emptyObject "fault"] [failing "a" "fault", failing "b" "nobody"]
        (Config.withErrorType {} (some (.schema (.str "fault"))))).run.run {} =
          (.ok result', trace') ∧
      result.summary = (["Fault"], ["Store"], [some "Store.b"]) ∧
      result.SameButErrorArms result' := by
  have hscope : Scope.ofSchemas [emptyObject "fault"] {} = .ok ⟨{}, [("fault", "Fault")]⟩ := by
    refine Scope.ofSchemas_eq_ok.mpr ⟨?_, rfl⟩
    decide +kernel
  have hsummary : ((generate .default [emptyObject "fault"]
      [failing "a" "fault", failing "b" "nobody"] {}).run.run {}).1.map
        GenerationResult.summary = .ok (["Fault"], ["Store"], [some "Store.b"]) := by cbv
  have hsummary' : ((generate .default [emptyObject "fault"]
      [failing "a" "fault", failing "b" "nobody"]
      { errorType := some (.schema (.str "fault")) }).run.run {}).1.map
        GenerationResult.summary = .ok (["Fault"], ["Store"], [some "Store.b"]) := by cbv
  obtain ⟨result, trace, hrun, hnames⟩ := exists_result_of_summary hsummary
  obtain ⟨result', trace', hrun', _⟩ := exists_result_of_summary hsummary'
  refine ⟨result, trace, result', trace', hrun, hrun', hnames, ?_⟩
  refine generate_withErrorType hscope (fun ref href => ?_) (fun ref href => ?_) hrun hrun'
  · cases href
  · cases href
    exact ⟨.named (.str "Example.Fault"), by rfl⟩

end Sample

end ElixirClient
