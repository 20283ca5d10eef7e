import Mathlib
import ElixirClient.Proofs.Generation.Scope
import ElixirClient.Proofs.Rendering.Agreement

/-!
# The order of the input

A run sorts what it renders, so the order in which schemas and operations are handed in does not
show where names tell them apart: `generate_perm` says that the whole run is the same, its result or
its fault as well as its log. The table of names keeps the order of the schemas, but nothing that is
asked of it does (`exists_agreeing_scope`).
-/

namespace ElixirClient

variable {schemas schemas' : List Schema} {operations operations' : List Operation}
  {config : Config} {scope : Scope}

/-! ## Schemas -/

theorem exists_agreeing_scope (hperm : schemas'.Perm schemas)
    (hscope : Scope.ofSchemas schemas config = .ok scope) :
    ∃ other, Scope.ofSchemas schemas' config = .ok other ∧ other.Agrees scope := by
  obtain ⟨htable, rfl⟩ := Scope.ofSchemas_eq_ok.mp hscope
  obtain ⟨table, htable'⟩ : ∃ table, NameTable.build scope.config.naming schemas' = .ok table := by
    refine NameTable.exists_build_iff.mpr fun schema hmem => ?_
    exact NameTable.exists_build_iff.mp ⟨_, htable⟩ schema (hperm.mem_iff.mp hmem)
  refine ⟨⟨scope.config, table⟩, Scope.ofSchemas_eq_ok.mpr ⟨htable', rfl⟩, rfl, fun raw => ?_⟩
  exact NameTable.find?_congr htable hperm htable' raw

/-- Schemas with different normalized names are sorted into one order. -/
theorem schemasByName_perm (hperm : schemas'.Perm schemas)
    (hscope : Scope.ofSchemas schemas config = .ok scope)
    (hnames : (schemas.map fun schema => schema.normalizedName scope).Nodup) :
    schemasByName scope schemas' = schemasByName scope schemas := by
  obtain ⟨entries, hentries⟩ := exists_named hscope
  obtain ⟨entry, hentry, rfl⟩ := mapM_eq_ok.mp hentries
  have hentries' : scope.named schemas' = .ok (schemas'.map entry) :=
    mapM_of_forall fun schema hmem => hentry schema (hperm.mem_iff.mp hmem)
  have hsort : (schemas'.map entry).mergeSort nameBefore =
      (schemas.map entry).mergeSort nameBefore := by
    refine StableSort.mergeSort_eq_of_perm nameBefore_trans nameBefore_total (hperm.map entry) ?_
    intro a ha b hb hab hba
    have hsame : a.2 = b.2 := le_antisymm (nameBefore_iff.mp hab) (nameBefore_iff.mp hba)
    obtain ⟨hmem, hname⟩ := (mem_named hentries).mp ha
    obtain ⟨hmem', hname'⟩ := (mem_named hentries).mp hb
    rw [← hsame] at hname'
    exact Prod.ext (List.inj_on_of_nodup_map hnames hmem hmem' (hname.trans hname'.symm)) hsame
  rw [schemasByName_eq hentries, schemasByName_eq hentries', hsort]

theorem generateSchema_agrees {other : Scope} (h : other.Agrees scope) :
    generateSchema .default other = generateSchema .default scope := by
  funext entry
  unfold generateSchema
  simp only [default_renderSchema, h.schema_artifact, h.config]

/-! ## Operations -/

/-- Rendering all operations of a run, group by group. -/
def generateModules (scope : Scope) (operations : List Operation) :
    Render (List (Option OperationModule)) := do
  let groups ← Render.ofExcept (operationsByModule operations)
  groups.mapM (generateModule .default scope)

theorem generateModules_agrees {other : Scope} (h : other.Agrees scope) :
    generateModules other operations = generateModules scope operations := by
  have hmodule : generateModule .default other = generateModule .default scope := by
    funext group
    show (renderAllOperations Renderer.default.renderOperation other group.2 >>=
      moduleOf other group.1) = (renderAllOperations Renderer.default.renderOperation scope group.2 >>=
        moduleOf scope group.1)
    unfold moduleOf
    rw [renderAllOperations_eq, renderAllOperations_eq, h.operation_artifact, h.config]
  unfold generateModules
  rw [hmodule]

namespace Operation

/-- The names of modules are the same for operations in another order. -/
theorem moduleNames_perm (hperm : operations'.Perm operations)
    (htext : ∀ operation ∈ operations, operation.HasTextNames) :
    (moduleNames operations').Perm (moduleNames operations) := by
  have hnodup (operations : List Operation) : (moduleNames operations).Nodup :=
    (pairwise_moduleNames operations).imp fun hkeys hsame => hkeys (congrArg Json.key? hsame)
  have hmem {operations : List Operation}
      (htext : ∀ operation ∈ operations, operation.HasTextNames) (name : Json) :
      name ∈ moduleNames operations ↔ ∃ operation ∈ operations, operation.moduleName = name := by
    constructor
    · exact fun h => List.mem_map.mp (mem_of_mem_firstOfEach _ h)
    · rintro ⟨operation, hmem, rfl⟩
      obtain ⟨name, hname, hkey⟩ := exists_moduleName hmem
      -- a text is the only value of its key
      obtain ⟨text, htext⟩ := (htext operation hmem).1
      rw [htext] at hkey ⊢
      rwa [← Json.key?_eq_str.mp hkey]
  refine (List.perm_ext_iff_of_nodup (hnodup _) (hnodup _)).mpr fun name => ?_
  rw [hmem htext, hmem fun operation h => htext operation (hperm.mem_iff.mp h)]
  simp only [hperm.mem_iff]

end Operation

section Modules

variable (hperm : operations'.Perm operations)
  (htext : ∀ operation ∈ operations, operation.HasTextNames)
  (hdistinct : (operations.map fun operation =>
    (operation.moduleName, operation.functionName)).Nodup)

include hperm htext hdistinct

theorem generateModule_perm (name : Json) :
    generateModule .default scope (name, Operation.ofModule operations' name) =
      generateModule .default scope (name, Operation.ofModule operations name) := by
  have hsort : Json.sortBy? Operation.functionName (Operation.ofModule operations' name) =
      Json.sortBy? Operation.functionName (Operation.ofModule operations name) := by
    refine Json.sortBy?_eq_of_perm (hperm.filter _) (fun operation hmem => ?_) ?_
    · exact (htext operation (List.mem_filter.mp hmem).1).2
    · -- operations of one module with one function name are the same operation
      intro a ha b hb hsame
      obtain ⟨ha, hakey⟩ := List.mem_filter.mp ha
      obtain ⟨hb, hbkey⟩ := List.mem_filter.mp hb
      have htexta := htext a ha
      have htextb := htext b hb
      have hmodule : a.moduleName = b.moduleName := by
        have hkeys := (of_decide_eq_true hakey).trans (of_decide_eq_true hbkey).symm
        exact Json.eq_of_plain_eq htexta.1 htextb.1
          ((Json.key?_eq_iff_plain_eq htexta.1 htextb.1).mp hkeys)
      have hfunction := Json.eq_of_plain_eq htexta.2 htextb.2 hsame
      exact List.inj_on_of_nodup_map hdistinct ha hb (Prod.ext hmodule hfunction)
  show (renderAllOperations Renderer.default.renderOperation scope _ >>= moduleOf scope name) =
    (renderAllOperations Renderer.default.renderOperation scope _ >>= moduleOf scope name)
  rw [renderAllOperations_eq, renderAllOperations_eq, hsort]

/-- The groups come in the order of their modules, and each is rendered as it was. -/
theorem generateModules_perm :
    generateModules scope operations' = generateModules scope operations := by
  have htext' : ∀ operation ∈ operations', operation.HasTextNames := fun operation hmem =>
    htext operation (hperm.mem_iff.mp hmem)
  obtain ⟨groups, hgroups⟩ := exists_operationsByModule fun operation hmem => (htext operation hmem).1
  obtain ⟨groups', hgroups'⟩ :=
    exists_operationsByModule fun operation hmem => (htext' operation hmem).1
  obtain ⟨names, hnames, rfl⟩ := operationsByModule_eq_ok hgroups
  obtain ⟨names', hnames', rfl⟩ := operationsByModule_eq_ok hgroups'
  -- the modules are sorted by names that are all different
  have hsame : names' = names := by
    have hmodules : ∀ name ∈ Operation.moduleNames operations, (id name).IsText :=
      fun name hname => Operation.isText_of_mem_moduleNames htext hname
    have hsort := Json.sortBy?_eq_of_perm (Operation.moduleNames_perm hperm htext) hmodules
      fun a ha b hb => Json.eq_of_plain_eq (hmodules a ha) (hmodules b hb)
    rw [hnames, hnames'] at hsort
    exact Option.some.inj hsort
  have hrounds : (names.map fun name => (name, Operation.ofModule operations' name)).mapM
        (generateModule .default scope) =
      (names.map fun name => (name, Operation.ofModule operations name)).mapM
        (generateModule .default scope) := by
    rw [List.mapM_map, List.mapM_map]
    exact mapM_congr fun name _ => generateModule_perm hperm htext hdistinct name
  unfold generateModules
  rw [hgroups, hgroups', hsame]
  exact hrounds

end Modules

theorem generate_eq (hscope : Scope.ofSchemas schemas config = .ok scope) :
    generate .default schemas operations config = do
      let entries ← Render.ofExcept (schemasByName scope schemas)
      let artifacts ← entries.mapM (generateSchema .default scope)
      let modules ← generateModules scope operations
      return {
        schemas := artifacts.filterMap id
        modules := modules.filterMap id
        failures := (← get).failures } := by
  unfold generate generateModules
  rw [hscope]
  simp only [Render.ofExcept, pure_bind, bind_assoc]

/-- **The order of the input does not show.** Where schemas have different normalized names and
operations different pairs of module and function, a run of the default renderer on the schemas and
operations in any other order is the same run: it ends in the same result or the same fault, and
leaves the same failures and log lines behind. -/
theorem generate_perm (hschemas : schemas'.Perm schemas) (hoperations : operations'.Perm operations)
    (hscope : Scope.ofSchemas schemas config = .ok scope)
    (hnames : (schemas.map fun schema => schema.normalizedName scope).Nodup)
    (htext : ∀ operation ∈ operations, operation.HasTextNames)
    (hdistinct : (operations.map fun operation =>
      (operation.moduleName, operation.functionName)).Nodup) :
    (generate .default schemas' operations' config).run.run {} =
      (generate .default schemas operations config).run.run {} := by
  obtain ⟨other, hother, hagrees⟩ := exists_agreeing_scope hschemas hscope
  have hentries : schemasByName other schemas' = schemasByName scope schemas := by
    rw [← schemasByName_perm hschemas hscope hnames]
    unfold schemasByName
    rw [hagrees.normalizedName]
  rw [generate_eq hother, generate_eq hscope, hentries, generateSchema_agrees hagrees,
    generateModules_agrees hagrees, generateModules_perm hoperations htext hdistinct]

section Sample

/-- An object without fields. -/
def emptyObject (name : String) : Schema := { name := .str name, kind := .primitive .object }

/-- An operation that answers with one schema. -/
def fetching (function type : String) : Operation :=
  { functionName := .str function, moduleName := .str "Store", method := "get", path := .str "/"
    responses := [(.code 200, [("application/json", .schema (.str type))])] }

theorem generate_perm_petTag :
    (generate .default [emptyObject "tag", emptyObject "pet"]
        [fetching "tag" "tag", fetching "pet" "nobody"] {}).run.run {} =
      (generate .default [emptyObject "pet", emptyObject "tag"]
        [fetching "pet" "nobody", fetching "tag" "tag"] {}).run.run {} := by
  have hscope : Scope.ofSchemas [emptyObject "pet", emptyObject "tag"] {} =
      .ok ⟨{}, [("pet", "Pet"), ("tag", "Tag")]⟩ := by
    refine Scope.ofSchemas_eq_ok.mpr ⟨?_, rfl⟩
    decide +kernel
  refine generate_perm (.swap _ _ []) (.swap _ _ []) hscope (by decide +kernel) ?_
    (by decide +kernel)
  simp only [List.forall_mem_cons]
  exact ⟨⟨⟨_, rfl⟩, ⟨_, rfl⟩⟩, ⟨⟨_, rfl⟩, ⟨_, rfl⟩⟩, nofun⟩

end Sample

end ElixirClient
