import Mathlib
import ElixirClient.Proofs.Generation.Rendered
import ElixirClient.Proofs.Rendering.Modules

/-!
# Modules that are called for

Types are resolved against the names of all schemas, but only objects and references get a module of
their own. So a run without failures may leave modules that its result names and does not hold.
`generate_closed_iff` says when it does not: every schema that something refers to must share its
normalized name with an object or a reference.
-/

namespace ElixirClient

open TypeRef (Mentions)

namespace GenerationResult

/-- A type somewhere in an artifact names the module. -/
def Names (result : GenerationResult) (module : Json) : Prop :=
  (∃ artifact ∈ result.schemas, ∃ node ∈ artifact.types ++ artifact.expressions,
      node.Names module) ∨
    ∃ artifact ∈ result.operations, ∃ node ∈ artifact.types ++ artifact.expressions,
      node.Names module

/-- The result holds every module that it names, and every module whose decoder it calls. -/
structure Closed (result : GenerationResult) : Prop where
  named : ∀ module, result.Names module →
    ∃ artifact ∈ result.schemas, module = .str artifact.module
  decoded : ∀ artifact ∈ result.schemas, ∀ module, artifact.DecodesBy module →
    ∃ other ∈ result.schemas, module = other.module

end GenerationResult

/-- The types that a run makes code from: those of the schemas that get a module and those of the
operations. -/
def usedRefs (schemas : List Schema) (operations : List Operation) (config : Config) :
    List TypeRef :=
  (schemas.filter fun schema => !schema.kind.isScalar).flatMap Schema.fieldRefs ++
    operations.flatMap fun operation => operation.refs ++ config.errorType.toList

/-- The normalized form of a name. -/
def NamingRules.NormalizesTo (rules : NamingRules) (raw : Json) (name : String) : Prop :=
  ∃ text, raw = .str text ∧ rules.normalize text = .ok name

theorem mem_usedRefs {schemas : List Schema} {operations : List Operation} {config : Config}
    {ref : TypeRef} : ref ∈ usedRefs schemas operations config ↔
      (∃ schema ∈ schemas, schema.kind.isScalar = false ∧ ref ∈ schema.fieldRefs) ∨
      ∃ operation ∈ operations, ref ∈ operation.signatureRefs config ++ operation.tableRefs := by
  unfold usedRefs
  simp only [List.mem_append, List.mem_flatMap, List.mem_filter, Bool.not_eq_true', and_assoc,
    Option.mem_toList]
  refine or_congr Iff.rfl (exists_congr fun operation => and_congr_right fun _ => ?_)
  rw [← List.mem_append, Operation.mem_signatureRefs_append_tableRefs]
  exact Iff.rfl

theorem NamingRules.NormalizesTo.unique {rules : NamingRules} {raw : Json} {a b : String}
    (ha : rules.NormalizesTo raw a) (hb : rules.NormalizesTo raw b) : a = b := by
  obtain ⟨text, rfl, ha⟩ := ha
  obtain ⟨other, hother, hb⟩ := hb
  cases hother
  rw [ha] at hb
  exact Except.ok.inj hb

section Run

variable {schemas : List Schema} {operations : List Operation} {config : Config} {scope : Scope}
  {result : GenerationResult} {trace : Trace}
  (hscope : Scope.ofSchemas schemas config = .ok scope)
  (hrun : (generate .default schemas operations config).run.run {} = (.ok result, trace))
  (hfailures : result.failures = []) (hskip : config.naming.skip = [])

theorem getsModule_iff (hskip : config.naming.skip = []) {schema : Schema} {name : String} :
    schema.getsModule name config ↔ schema.kind.isScalar = false := by
  unfold Schema.getsModule NamingRules.excludes
  rw [hskip]
  simp

include hscope hrun

include hskip hfailures in
/-- Without failures and exclusions every object and every reference is rendered. -/
theorem exists_artifact_schema {schema : Schema} (hmem : schema ∈ schemas)
    (hkind : schema.kind.isScalar = false) {name : String}
    (hname : schema.normalizedName scope = .ok name) :
    ∃ artifact ∈ result.schemas, schema.artifact scope = .ok artifact := by
  have hkeep : schema.getsModule name config := (getsModule_iff hskip).mpr hkind
  rcases settled_schema hscope hrun hmem hname hkeep with ⟨artifact, hok⟩ | ⟨raw, _, hfailure⟩
  · exact ⟨artifact, (mem_schemas_iff hscope hrun).mpr ⟨schema, hmem, name, hname, hkeep, hok⟩, hok⟩
  · rw [hfailures] at hfailure
    cases hfailure

include hfailures in
theorem exists_artifact_operation {operation : Operation} (hmem : operation ∈ operations) :
    ∃ artifact ∈ result.operations, operation.artifact scope = .ok artifact := by
  rcases settled_operation hscope hrun hmem with ⟨artifact, hok⟩ | ⟨raw, _, hfailure⟩
  · exact ⟨artifact, (mem_operations_iff hscope hrun).mpr ⟨operation, hmem, hok⟩, hok⟩
  · rw [GenerationResult.LeavesOut, hfailures] at hfailure
    cases hfailure

include hskip hfailures

/-- The modules of a result are those of the objects and references. -/
theorem exists_module_iff {module : String} :
    (∃ artifact ∈ result.schemas, module = artifact.module) ↔
      ∃ schema ∈ schemas, schema.kind.isScalar = false ∧ ∃ name,
        schema.normalizedName scope = .ok name ∧ module = scope.config.qualified (.str name) := by
  constructor
  · rintro ⟨artifact, hartifact, rfl⟩
    obtain ⟨schema, hmem, name, hname, hkeep, hok⟩ := (mem_schemas_iff hscope hrun).mp hartifact
    obtain ⟨hsame, _, _, _, hmodule⟩ := Schema.artifact_eq_ok hok
    exact ⟨schema, hmem, (getsModule_iff hskip).mp hkeep, artifact.name, hsame, hmodule⟩
  · rintro ⟨schema, hmem, hkind, name, hname, rfl⟩
    obtain ⟨artifact, hartifact, hok⟩ :=
      exists_artifact_schema hscope hrun hfailures hskip hmem hkind hname
    obtain ⟨hsame, _, _, _, hmodule⟩ := Schema.artifact_eq_ok hok
    rw [hname] at hsame
    exact ⟨artifact, hartifact, by rw [hmodule, Except.ok.inj hsame]⟩

variable (hmodules : ∀ ref ∈ usedRefs schemas operations config, ref.ModulesText)

include hmodules

/-- The types that are used stand in the artifacts, so what they refer to is known and named. -/
theorem carries_usedRefs :
    (∀ raw, Mentions (usedRefs schemas operations config) raw → scope.resolver.Knows raw) ∧
      ∀ module, result.Names module ↔
        ∃ ref ∈ usedRefs schemas operations config, scope.resolver.LeadsTo ref module := by
  obtain rfl := (Scope.ofSchemas_eq_ok.mp hscope).2
  have hschema {schema : Schema} {artifact : SchemaArtifact} (hmem : schema ∈ schemas)
      (hkind : schema.kind.isScalar = false) (hok : schema.artifact scope = .ok artifact) :=
    Schema.names_artifact (fun ref href => hmodules ref (mem_usedRefs.mpr
      (.inl ⟨schema, hmem, hkind, href⟩))) hok
  have hoperation {operation : Operation} {artifact : OperationArtifact}
      (hmem : operation ∈ operations) (hok : operation.artifact scope = .ok artifact) := by
    have hrefs (ref : TypeRef) (href : ref ∈ operation.refs ∨ ref ∈ scope.config.errorType) :
        ref.ModulesText := hmodules ref (mem_usedRefs.mpr (.inr ⟨operation, hmem,
          Operation.mem_signatureRefs_append_tableRefs.mpr href⟩))
    exact Operation.names_artifact (fun ref href => hrefs ref (.inl href))
      (fun ref href => hrefs ref (.inr href)) hok
  have hrendered {ref : TypeRef} (href : ref ∈ usedRefs schemas operations scope.config) :
      (∀ raw, Mentions [ref] raw → scope.resolver.Knows raw) ∧
        ∀ module, scope.resolver.LeadsTo ref module → result.Names module := by
    rcases mem_usedRefs.mp href with ⟨schema, hmem, hkind, href⟩ | ⟨operation, hmem, href⟩
    · obtain ⟨name, hname⟩ := exists_normalizedName hscope hmem
      obtain ⟨artifact, hartifact, hok⟩ :=
        exists_artifact_schema hscope hrun hfailures hskip hmem hkind hname
      have hcarries := hschema hmem hkind hok
      exact ⟨fun raw hraw => hcarries.known raw (TypeRef.mentions_iff.mpr ⟨ref, href, hraw⟩),
        fun module hleads => .inl ⟨artifact, hartifact, (hcarries.names module).mpr
          ⟨ref, href, hleads⟩⟩⟩
    · obtain ⟨artifact, hartifact, hok⟩ := exists_artifact_operation hscope hrun hfailures hmem
      have hcarries := hoperation hmem hok
      exact ⟨fun raw hraw => hcarries.known raw (TypeRef.mentions_iff.mpr ⟨ref, href, hraw⟩),
        fun module hleads => .inr ⟨artifact, hartifact, (hcarries.names module).mpr
          ⟨ref, href, hleads⟩⟩⟩
  refine ⟨fun raw hraw => ?_, fun module => ⟨?_, ?_⟩⟩
  · obtain ⟨ref, href, hraw⟩ := TypeRef.mentions_iff.mp hraw
    exact (hrendered href).1 raw hraw
  · rintro (⟨artifact, hartifact, hnames⟩ | ⟨artifact, hartifact, hnames⟩)
    · obtain ⟨schema, hmem, name, _, hkeep, hok⟩ := (mem_schemas_iff hscope hrun).mp hartifact
      have hkind := (getsModule_iff hskip).mp hkeep
      obtain ⟨ref, href, hleads⟩ := ((hschema hmem hkind hok).names module).mp hnames
      exact ⟨ref, mem_usedRefs.mpr (.inl ⟨schema, hmem, hkind, href⟩), hleads⟩
    · obtain ⟨operation, hmem, hok⟩ := (mem_operations_iff hscope hrun).mp hartifact
      obtain ⟨ref, href, hleads⟩ := ((hoperation hmem hok).names module).mp hnames
      exact ⟨ref, mem_usedRefs.mpr (.inr ⟨operation, hmem, href⟩), hleads⟩
  · rintro ⟨ref, href, hleads⟩
    exact (hrendered href).2 module hleads

end Run

theorem moduleName_iff {schemas : List Schema} {config : Config} {scope : Scope}
    (hscope : Scope.ofSchemas schemas config = .ok scope) {raw : Json} {module : String} :
    scope.resolver.moduleName raw = .ok module ↔ raw ∈ schemas.map Schema.name ∧
      ∃ name, config.naming.NormalizesTo raw name ∧ module = config.qualified (.str name) := by
  obtain ⟨htable, rfl⟩ := Scope.ofSchemas_eq_ok.mp hscope
  rw [Resolver.moduleName_eq_ok]
  constructor
  · rintro ⟨name, hname, rfl⟩
    obtain ⟨hraw, hnormal⟩ := (NameTable.find?_eq_some htable).mp hname
    exact ⟨hraw, name, hnormal, rfl⟩
  · rintro ⟨hraw, name, hnormal, rfl⟩
    exact ⟨name, (NameTable.find?_eq_some htable).mpr ⟨hraw, hnormal⟩, rfl⟩

/-- Modules below one base module are told apart by their names. -/
theorem Config.qualified_inj {config : Config} {a b : String}
    (h : config.qualified (.str a) = config.qualified (.str b)) : a = b := by
  unfold Config.qualified at h
  simpa [Json.plain] using h

/-- **When a result holds its modules.** In a run without exclusions, external modules and failures,
the result holds every module that its types name or its decoders call exactly if every schema that
is referred to has the normalized name of an object or a reference. -/
theorem generate_closed_iff {schemas : List Schema} {operations : List Operation} {config : Config}
    {result : GenerationResult} {trace : Trace}
    (hrun : (generate .default schemas operations config).run.run {} = (.ok result, trace))
    (hfailures : result.failures = []) (hskip : config.naming.skip = [])
    (hlocal : ∀ ref ∈ usedRefs schemas operations config, ∀ module, .external module ∉ ref.leaves) :
    result.Closed ↔ ∀ raw, Mentions (usedRefs schemas operations config) raw →
      ∃ schema ∈ schemas, schema.kind.isScalar = false ∧ ∃ name,
        config.naming.NormalizesTo schema.name name ∧ config.naming.NormalizesTo raw name := by
  obtain ⟨scope, _, hscope, _⟩ := Render.run_bind_eq_ok hrun
  replace hscope := (Render.run_ofExcept_eq.mp hscope).1
  have hmodules : ∀ ref ∈ usedRefs schemas operations config, ref.ModulesText :=
    fun ref href module hmodule => absurd hmodule (hlocal ref href module)
  obtain ⟨hknown, hnames⟩ := carries_usedRefs hscope hrun hfailures hskip hmodules
  have hheld (module : String) := @exists_module_iff _ _ _ _ _ _ hscope hrun hfailures hskip module
  obtain ⟨htable, rfl⟩ := Scope.ofSchemas_eq_ok.mp hscope
  have hnormalized {schema : Schema} (hmem : schema ∈ schemas) {name : String} :
      schema.normalizedName scope = .ok name ↔
        scope.config.naming.NormalizesTo schema.name name := by
    rw [Schema.normalizedName_eq_ok, NameTable.find?_eq_some htable,
      and_iff_right (List.mem_map.mpr ⟨schema, hmem, rfl⟩)]
    exact Iff.rfl
  constructor
  · intro hclosed raw hraw
    obtain ⟨module, hmodule⟩ := hknown raw hraw
    obtain ⟨_, name, hnormal, hqualified⟩ := (moduleName_iff hscope).mp hmodule
    obtain ⟨ref, href, hleaf⟩ := List.mem_flatMap.mp hraw
    -- the module of the schema is named, so it is held, and by an object or a reference
    obtain ⟨artifact, hartifact, hsame⟩ := hclosed.named (.str module)
      ((hnames _).mpr ⟨ref, href, .inr ⟨raw, module, hleaf, hmodule, rfl⟩⟩)
    obtain ⟨schema, hmem, hkind, other, hother, hmodule'⟩ :=
      (hheld _).mp ⟨artifact, hartifact, Json.str.inj hsame⟩
    obtain rfl : name = other := Config.qualified_inj (hqualified.symm.trans hmodule')
    exact ⟨schema, hmem, hkind, name, (hnormalized hmem).mp hother, hnormal⟩
  · intro hshared
    have hlead : ∀ ref ∈ usedRefs schemas operations scope.config, ∀ module,
        scope.resolver.LeadsTo ref module →
        ∃ artifact ∈ result.schemas, module = .str artifact.module := by
      rintro ref href module (hexternal | ⟨raw, text, hleaf, hmodule, rfl⟩)
      · exact absurd hexternal (hlocal ref href module)
      · obtain ⟨schema, hmem, hkind, name, hname, hnormal⟩ :=
          hshared raw (List.mem_flatMap.mpr ⟨ref, href, hleaf⟩)
        obtain ⟨_, other, hother, rfl⟩ := (moduleName_iff hscope).mp hmodule
        obtain ⟨artifact, hartifact, heq⟩ := (hheld _).mpr
          ⟨schema, hmem, hkind, name, (hnormalized hmem).mpr hname, rfl⟩
        obtain rfl : name = other := hnormal.unique hother
        exact ⟨artifact, hartifact, congrArg Json.str heq⟩
    refine ⟨fun module hmodule => ?_, fun artifact hartifact module hdecodes => ?_⟩
    · obtain ⟨ref, href, hleads⟩ := (hnames module).mp hmodule
      exact hlead ref href module hleads
    · obtain ⟨schema, hmem, name, _, hkeep, hok⟩ := (mem_schemas_iff hscope hrun).mp hartifact
      obtain ⟨ref, href, hleads⟩ := Schema.decodesBy_artifact hok hdecodes
      have hused : ref ∈ usedRefs schemas operations scope.config :=
        mem_usedRefs.mpr (.inl ⟨schema, hmem, (getsModule_iff hskip).mp hkeep, href⟩)
      obtain ⟨other, hother, heq⟩ := hlead ref hused (.str module) hleads
      exact ⟨other, hother, Json.str.inj heq⟩

section Sample

/-- A schema of some kind under the name `key`, and an object with a field of that type. -/
def petWithKey (kind : SchemaKind) : List Schema :=
  [{ name := .str "key", kind := kind },
    { name := .str "pet", kind := .primitive .object
      properties := [("key", { name := .str "key", kind := .reference, ref := .str "key" })] }]

/-- The modules, the types and the failures of a result. -/
def GenerationResult.outline (result : GenerationResult) :
    List String × List Node × List Dangling :=
  (result.schemas.map (·.module), result.schemas.flatMap (·.types), result.failures)

theorem generate_closed_iff_petWithKey :
    ∃ result trace,
      (generate .default (petWithKey (.primitive .object)) [] {}).run.run {} = (.ok result, trace) ∧
      result.failures = [] ∧
      (result.Closed ↔ ∀ raw, Mentions (usedRefs (petWithKey (.primitive .object)) [] {}) raw →
        ∃ schema ∈ petWithKey (.primitive .object), schema.kind.isScalar = false ∧ ∃ name,
          NamingRules.NormalizesTo {} schema.name name ∧ NamingRules.NormalizesTo {} raw name) := by
  have houtline : ((generate .default (petWithKey (.primitive .object)) [] {}).run.run {}).1.map
      GenerationResult.outline =
        .ok (["Example.Key", "Example.Pet"], [.named (.str "Example.Key")], []) := by cbv
  rcases h : (generate .default (petWithKey (.primitive .object)) [] {}).run.run {} with
    ⟨fault | result, trace⟩
  · rw [h] at houtline
    cases houtline
  · rw [h] at houtline
    have hfailures : result.failures = [] :=
      congrArg (fun outline => outline.2.2) (Except.ok.inj houtline)
    have hlocal : ∀ ref ∈ usedRefs (petWithKey (.primitive .object)) [] {}, ∀ module,
        .external module ∉ ref.leaves := by
      have hrefs : usedRefs (petWithKey (.primitive .object)) [] {} = [.schema (.str "key")] := by
        cbv
      simp [hrefs]
    exact ⟨result, trace, rfl, hfailures, generate_closed_iff h hfailures rfl hlocal⟩

/-- A field of the type of a schema without a module: the result names a module that it does not
hold, and nothing has failed. -/
theorem not_closed_petWithKey :
    ∃ result trace,
      (generate .default (petWithKey (.primitive .string)) [] {}).run.run {} = (.ok result, trace) ∧
      result.failures = [] ∧ ¬ result.Closed := by
  have houtline : ((generate .default (petWithKey (.primitive .string)) [] {}).run.run {}).1.map
      GenerationResult.outline =
        .ok (["Example.Pet"], [.named (.str "Example.Key")], []) := by cbv
  rcases h : (generate .default (petWithKey (.primitive .string)) [] {}).run.run {} with
    ⟨fault | result, trace⟩
  · rw [h] at houtline
    cases houtline
  · rw [h] at houtline
    obtain ⟨hmodules, hrest⟩ := Prod.mk.inj (Except.ok.inj houtline)
    obtain ⟨htypes, hfailures⟩ := Prod.mk.inj hrest
    refine ⟨result, trace, rfl, hfailures, fun hclosed => ?_⟩
    have htype : Node.named (.str "Example.Key") ∈ result.schemas.flatMap (·.types) :=
      htypes ▸ List.mem_cons_self
    obtain ⟨artifact, hartifact, hnode⟩ := List.mem_flatMap.mp htype
    obtain ⟨other, hother, hsame⟩ := hclosed.named (.str "Example.Key")
      (.inl ⟨artifact, hartifact, _, List.mem_append_left _ hnode, Node.names_named.mpr rfl⟩)
    have hheld : "Example.Key" ∈ result.schemas.map (·.module) :=
      List.mem_map.mpr ⟨other, hother, (Json.str.inj hsame).symm⟩
    rw [hmodules] at hheld
    exact absurd hheld (by decide)

end Sample

end ElixirClient
