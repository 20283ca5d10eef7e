import Mathlib
import ElixirClient.Proofs.Generation.Accounting
import ElixirClient.Proofs.Generation.Faults
import ElixirClient.Proofs.Generation.InputOrder
import ElixirClient.Proofs.Rendering.Parts

/-!
# What a skip list changes

Nothing but the choice of schemas that get a module reads the skip list. So two configurations that
differ in it give rise to one name table, and rendering makes the same of a schema or an operation
under both, which is true by definition. The schemas cannot end a run (`generate_modules`), so both
runs get as far as the operations, which they render alike: `generate_withSkip` puts the two runs
side by side.
-/

namespace ElixirClient

open Render (Detached)

/-! ## Filtered images -/

/-- A filter of images may be made one of preimages. -/
theorem filter_filterMap_of_forall {α β : Type} {f : α → Option β} {p : β → Bool} {q : α → Bool}
    {xs : List α} (h : ∀ x ∈ xs, ∀ y, f x = some y → p y = q x) :
    (xs.filterMap f).filter p = (xs.filter q).filterMap f := by
  rw [List.filter_filterMap, List.filterMap_filter]
  refine List.filterMap_congr fun x hx => ?_
  cases hy : f x with
  | none => simp
  | some y =>
    have hsame := h x hx y hy
    cases hq : q x <;> simp_all

/-! ## The other skip list -/

/-- The configuration with another skip list. -/
def Config.withSkip (config : Config) (skip : List SkipEntry) : Config :=
  { config with naming := { config.naming with skip := skip } }

namespace Scope

/-- The scope with another skip list: its names are those that there were. -/
def withSkip (scope : Scope) (skip : List SkipEntry) : Scope :=
  ⟨scope.config.withSkip skip, scope.names⟩

/-- Neither skip list hides the name. -/
def shows (scope : Scope) (skip : List SkipEntry) (name : String) : Bool :=
  !scope.config.naming.excludes name && !(scope.config.withSkip skip).naming.excludes name

/-- The failures of the schemas that get a module. -/
def schemaFailures (scope : Scope) (entries : List (Schema × String)) : List Dangling :=
  (scope.kept entries).filterMap scope.schemaFailure?

variable {scope : Scope} {skip : List SkipEntry} {schemas : List Schema} {config : Config}

theorem ofSchemas_withSkip : Scope.ofSchemas schemas (config.withSkip skip) =
    (fun scope => scope.withSkip skip) <$> Scope.ofSchemas schemas config := by
  show NameTable.build config.naming schemas >>= _ = _ <$> (NameTable.build _ schemas >>= _)
  cases NameTable.build config.naming schemas <;> rfl

/-- Of the schemas that neither list hides the same get a module, in the same order. -/
theorem kept_withSkip (entries : List (Schema × String)) :
    ((scope.withSkip skip).kept entries).filter (fun entry => scope.shows skip entry.2) =
      (scope.kept entries).filter fun entry => scope.shows skip entry.2 := by
  rw [kept_eq, kept_eq, List.filter_filter, List.filter_filter]
  refine List.filter_congr fun entry _ => ?_
  unfold shows Schema.getsModule withSkip
  cases scope.config.naming.excludes entry.2 <;>
    cases (scope.config.withSkip skip).naming.excludes entry.2 <;> rfl

end Scope

/-! ## How a run ends -/

section Run

variable {schemas : List Schema} {operations : List Operation} {config : Config} {scope : Scope}

theorem detached_generateModules : Detached (generateModules scope operations) := by
  unfold generateModules
  refine (Detached.ofExcept _).bind fun groups => Detached.mapM (fun group => ?_) groups
  exact detached_generateModule scope group.2 group.1

/-- The schemas do not end a run, so the modules of its result, or its fault, come of rendering the
operations alone. -/
theorem generate_modules (hnames : ∀ schema ∈ schemas, schema.TextNamed) :
    ((generate .default schemas operations config).run.run {}).1.map (·.modules) = (do
      let scope ← Scope.ofSchemas schemas config
      let modules ← (generateModules scope operations).fresh
      return modules.filterMap id) := by
  cases hscope : Scope.ofSchemas schemas config with
  | error fault =>
    unfold generate
    rw [hscope]
    rfl
  | ok scope =>
    obtain ⟨entries, hentries⟩ := exists_named hscope
    rw [generate_eq hscope, schemasByName_eq hentries, Render.run_bind, Render.run_ofExcept]
    simp only
    rw [Render.run_bind]
    rcases hloop : ((entries.mergeSort nameBefore).mapM (generateSchema .default scope)).run.run {}
      with ⟨fault | artifacts, t⟩
    -- schemas that are named by text fail with dangling references only, and these are recorded
    · have hfaults := generateSchemas_faults (P := fun _ => False) hnames hentries {}
      rw [hloop] at hfaults
      exact (hfaults fault rfl).elim
    · simp only
      rw [Render.run_bind, detached_generateModules t]
      show _ = (generateModules scope operations).fresh >>= _
      cases (generateModules scope operations).fresh <;> rfl

end Run

/-! ## Two runs -/

/-- What two runs that differ in the skip list have in common, for the schemas with their normalized
names and the operations in the order of the run. -/
structure Scope.HidesOnly (scope : Scope) (skip : List SkipEntry) (entries : List (Schema × String))
    (ordered : List Operation) (result result' : GenerationResult) : Prop where
  modules : result'.modules = result.modules
  schemas : result'.schemas.filter (fun artifact => scope.shows skip artifact.name) =
    result.schemas.filter fun artifact => scope.shows skip artifact.name
  failures : result.failures =
    scope.schemaFailures entries ++ ordered.filterMap scope.operationFailure?
  failures' : result'.failures =
    (scope.withSkip skip).schemaFailures entries ++ ordered.filterMap scope.operationFailure?
  schemaFailures :
    ((scope.withSkip skip).schemaFailures entries).filter
        (fun failure => failure.artifact.all (scope.shows skip)) =
      (scope.schemaFailures entries).filter fun failure => failure.artifact.all (scope.shows skip)
  /-- A schema can be referred to whether it is hidden or not, by the same name. -/
  resolvable : ∀ entry ∈ entries, (scope.withSkip skip).resolver.Knows entry.1.name ∧
    (scope.withSkip skip).resolver.moduleName entry.1.name =
      scope.resolver.moduleName entry.1.name

section Runs

variable {schemas : List Schema} {operations ordered : List Operation} {config : Config}
  {scope : Scope} {entries : List (Schema × String)} {result result' : GenerationResult}

/-- The name of an artifact is that of the entry that it is rendered from. -/
theorem shows_of_artifact {skip : List SkipEntry} (hentries : scope.named schemas = .ok entries)
    {entry : Schema × String} (hmem : entry ∈ entries) {artifact : SchemaArtifact}
    (h : entry.1.artifact scope = .ok artifact) :
    scope.shows skip artifact.name = scope.shows skip entry.2 := by
  have hname := (Schema.artifact_eq_ok h).1
  rw [((mem_named hentries).mp hmem).2] at hname
  rw [← Except.ok.inj hname]

theorem hidesOnly_of_accounted (skip : List SkipEntry)
    (hscope : Scope.ofSchemas schemas config = .ok scope)
    (hentries : scope.named schemas = .ok entries) (hmodules : result'.modules = result.modules)
    (h : Accounted scope (scope.kept entries) ordered result)
    (h' : Accounted (scope.withSkip skip) ((scope.withSkip skip).kept entries) ordered result') :
    scope.HidesOnly skip entries ordered result result' where
  modules := hmodules
  schemas := by
    -- whether an artifact is hidden is told by the name of its schema alone
    have hshows {other : Scope} : ∀ entry ∈ other.kept entries, ∀ artifact,
        (scope.freshSchema entry.1).toOption = some artifact →
          scope.shows skip artifact.name = scope.shows skip entry.2 := by
      intro entry hentry artifact hartifact
      have hmem := (List.mem_filter.mp (List.mem_mergeSort.mp hentry)).1
      rw [toOption_eq_some, scope.freshSchema_eq] at hartifact
      exact shows_of_artifact hentries hmem hartifact
    rw [h.schemas, h'.schemas, filter_filterMap_of_forall hshows, ← Scope.kept_withSkip]
    exact filter_filterMap_of_forall hshows
  failures := h.failures
  failures' := h'.failures
  schemaFailures := by
    have hshows {other : Scope} : ∀ entry ∈ other.kept entries, ∀ failure,
        scope.schemaFailure? entry = some failure →
          failure.artifact.all (scope.shows skip) = scope.shows skip entry.2 := by
      intro entry _ failure hfailure
      obtain ⟨raw, _, rfl⟩ := Option.map_eq_some_iff.mp hfailure
      rfl
    unfold Scope.schemaFailures
    rw [filter_filterMap_of_forall hshows, ← Scope.kept_withSkip]
    exact filter_filterMap_of_forall hshows
  resolvable := by
    intro entry hentry
    have hmem := ((mem_named hentries).mp hentry).1
    exact ⟨(Scope.knows_iff hscope).mpr (List.mem_map_of_mem hmem), rfl⟩

/-- **A skip list only hides schemas.** Whatever skip list takes the place of another, either both
runs end in one fault, or both have a result, and the two results hide schemas only. -/
theorem generate_withSkip (schemas : List Schema) (operations : List Operation) (config : Config)
    (skip : List SkipEntry) (hnames : ∀ schema ∈ schemas, schema.TextNamed) :
    let run := (generate .default schemas operations config).run.run {}
    let run' := (generate .default schemas operations (config.withSkip skip)).run.run {}
    (∃ fault, run.1 = .error fault ∧ run'.1 = .error fault) ∨
      ∃ result result', run.1 = .ok result ∧ run'.1 = .ok result' ∧
        ∃ scope entries ordered, Scope.ofSchemas schemas config = .ok scope ∧
          scope.named schemas = .ok entries ∧ Operation.inRunOrder operations = .ok ordered ∧
          scope.HidesOnly skip entries ordered result result' := by
  intro run run'
  have hother : Scope.ofSchemas schemas (config.withSkip skip) =
      (fun scope => scope.withSkip skip) <$> Scope.ofSchemas schemas config :=
    Scope.ofSchemas_withSkip
  -- rendering the operations reads nothing of the skip list
  have hsame : run'.1.map (·.modules) = run.1.map (·.modules) := by
    rw [generate_modules hnames, generate_modules hnames, hother]
    cases Scope.ofSchemas schemas config <;> rfl
  rcases hrun : run with ⟨fault | result, trace⟩ <;>
    rcases hrun' : run' with ⟨fault' | result', trace'⟩ <;> rw [hrun, hrun'] at hsame
  · cases hsame
    exact .inl ⟨fault, rfl, rfl⟩
  · cases hsame
  · cases hsame
  · obtain ⟨scope, entries, ordered, hscope, hentries, hordered, _, _, h⟩ := generate_accounts hrun
    obtain ⟨scope', entries', ordered', hscope', hentries', hordered', _, _, h'⟩ :=
      generate_accounts hrun'
    rw [hother, hscope] at hscope'
    cases hscope'
    replace hentries' : scope.named schemas = .ok entries' := hentries'
    rw [hentries] at hentries'
    cases hentries'
    rw [hordered] at hordered'
    cases hordered'
    exact .inr ⟨result, result', rfl, rfl, scope, entries, ordered, hscope, hentries, hordered,
      hidesOnly_of_accounted skip hscope hentries (Except.ok.inj hsame) h h'⟩

end Runs

section Sample

/-- Schemas of which one has a field of an unknown type. -/
def tagAndToy : List Schema :=
  [emptyObject "tag", { emptyObject "toy" with
    properties := [("owner", { name := .str "owner", kind := .reference, ref := .str "nobody" })] }]

theorem textNamed_tagAndToy : ∀ schema ∈ tagAndToy, schema.TextNamed := by
  unfold tagAndToy emptyObject
  simp only [List.forall_mem_cons]
  refine ⟨⟨⟨_, rfl⟩, List.forall_mem_nil _⟩, ⟨⟨_, rfl⟩, ?_⟩, List.forall_mem_nil _⟩
  simp [Schema.typeRef, TypeRef.TextNamed, TypeRef.IsTextNamed, Json.IsText, Json.orElse,
    Json.truthy]

set_option maxRecDepth 2000 in
/-- The tag gets a module or is hidden; the operation refers to it either way. -/
theorem generate_withSkip_tag :
    ∃ result result',
      ((generate .default tagAndToy [fetching "tag" "tag"] {}).run.run {}).1 = .ok result ∧
      ((generate .default tagAndToy [fetching "tag" "tag"]
        (Config.withSkip {} [.name "Tag"])).run.run {}).1 = .ok result' ∧
      result.summary = (["Tag"], ["Store"], [some "Toy"]) ∧
      result'.summary = ([], ["Store"], [some "Toy"]) ∧
      ∃ scope entries ordered, Scope.ofSchemas tagAndToy {} = .ok scope ∧
        scope.named tagAndToy = .ok entries ∧
        Operation.inRunOrder [fetching "tag" "tag"] = .ok ordered ∧
        scope.HidesOnly [.name "Tag"] entries ordered result result' := by
  have hsummary : ((generate .default tagAndToy [fetching "tag" "tag"] {}).run.run {}).1.map
      GenerationResult.summary = .ok (["Tag"], ["Store"], [some "Toy"]) := by cbv
  have hsummary' : ((generate .default tagAndToy [fetching "tag" "tag"]
      (Config.withSkip {} [.name "Tag"])).run.run {}).1.map GenerationResult.summary =
        .ok ([], ["Store"], [some "Toy"]) := by cbv
  obtain ⟨result, trace, hrun, hnames⟩ := exists_result_of_summary hsummary
  obtain ⟨result', trace', hrun', hnames'⟩ := exists_result_of_summary hsummary'
  rcases generate_withSkip tagAndToy [fetching "tag" "tag"] {} [.name "Tag"] textNamed_tagAndToy
    with ⟨fault, hfault, _⟩ | ⟨other, other', hother, hother', h⟩
  · rw [hrun] at hfault
    cases hfault
  · rw [hrun] at hother
    rw [hrun'] at hother'
    cases hother
    cases hother'
    exact ⟨result, result', congrArg Prod.fst hrun, congrArg Prod.fst hrun', hnames, hnames', h⟩

end Sample

end ElixirClient
