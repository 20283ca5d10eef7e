import Mathlib
import ElixirClient.Proofs.Generation.Rounds
import ElixirClient.Proofs.Layout.Place
import ElixirClient.Proofs.Layout.Writing

/-!
# Files that overwrite each other

The path of a file is made from the name of its artifact, and nothing on the way keeps different
names apart: dashes count as underscores, capital letters as small ones. `intact_iff_apart` says for
which names every artifact keeps its file: the places of all names have to be different. For names
that stay below the output directory this is a matter of their segments (`apart_iff`): schemas and
modules have directories of their own, so only two schemas or two modules can meet.
-/

namespace ElixirClient.Layout

variable {result : GenerationResult} {config : Config} {root : Path} {tree : SourceTree}
  {written : Written}

/-- The default directory of schemas. -/
def schemaDirectory (root : Path) : Path := root ++ ["lib", "example", "schemas"]

/-- The default directory of modules of operations. -/
def operationDirectory (root : Path) : Path := root ++ ["lib", "example", "operations"]

/-- All places that names lead to are different. -/
structure Apart (root : Path) (schemaNames moduleNames : List String) : Prop where
  schemas : (schemaNames.map (place (schemaDirectory root))).Nodup
  modules : (moduleNames.map (place (operationDirectory root))).Nodup
  across : ∀ schema ∈ schemaNames, ∀ module ∈ moduleNames,
    place (schemaDirectory root) schema ≠ place (operationDirectory root) module

theorem apart_iff_nodup {schemaNames moduleNames : List String} :
    Apart root schemaNames moduleNames ↔
      (schemaNames.map (place (schemaDirectory root)) ++
        moduleNames.map (place (operationDirectory root))).Nodup := by
  rw [List.nodup_append]
  constructor
  · rintro ⟨hschemas, hmodules, hacross⟩
    refine ⟨hschemas, hmodules, fun p hp q hq => ?_⟩
    obtain ⟨schema, hschema, rfl⟩ := List.mem_map.mp hp
    obtain ⟨module, hmodule, rfl⟩ := List.mem_map.mp hq
    exact hacross schema hschema module hmodule
  · rintro ⟨hschemas, hmodules, hacross⟩
    refine ⟨hschemas, hmodules, fun schema hschema module hmodule => ?_⟩
    exact hacross _ (List.mem_map.mpr ⟨schema, hschema, rfl⟩) _
      (List.mem_map.mpr ⟨module, hmodule, rfl⟩)

/-- Names that stay below one directory have places of their own if their segments differ. -/
theorem nodup_place_iff {directory : Path} {names : List String}
    (hnames : ∀ name ∈ names, isRooted name = false) :
    (names.map (place directory)).Nodup ↔ (names.map segments).Nodup := by
  unfold List.Nodup
  rw [List.pairwise_map, List.pairwise_map]
  refine List.Pairwise.iff_of_mem fun {a b} ha hb => ?_
  rw [ne_eq, ne_eq, place_inj (hnames a ha) (hnames b hb)]

/-- Below the output directory only names of one kind can meet. -/
theorem apart_iff {schemaNames moduleNames : List String}
    (hschemas : ∀ name ∈ schemaNames, isRooted name = false)
    (hmodules : ∀ name ∈ moduleNames, isRooted name = false) :
    Apart root schemaNames moduleNames ↔
      (schemaNames.map segments).Nodup ∧ (moduleNames.map segments).Nodup := by
  rw [← nodup_place_iff hschemas, ← nodup_place_iff hmodules]
  constructor
  · intro h
    exact ⟨h.schemas, h.modules⟩
  · rintro ⟨hs, hm⟩
    refine ⟨hs, hm, fun schema hschema module hmodule h => ?_⟩
    rw [place, place, hschemas schema hschema, hmodules module hmodule,
      if_neg Bool.false_ne_true, if_neg Bool.false_ne_true, schemaDirectory, operationDirectory,
      List.append_assoc, List.append_assoc, List.append_cancel_left_eq] at h
    -- the third directory is `schemas` for one and `operations` for the other
    have hthird := congrArg (fun path => path[2]?) h
    exact absurd (Option.some.inj hthird) (by decide)

theorem path_of_file {path : Except Fault Path} {text : Except Fault String}
    {content : Path × String} (h : (do let p ← path; return (p, ← text)) = .ok content) :
    path = .ok content.1 := by
  obtain ⟨p, hp, h⟩ := bind_eq_ok.mp h
  obtain ⟨t, _, h⟩ := bind_eq_ok.mp h
  cases h
  exact hp

/-- The paths of files that are all there. -/
theorem map_fst_eq {α : Type} {file : α → Except Fault (Path × String)} {path : α → Path}
    {items : List α} {contents : List (Path × String)}
    (h : items.map file = contents.map Except.ok)
    (hpath : ∀ item ∈ items, ∀ content, file item = .ok content → content.1 = path item) :
    contents.map Prod.fst = items.map path := by
  induction items generalizing contents with
  | nil =>
    rw [List.map_eq_nil_iff.mp h.symm]
    rfl
  | cons item rest ih =>
    cases contents with
    | nil => cases h
    | cons content contents =>
      rw [List.map_cons, List.map_cons] at h
      obtain ⟨hitem, hrest⟩ := List.cons.inj h
      rw [List.map_cons, List.map_cons, hpath item List.mem_cons_self content hitem,
        ih hrest fun other hother => hpath other (List.mem_cons_of_mem item hother)]

/-- Under the default settings the paths of a run are the places of its names. -/
theorem paths_eq (houtput : config.output = {})
    (hschemas : ∀ artifact ∈ result.schemas,
      artifact.location = Naming.underscore artifact.name)
    (hmodules : ∀ module ∈ result.modules, module.location = Naming.underscore module.name)
    (h : write result config root tree = .ok written) :
    written.paths = (result.schemas.map (·.name)).map (place (schemaDirectory root)) ++
      (result.modules.map (·.name)).map (place (operationDirectory root)) := by
  obtain ⟨contents, hfiles, _, hpaths⟩ := write_spec h
  -- schemas are written first, so the files of the modules come behind all of theirs
  obtain ⟨schemaContents, moduleContents, rfl, hs, hm⟩ := List.map_eq_append_iff.mp hfiles.symm
  rw [hpaths, List.map_append, List.map_map, List.map_map]
  congr 1
  · refine map_fst_eq hs.symm fun artifact hmem content hcontent => ?_
    have hpath := path_of_file hcontent
    rw [houtput, hschemas artifact hmem, filePath_underscore] at hpath
    exact (Except.ok.inj hpath).symm
  · refine map_fst_eq hm.symm fun module hmem content hcontent => ?_
    have hpath := path_of_file hcontent
    rw [houtput, hmodules module hmem, filePath_underscore] at hpath
    exact (Except.ok.inj hpath).symm

/-- **Overwritten files.** When a run and writing its result both succeed under the default output
settings, every artifact has a file of its own with its own text exactly if the names of the
artifacts all lead to different places. If no name leaves the output directory, this means that no
two schemas and no two modules have names with the same segments. -/
theorem intact_iff_apart {schemas : List Schema} {operations : List Operation} {trace : Trace}
    (hgenerate : (generate .default schemas operations config).run.run {} = (.ok result, trace))
    (houtput : config.output = {}) (hwrite : write result config root tree = .ok written) :
    (Intact result config root written ↔
      Apart root (result.schemas.map (·.name)) (result.modules.map (·.name))) ∧
    ((∀ name ∈ result.schemas.map (·.name), isRooted name = false) →
      (∀ name ∈ result.modules.map (·.name), isRooted name = false) →
      (Intact result config root written ↔
        ((result.schemas.map (·.name)).map segments).Nodup ∧
          ((result.modules.map (·.name)).map segments).Nodup)) := by
  obtain ⟨hschemas, hmodules⟩ := generate_located hgenerate
  have hapart : Intact result config root written ↔
      Apart root (result.schemas.map (·.name)) (result.modules.map (·.name)) := by
    rw [intact_iff hwrite, paths_eq houtput hschemas hmodules hwrite, apart_iff_nodup]
  refine ⟨hapart, fun hrooted hrooted' => ?_⟩
  rw [hapart, apart_iff hrooted hrooted']

section Sample

/-- A schema with one field of text. -/
def textSchema (name field : String) : Schema :=
  { name := .str name, kind := .primitive .object
    properties := [(field, { name := .str field, kind := .primitive .string })] }

/-- What rendering makes of such a schema. -/
def textArtifact (name location field : String) : SchemaArtifact :=
  { name, location
    module := "Example." ++ name
    doc := ⟨.str Schema.generatedNotice⟩
    fieldNames := [field]
    fieldTypes := [(field, .scalar "string")]
    decoders := [(field, .access (.var "value") (.literal (.str field)))] }

/-- Two schemas with files of their own. -/
def apartSchemas : List Schema := [textSchema "foo" "a", textSchema "bar" "b"]

/-- Two schemas with one file: their raw names differ in a dash only. -/
def clashSchemas : List Schema := [textSchema "a-b" "a", textSchema "a_b" "b"]

def apartResult : GenerationResult :=
  ⟨[textArtifact "Bar" "bar" "b", textArtifact "Foo" "foo" "a"], [], []⟩

def clashResult : GenerationResult :=
  ⟨[textArtifact "AB" "ab" "a", textArtifact "AB" "ab" "b"], [], []⟩

theorem generate_apart :
    ((generate .default apartSchemas [] {}).run.run {}).1 = .ok apartResult := by
  cbv

theorem generate_clash :
    ((generate .default clashSchemas [] {}).run.run {}).1 = .ok clashResult := by
  cbv

theorem intact_iff_apart_foo_bar :
    ∃ trace written,
      (generate .default apartSchemas [] {}).run.run {} =
        (.ok apartResult, trace) ∧
      write apartResult {} ["out"] [] = .ok written ∧
      (Intact apartResult {} ["out"] written ↔ Apart ["out"] ["Bar", "Foo"] []) ∧
      ((∀ name ∈ ["Bar", "Foo"], isRooted name = false) → (∀ name ∈ [], isRooted name = false) →
        (Intact apartResult {} ["out"] written ↔
          (["Bar", "Foo"].map segments).Nodup ∧ ([].map segments).Nodup)) := by
  have hgenerate : (generate .default apartSchemas [] {}).run.run {} =
      (.ok apartResult, ((generate .default apartSchemas [] {}).run.run {}).2) :=
    Prod.ext generate_apart rfl
  obtain ⟨written, hwrite⟩ : ∃ written, write apartResult {} ["out"] [] = .ok written :=
    exists_eq_ok_of_isOk (by decide +kernel)
  exact ⟨_, written, hgenerate, hwrite, intact_iff_apart hgenerate rfl hwrite⟩

/-- Of two schemas with different raw names, the second takes the file of the first. -/
theorem overwritten_a_b :
    ∃ result trace written,
      (generate .default clashSchemas [] {}).run.run {} =
        (.ok result, trace) ∧
      (clashSchemas.map Schema.name).Nodup ∧
      write result {} ["out"] [] = .ok written ∧
      result.schemas.length = 2 ∧ written.tree.length = 1 ∧
      ¬ Intact result {} ["out"] written := by
  have hpaths : (write clashResult {} ["out"] []).toOption.map
      (fun written => (written.paths, written.tree.length)) =
        some ([["out", "lib", "example", "schemas", "ab.ex"],
          ["out", "lib", "example", "schemas", "ab.ex"]], 1) := by decide +kernel
  rcases hwrite : write clashResult {} ["out"] [] with fault | written
  · rw [hwrite] at hpaths
    cases hpaths
  · rw [hwrite] at hpaths
    obtain ⟨hpaths, hfiles⟩ := Prod.mk.inj (Option.some.inj hpaths)
    refine ⟨clashResult, _, written, Prod.ext generate_clash rfl, by decide, hwrite, rfl, hfiles,
      fun h => ?_⟩
    have hdistinct := h.distinct
    rw [hpaths] at hdistinct
    exact absurd hdistinct (by decide)

end Sample

end ElixirClient.Layout
