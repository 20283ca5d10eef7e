import ElixirClient.Proofs.Fault.Confined
import ElixirClient.Proofs.Layout.Overwriting
import ElixirClient.Proofs.Source.Faults

/-!
# What writing leaves behind

Files are written one after the other, and a fault does not take back those before it. `writeAll`
keeps what is written by then; where writing succeeds, it is what `Layout.write` yields
(`writeAll_of_write`). A fault of writing is never one that a run reports (`confined_write`).

Below a root without files, writing leaves the files that it lists, each with the text of an
artifact of the result: `corresponds_of_write`. They are all that it lists if no path leaves the root,
which under the default settings is a matter of the names (`below_iff_rooted`).
-/

namespace ElixirClient

open Fault (Unwritable)

namespace Path

/-- The path goes on from the root, without starting over from the top or going back up. -/
def Below (root path : Path) : Prop :=
  ∃ rest, path = root ++ rest ∧ rest ≠ [] ∧ rest.isAbsolute = false ∧ ".." ∉ rest

end Path

namespace SourceTree

variable {tree : SourceTree} {path other : Path} {content : String}

/-- What keeps a file from being written is in its path: a name that no file has, or a directory in
the place of a file or the other way round. -/
theorem confined_write (tree : SourceTree) (path : Path) (content : String) :
    Confined Unwritable (tree.write path content) := by
  unfold write
  split
  · exact .error (.value _)
  split
  · exact .error (.place nofun)
  split
  · exact .error (.place nofun)
  split
  · exact .error (.place nofun)
  · exact .ok _

/-- Every file is one of those that are put there, or it was there before. -/
theorem mem_of_lookup_putAll {files : List (Path × String)}
    (h : (tree.putAll files).lookup path = some content) :
    (path, content) ∈ files ∨ tree.lookup path = some content := by
  induction files generalizing tree with
  | nil => exact .inr h
  | cons file rest ih =>
    rcases @ih (tree.put file.1 file.2) h with h | h
    · exact .inl (List.mem_cons_of_mem file h)
    · by_cases hpath : path = file.1
      · rw [hpath, lookup_put_self] at h
        cases h
        exact .inl (by rw [hpath]; exact List.mem_cons_self)
      · rw [lookup_put_of_ne hpath] at h
        exact .inr h

/-- Files are put there and none is taken away. -/
theorem isFile_putAll {files : List (Path × String)} :
    (tree.putAll files).isFile path = true ↔ path ∈ files.map Prod.fst ∨ tree.isFile path = true := by
  unfold isFile
  induction files generalizing tree with
  | nil => exact (or_iff_right List.not_mem_nil).symm
  | cons file rest ih =>
    show (((tree.put file.1 file.2).putAll rest).lookup path).isSome = true ↔ _
    rw [ih, List.map_cons, List.mem_cons]
    by_cases hpath : path = file.1
    · rw [hpath, lookup_put_self]
      simp
    · rw [lookup_put_of_ne hpath]
      simp [hpath]

end SourceTree

namespace Layout

variable {result : GenerationResult} {config : Config} {root : Path} {tree : SourceTree}
  {written : Written}

/-! ## Faults of writing -/

theorem confined_filePath (root : Path) (directory extension : Json) (location : String) :
    Confined Unwritable (filePath root directory extension location) := by
  unfold filePath
  split
  · exact .ok _
  · exact .error (.value _)

theorem confined_schemaFile (config : Config) (root : Path) (artifact : SchemaArtifact) :
    Confined Unwritable (schemaFile config root artifact) := by
  have htext : Confined Unwritable (schemaText artifact) := by
    refine (Source.confined_documentation _ _).bind fun _ _ => ?_
    refine (Confined.mapM fun entry _ => ?_).bind fun _ _ => ?_
    · exact (Source.writesTypes_typeText.confined entry.2).bind fun _ _ => .ok _
    refine (Confined.mapM fun entry _ => ?_).bind fun _ _ => .ok _
    exact (Source.confined_exprText entry.2).bind fun _ _ => .ok _
  exact (confined_filePath _ _ _ _).bind fun _ _ => htext.bind fun _ _ => .ok _

theorem confined_moduleFile (config : Config) (root : Path) (module : OperationModule) :
    Confined Unwritable (moduleFile config root module) := by
  have htext (artifact : OperationArtifact) : Confined Unwritable (operationText artifact) := by
    refine (Source.confined_documentation _ _).bind fun _ _ => ?_
    refine (Source.confined_specText _).bind fun _ _ => ?_
    exact (Source.confined_functionText _).bind fun _ _ => .ok _
  refine (confined_filePath _ _ _ _).bind fun _ _ => Confined.bind ?_ fun _ _ => .ok _
  exact (Confined.mapM fun artifact _ => htext artifact).bind fun _ _ => .ok _

/-- The files of all artifacts, schemas first. -/
def files (result : GenerationResult) (config : Config) (root : Path) :
    List (Except Fault (Path × String)) :=
  result.schemas.map (schemaFile config root) ++ result.modules.map (moduleFile config root)

/-- Files to write are those of schemas and then those of modules. -/
theorem confined_of_mem_files {file : Except Fault (Path × String)}
    (h : file ∈ files result config root) : Confined Unwritable file := by
  rcases List.mem_append.mp h with h | h
  · obtain ⟨artifact, _, rfl⟩ := List.mem_map.mp h
    exact confined_schemaFile config root artifact
  · obtain ⟨module, _, rfl⟩ := List.mem_map.mp h
    exact confined_moduleFile config root module

theorem confined_add {file : Except Fault (Path × String)} (h : Confined Unwritable file)
    (done : Written) : Confined Unwritable (done.add file) :=
  h.bind fun content _ =>
    (SourceTree.confined_write done.tree content.1 content.2).bind fun _ _ => .ok _

theorem confined_write (result : GenerationResult) (config : Config) (root : Path)
    (tree : SourceTree) : Confined Unwritable (write result config root tree) :=
  .foldlM (fun done _ h => confined_add (confined_of_mem_files h) done) _

/-! ## One file after the other -/

/-- Writes files in order, up to a fault. What is written by then stays. -/
def writeAll : List (Except Fault (Path × String)) → Written → Except Fault Unit × Written
  | [], done => (.ok (), done)
  | file :: rest, done =>
    match done.add file with
    | .ok next => writeAll rest next
    | .error fault => (.error fault, done)

/-- Writing up to a fault, and knowing what was written by then. -/
theorem foldlM_add_eq (files : List (Except Fault (Path × String))) (done : Written) :
    files.foldlM Written.add done = (fun _ => (writeAll files done).2) <$> (writeAll files done).1 := by
  induction files generalizing done with
  | nil => rfl
  | cons file rest ih =>
    rw [List.foldlM_cons, writeAll]
    cases done.add file with
    | ok next => exact ih next
    | error fault => rfl

/-- What is written is what writing leaves behind, unless there was a fault. -/
theorem write_eq : write result config root tree =
    (fun _ => (writeAll (files result config root) { tree := tree }).2) <$>
      (writeAll (files result config root) { tree := tree }).1 :=
  foldlM_add_eq _ _

/-- What writing yields is what is written by its end. -/
theorem writeAll_of_write (h : write result config root tree = .ok written) :
    (writeAll (files result config root) { tree := tree }).2 = written := by
  rw [write_eq] at h
  obtain ⟨_, _, hwritten⟩ := map_eq_ok.mp h
  exact hwritten

/-! ## What lies below the root -/

/-- How the files of a result and those below the root go together. -/
structure Corresponds (result : GenerationResult) (config : Config) (root : Path) (written : Written) :
    Prop where
  /-- Every artifact of the result has its path in the list, and nothing else has. -/
  listed : ∃ contents : List (Path × String), files result config root = contents.map Except.ok ∧
    written.paths = contents.map Prod.fst
  below : ∀ path, root.Below path → (written.tree.isFile path = true ↔ path ∈ written.paths)
  /-- A file below the root has the text of an artifact of the result. -/
  owned : ∀ path text, root.Below path → written.tree.lookup path = some text →
    (∃ artifact ∈ result.schemas, schemaFile config root artifact = .ok (path, text)) ∨
      ∃ module ∈ result.modules, moduleFile config root module = .ok (path, text)

/-- If nothing was below the root, then what is there afterwards was written. -/
theorem corresponds_of_write (hempty : ∀ path, root.Below path → tree.isFile path = false)
    (h : write result config root tree = .ok written) : Corresponds result config root written := by
  obtain ⟨contents, hfiles, htree, hpaths⟩ := write_spec h
  refine ⟨⟨contents, hfiles, hpaths⟩, fun path hbelow => ?_, fun path text hbelow htext => ?_⟩
  · rw [htree, hpaths, SourceTree.isFile_putAll, hempty path hbelow]
    exact or_iff_left Bool.false_ne_true
  · rw [htree] at htext
    -- a file below the root is a written one or was there before
    rcases SourceTree.mem_of_lookup_putAll htext with hmem | hold
    · have hfile : Except.ok (path, text) ∈ files result config root := by
        rw [files, hfiles]
        exact List.mem_map_of_mem hmem
      rcases List.mem_append.mp hfile with hfile | hfile
      · exact .inl (List.mem_map.mp hfile)
      · exact .inr (List.mem_map.mp hfile)
    · have hnone := hempty path hbelow
      rw [SourceTree.isFile, hold] at hnone
      cases hnone

/-- The files below the root are those on the list. -/
def Exact (root : Path) (written : Written) : Prop :=
  ∀ path, (root.Below path ∧ written.tree.isFile path = true) ↔ path ∈ written.paths

/-- The listed files are all that is below the root exactly if all of them are below it. Whether
they are is a matter of their paths. -/
theorem Corresponds.exact_iff (h : Corresponds result config root written) :
    Exact root written ↔ ∀ path ∈ written.paths, root.Below path := by
  constructor
  · intro hexact path hpath
    exact ((hexact path).mpr hpath).1
  · intro hbelow path
    constructor
    · rintro ⟨hpath, hfile⟩
      exact (h.below path hpath).mp hfile
    · intro hpath
      have hroot := hbelow path hpath
      exact ⟨hroot, (h.below path hroot).mpr hpath⟩

/-! ## Names that stay below the root -/

/-- Names of artifacts are parted at dots, so no part of them is two dots. -/
theorem dots_notMem_fileNames (name : String) : ".." ∉ fileNames name := by
  have hdots {cs : List Char} (h : cs ≠ ['.', '.']) : ".." ≠ String.ofList cs := by
    intro heq
    exact h (String.ofList_injective (heq.symm.trans (String.ofList_toList).symm))
  unfold fileNames
  rw [List.mem_append, List.mem_singleton, not_or]
  constructor
  · intro hmem
    obtain ⟨segment, hsegment, heq⟩ := List.mem_map.mp hmem
    refine hdots ?_ heq.symm
    rintro rfl
    have hpart := List.dropLast_subset _ (List.mem_of_mem_filter hsegment)
    exact Naming.dot_notMem_underscoreChars name.toList
      (Text.mem_of_mem_splitAt hpart List.mem_cons_self).1
  · refine hdots fun heq => ?_
    have hlast : some 'x' = some '.' := by
      have hends := congrArg List.getLast? heq
      rwa [List.getLast?_append] at hends
    exact absurd hlast (by decide)

/-- The file of a name stays below a relative root exactly if the name has no leading slash. -/
theorem below_place_iff (hroot : root.isAbsolute = false) (directory : Path) (hne : directory ≠ [])
    (hdirectory : directory.isAbsolute = false) (hdots : ".." ∉ directory) (name : String) :
    root.Below (place (root ++ directory) name) ↔ isRooted name = false := by
  constructor
  · rintro ⟨rest, hplace, -, hrest, -⟩
    by_contra hrooted
    rw [place, if_pos (eq_true_of_ne_false hrooted)] at hplace
    -- the path starts over from the top, and neither the root nor the rest does
    cases root with
    | nil =>
      rw [← List.nil_append rest, ← hplace] at hrest
      cases hrest
    | cons first others =>
      obtain rfl : "" = first := (List.cons.inj hplace).1
      cases hroot
  · intro hrooted
    rw [place, hrooted, if_neg Bool.false_ne_true, List.append_assoc]
    refine ⟨directory ++ fileNames name, rfl, List.append_ne_nil_of_left_ne_nil hne _, ?_, ?_⟩
    · cases directory with
      | nil => exact absurd rfl hne
      | cons first others => exact hdirectory
    · rw [List.mem_append, not_or]
      exact ⟨hdots, dots_notMem_fileNames name⟩

/-- Under the default settings, the paths of a run stay below a relative root exactly if no name has
a leading slash. -/
theorem below_iff_rooted (hroot : root.isAbsolute = false) (houtput : config.output = {})
    (hschemas : ∀ artifact ∈ result.schemas,
      artifact.location = Naming.underscore artifact.name)
    (hmodules : ∀ module ∈ result.modules, module.location = Naming.underscore module.name)
    (h : write result config root tree = .ok written) :
    (∀ path ∈ written.paths, root.Below path) ↔
      ∀ name ∈ result.schemas.map (·.name) ++ result.modules.map (·.name),
        isRooted name = false := by
  simp only [paths_eq houtput hschemas hmodules h, List.forall_mem_append, List.forall_mem_map]
  have hschema := below_place_iff hroot ["lib", "example", "schemas"] (by decide) rfl (by decide)
  have hmodule := below_place_iff hroot ["lib", "example", "operations"] (by decide) rfl (by decide)
  exact and_congr (forall₂_congr fun artifact _ => hschema artifact.name)
    (forall₂_congr fun module _ => hmodule module.name)

end Layout

end ElixirClient
