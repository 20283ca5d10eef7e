import Mathlib.Data.List.Nodup
import ElixirClient.Layout
import ElixirClient.Proofs.Fault.Loops

/-!
# Writing files one after the other

A run of writes that succeeds has put every file in its place: `write_spec`. What a place holds in
the end is the text of the last file that was put there, so all files keep their texts if no two
share a place (`lookup_putAll`).
-/

namespace ElixirClient

namespace SourceTree

variable {tree : SourceTree} {path other : Path} {content : String}

theorem lookup_put_self : (tree.put path content).lookup path = some content := by
  induction tree with
  | nil => exact List.lookup_cons_self
  | cons file rest ih =>
    obtain ⟨p, c⟩ := file
    unfold put
    split
    · next h =>
      rw [h]
      exact List.lookup_cons_self
    · next h =>
      have hne : (path == p) = false := beq_eq_false_iff_ne.mpr fun h' => h h'.symm
      rw [List.lookup_cons, hne]
      exact ih

theorem lookup_put_of_ne (hother : other ≠ path) :
    (tree.put path content).lookup other = tree.lookup other := by
  have hne : (other == path) = false := beq_eq_false_iff_ne.mpr hother
  induction tree with
  | nil =>
    show List.lookup other [(path, content)] = _
    rw [List.lookup_cons, hne]
  | cons file rest ih =>
    obtain ⟨p, c⟩ := file
    unfold put
    split
    · next h =>
      rw [List.lookup_cons, List.lookup_cons, h, hne]
    · rw [List.lookup_cons, List.lookup_cons, ih]

theorem write_eq_ok {tree' : SourceTree} (h : tree.write path content = .ok tree') :
    tree' = tree.put path content := by
  unfold write at h
  -- a place that cannot be written is a fault, in four ways
  split at h
  · cases h
  split at h
  · cases h
  split at h
  · cases h
  split at h
  · cases h
  exact (Except.ok.inj h).symm

/-- Puts files in their places, one after the other. -/
def putAll (tree : SourceTree) (files : List (Path × String)) : SourceTree :=
  files.foldl (fun tree file => tree.put file.1 file.2) tree

theorem lookup_putAll_of_not_mem {files : List (Path × String)} (h : path ∉ files.map Prod.fst) :
    (tree.putAll files).lookup path = tree.lookup path := by
  induction files generalizing tree with
  | nil => rfl
  | cons file rest ih =>
    rw [List.map_cons, List.mem_cons, not_or] at h
    show ((tree.put file.1 file.2).putAll rest).lookup path = _
    rw [ih h.2, lookup_put_of_ne h.1]

/-- Files with places of their own keep their texts. Induction on the files: those that come later
are put elsewhere. -/
theorem lookup_putAll {files : List (Path × String)} (hfiles : (files.map Prod.fst).Nodup)
    {file : Path × String} (h : file ∈ files) :
    (tree.putAll files).lookup file.1 = some file.2 := by
  induction files generalizing tree with
  | nil => cases h
  | cons first rest ih =>
    rw [List.map_cons, List.nodup_cons] at hfiles
    show ((tree.put first.1 first.2).putAll rest).lookup file.1 = _
    rcases List.mem_cons.mp h with rfl | h
    · rw [lookup_putAll_of_not_mem hfiles.1, lookup_put_self]
    · exact ih hfiles.2 h

end SourceTree

namespace Layout

/-- One step of the loop: the file was made, it was written, and its path is noted. -/
theorem add_eq_ok {done done' : Written} {file : Except Fault (Path × String)}
    (h : done.add file = .ok done') :
    ∃ written, file = .ok written ∧ done'.tree = done.tree.put written.1 written.2 ∧
      done'.paths = done.paths ++ [written.1] := by
  obtain ⟨written, hfile, h⟩ := bind_eq_ok.mp h
  obtain ⟨tree, htree, h⟩ := bind_eq_ok.mp h
  cases h
  exact ⟨written, hfile, SourceTree.write_eq_ok htree, rfl⟩

/-- By induction on the files: a loop that comes to its end has had no file that could not be
made. -/
theorem foldlM_add {files : List (Except Fault (Path × String))} {done written : Written}
    (h : files.foldlM Written.add done = .ok written) :
    ∃ contents : List (Path × String), files = contents.map Except.ok ∧
      written.tree = done.tree.putAll contents ∧
      written.paths = done.paths ++ contents.map Prod.fst := by
  induction files generalizing done with
  | nil =>
    cases h
    exact ⟨[], rfl, rfl, (List.append_nil _).symm⟩
  | cons file rest ih =>
    rw [List.foldlM_cons] at h
    obtain ⟨next, hstep, hrest⟩ := bind_eq_ok.mp h
    obtain ⟨first, rfl, htree, hpaths⟩ := add_eq_ok hstep
    obtain ⟨contents, rfl, htree', hpaths'⟩ := ih hrest
    refine ⟨first :: contents, rfl, ?_, ?_⟩
    · rw [htree', htree]
      rfl
    · rw [hpaths', hpaths, List.append_assoc, List.map_cons, List.singleton_append]

variable {result : GenerationResult} {config : Config} {root : Path} {tree : SourceTree}
  {written : Written}

/-- A run of writes that succeeds has put all files of the result in their places. -/
theorem write_spec (h : write result config root tree = .ok written) :
    ∃ contents : List (Path × String),
      result.schemas.map (schemaFile config root) ++ result.modules.map (moduleFile config root) =
        contents.map Except.ok ∧
      written.tree = tree.putAll contents ∧ written.paths = contents.map Prod.fst :=
  foldlM_add h

/-- Every artifact of a result has a file of its own with its own text. -/
structure Intact (result : GenerationResult) (config : Config) (root : Path) (written : Written) :
    Prop where
  distinct : written.paths.Nodup
  schemas : ∀ artifact ∈ result.schemas, ∃ path text,
    schemaFile config root artifact = .ok (path, text) ∧ written.tree.lookup path = some text
  modules : ∀ module ∈ result.modules, ∃ path text,
    moduleFile config root module = .ok (path, text) ∧ written.tree.lookup path = some text

/-- Nothing is overwritten as soon as all files have places of their own. -/
theorem intact_iff (h : write result config root tree = .ok written) :
    Intact result config root written ↔ written.paths.Nodup := by
  refine ⟨Intact.distinct, fun hdistinct => ?_⟩
  obtain ⟨contents, hfiles, htree, hpaths⟩ := write_spec h
  have hkept {file : Except Fault (Path × String)}
      (hfile : file ∈ result.schemas.map (schemaFile config root) ++
        result.modules.map (moduleFile config root)) :
      ∃ path text, file = .ok (path, text) ∧ written.tree.lookup path = some text := by
    rw [hfiles] at hfile
    obtain ⟨content, hcontent, rfl⟩ := List.mem_map.mp hfile
    refine ⟨content.1, content.2, rfl, ?_⟩
    rw [htree]
    exact SourceTree.lookup_putAll (hpaths ▸ hdistinct) hcontent
  exact {
    distinct := hdistinct
    schemas := fun artifact hmem =>
      hkept (List.mem_append_left _ (List.mem_map.mpr ⟨artifact, hmem, rfl⟩))
    modules := fun module hmem =>
      hkept (List.mem_append_right _ (List.mem_map.mpr ⟨module, hmem, rfl⟩)) }

end Layout

end ElixirClient
