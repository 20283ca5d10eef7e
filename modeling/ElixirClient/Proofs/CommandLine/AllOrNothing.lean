import ElixirClient.Proofs.CommandLine.Refusal
import ElixirClient.Proofs.Layout.Progress

/-!
# All files or none

A run that fails says nothing about files that it may have written by then. `aftermath` follows the
files themselves: a fault of writing leaves those before it. Such a fault is never reported
(`reported?_of_unwritable`), so a run that ends in a message has not come to writing, and one that
ends well has written everything: `all_or_nothing`.

What is written is not always below the output directory. A path that begins with a slash starts
over from the top, and the name of an artifact can make one (`not_exact_tmp_pet`).
-/

namespace ElixirClient.CommandLine

open Layout (Written Corresponds Exact)

variable {sources : Sources} {invocation : Invocation} {tree : SourceTree} {fault : Fault}
  {config : Config} {result : GenerationResult} {written : Written} {report : Report}
  {trace : Trace}

/-! ## Faults that are reported -/

/-- What keeps files from being written is left to the caller. -/
theorem reported?_of_unwritable (h : fault.Unwritable) : reported? fault = none := by
  cases h with
  | type node => rfl
  | expression node => rfl
  | value cause => rfl
  | @place cause hcause =>
    cases cause with
    | missing path => exact absurd rfl (hcause path)
    | _ => rfl

/-! ## A run and its files -/

/-- All of a run that comes before writing. -/
def generated (sources : Sources) (invocation : Invocation) :
    Render (Config × GenerationResult) := do
  let config ← Render.ofExcept (loadConfig sources invocation.config)
  let descriptors ← Render.ofExcept (loadDescriptors sources invocation.descriptors)
  let result ← generate Renderer.default descriptors.schemas descriptors.operations config
  return (config, result)

/-- Where a run writes. -/
def Invocation.root (invocation : Invocation) : Path := Path.ofString invocation.outputDir

/-- The files when a run is over, however it ends. -/
def aftermath (sources : Sources) (invocation : Invocation) (tree : SourceTree) : SourceTree :=
  match (generated sources invocation).fresh with
  | .ok (config, result) =>
    (Layout.writeAll (Layout.files result config invocation.root) { tree := tree }).2.tree
  | .error _ => tree

/-- Everything is generated before the first file is written. -/
theorem generateFiles_eq : generateFiles sources invocation tree = (do
    let (config, result) ← generated sources invocation
    let written ← Render.ofExcept (Layout.write result config invocation.root tree)
    return (result, written)) := by
  simp only [generateFiles, generated, Invocation.root, bind_assoc, pure_bind]

theorem generateFiles_of_fault (h : (generated sources invocation).run.run {} = (.error fault, trace)) :
    (generateFiles sources invocation tree).run.run {} = (.error fault, trace) := by
  rw [generateFiles_eq, Render.run_bind, h]

/-- Once all is generated, the outcome is that of writing, and the trace does not change any
more. -/
theorem generateFiles_of_generated
    (h : (generated sources invocation).run.run {} = (.ok (config, result), trace)) :
    (generateFiles sources invocation tree).run.run {} =
      ((result, ·) <$> Layout.write result config invocation.root tree, trace) := by
  rw [generateFiles_eq, Render.run_bind, h]
  simp only
  rw [Render.run_bind, Render.run_ofExcept]
  cases Layout.write result config invocation.root tree with
  | ok written => rfl
  | error fault => rfl

/-- The run has written all files of what it generated. -/
structure Completes (sources : Sources) (invocation : Invocation) (tree : SourceTree)
    (report : Report) (config : Config) (result : GenerationResult) (written : Written) : Prop where
  generated_eq : (generated sources invocation).fresh = .ok (config, result)
  write_eq : Layout.write result config invocation.root tree = .ok written
  exitCode : report.exitCode = 0
  tree_eq : report.tree = written.tree
  paths_eq : report.written = written.paths

/-- The run has ended in a message and has not written anything. -/
structure Abstains (tree : SourceTree) (report : Report) : Prop where
  exitCode : report.exitCode = 1
  tree_eq : report.tree = tree
  paths_eq : report.written = []

/-- A run that ends in a report has either written everything or nothing. -/
theorem completes_or_abstains (hrun : run sources invocation tree = .ok report) :
    aftermath sources invocation tree = report.tree ∧ (Abstains tree report ∨
      ∃ config result written, Completes sources invocation tree report config result written) := by
  unfold run at hrun
  unfold aftermath
  -- a fault of generating, or a result that is written next
  rcases hgenerated : (generated sources invocation).run.run {}
    with ⟨fault | ⟨config, result⟩, trace⟩
  · rw [generateFiles_of_fault hgenerated] at hrun
    rw [show (generated sources invocation).fresh = .error fault from congrArg Prod.fst hgenerated]
    simp only at hrun
    -- the fault is reported or left to the caller, and no file has been touched by then
    split at hrun
    · cases hrun
      exact ⟨rfl, .inl ⟨rfl, rfl, rfl⟩⟩
    · cases hrun
  · have hfresh : (generated sources invocation).fresh = .ok (config, result) :=
      congrArg Prod.fst hgenerated
    rw [generateFiles_of_generated hgenerated] at hrun
    rw [hfresh]
    cases hwrite : Layout.write result config invocation.root tree with
    | error fault =>
      -- a fault of writing would have been left to the caller
      have hunreported := reported?_of_unwritable (Layout.confined_write _ _ _ _ fault hwrite)
      simp only [hwrite, Functor.map, Except.map, hunreported] at hrun
      cases hrun
    | ok written =>
      rw [hwrite] at hrun
      cases hrun
      exact ⟨congrArg Written.tree (Layout.writeAll_of_write hwrite),
        .inr ⟨config, result, written, hfresh, hwrite, rfl, rfl, rfl⟩⟩

/-- Where artifacts go is decided by their names, in every run that comes to writing. -/
theorem located_of_generated (h : (generated sources invocation).fresh = .ok (config, result)) :
    (∀ artifact ∈ result.schemas, artifact.location = Naming.underscore artifact.name) ∧
      ∀ module ∈ result.modules, module.location = Naming.underscore module.name := by
  have hrun : (generated sources invocation).run.run {} =
      (.ok (config, result), (generated sources invocation).leaves) := Prod.ext h rfl
  obtain ⟨settings, _, hconfig, hafterConfig⟩ := Render.run_bind_eq_ok hrun
  obtain ⟨-, rfl⟩ := Render.run_ofExcept_eq.mp hconfig
  obtain ⟨descriptors, _, hdescriptors, hafterDescriptors⟩ := Render.run_bind_eq_ok hafterConfig
  obtain ⟨-, rfl⟩ := Render.run_ofExcept_eq.mp hdescriptors
  obtain ⟨other, trace, hgenerate, hlast⟩ := Render.run_bind_eq_ok hafterDescriptors
  cases hlast
  exact generate_located hgenerate

/-- **All or nothing.** Where the output directory holds no files, a run that comes to an end has
either ended in a message with all files as they were, or has written every file of its result; the
files below the output directory are then made from artifacts of the result and are on the list of
written paths. They are all of that list exactly if no path on it leaves the output directory, and
under the default output settings exactly if no name of an artifact has a leading slash. -/
theorem all_or_nothing
    (hempty : ∀ path, invocation.root.Below path → tree.isFile path = false)
    (hrun : run sources invocation tree = .ok report) :
    aftermath sources invocation tree = report.tree ∧ (Abstains tree report ∨
      ∃ config result written, Completes sources invocation tree report config result written ∧
        Corresponds result config invocation.root written ∧
        (Exact invocation.root written ↔ ∀ path ∈ written.paths, invocation.root.Below path) ∧
        (invocation.root.isAbsolute = false → config.output = {} →
          (Exact invocation.root written ↔
            ∀ name ∈ result.schemas.map (·.name) ++ result.modules.map (·.name),
              Layout.isRooted name = false))) := by
  obtain ⟨haftermath, habstains | ⟨config, result, written, hcompletes⟩⟩ :=
    completes_or_abstains hrun
  · exact ⟨haftermath, .inl habstains⟩
  · have hcorresponds := Layout.corresponds_of_write hempty hcompletes.write_eq
    obtain ⟨hschemas, hmodules⟩ := located_of_generated hcompletes.generated_eq
    refine ⟨haftermath, .inr ⟨config, result, written, hcompletes, hcorresponds,
      hcorresponds.exact_iff, ?_⟩⟩
    intro hroot houtput
    rw [hcorresponds.exact_iff]
    exact Layout.below_iff_rooted hroot houtput hschemas hmodules hcompletes.write_eq

section Sample

/-- A document with one schema of this name. -/
def namedSchema (name : String) : SourceTree :=
  documentFile ("\x7b\"schemas\": [\x7b\"name\": \"" ++ name ++ "\"\x7d]\x7d")

def toOut : Invocation := { descriptors := "api.json", outputDir := "out" }

theorem root_toOut : toOut.root = ["out"] := by decide +kernel

/-- A run on such a document. -/
def namedRun (name : String) : Except Fault Report :=
  run (.ofTree (namedSchema name)) toOut (namedSchema name)

theorem isFile_namedSchema (name : String) {path : Path} (h : toOut.root.Below path) :
    (namedSchema name).isFile path = false := by
  obtain ⟨rest, rfl, -⟩ := h
  rw [root_toOut]
  rfl

theorem exists_report {name : String} {paths : List Path}
    (h : (namedRun name).toOption.map (fun report => (report.exitCode, report.written)) =
      some (0, paths)) :
    ∃ report, namedRun name = .ok report ∧ report.exitCode = 0 ∧ report.written = paths := by
  cases hrun : namedRun name with
  | error fault =>
    rw [hrun] at h
    cases h
  | ok report =>
    rw [hrun] at h
    obtain ⟨hcode, hpaths⟩ := Prod.mk.inj (Option.some.inj h)
    exact ⟨report, rfl, hcode, hpaths⟩

theorem all_or_nothing_pet :
    ∃ report, namedRun "pet" = .ok report ∧
      report.written = [["out", "lib", "example", "schemas", "pet.ex"]] ∧
      ∀ path, (toOut.root.Below path ∧ report.tree.isFile path = true) ↔
        path ∈ report.written := by
  obtain ⟨report, hrun, hcode, hpaths⟩ := @exists_report "pet"
    [["out", "lib", "example", "schemas", "pet.ex"]] (by decide +kernel)
  refine ⟨report, hrun, hpaths, ?_⟩
  obtain ⟨-, habstains | ⟨config, result, written, hcompletes, -, hexact, -⟩⟩ :=
    all_or_nothing (fun _ => isFile_namedSchema "pet") hrun
  · exact absurd (hcode.symm.trans habstains.exitCode) (by decide)
  · rw [hcompletes.tree_eq, hcompletes.paths_eq]
    refine hexact.mpr fun path hpath => ?_
    rw [← hcompletes.paths_eq, hpaths, List.mem_singleton] at hpath
    exact ⟨["lib", "example", "schemas", "pet.ex"], hpath, by decide, rfl, by decide⟩

/-- The dot in front of a name becomes a slash, and the only file of the run is not below the output
directory. -/
theorem not_exact_tmp_pet :
    ∃ report, namedRun ".tmp.pet" = .ok report ∧ report.exitCode = 0 ∧
      report.written = [["", "tmp", "pet.ex"]] ∧
      (∀ path, toOut.root.Below path → report.tree.isFile path = false) ∧
      ¬ ∀ path, (toOut.root.Below path ∧ report.tree.isFile path = true) ↔
        path ∈ report.written := by
  obtain ⟨report, hrun, hcode, hpaths⟩ := @exists_report ".tmp.pet" [["", "tmp", "pet.ex"]]
    (by decide +kernel)
  have hoff : ¬ toOut.root.Below ["", "tmp", "pet.ex"] := by
    rintro ⟨rest, h, -⟩
    exact absurd (List.cons.inj h).1 (by decide)
  refine ⟨report, hrun, hcode, hpaths, fun path hpath => ?_, fun h => ?_⟩
  · obtain ⟨-, habstains | ⟨config, result, written, hcompletes⟩⟩ := completes_or_abstains hrun
    · exact absurd (hcode.symm.trans habstains.exitCode) (by decide)
    · have hcorresponds := Layout.corresponds_of_write (fun _ => isFile_namedSchema ".tmp.pet")
        hcompletes.write_eq
      rw [hcompletes.tree_eq, ← Bool.not_eq_true, hcorresponds.below path hpath, ← hcompletes.paths_eq,
        hpaths, List.mem_singleton]
      rintro rfl
      exact hoff hpath
  · have hlisted : ["", "tmp", "pet.ex"] ∈ report.written := by
      rw [hpaths]
      exact List.mem_singleton_self _
    exact hoff ((h _).mpr hlisted).1

end Sample

end ElixirClient.CommandLine
