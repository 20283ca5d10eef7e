import ElixirClient.Proofs.Fault.Confined
import ElixirClient.Proofs.PathTemplate.Arguments

/-!
# Paths that fit their parameters

`Operation.Fits` is what a path asks of the path parameters: they are its placeholders, and each has
an argument of its own that no other argument of the function is called by. An operation that fits
has a url, and one that does not has a complaint about the configuration in its place
(`url_cases`).
-/

namespace ElixirClient

/-- A complaint about the configuration or about the path of an operation. -/
def Fault.IsConfiguration (fault : Fault) : Prop := ∃ cause, fault = .configuration cause

namespace Operation

variable {operation : Operation}

/-- The path and the path parameters of an operation are made for each other. -/
structure Fits (operation : Operation) : Prop where
  declared : ∀ name ∈ placeholders operation.path.plain,
    name ∈ operation.pathParams.map fun param => param.name.plain
  used : ∀ param ∈ operation.pathParams, param.name.plain ∈ placeholders operation.path.plain
  distinct : (operation.pathParams.map Param.argument).Nodup
  free : ∀ param ∈ operation.pathParams, param.argument ∉ reservedArguments

instance : Decidable operation.Fits :=
  decidable_of_iff _ ⟨fun ⟨h₁, h₂, h₃, h₄⟩ => Fits.mk h₁ h₂ h₃ h₄,
    fun h => And.intro h.declared (And.intro h.used (And.intro h.distinct h.free))⟩

/-- Path, path parameters and query parameters are called by text. -/
structure PathTextNamed (operation : Operation) : Prop where
  path : operation.path.IsText
  pathParams : ∀ param ∈ operation.pathParams, param.name.IsText
  queryParams : ∀ param ∈ operation.queryParams, param.name.IsText

section Text

variable (htext : operation.path.IsText) (hparams : ∀ param ∈ operation.pathParams, param.name.IsText)

include htext hparams

/-- To fit is to pass the checks of arguments and path, and these are all that a url needs. -/
theorem fits_iff : operation.Fits ↔ ∃ pieces, operation.url = .ok pieces := by
  obtain ⟨path, hpath⟩ := htext
  have hplain : operation.path.plain = path := by rw [hpath, Json.plain]
  have hentries : (operation.pathParams.map Param.entry).map Prod.fst =
      operation.pathParams.map fun param => param.name.plain := List.map_map
  -- the checks speak of lists of entries, and fitting of the parameters
  constructor
  · intro hfits
    refine ⟨_, url_eq_ok.mpr ⟨path, operation.pathParams.map Param.entry, hpath, ?_, ?_, rfl⟩⟩
    · exact pathArguments_eq_ok.mpr ⟨hparams, hfits.free, hfits.distinct, rfl⟩
    · refine checkPath_eq_ok.mpr ⟨?_, ?_⟩
      · rw [hentries, ← hplain]
        exact hfits.declared
      · intro entry hentry
        obtain ⟨param, hparam, rfl⟩ := List.mem_map.mp hentry
        rw [← hplain]
        exact hfits.used param hparam
  · rintro ⟨pieces, hurl⟩
    obtain ⟨text, arguments, hpath', harguments, hcheck, _⟩ := url_eq_ok.mp hurl
    obtain ⟨_, hfree, hdistinct, rfl⟩ := pathArguments_eq_ok.mp harguments
    obtain ⟨hdeclared, hused⟩ := checkPath_eq_ok.mp hcheck
    obtain rfl : path = text := Json.str.inj (hpath.symm.trans hpath')
    refine ⟨?_, fun param hparam => ?_, hdistinct, hfree⟩
    · rw [hplain, ← hentries]
      exact hdeclared
    · rw [hplain]
      exact hused param.entry (List.mem_map.mpr ⟨param, hparam, rfl⟩)

/-! ## What is wrong with a path is a complaint about the configuration -/

omit htext in
/-- With text for names, an argument that is reserved and one that is taken are all that can go
wrong. -/
theorem confined_pathArguments : Confined Fault.IsConfiguration operation.pathArguments := by
  refine Confined.foldlM (fun done param hparam => ?_) []
  obtain ⟨raw, hraw⟩ := hparams param hparam
  unfold addArgument
  rw [hraw]
  simp only
  split
  · exact .error ⟨_, rfl⟩
  · split
    · exact .error ⟨_, rfl⟩
    · exact .ok _

omit htext hparams in
/-- So are a placeholder that nothing declares and a parameter that stands nowhere. -/
theorem confined_checkPath (path : String) (arguments : Arguments) :
    Confined Fault.IsConfiguration (operation.checkPath path arguments) := by
  unfold checkPath
  simp only
  split
  · exact .error ⟨_, rfl⟩
  · split
    · exact .error ⟨_, rfl⟩
    · exact .ok _

/-- Both together: a url that there is not is a complaint about the configuration. -/
theorem confined_url : Confined Fault.IsConfiguration operation.url := by
  obtain ⟨path, hpath⟩ := htext
  have hpathText : operation.pathText = .ok path := by rw [pathText, hpath]
  refine (confined_pathArguments hparams).bind fun arguments _ => ?_
  rw [hpathText]
  exact (confined_checkPath path arguments).bind fun _ _ => .ok _

/-- An operation has a url exactly if it fits its path; if not, the path is to blame. -/
theorem url_cases :
    (operation.Fits ∧ ∃ pieces, operation.url = .ok pieces) ∨
      (¬ operation.Fits ∧ ∃ cause, operation.url = .error (.configuration cause)) := by
  cases hurl : operation.url with
  | ok pieces => exact .inl ⟨(fits_iff htext hparams).mpr ⟨pieces, hurl⟩, pieces, rfl⟩
  | error fault =>
    obtain ⟨cause, rfl⟩ := confined_url htext hparams fault hurl
    refine .inr ⟨fun hfits => ?_, cause, rfl⟩
    obtain ⟨pieces, hpieces⟩ := (fits_iff htext hparams).mp hfits
    rw [hurl] at hpieces
    cases hpieces

end Text

end Operation

end ElixirClient
