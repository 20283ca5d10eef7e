import ElixirClient.CommandLine
import ElixirClient.Proofs.Config.Handling
import ElixirClient.Proofs.Session.Detached

/-!
# Runs that refuse their input

A run whose configuration or document cannot be read ends before anything is generated. If the input
is handled, the run reports why and leaves all files as they are; if it is misread, the misuse is
left to the caller: `handles_input_iff`.
-/

namespace ElixirClient.CommandLine

variable {sources : Sources} {invocation : Invocation} {tree : SourceTree} {fault : Fault}
  {config document : Json}

/-- The sources hold JSON text of this value where the configuration is looked for. Where none is
asked for, an empty object does as well. -/
def Sources.HoldsConfig (sources : Sources) : Option String → Json → Prop
  | none, value => value = .obj []
  | some name, value => ∃ text, sources.file (Path.ofString name).text = .ok text ∧
      Json.read (normalizeLineEnds text.toList) = .ok value

/-- The sources hold JSON text of this value where the document is looked for: in a file, or at an
address. -/
def Sources.HoldsDocument (sources : Sources) (source : String) (value : Json) : Prop :=
  if isAddress source then
    ∃ status body, sources.fetch source = .response status body ∧ status / 100 = 2 ∧
      Json.read (dropByteOrderMark body.toList) = .ok value
  else
    ∃ text, sources.file source = .ok text ∧ Json.read (normalizeLineEnds text.toList) = .ok value

/-- The complaint is only for text that is no JSON. -/
theorem readJson_eq_ok {complain : String → Fault} {text : List Char} {value : Json}
    (h : Json.read text = .ok value) : readJson complain text = .ok value := by
  rw [readJson, h]

/-- Without a name there is no file, and the empty configuration is read. -/
theorem loadConfig_eq {name? : Option String} (h : sources.HoldsConfig name? config) :
    loadConfig sources name? = readConfig config := by
  cases name? with
  | none =>
    cases h
    rfl
  | some name =>
    obtain ⟨text, htext, hread⟩ := h
    simp only [loadConfig, htext]
    exact bind_eq_of_ok (readJson_eq_ok hread)

/-- From an address or from a file: once the text is JSON, both are read alike. -/
theorem loadDescriptors_eq {source : String} (h : sources.HoldsDocument source document) :
    loadDescriptors sources source = readDescriptors document := by
  unfold Sources.HoldsDocument at h
  unfold loadDescriptors
  split at h
  · next haddress =>
    obtain ⟨status, body, hfetch, hstatus, hread⟩ := h
    rw [if_pos haddress, hfetch, readFetched, if_pos hstatus]
    exact bind_eq_of_ok (readJson_eq_ok hread)
  · next haddress =>
    obtain ⟨text, htext, hread⟩ := h
    rw [if_neg haddress, htext]
    exact bind_eq_of_ok (readJson_eq_ok hread)

/-! ## Ending before anything is generated -/

/-- How a run ends in a fault while nothing has been logged yet. -/
def endAtOnce (tree : SourceTree) (fault : Fault) : Except Fault Report :=
  match reported? fault with
  | some message => .ok { exitCode := 1, stderr := ["error: " ++ message], tree := tree }
  | none => .error fault

/-- The configuration is read first, so a fault in it hides the document. -/
theorem run_of_loadConfig (h : loadConfig sources invocation.config = .error fault) :
    run sources invocation tree = endAtOnce tree fault := by
  unfold run generateFiles
  rw [Render.run_bind, Render.run_ofExcept, h]
  rfl

theorem run_of_loadDescriptors {config : Config}
    (hconfig : loadConfig sources invocation.config = .ok config)
    (h : loadDescriptors sources invocation.descriptors = .error fault) :
    run sources invocation tree = endAtOnce tree fault := by
  unfold run generateFiles
  rw [Render.run_bind, Render.run_ofExcept, hconfig]
  simp only
  rw [Render.run_bind, Render.run_ofExcept, h]
  rfl

/-- The run reports what is wrong and leaves the files as they are. -/
def Reports (e : Except Fault Report) (tree : SourceTree) : Prop :=
  ∃ message, e = .ok { exitCode := 1, stderr := ["error: " ++ message], tree := tree }

/-- Refusals are reported, whatever the cause. -/
theorem reports_endAtOnce_configuration (cause : ConfigurationFault) :
    Reports (endAtOnce tree (.configuration cause)) tree := ⟨cause.message, rfl⟩

theorem reports_endAtOnce_descriptor (cause : DescriptorFault) :
    Reports (endAtOnce tree (.descriptor cause)) tree := ⟨cause.message, rfl⟩

/-- A misuse is no report: it goes on to the caller. -/
theorem not_reports_endAtOnce_misuse (cause : Misuse) :
    ¬ Reports (endAtOnce tree (.misuse cause)) tree := by
  rintro ⟨message, h⟩
  cases h

/-- What a run reports, and what it leaves to its caller, is decided by the fault alone; so
reporting is handling. -/
theorem reports_endAtOnce_iff {α γ : Type} {refusal : γ → Fault} {e : Except Fault α}
    (hrefuses : Refuses refusal e)
    (hreports : ∀ cause, Reports (endAtOnce tree (refusal cause)) tree) (h : e = .error fault) :
    Reports (endAtOnce tree fault) tree ↔ Handles refusal e := by
  cases hrefuses fault h with
  | refused cause => exact iff_of_true (hreports cause) (.inr ⟨cause, h⟩)
  | @misused cause _ =>
    refine iff_of_false (not_reports_endAtOnce_misuse cause) ?_
    rintro (⟨a, ha⟩ | ⟨refused, hrefused⟩)
    · rw [ha] at h
      cases h
    · rw [hrefused] at h
      exact not_reports_endAtOnce_misuse cause (Except.error.inj h ▸ hreports refused)

/-- **Handled input.** A document is read or refused exactly if it is not misread, and so is a
configuration. A run whose input is not all read reports why exactly if the configuration is not
misread, and the document is not when it comes to that. -/
theorem handles_input_iff (sources : Sources) (invocation : Invocation) (tree : SourceTree)
    (config document : Json) :
    (Handles .descriptor (readDescriptors document) ↔
      ∀ cause, ¬ MisreadDocument cause document) ∧
    (Handles .configuration (readConfig config) ↔ ∀ cause, ¬ MisreadConfig cause config) ∧
    (sources.HoldsConfig invocation.config config →
      sources.HoldsDocument invocation.descriptors document →
      ¬ (Succeeds (readConfig config) ∧ Succeeds (readDescriptors document)) →
      (Reports (run sources invocation tree) tree ↔ (∀ cause, ¬ MisreadConfig cause config) ∧
        (Succeeds (readConfig config) → ∀ cause, ¬ MisreadDocument cause document))) := by
  refine ⟨handles_readDescriptors_iff document, handles_readConfig_iff config, ?_⟩
  intro hconfig hdocument hunread
  rw [← handles_readConfig_iff, ← handles_readDescriptors_iff]
  have hloadConfig := loadConfig_eq hconfig
  have hloadDescriptors := loadDescriptors_eq hdocument
  -- the configuration is read first, and its fault ends the run
  cases hread : readConfig config with
  | error fault =>
    have hnot : ¬ Succeeds (Except.error fault : Except Fault Config) := by
      rintro ⟨_, h⟩
      cases h
    rw [run_of_loadConfig (hloadConfig.trans hread), ← hread,
      reports_endAtOnce_iff (refuses_readConfig config) reports_endAtOnce_configuration hread]
    exact (and_iff_left fun h => absurd (hread ▸ h) hnot).symm
  | ok settings =>
    have hsettings : Succeeds (readConfig config) := ⟨settings, hread⟩
    cases hreadDocument : readDescriptors document with
    -- one of the two cannot be read
    | ok descriptors => exact absurd ⟨hsettings, descriptors, hreadDocument⟩ hunread
    | error fault =>
      rw [run_of_loadDescriptors (hloadConfig.trans hread) (hloadDescriptors.trans hreadDocument),
        ← hread, ← hreadDocument, and_iff_right (.inl hsettings),
        forall_prop_of_true hsettings]
      exact reports_endAtOnce_iff (refuses_readDescriptors document) reports_endAtOnce_descriptor
        hreadDocument

section Sample

/-- Files with this text as the document. -/
def documentFile (text : String) : SourceTree := [(["api.json"], text)]

theorem holdsDocument_file {source : String} (text : String) {value : Json}
    (haddress : isAddress source = false) (hfile : sources.file source = .ok text)
    (hread : (Json.read (normalizeLineEnds text.toList)).toOption = some value) :
    sources.HoldsDocument source value := by
  rw [Sources.HoldsDocument, if_neg (ne_true_of_eq_false haddress)]
  refine ⟨text, hfile, ?_⟩
  cases h : Json.read (normalizeLineEnds text.toList) with
  | ok other =>
    rw [h] at hread
    exact congrArg _ (Option.some.inj hread)
  | error fault =>
    rw [h] at hread
    cases hread

/-- A document that is a list is refused, and the run says so. -/
theorem handles_input_list :
    Reports (run (.ofTree (documentFile "[]")) { descriptors := "api.json" } (documentFile "[]"))
      (documentFile "[]") := by
  have hdocument : (Sources.ofTree (documentFile "[]")).HoldsDocument "api.json" (.arr []) :=
    holdsDocument_file "[]" (by decide) (by decide +kernel) (by decide +kernel)
  have hconfig : (Sources.ofTree (documentFile "[]")).HoldsConfig none (.obj []) := rfl
  have hunread : ¬ (Succeeds (readConfig (.obj [])) ∧ Succeeds (readDescriptors (.arr []))) := by
    rintro ⟨_, _, h⟩
    cases h
  obtain ⟨hdocument_iff, hconfig_iff, hrun⟩ := handles_input_iff (.ofTree (documentFile "[]"))
    { descriptors := "api.json" } (documentFile "[]") (.obj []) (.arr [])
  refine (hrun hconfig hdocument hunread).mpr ⟨hconfig_iff.mp (.inl ⟨_, rfl⟩), fun _ => ?_⟩
  exact hdocument_iff.mp (.inr ⟨.documentNotObject, rfl⟩)

/-- A number in the place of the schemas, or of the rename rules, is neither read nor refused, and
the run ends in the misuse. -/
theorem not_handled_number :
    ¬ Handles .descriptor (readDescriptors (.obj [("schemas", .int 5)])) ∧
    ¬ Handles .configuration (readConfig (.obj [("naming", .obj [("rename", .int 5)])])) ∧
    run (.ofTree (documentFile "\x7b\"schemas\": 5\x7d")) { descriptors := "api.json" } [] =
      .error .wrongKind := by
  have hread : readDescriptors (.obj [("schemas", .int 5)]) = .error .wrongKind := rfl
  have hreadConfig : readConfig (.obj [("naming", .obj [("rename", .int 5)])]) =
      .error .wrongKind := rfl
  refine ⟨?_, ?_, ?_⟩
  · rw [hread]
    rintro (⟨_, h⟩ | ⟨_, h⟩) <;> cases h
  · rw [hreadConfig]
    rintro (⟨_, h⟩ | ⟨_, h⟩) <;> cases h
  · have hdocument : (Sources.ofTree (documentFile "\x7b\"schemas\": 5\x7d")).HoldsDocument
        "api.json" (.obj [("schemas", .int 5)]) :=
      holdsDocument_file "\x7b\"schemas\": 5\x7d" (by decide) (by decide +kernel)
        (by decide +kernel)
    have hconfig : loadConfig (.ofTree (documentFile "\x7b\"schemas\": 5\x7d")) none = .ok {} :=
      rfl
    have hrun := @run_of_loadDescriptors (.ofTree (documentFile "\x7b\"schemas\": 5\x7d"))
      { descriptors := "api.json" } [] _ _ hconfig ((loadDescriptors_eq hdocument).trans hread)
    rw [hrun]
    rfl

end Sample

end ElixirClient.CommandLine
