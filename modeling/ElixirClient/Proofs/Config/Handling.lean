import ElixirClient.Config.Reader
import ElixirClient.Proofs.Descriptor.Handling
import ElixirClient.Proofs.Json.Sorting
import ElixirClient.Proofs.Naming.Renaming

/-!
# Configurations that are handled

Like a document, a configuration is handled if it is read, or refused with a cause. It is misread
where a list of rules cannot be gone through, where the pattern of a rename rule is no text, where
a pattern fails in another way than by being malformed, and where the type of errors is misread:
`handles_readConfig_iff`.
-/

namespace ElixirClient

/-! ## What is misread -/

/-- The misuse that a pattern comes to, if it is not just malformed. -/
def Pattern.Error.misuse? : Pattern.Error → Option Misuse
  | .at .. | .somewhere _ => none
  | .tooLarge => some .tooLarge
  | .contradictoryOptions | .noSuchGroup _ => some .wrongValue

/-- Compiling the pattern ends in a misuse. -/
def MisreadPattern (cause : Misuse) (source : String) : Prop :=
  ∃ error, Pattern.compile source = .error error ∧ error.misuse? = some cause

inductive MisreadRename : Misuse → Json → Prop
  | kind {pattern replacement : Json} : ¬ pattern.IsText →
    MisreadRename .wrongKind (.arr [pattern, replacement])
  | pattern {cause : Misuse} {source : String} {replacement : Json} :
    MisreadPattern cause source → MisreadRename cause (.arr [.str source, replacement])

inductive MisreadSkip : Misuse → Json → Prop
  | pattern {cause : Misuse} {entry : Json} {source : String} :
    entry.member? "pattern" = some (.str source) → MisreadPattern cause source →
    MisreadSkip cause entry

inductive MisreadNaming : Misuse → List (String × Json) → Prop
  | rename {cause : Misuse} {members : List (String × Json)} :
    MisreadEach readRenameRule MisreadRename cause (listed members "rename") →
    MisreadNaming cause members
  | skip {cause : Misuse} {members : List (String × Json)} :
    Succeeds (readEach readRenameRule (listed members "rename")) →
    MisreadEach readSkipEntry MisreadSkip cause (listed members "skip") →
    MisreadNaming cause members
  | namespaces {members : List (String × Json)} :
    Succeeds (readEach readRenameRule (listed members "rename")) →
    Succeeds (readEach readSkipEntry (listed members "skip")) →
    (listed members "namespace").elements? = none → MisreadNaming .wrongKind members

/-- The object gives these sections; one that is missing is empty. -/
structure HasSections (members types naming : List (String × Json)) : Prop where
  types : (members.lookup "types").getD (.obj []) = .obj types
  naming : (members.lookup "naming").getD (.obj []) = .obj naming
  output : ∃ output, (members.lookup "output").getD (.obj []) = .obj output

inductive MisreadConfig : Misuse → Json → Prop
  | errorType {members types naming : List (String × Json)} {value : Json} :
    HasSections members types naming → types.lookup "error" = some value →
    MisreadReference value → MisreadConfig .wrongKind (.obj members)
  | naming {cause : Misuse} {members types naming : List (String × Json)} :
    HasSections members types naming → Succeeds (readErrorType types) →
    MisreadNaming cause naming → MisreadConfig cause (.obj members)

/-! ## Reading -/

variable {value : Json} {members : List (String × Json)} {cause : Misuse}

/-- A pattern that does not compile is refused or misused; which of the two depends on the error
alone and not on what the pattern is for. -/
theorem compilePattern_eq_misuse {use : PatternUse} {source : String} :
    compilePattern use source = .error (.misuse cause) ↔ MisreadPattern cause source := by
  unfold compilePattern MisreadPattern
  cases Pattern.compile source with
  | ok pattern => exact ⟨nofun, nofun⟩
  | error error =>
    simp only [Except.error.injEq, exists_eq_left']
    cases error <;> simp [Pattern.Error.misuse?, refuseConfiguration]

theorem refuses_compilePattern (use : PatternUse) (source : String) :
    Refuses .configuration (compilePattern use source) := by
  unfold compilePattern
  split
  · exact .ok _
  · exact .error (.refused _)
  · exact .error (.refused _)
  · exact .error (.misused trivial)
  · exact .error (.misused trivial)

/-- A rename rule is misread at its pattern. Its replacement is taken as it is and cannot be misread
here. -/
theorem readRenameRule_eq_misuse (rule : Json) :
    readRenameRule rule = .error (.misuse cause) ↔ MisreadRename cause rule := by
  constructor
  · intro h
    unfold readRenameRule at h
    -- a pattern that is text, a pattern that is none, or no pair at all
    split at h
    · exact .pattern (compilePattern_eq_misuse.mp (bind_ok_eq_error.mp h))
    · next pattern replacement hpattern =>
      cases h
      exact .kind fun ⟨source, hsource⟩ => hpattern source (hsource ▸ rfl)
    · cases h
  · intro h
    cases h with
    | @kind pattern replacement hkind =>
      cases pattern with
      | str source => exact absurd ⟨source, rfl⟩ hkind
      | _ => rfl
    | pattern h => exact bind_ok_eq_error.mpr (compilePattern_eq_misuse.mpr h)

theorem readSkipEntry_eq_misuse (entry : Json) :
    readSkipEntry entry = .error (.misuse cause) ↔ MisreadSkip cause entry := by
  constructor
  · intro h
    unfold readSkipEntry at h
    split at h
    · cases h
    · split at h
      · next hpattern => exact .pattern hpattern (compilePattern_eq_misuse.mp (map_eq_error.mp h))
      · cases h
  · rintro ⟨hpattern, h⟩
    cases entry with
    | obj members =>
      rw [readSkipEntry]
      · rw [hpattern]
        exact map_eq_error.mpr (compilePattern_eq_misuse.mpr h)
      · nofun
    | _ => cases hpattern

theorem readNamespaces_eq_misuse :
    readNamespaces value = .error (.misuse cause) ↔
      cause = .wrongKind ∧ value.elements? = none := by
  unfold readNamespaces
  rw [bind_eq_error, Json.elements_eq_error]
  constructor
  · rintro (⟨hcause, hvalue⟩ | ⟨items, _, h⟩)
    · cases hcause
      exact ⟨rfl, hvalue⟩
    · split at h <;> cases h
  · rintro ⟨rfl, hvalue⟩
    exact .inl ⟨rfl, hvalue⟩

theorem readNaming_obj (members : List (String × Json)) :
    readNaming (.obj members) = (do
      let rename ← readEach readRenameRule (listed members "rename")
      let skip ← readEach readSkipEntry (listed members "skip")
      let namespaces ← readNamespaces (listed members "namespace")
      return { rename, skip, namespaces }) := by
  simp only [readNaming, readEach, listed, bind_assoc]

/-- The three lists are read in this order, and the first that is misread counts. -/
theorem readNaming_eq_misuse :
    readNaming (.obj members) = .error (.misuse cause) ↔ MisreadNaming cause members := by
  -- a list is reached only if those before it were read to the end
  have hsteps : readNaming (.obj members) = .error (.misuse cause) ↔
      MisreadEach readRenameRule MisreadRename cause (listed members "rename") ∨
        Succeeds (readEach readRenameRule (listed members "rename")) ∧
        (MisreadEach readSkipEntry MisreadSkip cause (listed members "skip") ∨
          Succeeds (readEach readSkipEntry (listed members "skip")) ∧
          readNamespaces (listed members "namespace") = .error (.misuse cause)) := by
    rw [readNaming_obj, ← readEach_eq_misuse readRenameRule_eq_misuse,
      ← readEach_eq_misuse readSkipEntry_eq_misuse]
    exact seq_eq_error fun _ _ => seq_eq_error fun _ _ => bind_ok_eq_error
  rw [hsteps, readNamespaces_eq_misuse]
  constructor
  · rintro (h | ⟨hrename, h | ⟨hskip, rfl, h⟩⟩)
    · exact .rename h
    · exact .skip hrename h
    · exact .namespaces hrename hskip h
  · intro h
    cases h with
    | rename h => exact .inl h
    | skip hrename h => exact .inr ⟨hrename, .inl h⟩
    | namespaces hrename hskip h => exact .inr ⟨hrename, .inr ⟨hskip, rfl, h⟩⟩

theorem readSection_eq_ok {name : String} {entries : List (String × Json)} :
    readSection members name = .ok entries ↔
      (members.lookup name).getD (.obj []) = .obj entries := by
  unfold readSection
  cases members.lookup name with
  | none => simp
  | some value => cases value <;> simp [refuseConfiguration]

theorem refuses_readSection (members : List (String × Json)) (name : String) :
    Refuses .configuration (readSection members name) := by
  unfold readSection
  split
  · exact .ok _
  · exact .ok _
  · exact .error (.refused _)

theorem readErrorType_eq_misuse {types : List (String × Json)} :
    readErrorType types = .error (.misuse cause) ↔
      cause = .wrongKind ∧ ∃ value, types.lookup "error" = some value ∧ MisreadReference value := by
  unfold readErrorType
  cases types.lookup "error" with
  | none => exact ⟨nofun, nofun⟩
  | some value =>
    simp only [Option.getD_some, Option.some.injEq, exists_eq_left', ← readTypeRef_eq_misuse]
    -- null counts as no type
    split
    · exact ⟨nofun, fun h => absurd rfl (readTypeRef_eq_misuse.mp h).2.ne_null⟩
    · cases readTypeRef value with
      | ok ref => exact ⟨nofun, nofun⟩
      | error fault => cases fault <;> simp [refuseConfiguration]

/-- The type of errors is read like any other, but a refusal of it is a complaint about the
configuration. -/
theorem refuses_readErrorType (types : List (String × Json)) :
    Refuses .configuration (readErrorType types) := by
  unfold readErrorType
  split
  · exact .ok _
  · split
    · exact .ok _
    · exact .error (.refused _)
    · next fault hrefused hread =>
      cases refuses_readTypeRef _ fault hread with
      | refused cause => exact absurd rfl (hrefused cause)
      | misused _ => exact .error (.misused trivial)

/-- The sections come first, so nothing is misread as long as one of them is refused. -/
theorem hasSections_iff {types naming : List (String × Json)} :
    HasSections members types naming ↔ readSection members "types" = .ok types ∧
      readSection members "naming" = .ok naming ∧
      ∃ output, readSection members "output" = .ok output := by
  simp only [readSection_eq_ok]
  exact ⟨fun h => ⟨h.types, h.naming, h.output⟩, fun h => ⟨h.1, h.2.1, h.2.2⟩⟩

theorem readSection_ne_misuse {name : String} :
    readSection members name ≠ .error (.misuse cause) := by
  unfold readSection
  split <;> nofun

/-- Behind its sections only the type of errors and the naming rules of a configuration are read. -/
theorem readConfig_of_sections {types naming : List (String × Json)}
    (h : HasSections members types naming) :
    readConfig (.obj members) = .error (.misuse cause) ↔
      readErrorType types = .error (.misuse cause) ∨ Succeeds (readErrorType types) ∧
        readNaming (.obj naming) = .error (.misuse cause) := by
  obtain ⟨htypes, hnaming, output, houtput⟩ := hasSections_iff.mp h
  rw [readConfig, htypes, hnaming, houtput]
  exact seq_eq_error fun errorType _ => bind_ok_eq_error

/-- **Misread configurations.** -/
theorem readConfig_eq_misuse (value : Json) :
    readConfig value = .error (.misuse cause) ↔ MisreadConfig cause value := by
  cases value with
  | obj members =>
    constructor
    · intro h
      have hread := h
      rw [readConfig] at h
      obtain ⟨types, htypes, h⟩ := (bind_eq_error.mp h).resolve_left readSection_ne_misuse
      obtain ⟨naming, hnaming, h⟩ := (bind_eq_error.mp h).resolve_left readSection_ne_misuse
      obtain ⟨output, houtput, _⟩ := (bind_eq_error.mp h).resolve_left readSection_ne_misuse
      -- sections are refused or read, so the misuse comes behind them
      have hsections := hasSections_iff.mpr ⟨htypes, hnaming, output, houtput⟩
      rcases (readConfig_of_sections hsections).mp hread with h | ⟨herrorType, h⟩
      · obtain ⟨rfl, value, hlookup, hvalue⟩ := readErrorType_eq_misuse.mp h
        exact .errorType hsections hlookup hvalue
      · exact .naming hsections herrorType (readNaming_eq_misuse.mp h)
    · intro h
      cases h with
      | errorType hsections hlookup hvalue =>
        exact (readConfig_of_sections hsections).mpr
          (.inl (readErrorType_eq_misuse.mpr ⟨rfl, _, hlookup, hvalue⟩))
      | naming hsections herrorType h =>
        exact (readConfig_of_sections hsections).mpr
          (.inr ⟨herrorType, readNaming_eq_misuse.mpr h⟩)
  | _ => exact ⟨nofun, nofun⟩

/-! ## Nothing else goes wrong -/

theorem refuses_readRenameRule (rule : Json) : Refuses .configuration (readRenameRule rule) := by
  unfold readRenameRule
  split
  · exact (refuses_compilePattern _ _).bind fun pattern _ => .ok _
  · exact .error (.misused trivial)
  · exact .error (.refused _)

theorem refuses_readSkipEntry (entry : Json) : Refuses .configuration (readSkipEntry entry) := by
  unfold readSkipEntry
  split
  · exact .ok _
  · split
    · exact (refuses_compilePattern _ _).map _
    · exact .error (.refused _)

theorem refuses_readNaming (members : List (String × Json)) :
    Refuses .configuration (readNaming (.obj members)) := by
  refine (refuses_elements _).bind fun _ _ => ?_
  refine (Confined.mapM fun rule _ => refuses_readRenameRule rule).bind fun _ _ => ?_
  refine (refuses_elements _).bind fun _ _ => ?_
  refine (Confined.mapM fun entry _ => refuses_readSkipEntry entry).bind fun _ _ => ?_
  refine Confined.bind ?_ fun _ _ => .ok _
  refine (refuses_elements _).bind fun items _ => ?_
  split
  · exact .ok _
  · exact .error (.refused _)

theorem refuses_readConfig (value : Json) : Refuses .configuration (readConfig value) := by
  cases value with
  | obj members =>
    refine (refuses_readSection members _).bind fun types _ => ?_
    refine (refuses_readSection members _).bind fun naming _ => ?_
    refine (refuses_readSection members _).bind fun output _ => ?_
    refine (refuses_readErrorType types).bind fun errorType _ => ?_
    exact (refuses_readNaming naming).bind fun rules _ => .ok _
  | _ => exact .error (.refused _)

/-- **Handled configurations.** A configuration is read or refused exactly if it is not misread. -/
theorem handles_readConfig_iff (value : Json) :
    Handles .configuration (readConfig value) ↔ ∀ cause, ¬ MisreadConfig cause value := by
  rw [(refuses_readConfig value).handles_iff nofun]
  exact forall_congr' fun cause => not_congr (readConfig_eq_misuse value)

end ElixirClient
