import Mathlib.Data.List.Basic
import ElixirClient.Config.Reader
import ElixirClient.Proofs.Fault.Loops

/-!
# Rename rules that can be applied

When a configuration is read, the pattern of a rename rule is compiled and its replacement is kept
as it is. The replacement is looked at when the rule is applied, before the pattern is searched for.
So it depends on the rules alone whether a name has a normalized form (`exists_normalize_iff`), and
a configuration that was accepted normalizes all names or none: `normalize_accepted_iff`.
-/

namespace ElixirClient

/-- The rename rules that a naming section of a configuration gives. -/
def Json.renameRules (value : Json) : List Json :=
  (((value.member? "rename").getD (.arr [])).elements?).getD []

/-- The value is text that can be read as a replacement for the matches of a pattern. -/
def Pattern.Takes (pattern : Pattern) (replacement : Json) : Prop :=
  ∃ text parts, replacement = .str text ∧ pattern.readReplacement text.toList = .ok parts

/-- The rule has a pattern, and a replacement that the pattern takes. -/
def Json.IsRename (rule : Json) : Prop :=
  ∃ source replacement pattern, rule = .arr [.str source, replacement] ∧
    Pattern.compile source = .ok pattern ∧ pattern.Takes replacement

/-! ## Applying rules -/

namespace NamingRules

/-- Whether a rule can be applied does not depend on the name. -/
theorem exists_applyRename_iff (pattern : Pattern) (replacement : Json) (name : String) :
    (∃ renamed, applyRename pattern replacement name = .ok renamed) ↔ pattern.Takes replacement := by
  cases replacement with
  | str text =>
    rw [applyRename, Pattern.replaceAll]
    cases hread : pattern.readReplacement text.toList with
    | ok parts => exact ⟨fun _ => ⟨text, parts, rfl, hread⟩, fun _ => ⟨_, rfl⟩⟩
    | error fault =>
      constructor
      · rintro ⟨renamed, h⟩
        cases fault <;> cases h
      · rintro ⟨other, parts, htext, h⟩
        cases htext
        rw [hread] at h
        cases h
  | _ =>
    constructor
    · rintro ⟨renamed, h⟩
      cases h
    · rintro ⟨text, parts, h, _⟩
      cases h

theorem exists_applyRenames_iff (rules : NamingRules) (name : String) :
    (∃ renamed, rules.applyRenames name = .ok renamed) ↔
      ∀ rule ∈ rules.rename, rule.1.Takes rule.2 :=
  exists_foldlM_eq_ok_iff fun name rule => exists_applyRename_iff rule.1 rule.2 name

/-- Nothing but its replacements stands in the way of normalizing a name. -/
theorem exists_normalize_iff {rules : NamingRules} {raw : String} :
    (∃ name, rules.normalize raw = .ok name) ↔ ∀ rule ∈ rules.rename, rule.1.Takes rule.2 := by
  rw [← exists_applyRenames_iff rules (String.ofList (rules.spell raw.toList))]
  constructor
  · rintro ⟨name, h⟩
    obtain ⟨renamed, hrenamed, _⟩ := bind_eq_ok.mp h
    exact ⟨renamed, hrenamed⟩
  · rintro ⟨renamed, hrenamed⟩
    exact ⟨_, bind_eq_ok.mpr ⟨renamed, hrenamed, rfl⟩⟩

end NamingRules

/-! ## Rules that were read -/

theorem compilePattern_eq_ok {use : PatternUse} {source : String} {pattern : Pattern} :
    compilePattern use source = .ok pattern ↔ Pattern.compile source = .ok pattern := by
  unfold compilePattern
  cases Pattern.compile source with
  | ok compiled => exact ⟨fun h => congrArg Except.ok (Except.ok.inj h), fun h => by cases h; rfl⟩
  | error fault =>
    constructor
    · intro h
      cases fault <;> cases h
    · nofun

theorem readRenameRule_eq_ok {rule : Json} {pattern : Pattern} {replacement : Json} :
    readRenameRule rule = .ok (pattern, replacement) ↔
      ∃ source, rule = .arr [.str source, replacement] ∧ Pattern.compile source = .ok pattern := by
  constructor
  · intro h
    unfold readRenameRule at h
    split at h
    · next source other =>
      obtain ⟨compiled, hcompiled, h⟩ := bind_eq_ok.mp h
      cases h
      exact ⟨source, rfl, compilePattern_eq_ok.mp hcompiled⟩
    · cases h
    · cases h
  · rintro ⟨source, rfl, hsource⟩
    exact bind_eq_ok.mpr ⟨pattern, compilePattern_eq_ok.mpr hsource, rfl⟩

theorem readNaming_eq_ok {value : Json} {rules : NamingRules} (h : readNaming value = .ok rules) :
    value.renameRules.mapM readRenameRule = .ok rules.rename := by
  unfold readNaming at h
  split at h
  · next members =>
    obtain ⟨items, hitems, h⟩ := bind_eq_ok.mp h
    obtain ⟨rename, hrename, h⟩ := bind_eq_ok.mp h
    obtain ⟨entries, _, h⟩ := bind_eq_ok.mp h
    obtain ⟨skip, _, h⟩ := bind_eq_ok.mp h
    obtain ⟨namespaces, _, h⟩ := bind_eq_ok.mp h
    cases h
    rw [Json.renameRules, Json.member?, Json.elements_eq_ok.mp hitems]
    exact hrename
  · cases h

/-- **Accepted rules apply to every name or to none.** With a naming section that was accepted, a
name is normalized exactly if the replacement of each of its rename rules is text that its pattern
takes. -/
theorem normalize_accepted_iff {value : Json} {rules : NamingRules}
    (h : readNaming value = .ok rules) (raw : String) :
    (∃ name, rules.normalize raw = .ok name) ↔ ∀ rule ∈ value.renameRules, rule.IsRename := by
  have hread : value.renameRules.mapM readRenameRule = .ok rules.rename := readNaming_eq_ok h
  rw [NamingRules.exists_normalize_iff]
  constructor
  · intro htakes item hitem
    obtain ⟨⟨pattern, replacement⟩, hmem, hround⟩ := exists_result_of_mapM_eq_ok hread item hitem
    obtain ⟨source, hitem, hsource⟩ := readRenameRule_eq_ok.mp hround
    exact ⟨source, replacement, pattern, hitem, hsource, htakes _ hmem⟩
  · rintro hrename ⟨pattern, replacement⟩ hmem
    obtain ⟨item, hitem, hround⟩ := exists_mem_of_mapM_eq_ok hread _ hmem
    obtain ⟨source, hrule, hsource⟩ := readRenameRule_eq_ok.mp hround
    obtain ⟨source', replacement', pattern', hrule', hsource', htakes⟩ := hrename item hitem
    -- the rule is one list, and its pattern compiles in one way
    rw [hrule] at hrule'
    cases hrule'
    rw [hsource] at hsource'
    cases hsource'
    exact htakes

section Sample

/-- A naming section whose one rule puts a replacement in the place of `pet`. -/
def petRenaming (replacement : Json) : Json :=
  .obj [("rename", .arr [.arr [.str "pet", replacement]])]

theorem normalize_accepted_iff_pet :
    ∃ rules, readNaming (petRenaming (.str "\\g<0>s")) = .ok rules ∧
      (∀ rule ∈ (petRenaming (.str "\\g<0>s")).renameRules, rule.IsRename) ∧
      ∃ name, rules.normalize "pet" = .ok name := by
  obtain ⟨rules, hrules⟩ := exists_eq_ok_of_isOk
    (by rfl : (readNaming (petRenaming (.str "\\g<0>s"))).isOk = true)
  have hrule : ∀ rule ∈ (petRenaming (.str "\\g<0>s")).renameRules, rule.IsRename :=
    List.forall_mem_singleton.mpr ⟨"pet", _, _, rfl, rfl, _, _, rfl, rfl⟩
  exact ⟨rules, hrules, hrule, (normalize_accepted_iff hrules "pet").mpr hrule⟩

/-- A replacement that refers to a group which its pattern does not have is accepted, and no name is
normalized. -/
theorem not_normalized_pet :
    ∃ rules, readNaming (petRenaming (.str "\\2")) = .ok rules ∧
      rules.normalize "pet" = .error (.replacement "\\2" (.invalidGroup 2) 1) :=
  ⟨_, rfl, rfl⟩

end Sample

end ElixirClient
