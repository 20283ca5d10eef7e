import ElixirClient.Config
import ElixirClient.Proofs.Naming.Idempotence

/-!
# Separators of raw names

Camel case takes every dash and every underscore out of a raw name, but what follows a namespace and
a dot is not put into camel case, so the separators that stand there stay (`filter_spell`).
Qualifying moves nothing but dots (`filter_qualify`). So without rename rules a normalized name is
free of separators exactly if it keeps no spelling that has some: `separators_normalize_iff`.
-/

namespace ElixirClient

namespace Naming

/-- A character that a raw name is written with between two words. -/
def isWordSeparator (c : Char) : Bool := c = '-' || c = '_'

theorem isWordSeparator_iff {c : Char} : isWordSeparator c = true ↔ c = '-' ∨ c = '_' := by
  simp [isWordSeparator]

theorem filter_isWordSeparator_eq_nil_iff {cs : List Char} :
    cs.filter isWordSeparator = [] ↔ '-' ∉ cs ∧ '_' ∉ cs := by
  simp only [List.filter_eq_nil_iff, isWordSeparator_iff]
  constructor
  · intro h
    exact ⟨fun hmem => h '-' hmem (.inl rfl), fun hmem => h '_' hmem (.inr rfl)⟩
  · rintro ⟨hdash, hunderscore⟩ c hc (rfl | rfl)
    · exact hdash hc
    · exact hunderscore hc

end Naming

namespace NamingRules

open Naming (filter_isWordSeparator_eq_nil_iff filter_strip isWordSeparator)

variable {rules : NamingRules}

/-! ## Qualifying -/

section Qualify

variable {p : Char → Bool} (hdot : p '.' = false)

include hdot

theorem filter_setApart {ns name : List Char} (h : ns <+: name) :
    (setApart ns name).filter p = name.filter p := by
  obtain ⟨remainder, rfl⟩ := h
  have hbare : (Naming.strip '.' remainder).filter p = remainder.filter p :=
    filter_strip hdot remainder
  unfold setApart
  rw [List.drop_left]
  simp only
  split
  · rfl
  · split
    · -- only dots came behind the namespace
      next hnone =>
      rw [hnone] at hbare
      rw [List.filter_append, ← hbare, List.filter_nil, List.append_nil]
    · rw [List.filter_append, List.filter_cons_of_neg (by simp [hdot]), hbare, List.filter_append]

/-- Qualifying keeps all characters but dots, in their order. -/
theorem filter_qualify (name : List Char) (nss : List (List Char)) :
    (qualify name nss).filter p = name.filter p := by
  rw [qualify_eq]
  cases h : nss.find? (·.isPrefixOf name) with
  | none => rfl
  | some ns => exact filter_setApart hdot (prefix_of_find? h)

end Qualify

/-! ## Spelling -/

theorem filter_camelizeRaw (raw : List Char) :
    (camelizeRaw raw).filter isWordSeparator = [] := by
  obtain ⟨segments, _, hcamel, heq⟩ := Naming.camelizeRaw_eq raw
  have hfree {c : Char} (hc : c ∈ Text.separators) (hdot : c ≠ '.') : c ∉ camelizeRaw raw := by
    rw [heq]
    intro hmem
    obtain ⟨segment, hsegment, hmem⟩ := (Text.mem_joinWith hmem).resolve_left hdot
    exact (hcamel segment hsegment).not_mem hc hmem
  rw [filter_isWordSeparator_eq_nil_iff]
  exact ⟨hfree (by decide) (by decide), hfree (by decide) (by decide)⟩

/-- The part of a raw name that is not put into camel case: what follows a namespace and a dot. -/
def keptSpelling (rules : NamingRules) (raw : List Char) : List Char :=
  match splitHead raw with
  | (head, some rest) =>
    if String.ofList (camelizeRaw head) ∈ rules.namespaces then rest else []
  | (_, none) => []

/-- The separators of a name in camel case are those of the part that is not. -/
theorem filter_spell (raw : List Char) : (rules.spell raw).filter isWordSeparator =
    (rules.keptSpelling raw).filter isWordSeparator := by
  rcases splitHead_cases raw with ⟨_, hsplit⟩ | ⟨head, rest, hdot, hraw, hsplit⟩
  · rw [spell, keptSpelling, hsplit]
    exact filter_camelizeRaw raw
  · rw [keptSpelling, hsplit]
    simp only
    split
    · next hmem =>
      have hhead := filter_camelizeRaw head
      rw [hraw, spell_append hdot hmem, List.filter_append, hhead]
      rfl
    · next hmem =>
      have hspell : rules.spell raw = camelizeRaw raw := by
        rw [spell, hsplit]
        exact if_neg fun h => hmem (List.contains_iff_mem.mp h)
      rw [hspell, List.filter_nil]
      exact filter_camelizeRaw raw

/-- The raw name has a namespace and a dot in front of words that are set apart by separators. -/
def KeepsSeparator (rules : NamingRules) (raw : String) : Prop :=
  ∃ head rest, raw.toList = head ++ '.' :: rest ∧ '.' ∉ head ∧
    String.ofList (camelizeRaw head) ∈ rules.namespaces ∧ ('-' ∈ rest ∨ '_' ∈ rest)

theorem filter_keptSpelling_eq_nil_iff (raw : String) :
    (rules.keptSpelling raw.toList).filter isWordSeparator = [] ↔ ¬ rules.KeepsSeparator raw := by
  have hnone {cs : List Char} : cs.filter isWordSeparator = [] ↔ ¬ ('-' ∈ cs ∨ '_' ∈ cs) := by
    rw [filter_isWordSeparator_eq_nil_iff, not_or]
  rw [hnone, not_iff_not]
  constructor
  · intro h
    rcases splitHead_cases raw.toList with ⟨_, hsplit⟩ | ⟨head, rest, hdot, hraw, hsplit⟩
    · simp [keptSpelling, hsplit] at h
    · rw [keptSpelling, hsplit] at h
      simp only at h
      split at h
      · next hmem => exact ⟨head, rest, hraw, hdot, hmem, h⟩
      · simp at h
  · rintro ⟨head, rest, hraw, hdot, hmem, h⟩
    rw [keptSpelling, hraw, splitHead_append hdot]
    simp only
    rwa [if_pos hmem]

/-! ## Normalized names -/

/-- The separators of a normalized name are those of the part that keeps its spelling. -/
theorem filter_normalize (hrename : rules.rename = []) (raw : String) :
    ∃ name, rules.normalize raw = .ok name ∧ name.toList.filter isWordSeparator =
      (rules.keptSpelling raw.toList).filter isWordSeparator := by
  refine ⟨_, normalize_eq_ok.mpr ⟨String.ofList (rules.spell raw.toList), ?_, rfl⟩, ?_⟩
  · rw [applyRenames, hrename]
    rfl
  · rw [String.toList_ofList, String.toList_ofList, filter_qualify (by decide), filter_spell]

/-- **Separators that are left.** Without rename rules every raw name has a normalized name. It has
neither a dash nor an underscore, and its module has those of the base module only, exactly if the
raw name has no separators behind a namespace and a dot. -/
theorem separators_normalize_iff (hrename : rules.rename = []) (raw : String) :
    ∃ name, rules.normalize raw = .ok name ∧
      (('-' ∉ name.toList ∧ '_' ∉ name.toList) ↔ ¬ rules.KeepsSeparator raw) ∧
      ∀ config : Config, ((config.qualified (.str name)).toList.filter isWordSeparator =
        config.baseModule.plain.toList.filter isWordSeparator ↔ ¬ rules.KeepsSeparator raw) := by
  obtain ⟨name, hname, hkept⟩ := filter_normalize hrename raw
  have hfree : name.toList.filter isWordSeparator = [] ↔ ¬ rules.KeepsSeparator raw := by
    rw [hkept, filter_keptSpelling_eq_nil_iff]
  refine ⟨name, hname, ?_, fun config => ?_⟩
  · rw [← hfree, filter_isWordSeparator_eq_nil_iff]
  · -- the dot between the base module and the name is no separator of words
    have hmodule : (config.qualified (.str name)).toList.filter isWordSeparator =
        config.baseModule.plain.toList.filter isWordSeparator ++
          name.toList.filter isWordSeparator := by
      simp only [Config.qualified, String.toList_append, List.filter_append]
      rw [List.append_assoc]
      rfl
    rw [hmodule, List.append_right_eq_self, hfree]

section Sample

def codespaceRules : NamingRules where
  namespaces := ["Codespace"]

theorem separators_normalize_codespace_export :
    codespaceRules.rename = [] ∧ ¬ codespaceRules.KeepsSeparator "code-space_ex-port.my_list" ∧
      ∃ name, codespaceRules.normalize "code-space_ex-port.my_list" = .ok name ∧
        (('-' ∉ name.toList ∧ '_' ∉ name.toList) ↔
          ¬ codespaceRules.KeepsSeparator "code-space_ex-port.my_list") ∧
        ∀ config : Config, ((config.qualified (.str name)).toList.filter isWordSeparator =
          config.baseModule.plain.toList.filter isWordSeparator ↔
            ¬ codespaceRules.KeepsSeparator "code-space_ex-port.my_list") := by
  refine ⟨rfl, ?_, separators_normalize_iff rfl "code-space_ex-port.my_list"⟩
  rw [← filter_keptSpelling_eq_nil_iff]
  decide +kernel

/-- Behind the namespace the dash of the raw name is still there. -/
theorem dash_kept_behind_codespace :
    codespaceRules.rename = [] ∧
      (∀ ns ∈ codespaceRules.namespaces, '-' ∉ ns.toList ∧ '_' ∉ ns.toList) ∧
      codespaceRules.normalize "codespace.export-thing" = .ok "Codespace.export-thing" ∧
      '-' ∈ "Codespace.export-thing".toList := by
  refine ⟨rfl, by decide, by rfl, by decide⟩

end Sample

end NamingRules

end ElixirClient
