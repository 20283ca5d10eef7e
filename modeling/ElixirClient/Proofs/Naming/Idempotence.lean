import Mathlib.Data.List.Basic
import ElixirClient.Proofs.Naming.CamelCase
import ElixirClient.Proofs.Naming.Namespaces
import ElixirClient.Proofs.Naming.Table

/-!
# Normalizing twice

A normalized name may be given as a raw name again: its head is a namespace then, and what comes
behind it keeps its spelling, or it is in camel case throughout. What renaming and camel case leave
alone is therefore left alone altogether (`Settled`), and without rename rules every normalized
name is settled: `normalize_normalize`.
-/

namespace ElixirClient.NamingRules

open Naming (IsCamel camelizeRaw_camelizeRaw isCamel_camelizeRaw)

variable {rules : NamingRules}

/-- What there is to do besides qualifying changes nothing in the name: neither the rename rules do,
nor camel case in its head, nor camel case in the whole of a name that no namespace begins. -/
structure Settled (rules : NamingRules) (name : String) : Prop where
  renames : rules.applyRenames name = .ok name
  head : camelizeRaw (splitHead name.toList).1 = (splitHead name.toList).1
  whole : (∀ ns ∈ rules.namespaces, ¬ns.toList <+: name.toList) →
    camelizeRaw name.toList = name.toList

theorem normalize_eq_ok {raw name : String} : rules.normalize raw = .ok name ↔
    ∃ renamed, rules.applyRenames (String.ofList (rules.spell raw.toList)) = .ok renamed ∧
      name = String.ofList (qualify renamed.toList (rules.namespaces.map String.toList)) := by
  constructor
  · intro h
    obtain ⟨renamed, hrenamed, h⟩ := bind_eq_ok.mp h
    exact ⟨renamed, hrenamed, (Except.ok.inj h).symm⟩
  · rintro ⟨renamed, hrenamed, rfl⟩
    exact bind_eq_ok.mpr ⟨renamed, hrenamed, rfl⟩

/-! ## Spelling -/

/-- A head that is a namespace keeps what comes behind it as it is. -/
theorem spell_append {head : List Char} (hdot : '.' ∉ head)
    (hmem : String.ofList (camelizeRaw head) ∈ rules.namespaces) (rest : List Char) :
    rules.spell (head ++ '.' :: rest) = camelizeRaw head ++ '.' :: rest := by
  rw [spell, splitHead_append hdot]
  exact if_pos (List.contains_iff_mem.mpr hmem)

theorem spell_cases (rules : NamingRules) (raw : List Char) :
    rules.spell raw = camelizeRaw raw ∨
      ∃ head rest, '.' ∉ head ∧ String.ofList (camelizeRaw head) ∈ rules.namespaces ∧
        rules.spell raw = camelizeRaw head ++ '.' :: rest := by
  rcases splitHead_cases raw with ⟨_, hsplit⟩ | ⟨head, rest, hdot, hraw, hsplit⟩
  · left
    rw [spell, hsplit]
  · by_cases hmem : String.ofList (camelizeRaw head) ∈ rules.namespaces
    · exact .inr ⟨head, rest, hdot, hmem, by rw [hraw, spell_append hdot hmem]⟩
    · left
      rw [spell, hsplit]
      exact if_neg fun h => hmem (List.contains_iff_mem.mp h)

theorem isCamel_head_camelizeRaw (raw : List Char) :
    IsCamel (splitHead (camelizeRaw raw)).1 := by
  obtain ⟨segments, hne, hcamel, heq⟩ := Naming.camelizeRaw_eq raw
  rw [heq]
  cases segments with
  | nil => exact absurd rfl hne
  | cons first others =>
    have hfirst : IsCamel first := hcamel first List.mem_cons_self
    have hdot : '.' ∉ first := hfirst.not_mem (by decide)
    cases others with
    | nil => rwa [Text.joinWith, splitHead_of_not_mem hdot]
    | cons second others =>
      show IsCamel (splitHead (first ++ '.' :: Text.joinWith '.' (second :: others))).1
      rwa [splitHead_append hdot]

theorem isCamel_head_spell (raw : List Char) : IsCamel (splitHead (rules.spell raw)).1 := by
  rcases spell_cases rules raw with hwhole | ⟨head, rest, hdot, _, hspell⟩
  · rw [hwhole]
    exact isCamel_head_camelizeRaw raw
  · have hcamel : IsCamel (camelizeRaw head) := isCamel_camelizeRaw hdot
    rwa [hspell, splitHead_append (hcamel.not_mem (by decide))]

theorem spell_eq_self {name : List Char}
    (hhead : camelizeRaw (splitHead name).1 = (splitHead name).1)
    (hname : camelizeRaw name = name ∨ String.ofList (splitHead name).1 ∈ rules.namespaces) :
    rules.spell name = name := by
  rcases splitHead_cases name with ⟨_, hsplit⟩ | ⟨head, rest, hdot, heq, hsplit⟩
  · rw [hsplit] at hhead
    rw [spell, hsplit]
    exact hhead
  · rw [hsplit] at hhead hname
    by_cases hmem : String.ofList (camelizeRaw head) ∈ rules.namespaces
    · rw [heq, spell_append hdot hmem, hhead]
    · rw [spell, hsplit]
      refine (if_neg fun h => hmem (List.contains_iff_mem.mp h)).trans ?_
      exact hname.resolve_right (hhead ▸ hmem)

/-! ## The second time -/

section Qualified

variable (hdots : ∀ ns ∈ rules.namespaces, '.' ∉ ns.toList)

include hdots

theorem dots_notMem : ∀ ns ∈ rules.namespaces.map String.toList, '.' ∉ ns :=
  List.forall_mem_map.mpr hdots

/-- A normalized name in which nothing is left to do is its own normalized name. -/
theorem normalize_of_settled {raw name : String} (hname : rules.normalize raw = .ok name)
    (hsettled : rules.Settled name) : rules.normalize name = .ok name := by
  obtain ⟨renamed, _, rfl⟩ := normalize_eq_ok.mp hname
  obtain ⟨hrenames, hhead, hwhole⟩ := hsettled
  rw [String.toList_ofList] at hhead hwhole
  -- its head is a namespace, unless it begins with none
  have hspell : rules.spell (qualify renamed.toList (rules.namespaces.map String.toList)) =
      qualify renamed.toList (rules.namespaces.map String.toList) := by
    refine spell_eq_self hhead ?_
    rcases qualify_cases (dots_notMem hdots) renamed.toList with ⟨hnone, hself⟩ | ⟨ns, hns, _, heq⟩
    · left
      refine hwhole fun ns hns => ?_
      rw [hself]
      exact hnone ns.toList (List.mem_map_of_mem hns)
    · right
      obtain ⟨ns, hns, rfl⟩ := List.mem_map.mp hns
      rwa [heq, String.ofList_toList]
  refine normalize_eq_ok.mpr
    ⟨String.ofList (qualify renamed.toList (rules.namespaces.map String.toList)), ?_, ?_⟩
  · rw [String.toList_ofList, hspell]
    exact hrenames
  · rw [String.toList_ofList, qualify_qualify (dots_notMem hdots)]

/-- Without rename rules there is nothing left to do in any normalized name. -/
theorem settled_of_rename_eq_nil (hrename : rules.rename = []) {raw name : String}
    (hname : rules.normalize raw = .ok name) : rules.Settled name := by
  have hnorename (text : String) : rules.applyRenames text = .ok text := by
    rw [applyRenames, hrename]
    rfl
  obtain ⟨renamed, hrenamed, rfl⟩ := normalize_eq_ok.mp hname
  rw [hnorename] at hrenamed
  cases hrenamed
  rw [String.toList_ofList]
  refine ⟨hnorename _, ?_, ?_⟩
  · -- the head is that of the spelled name, or a namespace in front of it
    have hcamel : IsCamel (splitHead (qualify (rules.spell raw.toList)
        (rules.namespaces.map String.toList))).1 := by
      rcases qualify_cases (dots_notMem hdots) (rules.spell raw.toList) with
        ⟨_, hself⟩ | ⟨ns, hns, hprefix, heq⟩
      · rw [hself]
        exact isCamel_head_spell raw.toList
      · rw [heq]
        exact (isCamel_head_spell raw.toList).of_front
          ((prefix_head_iff (dots_notMem hdots ns hns) _).mpr hprefix)
    rw [String.toList_ofList]
    exact hcamel.camelizeRaw_eq
  · rw [String.toList_ofList]
    intro hnone
    replace hnone : ∀ ns ∈ rules.namespaces.map String.toList,
        ¬ns <+: qualify (rules.spell raw.toList) (rules.namespaces.map String.toList) :=
      List.forall_mem_map.mpr hnone
    rcases qualify_cases (dots_notMem hdots) (rules.spell raw.toList) with
      ⟨hfree, hself⟩ | ⟨ns, hns, _, heq⟩
    · rw [hself]
      rcases spell_cases rules raw.toList with hcamel | ⟨head, rest, _, hmem, hspell⟩
      · rw [hcamel, camelizeRaw_camelizeRaw]
      · -- then the name begins with its head, which is a namespace
        refine absurd ?_ (hfree _ (List.mem_map_of_mem hmem))
        rw [String.toList_ofList, hspell]
        exact List.prefix_append _ _
    · have hhead : ns <+: (splitHead (qualify (rules.spell raw.toList)
          (rules.namespaces.map String.toList))).1 := heq ▸ List.prefix_rfl
      exact absurd ((prefix_head_iff (dots_notMem hdots ns hns) _).mp hhead) (hnone ns hns)

/-- **Normalizing twice.** Where no namespace has a dot, a normalized name in which renaming and
camel case have nothing left to change is its own normalized name. Without rename rules every text
has a normalized name, and every normalized name is such a one. -/
theorem normalize_normalize :
    (∀ raw name, rules.normalize raw = .ok name → rules.Settled name →
      rules.normalize name = .ok name) ∧
    (rules.rename = [] → ∀ raw, ∃ name, rules.normalize raw = .ok name ∧ rules.Settled name ∧
      rules.normalize name = .ok name) := by
  refine ⟨fun raw name => normalize_of_settled hdots, fun hrename raw => ?_⟩
  obtain ⟨name, hname⟩ := NameTable.exists_normalize hrename raw
  have hsettled : rules.Settled name := settled_of_rename_eq_nil hdots hrename hname
  exact ⟨name, hname, hsettled, normalize_of_settled hdots hname hsettled⟩

end Qualified

section Sample

/-- A name that begins with `Foo` begins with `Bar` instead. One of the namespaces begins with the
other. -/
def barRules : NamingRules where
  rename := [(⟨"^Foo", .sequence (.anchor .textStart) (.sequence (.one ⟨[.range 70 70], false, .exact⟩)
    (.sequence (.one ⟨[.range 111 111], false, .exact⟩) (.one ⟨[.range 111 111], false, .exact⟩))),
    0, []⟩, .str "Bar")]
  namespaces := ["Bar", "BarRule"]

theorem normalize_normalize_barRule :
    (∀ ns ∈ barRules.namespaces, '.' ∉ ns.toList) ∧
      barRules.normalize "foo-rule" = .ok "Bar.Rule" ∧ barRules.Settled "Bar.Rule" ∧
      barRules.normalize "Bar.Rule" = .ok "Bar.Rule" ∧
      ∃ name, { barRules with rename := [] }.normalize "bar-rule_ß.x" = .ok name ∧
        { barRules with rename := [] }.Settled name ∧
        { barRules with rename := [] }.normalize name = .ok name := by
  have hdots : ∀ ns ∈ barRules.namespaces, '.' ∉ ns.toList := by decide
  have hname : barRules.normalize "foo-rule" = .ok "Bar.Rule" := by rfl
  have hsettled : barRules.Settled "Bar.Rule" := by
    refine ⟨by rfl, by rfl, fun hnone => ?_⟩
    exact absurd ⟨".Rule".toList, by rfl⟩ (hnone "Bar" List.mem_cons_self)
  exact ⟨hdots, hname, hsettled, (normalize_normalize hdots).1 "foo-rule" "Bar.Rule" hname hsettled,
    (@normalize_normalize { barRules with rename := [] } hdots).2 rfl "bar-rule_ß.x"⟩

end Sample

end ElixirClient.NamingRules
