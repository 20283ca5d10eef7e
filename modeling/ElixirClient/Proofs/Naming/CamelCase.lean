import Mathlib.Data.List.Basic
import ElixirClient.Naming.Rules
import ElixirClient.Proofs.Text.Split
import ElixirClient.Proofs.Text.Upper

/-!
# Camel case

A segment is in camel case if no separator is left in it and upper case has nothing to do at its
head (`IsCamel`). Joining words makes such segments (`isCamel_camelizeSegment`) and leaves them as
they are (`camelizeRaw_joinWith`), so it changes nothing the second time: `camelizeRaw_camelizeRaw`.
A text that a segment in camel case begins with is in camel case itself (`IsCamel.of_front`), and
that is why a namespace is.
-/

namespace ElixirClient.Naming

open NamingRules (camelizeRaw)

/-- No separator is left, and the first character is in upper case as far as it can be. -/
structure IsCamel (segment : List Char) : Prop where
  noSeparator : ∀ c ∈ segment, c ∉ Text.separators
  upright : ∀ c ∈ segment.head?, Text.IsUpright c

/-! ## Single segments -/

namespace IsCamel

variable {segment : List Char}

theorem not_mem (h : IsCamel segment) {c : Char} (hc : c ∈ Text.separators) : c ∉ segment :=
  fun hmem => h.noSeparator c hmem hc

theorem of_front {front : List Char} (h : IsCamel segment) (hfront : front <+: segment) :
    IsCamel front := by
  obtain ⟨behind, rfl⟩ := hfront
  refine ⟨fun c hc => h.noSeparator c (List.mem_append_left behind hc), fun c hc => ?_⟩
  refine h.upright c ?_
  rw [List.head?_append, Option.mem_def.mp hc]
  rfl

/-- There are no words to join, and the first character is in upper case already. -/
theorem camelizeSegment_eq (h : IsCamel segment) : camelizeSegment segment = segment := by
  have hone : Text.splitAt '_' segment = [segment] :=
    Text.splitAt_of_not_mem (h.not_mem (by decide))
  rw [camelizeSegment, hone, List.flatMap_singleton]
  cases segment with
  | nil => rfl
  | cons c rest =>
    have hupright : Text.upperChar c = [c] := h.upright c rfl
    rw [capitalize, hupright, List.singleton_append]

end IsCamel

/-- Upper case of a character may be several, of which the first has nothing more to raise. -/
theorem head?_capitalize {word : List Char} {c : Char} (h : (capitalize word).head? = some c) :
    Text.IsUpright c := by
  cases word with
  | nil => cases h
  | cons first rest =>
    obtain ⟨d, more, hform, hupright⟩ := Text.upperChar_eq_cons first
    rw [capitalize, hform] at h
    cases h
    exact hupright

/-- No upper case of a character is a separator unless it was one. -/
theorem eq_or_mem_of_mem_capitalize {word : List Char} {c : Char} (hc : c ∈ Text.separators)
    (h : c ∈ capitalize word) : c ∈ word := by
  cases word with
  | nil => exact h
  | cons first rest =>
    rcases List.mem_append.mp h with h | h
    · rw [Text.eq_of_mem_upperChar hc h]
      exact List.mem_cons_self
    · exact List.mem_cons_of_mem first h

theorem isCamel_camelizeSegment {segment : List Char} (hdash : '-' ∉ segment)
    (hdot : '.' ∉ segment) : IsCamel (camelizeSegment segment) where
  noSeparator c hc hsep := by
    obtain ⟨word, hword, hc⟩ := List.mem_flatMap.mp hc
    have hsplit := Text.mem_of_mem_splitAt hword (eq_or_mem_of_mem_capitalize hsep hc)
    -- dots and dashes were not there, and underscores went when the segment was split
    simp only [Text.separators, List.mem_cons, List.not_mem_nil, or_false] at hsep
    rcases hsep with rfl | rfl | rfl
    · exact hdot hsplit.1
    · exact hdash hsplit.1
    · exact hsplit.2 rfl
  upright c hc := by
    rw [Option.mem_def, camelizeSegment, List.head?_flatMap] at hc
    obtain ⟨word, _, hword⟩ := List.exists_of_findSome?_eq_some hc
    exact head?_capitalize hword

/-! ## Whole names -/

theorem replaceChar_of_not_mem {old new : Char} {cs : List Char} (h : old ∉ cs) :
    replaceChar old new cs = cs := by
  refine (List.map_congr_left fun c hc => ?_).trans (List.map_id cs)
  have hne : c ≠ old := fun heq => h (heq ▸ hc)
  rw [if_neg hne]
  rfl

theorem not_mem_replaceChar {old new : Char} (hne : new ≠ old) (cs : List Char) :
    old ∉ replaceChar old new cs := by
  intro h
  obtain ⟨c, _, hc⟩ := List.mem_map.mp h
  split at hc
  · exact hne hc
  · next hold => exact hold hc

/-- The segments of a raw name, each in camel case. -/
theorem camelizeRaw_eq (raw : List Char) :
    ∃ segments ≠ [], (∀ segment ∈ segments, IsCamel segment) ∧
      camelizeRaw raw = Text.joinWith '.' segments := by
  refine ⟨(Text.splitAt '.' (replaceChar '-' '_' raw)).map camelizeSegment, ?_, ?_, rfl⟩
  · exact fun h => Text.splitAt_ne_nil _ _ (List.map_eq_nil_iff.mp h)
  · rw [List.forall_mem_map]
    intro segment hsegment
    refine isCamel_camelizeSegment (fun hdash => ?_) fun hdot => ?_
    · exact not_mem_replaceChar (by decide) raw (Text.mem_of_mem_splitAt hsegment hdash).1
    · exact (Text.mem_of_mem_splitAt hsegment hdot).2 rfl

/-- Segments in camel case come back as they are: there is nothing to replace, and nothing to split
but the dots. -/
theorem camelizeRaw_joinWith {segments : List (List Char)} (hne : segments ≠ [])
    (h : ∀ segment ∈ segments, IsCamel segment) :
    camelizeRaw (Text.joinWith '.' segments) = Text.joinWith '.' segments := by
  have hdash : '-' ∉ Text.joinWith '.' segments := by
    intro hmem
    rcases Text.mem_joinWith hmem with heq | ⟨segment, hsegment, hmem⟩
    · exact absurd heq (by decide)
    · exact (h segment hsegment).not_mem (by decide) hmem
  have hsplit : Text.splitAt '.' (Text.joinWith '.' segments) = segments :=
    Text.splitAt_joinWith hne fun segment hsegment => (h segment hsegment).not_mem (by decide)
  have hmap : segments.map camelizeSegment = segments :=
    (List.map_congr_left fun segment hsegment => (h segment hsegment).camelizeSegment_eq).trans
      (List.map_id segments)
  rw [camelizeRaw, replaceChar_of_not_mem hdash, camelizeChars, hsplit, hmap]

/-- Camel case is kept. -/
theorem camelizeRaw_camelizeRaw (raw : List Char) :
    camelizeRaw (camelizeRaw raw) = camelizeRaw raw := by
  obtain ⟨segments, hne, hcamel, heq⟩ := camelizeRaw_eq raw
  rw [heq, camelizeRaw_joinWith hne hcamel]

theorem IsCamel.camelizeRaw_eq {segment : List Char} (h : IsCamel segment) :
    camelizeRaw segment = segment :=
  camelizeRaw_joinWith (List.cons_ne_nil segment []) (List.forall_mem_singleton.mpr h)

/-- What has no dots is one segment. -/
theorem isCamel_camelizeRaw {raw : List Char} (hdot : '.' ∉ raw) : IsCamel (camelizeRaw raw) := by
  have hdot' : '.' ∉ replaceChar '-' '_' raw := by
    intro h
    obtain ⟨c, hc, heq⟩ := List.mem_map.mp h
    split at heq
    · exact absurd heq (by decide)
    · exact hdot (heq ▸ hc)
  have hone : camelizeRaw raw = camelizeSegment (replaceChar '-' '_' raw) := by
    rw [camelizeRaw, camelizeChars, Text.splitAt_of_not_mem hdot']
    rfl
  rw [hone]
  exact isCamel_camelizeSegment (not_mem_replaceChar (by decide) raw) hdot'

end ElixirClient.Naming
