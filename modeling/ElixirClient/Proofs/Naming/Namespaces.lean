import Mathlib.Data.List.DropRight
import Mathlib.Data.List.TakeWhile
import ElixirClient.Naming.Rules

/-!
# Setting namespaces apart

A namespace without dots that a name begins with lies in the head of the name (`prefix_head_iff`),
and it is the whole head once it is set apart (`head_setApart`). So the namespaces that come before
it do not get hold of the name afterwards, even where one begins with another (`find?_setApart`),
and qualifying a name twice is qualifying it once: `qualify_qualify`.
-/

namespace ElixirClient

namespace Naming

variable {edge : Char}

theorem strip_cons_self (cs : List Char) : strip edge (edge :: cs) = strip edge cs := by
  have hdrop : (edge :: cs).dropWhile (· = edge) = cs.dropWhile (· = edge) :=
    List.dropWhile_cons_of_pos (decide_eq_true rfl)
  rw [strip, hdrop, strip]

/-- What is stripped at the back leaves the front as it is. -/
theorem dropWhile_strip (cs : List Char) :
    (strip edge cs).dropWhile (· = edge) = strip edge cs := by
  have hpart : strip edge cs <+: cs.dropWhile (· = edge) := List.rdropWhile_prefix (· = edge) _
  rw [List.dropWhile_eq_self_iff]
  intro hlen
  have hfirst := List.dropWhile_eq_self_iff.mp (List.dropWhile_idempotent (· = edge) cs)
  rw [hpart.getElem hlen]
  exact hfirst (hlen.trans_le hpart.length_le)

/-- Nothing is left to strip. -/
theorem strip_strip (cs : List Char) : strip edge (strip edge cs) = strip edge cs := by
  rw [strip, dropWhile_strip]
  exact List.rdropWhile_idempotent (· = edge) (cs.dropWhile (· = edge))

theorem dropWhile_eq_self_iff_head? {cs : List Char} :
    cs.dropWhile (· = edge) = cs ↔ cs.head? ≠ some edge := by
  rw [List.dropWhile_eq_self_iff]
  cases cs <;> simp

theorem head?_strip (cs : List Char) : (strip edge cs).head? ≠ some edge :=
  dropWhile_eq_self_iff_head?.mp (dropWhile_strip cs)

theorem getLast?_strip (cs : List Char) : (strip edge cs).getLast? ≠ some edge := by
  rw [← List.head?_reverse, ← dropWhile_eq_self_iff_head?, strip, List.reverse_reverse]
  exact List.dropWhile_idempotent (· = edge) _

/-- A text without the character at its ends is stripped already. -/
theorem strip_eq_self {cs : List Char} (hfirst : cs.head? ≠ some edge)
    (hlast : cs.getLast? ≠ some edge) : strip edge cs = cs := by
  rw [← List.head?_reverse] at hlast
  rw [strip, dropWhile_eq_self_iff_head?.mpr hfirst, dropWhile_eq_self_iff_head?.mpr hlast,
    List.reverse_reverse]

theorem infix_of_strip (cs : List Char) : strip edge cs <:+: cs :=
  (List.rdropWhile_prefix (· = edge) _).isInfix.trans (List.dropWhile_suffix (· = edge)).isInfix

/-- Stripping a text at its ends takes away no character but the one that is stripped. -/
theorem filter_strip {p : Char → Bool} (hedge : p edge = false) (cs : List Char) :
    (strip edge cs).filter p = cs.filter p := by
  have hfront (cs : List Char) : (cs.dropWhile (· = edge)).filter p = cs.filter p := by
    induction cs with
    | nil => rfl
    | cons c rest ih =>
      by_cases hc : c = edge
      · rw [List.dropWhile_cons_of_pos (by simpa using hc), ih, hc]
        simp [hedge]
      · rw [List.dropWhile_cons_of_neg (by simpa using hc)]
  -- the back is the front of the reversed text
  rw [strip, List.filter_reverse, hfront, List.filter_reverse, hfront, List.reverse_reverse]

end Naming

namespace NamingRules

/-! ## The head of a name -/

theorem splitHead_append {head : List Char} (h : '.' ∉ head) (rest : List Char) :
    splitHead (head ++ '.' :: rest) = (head, some rest) := by
  -- what comes before the dot is read as it is
  have hhead : (head ++ '.' :: rest).takeWhile (· ≠ '.') = head := by
    have hpos : ∀ c ∈ head, decide (c ≠ '.') = true := by
      intro c hc
      exact decide_eq_true fun heq => h (heq ▸ hc)
    rw [List.takeWhile_append_of_pos hpos]
    simp
  rw [splitHead, hhead, List.drop_left]

/-- A name without dots is all head. -/
theorem splitHead_of_not_mem {name : List Char} (h : '.' ∉ name) : splitHead name = (name, none) := by
  have hhead : name.takeWhile (· ≠ '.') = name :=
    List.takeWhile_eq_self_iff.mpr fun c hc => decide_eq_true fun heq => h (heq ▸ hc)
  rw [splitHead, hhead, List.drop_length]

/-- A name is its head, with or without more behind a dot. -/
theorem splitHead_cases (name : List Char) :
    ('.' ∉ name ∧ splitHead name = (name, none)) ∨
      ∃ head rest, '.' ∉ head ∧ name = head ++ '.' :: rest ∧ splitHead name = (head, some rest) := by
  by_cases h : '.' ∈ name
  · obtain ⟨head, rest, rfl, hhead⟩ := List.eq_append_cons_of_mem h
    exact .inr ⟨head, rest, hhead, rfl, splitHead_append hhead rest⟩
  · exact .inl ⟨h, splitHead_of_not_mem h⟩

/-- A namespace without dots lies in the head of every name that begins with it. -/
theorem prefix_head_iff {ns : List Char} (hdot : '.' ∉ ns) (name : List Char) :
    ns <+: (splitHead name).1 ↔ ns <+: name := by
  rcases splitHead_cases name with ⟨_, hsplit⟩ | ⟨head, rest, _, rfl, hsplit⟩
  · rw [hsplit]
  · rw [hsplit]
    refine ⟨fun h => h.trans (List.prefix_append head _), fun h => ?_⟩
    by_cases hlen : ns.length ≤ head.length
    · exact List.prefix_of_prefix_length_le h (List.prefix_append head _) hlen
    · -- a namespace that is longer than the head would reach over the dot
      have hover : head ++ ['.'] <+: ns := by
        refine List.prefix_of_prefix_length_le ?_ h (by simp; omega)
        exact ⟨rest, by simp⟩
      exact absurd (hover.subset (by simp)) hdot

/-! ## One namespace -/

/-- What becomes of a name that begins with a namespace. -/
def setApart (ns name : List Char) : List Char :=
  let remainder := name.drop ns.length
  let bare := Naming.strip '.' remainder
  if remainder.head? = some '.' ∧ bare ≠ [] then name
  else if bare = [] then ns
  else ns ++ '.' :: bare

/-- Either the namespace alone is left, or it stands before a dot and more than dots. -/
theorem setApart_cases {ns name : List Char} (h : ns <+: name) :
    setApart ns name = ns ∨
      ∃ rest, Naming.strip '.' rest ≠ [] ∧ setApart ns name = ns ++ '.' :: rest := by
  obtain ⟨remainder, rfl⟩ := h
  unfold setApart
  rw [List.drop_left]
  simp only
  split
  · next hdot =>
    obtain ⟨rest, hrest⟩ := List.head?_eq_some_iff.mp hdot.1
    refine .inr ⟨rest, ?_, by rw [hrest]⟩
    rw [← Naming.strip_cons_self, ← hrest]
    exact hdot.2
  · split
    · exact .inl rfl
    · next hbare => exact .inr ⟨_, by rwa [Naming.strip_strip], rfl⟩

theorem setApart_self (ns : List Char) : setApart ns ns = ns := by
  simp [setApart, Naming.strip]

theorem setApart_append {rest : List Char} (h : Naming.strip '.' rest ≠ []) (ns : List Char) :
    setApart ns (ns ++ '.' :: rest) = ns ++ '.' :: rest := by
  unfold setApart
  rw [List.drop_left]
  simp only
  rw [if_pos ⟨rfl, by rwa [Naming.strip_cons_self]⟩]

theorem setApart_setApart {ns name : List Char} (h : ns <+: name) :
    setApart ns (setApart ns name) = setApart ns name := by
  rcases setApart_cases h with hself | ⟨rest, hrest, happend⟩
  · rw [hself, setApart_self]
  · rw [happend, setApart_append hrest]

/-- The namespace stays at the front. -/
theorem prefix_setApart {ns name : List Char} (h : ns <+: name) : ns <+: setApart ns name := by
  rcases setApart_cases h with hself | ⟨rest, _, happend⟩
  · exact ⟨[], by rw [List.append_nil, hself]⟩
  · rw [happend]
    exact List.prefix_append ns _

/-- And it becomes the whole head. -/
theorem head_setApart {ns name : List Char} (hdot : '.' ∉ ns) (h : ns <+: name) :
    (splitHead (setApart ns name)).1 = ns := by
  rcases setApart_cases h with hself | ⟨rest, _, happend⟩
  · rw [hself, splitHead_of_not_mem hdot]
  · rw [happend, splitHead_append hdot]

/-! ## The first of several namespaces -/

section Namespaces

variable {nss : List (List Char)}

/-- The first namespace that the name begins with decides, and there need not be one. -/
theorem qualify_eq (name : List Char) (nss : List (List Char)) :
    qualify name nss = ((nss.find? (·.isPrefixOf name)).map (setApart · name)).getD name := by
  induction nss with
  | nil => rfl
  | cons ns rest ih =>
    rw [qualify, List.find?_cons]
    split
    · next h =>
      rw [h]
      rfl
    · next h =>
      rw [Bool.not_eq_true] at h
      rw [h, ih]

theorem qualify_of_find? {name ns : List Char} (h : nss.find? (·.isPrefixOf name) = some ns) :
    qualify name nss = setApart ns name := by
  rw [qualify_eq, h]
  rfl

theorem prefix_of_find? {name ns : List Char} (h : nss.find? (·.isPrefixOf name) = some ns) :
    ns <+: name :=
  List.isPrefixOf_iff_prefix.mp (List.find?_some (p := fun ns : List Char => ns.isPrefixOf name) h)

/-- Without one the name stays as it is. -/
theorem qualify_of_not_prefix {name : List Char} (h : ∀ ns ∈ nss, ¬ns <+: name) :
    qualify name nss = name := by
  have hnone : nss.find? (·.isPrefixOf name) = none := by
    rw [List.find?_eq_none]
    intro ns hns hprefix
    exact h ns hns (List.isPrefixOf_iff_prefix.mp hprefix)
  rw [qualify_eq, hnone]
  rfl

variable (hdots : ∀ ns ∈ nss, '.' ∉ ns)

include hdots

/-- The first namespace stays the first. -/
theorem find?_setApart {name ns : List Char} (h : nss.find? (·.isPrefixOf name) = some ns) :
    nss.find? (·.isPrefixOf (setApart ns name)) = some ns := by
  have hprefix : ns <+: name := prefix_of_find? h
  obtain ⟨_, before, behind, hnss, hbefore⟩ := List.find?_eq_some_iff_append.mp h
  refine List.find?_eq_some_iff_append.mpr
    ⟨List.isPrefixOf_iff_prefix.mpr (prefix_setApart hprefix), before, behind, hnss, ?_⟩
  intro other hother
  have hns : '.' ∉ ns := hdots ns (hnss ▸ List.mem_append_right before List.mem_cons_self)
  have hfree : '.' ∉ other := hdots other (hnss ▸ List.mem_append_left _ hother)
  -- it would be in front of the first namespace, and so of the name before
  rw [Bool.not_eq_true', ← Bool.not_eq_true, List.isPrefixOf_iff_prefix,
    ← prefix_head_iff hfree, head_setApart hns hprefix]
  intro hlonger
  have hname : other.isPrefixOf name = true :=
    List.isPrefixOf_iff_prefix.mpr (hlonger.trans hprefix)
  have hnot := hbefore other hother
  rw [hname] at hnot
  cases hnot

/-- Qualifying twice is qualifying once, since the namespace that decided the first time decides
again. -/
theorem qualify_qualify (name : List Char) : qualify (qualify name nss) nss = qualify name nss := by
  cases h : nss.find? (·.isPrefixOf name) with
  | none =>
    have hself : qualify name nss = name := by
      rw [qualify_eq, h]
      rfl
    rw [hself, hself]
  | some ns =>
    rw [qualify_of_find? h, qualify_of_find? (find?_setApart hdots h),
      setApart_setApart (prefix_of_find? h)]

/-- No namespace is there to be set apart, or one that the name begins with is the head. -/
theorem qualify_cases (name : List Char) :
    ((∀ ns ∈ nss, ¬ns <+: name) ∧ qualify name nss = name) ∨
      ∃ ns ∈ nss, ns <+: name ∧ (splitHead (qualify name nss)).1 = ns := by
  cases h : nss.find? (·.isPrefixOf name) with
  | none =>
    have hnone : ∀ ns ∈ nss, ¬ns <+: name := fun ns hns hprefix =>
      List.find?_eq_none.mp h ns hns (List.isPrefixOf_iff_prefix.mpr hprefix)
    exact .inl ⟨hnone, qualify_of_not_prefix hnone⟩
  | some ns =>
    have hmem : ns ∈ nss := List.mem_of_find?_eq_some h
    refine .inr ⟨ns, hmem, prefix_of_find? h, ?_⟩
    rw [qualify_of_find? h, head_setApart (hdots ns hmem) (prefix_of_find? h)]

end Namespaces

end NamingRules

end ElixirClient
