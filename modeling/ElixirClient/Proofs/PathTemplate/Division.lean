import Mathlib.Data.List.Chain
import Mathlib.Data.List.Infix
import ElixirClient.Proofs.PathTemplate.Parts

/-!
# Dividing a path at its placeholders

What a placeholder is can be said without a scan: braces around a name, somewhere in the path. A
division of a path has these as parts of their own and between them texts that hold none
(`Divides`). There is one division of each path, and scanning finds it (`divides_iff`); so the
placeholders it comes to are all that there are (`mem_ofPath_iff`).

The same division is found by looking for given names only, wherever one of them stands in braces
(`divideAt`), as long as these are the names that the path holds (`divideAt_eq_ofPath`). The two
scans go over stray braces in different ways: the one begins a name at every opening brace, the other
takes no notice of them.
-/

namespace ElixirClient.PathPart

/-- What stands in the braces of a placeholder. -/
structure IsName (name : List Char) : Prop where
  ne_nil : name ≠ []
  opening : '\x7b' ∉ name
  closing : '\x7d' ∉ name

/-- The placeholder of the name stands somewhere in the text. -/
def Holds (cs name : List Char) : Prop := IsName name ∧ (placeholder name).source <:+: cs

/-- No placeholder stands anywhere in the text. -/
def Clear (cs : List Char) : Prop := ∀ name, ¬ Holds cs name

/-- A text without placeholders that is not empty, or a placeholder of a name. -/
def Sound : PathPart → Prop
  | .text cs => cs ≠ [] ∧ Clear cs
  | .placeholder name => IsName name

/-- The parts are the path, taken apart at its placeholders and nowhere else. -/
structure Divides (parts : List PathPart) (path : List Char) : Prop where
  source : parts.flatMap source = path
  sound : ∀ part ∈ parts, part.Sound
  separate : Separate parts

variable {cs text name rest path : List Char} {parts : List PathPart}

/-! ## Texts without placeholders -/

theorem Holds.mono {cs' : List Char} (h : Holds cs name) (hcs : cs <:+: cs') : Holds cs' name :=
  ⟨h.1, h.2.trans hcs⟩

theorem Clear.mono {cs' : List Char} (h : Clear cs) (hcs : cs' <:+: cs) : Clear cs' :=
  fun name hname => h name (hname.mono hcs)

theorem clear_nil : Clear [] := by
  rintro name ⟨_, h⟩
  have := h.length_le
  simp [PathPart.source] at this

/-- Only a closing brace completes a placeholder, and then a name stands in front of it. -/
theorem clear_concat {c : Char} (h : Clear cs)
    (hc : c = '\x7d' → ∀ before name, cs = before ++ '\x7b' :: name → ¬ IsName name) :
    Clear (cs ++ [c]) := by
  rintro name ⟨hname, hinfix⟩
  rcases List.infix_concat_iff.mp hinfix with ⟨before, hend⟩ | hinside
  · have hlast : before ++ '\x7b' :: name ++ ['\x7d'] = cs ++ [c] := by
      rw [← hend, PathPart.source, List.cons_append, List.append_assoc, List.cons_append]
    obtain ⟨hfront, hbrace⟩ := List.append_inj' hlast rfl
    exact hc (List.cons.inj hbrace).1.symm before name hfront.symm hname
  · exact h name ⟨hname, hinside⟩

/-- The last brace in the text opens. -/
def Opens (cs : List Char) : Prop := ∃ before name, cs = before ++ '\x7b' :: name ∧
  '\x7b' ∉ name ∧ '\x7d' ∉ name

theorem not_opens_concat {c : Char} (h : c = '\x7d' ∨ ¬ Opens cs) (hc : c ≠ '\x7b') :
    ¬ Opens (cs ++ [c]) := by
  rintro ⟨before, name, hcs, hopening, hclosing⟩
  rcases List.eq_nil_or_concat' name with rfl | ⟨front, last, rfl⟩
  · exact hc (List.cons.inj (List.append_inj' hcs rfl).2).1
  · have hlast : cs ++ [c] = (before ++ '\x7b' :: front) ++ [last] := by
      rw [hcs, List.append_assoc, List.cons_append]
    obtain ⟨hfront, hsame⟩ := List.append_inj' hlast rfl
    obtain rfl : c = last := (List.cons.inj hsame).1
    simp only [List.mem_append, List.mem_singleton, not_or] at hopening hclosing
    rcases h with rfl | h
    · exact hclosing.2 rfl
    · exact h ⟨before, front, hfront, hopening.1, hclosing.1⟩

theorem sound_consText (htext : Clear text.reverse) (h : ∀ part ∈ parts, part.Sound) :
    ∀ part ∈ consText text parts, part.Sound := by
  unfold consText
  split
  · exact h
  · next hne =>
    have hne : text.reverse ≠ [] := by simpa using hne
    exact List.forall_mem_cons.mpr ⟨⟨hne, htext⟩, h⟩

/-- A text and a placeholder in front of a division. -/
theorem Divides.consText (htext : Clear text.reverse) (hname : IsName name) (h : Divides parts rest) :
    Divides (consText text (.placeholder name :: parts))
      (text.reverse ++ ((placeholder name).source ++ rest)) where
  source := by rw [flatMap_source_consText, List.flatMap_cons, h.source]
  sound := sound_consText htext (List.forall_mem_cons.mpr ⟨hname, h.sound⟩)
  separate := separate_consText text name h.separate

/-! ## The scan divides -/

/-- What the scan knows of what it has read. Outside of a name the last brace is not an opening one,
so a closing brace completes nothing. -/
def Read (text : List Char) : Option (List Char) → Prop
  | none => Clear text.reverse ∧ ¬ Opens text.reverse
  | some name => Clear (text.reverse ++ '\x7b' :: name.reverse) ∧ '\x7b' ∉ name ∧ '\x7d' ∉ name

theorem read_nil : Read [] none := by
  refine ⟨clear_nil, ?_⟩
  rintro ⟨before, name, h, _⟩
  simp at h

theorem read_opened (h : Clear text.reverse) : Read text (some []) := by
  refine ⟨?_, List.not_mem_nil, List.not_mem_nil⟩
  exact clear_concat h fun hc => absurd hc (by decide)

theorem sound_scan {name : Option (List Char)} (h : Read text name) (cs : List Char) :
    ∀ part ∈ scan text name cs, part.Sound := by
  fun_induction scan text name cs with
  | case1 text => exact sound_consText h.1 (List.forall_mem_nil _)
  | case2 text name =>
    refine sound_consText ?_ (List.forall_mem_nil _)
    simpa using h.1
  | case3 text rest ih => exact ih (read_opened h.1)
  | case4 text c rest hc ih =>
    refine ih ⟨?_, ?_⟩
    · rw [List.reverse_cons]
      refine clear_concat h.1 fun _ before name hbefore hname => ?_
      exact h.2 ⟨before, name, hbefore, hname.opening, hname.closing⟩
    · rw [List.reverse_cons]
      exact not_opens_concat (.inr h.2) hc
  | case5 text name rest ih =>
    refine ih (read_opened ?_)
    simpa using h.1
  | case6 text name rest hname hc ih =>
    obtain rfl := List.isEmpty_iff.mp hname
    have hopened : Clear (text.reverse ++ ['\x7b']) := h.1
    have hreverse : ('\x7d' :: '\x7b' :: text).reverse = text.reverse ++ ['\x7b'] ++ ['\x7d'] := by
      simp
    refine ih ⟨?_, ?_⟩
    · rw [hreverse]
      refine clear_concat hopened fun _ before name hbefore hname => ?_
      -- a name in front of the closing brace would end in the opening one
      obtain ⟨front, last, rfl⟩ := (List.eq_nil_or_concat' name).resolve_left hname.ne_nil
      have hlast : text.reverse ++ ['\x7b'] = (before ++ '\x7b' :: front) ++ [last] := by
        rw [hbefore, List.append_assoc, List.cons_append]
      obtain rfl : '\x7b' = last := (List.cons.inj (List.append_inj' hlast rfl).2).1
      exact hname.opening (List.mem_append_right _ List.mem_cons_self)
    · rw [hreverse]
      exact not_opens_concat (.inl rfl) (by decide)
  | case7 text name rest hname hc ih =>
    have htext : Clear text.reverse := h.1.mono (List.prefix_append _ _).isInfix
    refine sound_consText htext (List.forall_mem_cons.mpr ⟨?_, ih read_nil⟩)
    exact ⟨by simpa using hname, by simpa using h.2.1, by simpa using h.2.2⟩
  | case8 text name c rest hopening hclosing ih =>
    refine ih ⟨?_, ?_, ?_⟩
    · have hread := clear_concat (c := c) h.1 fun hc => absurd hc hclosing
      simpa using hread
    · simpa [Ne.symm hopening] using h.2.1
    · simpa [Ne.symm hclosing] using h.2.2

theorem divides_ofPath (path : List Char) : Divides (ofPath path) path :=
  ⟨flatMap_source_ofPath path, sound_scan read_nil path, separate_ofPath path⟩

/-! ## There is one division -/

/-- Behind the texts of a division comes the end or an opening brace. -/
def Stops (rest : List Char) : Prop := rest = [] ∨ ∃ tail, rest = '\x7b' :: tail

/-- In either state, a text without placeholders goes to what has been read. -/
theorem scan_of_clear (hrest : Stops rest) (cs : List Char) :
    (∀ text, Clear cs → scan text none (cs ++ rest) = scan (cs.reverse ++ text) none rest) ∧
      ∀ text name, '\x7b' ∉ name → '\x7d' ∉ name → Clear ('\x7b' :: name.reverse ++ cs) →
        scan text (some name) (cs ++ rest) =
          scan (cs.reverse ++ name ++ '\x7b' :: text) none rest := by
  induction cs with
  | nil =>
    refine ⟨fun _ _ => rfl, fun text name _ _ _ => ?_⟩
    rcases hrest with rfl | ⟨tail, rfl⟩ <;> rfl
  | cons c cs ih =>
    obtain ⟨ihText, ihName⟩ := ih
    constructor
    · intro text h
      have htail : Clear cs := h.mono (List.suffix_cons c cs).isInfix
      by_cases hc : c = '\x7b'
      · subst hc
        have hscan := ihName text [] List.not_mem_nil List.not_mem_nil h
        rw [List.cons_append, scan, if_pos rfl, hscan]
        simp
      · rw [List.cons_append, scan, if_neg hc, ihText _ htail]
        simp
    · intro text name hopening hclosing h
      have htail : Clear (c :: cs) := h.mono (List.suffix_append _ _).isInfix
      by_cases hc : c = '\x7b'
      · subst hc
        have hscan := ihName (name ++ '\x7b' :: text) [] List.not_mem_nil List.not_mem_nil htail
        rw [List.cons_append, scan, if_pos rfl, hscan]
        simp
      · by_cases hd : c = '\x7d'
        · subst hd
          -- the brace would complete a placeholder, were there anything between it and the other
          obtain rfl : name = [] := by
            by_contra hne
            refine h name.reverse ⟨⟨by simpa using hne, by simpa using hopening,
              by simpa using hclosing⟩, ⟨[], cs, ?_⟩⟩
            simp [PathPart.source]
          have hscan := ihText ('\x7d' :: '\x7b' :: text)
            (htail.mono (List.suffix_cons _ _).isInfix)
          rw [List.cons_append, scan, if_neg hc, if_pos rfl, List.isEmpty_nil, if_pos rfl, hscan]
          simp
        · have hscan := ihName text (c :: name) (by simpa [Ne.symm hc] using hopening)
            (by simpa [Ne.symm hd] using hclosing) (by simpa using h)
          rw [List.cons_append, scan, if_neg hc, if_neg hd, hscan]
          simp

/-- From inside of a name, the rest of it and its closing brace complete a placeholder. -/
theorem scan_name (hopening : '\x7b' ∉ name) (hclosing : '\x7d' ∉ name) (text read rest : List Char)
    (hne : read.reverse ++ name ≠ []) :
    scan text (some read) (name ++ '\x7d' :: rest) =
      consText text (.placeholder (read.reverse ++ name) :: scan [] none rest) := by
  induction name generalizing read with
  | nil =>
    have hread : read.isEmpty = false := by simpa using hne
    rw [List.nil_append, scan, if_neg (by decide), if_pos rfl, hread, List.append_nil]
    rfl
  | cons c name ih =>
    rw [List.mem_cons, not_or] at hopening hclosing
    rw [List.cons_append, scan, if_neg (Ne.symm hopening.1), if_neg (Ne.symm hclosing.1),
      ih hopening.2 hclosing.2 (c :: read) (by simp)]
    simp

theorem scan_placeholder (hname : IsName name) (text rest : List Char) :
    scan text none ((placeholder name).source ++ rest) =
      consText text (.placeholder name :: scan [] none rest) := by
  have hscan := scan_name hname.opening hname.closing text [] rest (by simpa using hname.ne_nil)
  rw [PathPart.source, List.cons_append, List.cons_append, scan, if_pos rfl, List.append_assoc]
  exact hscan

theorem eq_ofPath_of_divides (h : Divides parts path) : parts = ofPath path := by
  induction parts generalizing path with
  | nil =>
    rw [← h.source]
    rfl
  | cons part rest ih =>
    obtain ⟨hpart, hsound⟩ := List.forall_mem_cons.mp h.sound
    have hrest := ih ⟨rfl, hsound, h.separate.tail⟩
    rw [← h.source, List.flatMap_cons]
    cases part with
    | placeholder name =>
      rw [ofPath, scan_placeholder hpart]
      exact congrArg _ hrest
    | text cs =>
      have hreverse : (cs.reverse ++ []).isEmpty = false := by simpa using hpart.1
      -- texts stand apart, so what follows is nothing or a placeholder
      cases rest with
      | nil =>
        rw [ofPath, PathPart.source, List.flatMap_nil, (scan_of_clear (.inl rfl) cs).1 [] hpart.2,
          scan, PathPart.consText, hreverse]
        simp
      | cons other rest =>
        cases other with
        | text cs' => rcases (List.isChain_cons_cons.mp h.separate).1 with h | h <;> cases h
        | placeholder name =>
          have hname : IsName name := hsound _ List.mem_cons_self
          have hstops : Stops ((placeholder name :: rest).flatMap PathPart.source) := .inr ⟨_, rfl⟩
          rw [List.flatMap_cons, ofPath, scan_placeholder hname] at hrest
          rw [ofPath, PathPart.source, (scan_of_clear hstops cs).1 [] hpart.2, List.flatMap_cons,
            scan_placeholder hname, PathPart.consText, hreverse, hrest]
          simp [PathPart.consText]

theorem divides_iff : Divides parts path ↔ parts = ofPath path :=
  ⟨eq_ofPath_of_divides, fun h => h ▸ divides_ofPath path⟩

/-! ## All placeholders are found -/

theorem placeholder_mem_scan (hname : IsName name) (before behind : List Char) (text : List Char)
    (read : Option (List Char)) :
    .placeholder name ∈ scan text read (before ++ ((placeholder name).source ++ behind)) := by
  have hfound (text : List Char) :
      .placeholder name ∈ scan text none ((placeholder name).source ++ behind) := by
    rw [scan_placeholder hname, consText]
    split <;> simp
  have hkept {text : List Char} {parts : List PathPart} (h : .placeholder name ∈ parts) :
      .placeholder name ∈ consText text parts := by
    rw [consText]
    split
    · exact h
    · exact List.mem_cons_of_mem _ h
  induction before generalizing text read with
  | nil =>
    cases read with
    | none => exact hfound text
    -- the opening brace begins a name anew
    | some read => exact hfound (read ++ '\x7b' :: text)
  | cons c before ih =>
    rw [List.cons_append]
    cases read with
    | none =>
      rw [scan]
      split <;> exact ih _ _
    | some read =>
      rw [scan]
      split
      · exact ih _ _
      · split
        · split
          · exact ih _ _
          · exact hkept (List.mem_cons_of_mem _ (ih _ _))
        · exact ih _ _

theorem mem_ofPath_iff : .placeholder name ∈ ofPath path ↔ Holds path name := by
  constructor
  · intro h
    have hsound : IsName name := (divides_ofPath path).sound _ h
    obtain ⟨before, behind, hparts⟩ := List.append_of_mem h
    refine ⟨hsound, before.flatMap PathPart.source, behind.flatMap PathPart.source, ?_⟩
    rw [← flatMap_source_ofPath path, hparts, List.flatMap_append, List.flatMap_cons,
      List.append_assoc]
  · rintro ⟨hname, before, behind, rfl⟩
    rw [ofPath, List.append_assoc]
    exact placeholder_mem_scan hname before behind [] none

/-! ## Looking for given names -/

/-- With no names to look for, all that is left is text. -/
theorem divideAt_nil (text cs : List Char) : divideAt [] text cs = consText (cs.reverse ++ text) [] := by
  induction cs generalizing text with
  | nil => rw [divideAt, List.reverse_nil, List.nil_append]
  | cons c rest ih => rw [divideAt, List.find?_nil, ih, List.reverse_cons, List.append_assoc, List.singleton_append]

/-- No placeholder begins in the text that has been read (`htext`), so the next one is found where
it begins. -/
theorem divides_divideAt {names : List (List Char)} (hnames : ∀ name ∈ names, IsName name)
    (hall : ∀ name, Holds cs name → name ∈ names)
    (htext : ∀ before name behind, IsName name →
      text.reverse ++ cs = before ++ ((placeholder name).source ++ behind) →
        text.length ≤ before.length) :
    Divides (divideAt names text cs) (text.reverse ++ cs) := by
  have hclear {text cs : List Char} (htext : ∀ before name behind, IsName name →
      text.reverse ++ cs = before ++ ((placeholder name).source ++ behind) →
        text.length ≤ before.length) : Clear text.reverse := by
    rintro name ⟨hname, before, behind, hinfix⟩
    have hlength := htext before name (behind ++ cs) hname (by simp [← hinfix])
    have hreverse := congrArg List.length hinfix
    simp [PathPart.source] at hreverse
    omega
  fun_induction divideAt names text cs with
  | case1 text =>
    refine ⟨?_, sound_consText (hclear htext) (List.forall_mem_nil _), separate_text text⟩
    rw [flatMap_source_consText, List.flatMap_nil]
  | case2 text c rest name hfound ih =>
    have hname : IsName name := hnames name (List.mem_of_find?_eq_some hfound)
    have hprefix : (placeholder name).source <+: c :: rest :=
      List.isPrefixOf_iff_prefix.mp
        (List.find?_some (p := fun name => (placeholder name).source.isPrefixOf (c :: rest)) hfound)
    obtain ⟨behind, hbehind⟩ := hprefix
    have hdrop : rest.drop (name.length + 1) = behind := by
      have := congrArg (List.drop (name.length + 2)) hbehind
      simpa [PathPart.source] using this.symm
    rw [hdrop] at ih ⊢
    have htail : behind <:+: c :: rest := hbehind ▸ (List.suffix_append _ _).isInfix
    rw [← hbehind]
    refine Divides.consText (hclear htext) hname ?_
    exact ih (fun other hother => hall other (hother.mono htail)) (fun _ _ _ _ _ => Nat.zero_le _)
  | case3 text c rest hnone ih =>
    rw [List.reverse_cons, List.append_assoc, List.singleton_append] at ih
    refine ih (fun name hname => hall name (hname.mono (List.suffix_cons c rest).isInfix)) ?_
    intro before name behind hname hsplit
    have hlength := htext before name behind hname hsplit
    -- none of the names begins here, and no other placeholder does
    have hne : before.length ≠ text.length := by
      intro heq
      have hhere := (List.append_inj hsplit (by simpa using heq.symm)).2
      have hmem := hall name ⟨hname, [], behind, by simpa using hhere.symm⟩
      refine List.find?_eq_none.mp hnone name hmem (List.isPrefixOf_iff_prefix.mpr ?_)
      exact ⟨behind, hhere.symm⟩
    simp only [List.length_cons]
    omega

/-- The names that a path holds are enough to divide it. -/
theorem divideAt_eq_ofPath {names : List (List Char)} (h : ∀ name, name ∈ names ↔ Holds path name) :
    divideAt names [] path = ofPath path := by
  have hdivides : Divides (divideAt names [] path) ([].reverse ++ path) :=
    divides_divideAt (fun name hname => ((h name).mp hname).1) (fun name hname => (h name).mpr hname)
      fun _ _ _ _ _ => Nat.zero_le _
  exact divides_iff.mp hdivides

end ElixirClient.PathPart
