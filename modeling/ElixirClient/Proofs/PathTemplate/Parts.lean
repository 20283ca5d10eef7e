import Mathlib.Data.List.Basic
import ElixirClient.PathTemplate

/-!
# The parts of a path

Scanning a path loses nothing: the parts, written as they stand in the path, are the path
(`flatMap_source_ofPath`). Two text parts are never next to each other (`separate_ofPath`), so what
follows a text is a placeholder or the end.

Both go by induction along the scan, over all that it may have read of a text and of a name.
-/

namespace ElixirClient.PathPart

/-- What has been read behind an opening brace, the brace included. -/
def opened : Option (List Char) → List Char
  | none => []
  | some name => '\x7b' :: name.reverse

theorem flatMap_source_consText (reversed : List Char) (parts : List PathPart) :
    (consText reversed parts).flatMap source = reversed.reverse ++ parts.flatMap source := by
  unfold consText
  split
  · next h =>
    rw [List.isEmpty_iff.mp h]
    rfl
  · rfl

/-- From any state, the parts to come are what has been read and what is left to read. A brace that
opened no name is given back as text. -/
theorem flatMap_source_scan (text : List Char) (name : Option (List Char)) (cs : List Char) :
    (scan text name cs).flatMap source = text.reverse ++ opened name ++ cs := by
  fun_induction scan text name cs with
  | case1 text => rw [flatMap_source_consText, opened, List.flatMap_nil, List.append_nil, List.append_nil]
  -- the path ends behind an opening brace, so the name was text after all
  | case2 text name =>
    rw [flatMap_source_consText, List.reverse_append, List.reverse_cons, opened]
    simp only [List.flatMap_nil, List.append_nil, List.append_assoc, List.singleton_append]
  | case3 text rest ih =>
    rw [ih]
    simp only [opened, List.reverse_nil, List.append_assoc, List.nil_append, List.singleton_append]
  | case4 text c rest _ ih =>
    rw [ih, List.reverse_cons]
    simp only [opened, List.append_assoc, List.nil_append, List.singleton_append]
  -- another opening brace gives up the name that was being read
  | case5 text name rest ih =>
    rw [ih, List.reverse_append, List.reverse_cons]
    simp only [opened, List.reverse_nil, List.append_assoc, List.singleton_append]
  | case6 text name rest hname _ ih =>
    rw [ih, List.isEmpty_iff.mp hname, List.reverse_cons, List.reverse_cons]
    simp only [opened, List.reverse_nil, List.append_assoc, List.cons_append, List.nil_append]
  -- a name is complete
  | case7 text name rest _ _ ih =>
    rw [flatMap_source_consText, List.flatMap_cons, ih, source]
    simp only [opened, List.reverse_nil, List.append_assoc, List.cons_append, List.nil_append]
  | case8 text name c rest _ _ ih =>
    rw [ih]
    simp only [opened, List.reverse_cons, List.append_assoc, List.cons_append, List.nil_append]

theorem flatMap_source_ofPath (path : List Char) : (ofPath path).flatMap source = path :=
  flatMap_source_scan [] none path

/-! ## Texts stand apart -/

/-- Of two neighbours one is a placeholder. -/
def Separate (parts : List PathPart) : Prop :=
  parts.IsChain fun a b => a.placeholder?.isSome ∨ b.placeholder?.isSome

/-- A text in front of a placeholder; what follows the placeholder may be anything that is apart
itself. -/
theorem separate_consText (reversed : List Char) (name : List Char) {rest : List PathPart}
    (hrest : Separate rest) : Separate (consText reversed (.placeholder name :: rest)) := by
  have hname : Separate (.placeholder name :: rest) := by
    cases rest with
    | nil => exact .singleton _
    | cons part rest => exact .cons_cons (.inl rfl) hrest
  unfold consText
  split
  · exact hname
  · exact .cons_cons (.inr rfl) hname

theorem separate_text (reversed : List Char) : Separate (consText reversed []) := by
  unfold consText
  split
  · exact .nil
  · exact .singleton _

theorem separate_scan (text : List Char) (name : Option (List Char)) (cs : List Char) :
    Separate (scan text name cs) := by
  fun_induction scan text name cs with
  | case1 text => exact separate_text text
  | case2 text name => exact separate_text _
  -- only the brace that closes a name finishes parts, a text and a placeholder
  | case7 text name rest _ _ ih => exact separate_consText _ _ ih
  | case3 | case4 | case5 | case6 | case8 => assumption

theorem separate_ofPath (path : List Char) : Separate (ofPath path) := separate_scan [] none path

end ElixirClient.PathPart
