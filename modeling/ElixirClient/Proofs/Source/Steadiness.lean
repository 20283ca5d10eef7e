import Mathlib.Data.List.Forall2
import ElixirClient.Proofs.Source.Indentation
import ElixirClient.Proofs.Source.Interpolation

/-!
# What makes a text unsteady

Printed code is made of pieces with marks between them that are not blank: quotation marks, braces,
commas. Such a mark parts a text into two that are steady or not each for itself
(`steady_append_cons`). `Between` is what a piece adds to the text around it: between any two marks
the text is steady exactly under a condition. Pieces are put together by `Between.append`, and
blanks on the way do not matter. A text with marks of its own at both ends (`Framed`) needs no others
around it, and may begin on a new line.

A literal is steady exactly if the text in it has no line end but line feeds
(`between_literalChars`): those are escaped, and all others are not.
-/

namespace ElixirClient.Source

open Text (isBlank isLineEnd FeedsOnly)

/-! ## Marks -/

/-- A character that is not blank. -/
def Solid (c : Char) : Prop := isBlank c = false

/-- A text on one line. -/
def Inert (cs : List Char) : Prop := ∀ c ∈ cs, isLineEnd c = false

instance (c : Char) : Decidable (Solid c) := inferInstanceAs (Decidable (isBlank c = false))

instance (cs : List Char) : Decidable (Inert cs) :=
  List.decidableBAll (fun c => isLineEnd c = false) cs

variable {x : Char} {front behind cs m : List Char} {P Q : Prop}

theorem Solid.isLineEnd (h : Solid x) : isLineEnd x = false := by
  by_contra hend
  rw [Bool.not_eq_false] at hend
  rw [Solid, isBlank_of_isLineEnd hend] at h
  cases h

theorem Solid.ne_feed (h : Solid x) : x ≠ '\n' := by
  rintro rfl
  exact absurd h (by decide)

theorem Inert.not_feed (h : Inert cs) : '\n' ∉ cs := fun hmem => absurd (h _ hmem) (by decide)

theorem Inert.feedsOnly (h : Inert cs) : FeedsOnly cs := fun c hc hend => by
  rw [h c hc] at hend
  cases hend

theorem inert_append : Inert (front ++ behind) ↔ Inert front ∧ Inert behind :=
  List.forall_mem_append

/-- A text on one line moves the next line end back, and changes nothing behind it. -/
theorem trails_append_of_inert (h : Inert front) : trails (front ++ behind) = trails behind := by
  induction front with
  | nil => rfl
  | cons c front ih =>
    obtain ⟨hc, hfront⟩ := List.forall_mem_cons.mp h
    rw [List.cons_append, trails, hc, ih hfront]
    rfl

/-- A mark lets no line end stand in front of it. -/
theorem trails_append_cons (hx : Solid x) :
    trails (front ++ x :: behind) = true ↔ Inert front ∧ trails behind = true := by
  induction front with
  | nil =>
    rw [List.nil_append, trails, hx.isLineEnd]
    exact (and_iff_right (List.forall_mem_nil _)).symm
  | cons c front ih =>
    rw [List.cons_append, trails, Inert, List.forall_mem_cons]
    cases hc : isLineEnd c with
    | true =>
      refine iff_of_false ?_ (fun h => by cases h.1.1)
      rw [if_pos rfl, List.all_append, List.all_cons, hx]
      simp
    | false => simp only [Bool.false_eq_true, if_false, true_and, ih, Inert]

/-- A line with a mark in it is not blank, so in front of the mark it must be inert, and behind it
nothing may be said after a line end. -/
theorem steadyLine_append_cons (hx : Solid x) :
    SteadyLine (front ++ x :: behind) ↔ Inert front ∧ trails behind = true := by
  rw [← trails_append_cons hx]
  refine ⟨SteadyLine.trails, fun h => ⟨h, fun hblank => absurd hblank ?_⟩⟩
  rw [List.all_append, List.all_cons, hx]
  simp

theorem exists_splitAt (cs : List Char) : ∃ first others, Text.splitAt '\n' cs = first :: others :=
  List.exists_cons_of_ne_nil (Text.splitAt_ne_nil '\n' cs)

/-- Behind a mark, all but the rest of its line is on lines of its own. -/
theorem steady_cons {first : List Char} {others : List (List Char)} (hx : Solid x)
    (h : Text.splitAt '\n' behind = first :: others) :
    Steady (x :: behind) ↔ trails first = true ∧ ∀ line ∈ others, SteadyLine line := by
  have hsplit : Text.splitAt '\n' (x :: behind) = (x :: first) :: others := by
    rw [Text.splitAt, if_neg hx.ne_feed, h]
  have hline : SteadyLine ([] ++ x :: first) ↔ _ := steadyLine_append_cons hx
  rw [Steady, hsplit, List.forall_mem_cons]
  exact and_congr_left' (hline.trans (and_iff_right (List.forall_mem_nil _)))

/-- In front of a mark at the end, all lines but the last one are lines of their own. -/
theorem steady_concat {parts : List (List Char)} {last : List Char} (hx : Solid x)
    (h : Text.splitAt '\n' front = parts ++ [last]) :
    Steady (front ++ [x]) ↔ (∀ line ∈ parts, SteadyLine line) ∧ Inert last := by
  have hfeed : '\n' ∉ [x] := by simpa using hx.ne_feed.symm
  obtain ⟨parts', last', hfront, hsplit⟩ := Text.splitAt_append hfeed front
  obtain ⟨rfl, hlast⟩ := List.append_inj' (h.symm.trans hfront) rfl
  obtain rfl := (List.cons.inj hlast).1
  rw [Steady, hsplit, List.forall_mem_append, List.forall_mem_singleton]
  exact and_congr_right fun _ => (steadyLine_append_cons hx).trans (and_iff_left rfl)

/-- What is in front of a mark and what is behind it have nothing to do with each other. -/
theorem steady_append_cons (hx : Solid x) :
    Steady (front ++ x :: behind) ↔ Steady (front ++ [x]) ∧ Steady (x :: behind) := by
  obtain ⟨parts, last, hfront, hboth⟩ := Text.exists_splitAt_append '\n' front
  obtain ⟨first, others, hbehind⟩ := exists_splitAt behind
  have hcons : Text.splitAt '\n' (x :: behind) = (x :: first) :: others := by
    rw [Text.splitAt, if_neg hx.ne_feed, hbehind]
  rw [steady_concat hx hfront, steady_cons hx hbehind, Steady, hboth _ _ _ hcons,
    List.forall_mem_append, List.forall_mem_cons, steadyLine_append_cons hx, and_assoc, and_assoc]

/-! ## Between marks -/

/-- Between two marks the text is steady exactly under the condition. -/
def Between (cs : List Char) (P : Prop) : Prop :=
  ∀ y x, Solid y → Solid x → (Steady (y :: (cs ++ [x])) ↔ P)

theorem Between.congr (h : Between cs P) (hP : P ↔ Q) : Between cs Q := fun y x hy hx =>
  (h y x hy hx).trans hP

/-- A text has one condition, since marks that could be put around it exist. -/
theorem Between.unique (h : Between cs P) (hother : Between cs Q) : P ↔ Q := by
  have hopen : Solid '\x7b' := by decide
  have hclose : Solid ',' := by decide
  exact (h _ _ hopen hclose).symm.trans (hother _ _ hopen hclose)

/-- It does not matter which marks these are. -/
theorem between_framed (cs : List Char) : Between cs (Steady ('\x7b' :: (cs ++ [',']))) := by
  intro y x hy hx
  have hopen : Solid '\x7b' := by decide
  have hclose : Solid ',' := by decide
  obtain ⟨first, others, hsplit⟩ := exists_splitAt (cs ++ [x])
  obtain ⟨parts, last, hfront, _⟩ := Text.exists_splitAt_append '\n' ('\x7b' :: cs)
  -- the mark behind is exchanged first, then the one in front
  have hsame := (steady_concat hx hfront).trans (steady_concat hclose hfront).symm
  rw [steady_cons hy hsplit, ← steady_cons hopen hsplit]
  exact hsame

/-- Two texts with a mark between them are independent: each stands between two marks. -/
theorem Between.append {z : Char} (hfront : Between front P) (hz : Solid z)
    (hbehind : Between behind Q) : Between (front ++ z :: behind) (P ∧ Q) := by
  intro y x hy hx
  have hparts : y :: ((front ++ z :: behind) ++ [x]) = (y :: front) ++ z :: (behind ++ [x]) := by
    simp
  rw [hparts, steady_append_cons hz]
  exact and_congr (hfront y z hy hz) (hbehind z x hz hx)

theorem between_pad_front (hm : Inert m) : Between (m ++ cs) P ↔ Between cs P := by
  refine forall₄_congr fun y x hy hx => ?_
  obtain ⟨first, others, hsplit⟩ := exists_splitAt (cs ++ [x])
  -- the padding goes to the first line, whose beginning is a mark
  have hpadded := Text.splitAt_append_of_not_mem hm.not_feed hsplit
  rw [List.append_assoc, steady_cons hy hpadded, steady_cons hy hsplit, trails_append_of_inert hm]

theorem Between.pad_front (h : Between cs P) (hm : Inert m) : Between (m ++ cs) P :=
  (between_pad_front hm).mpr h

theorem Between.pad_back (h : Between cs P) (hm : Inert m) : Between (cs ++ m) P := by
  intro y x hy hx
  rw [← h y x hy hx]
  obtain ⟨parts, last, hfront, hpadded⟩ := Text.splitAt_append hm.not_feed (y :: cs)
  have hassoc : y :: ((cs ++ m) ++ [x]) = ((y :: cs) ++ m) ++ [x] := rfl
  rw [hassoc, steady_concat hx hpadded, inert_append, and_iff_left hm]
  exact (steady_concat hx hfront).symm

theorem between_nil : Between [] True := by
  intro y x hy hx
  have hfeed : '\n' ∉ [x] := by simpa using hx.ne_feed.symm
  rw [List.nil_append, steady_cons hy (Text.splitAt_of_not_mem hfeed), trails, hx.isLineEnd]
  exact iff_of_true ⟨rfl, List.forall_mem_nil _⟩ trivial

theorem between_inert (h : Inert m) : Between m True := by
  have hpadded := between_nil.pad_front h
  rwa [List.append_nil] at hpadded

/-- A text that holds no line feed is steady as long as it stands on one line. -/
theorem between_of_not_feed (h : '\n' ∉ cs) : Between cs (Inert cs) := by
  intro y x hy hx
  have hfeed : '\n' ∉ y :: cs := by simpa using ⟨hy.ne_feed.symm, h⟩
  have hsplit : Text.splitAt '\n' (y :: cs) = [] ++ [y :: cs] := Text.splitAt_of_not_mem hfeed
  have hconcat := steady_concat hx hsplit
  rw [Inert, List.forall_mem_cons, and_iff_right hy.isLineEnd,
    and_iff_right (List.forall_mem_nil _)] at hconcat
  exact hconcat

/-- A new line, or one after an empty line. -/
theorem between_feed (h : Inert m) :
    Between ('\n' :: m) True ∧ Between ('\n' :: '\n' :: m) True := by
  have hlast {x : Char} (hx : Solid x) : SteadyLine (m ++ [x]) :=
    (steadyLine_append_cons hx).mpr ⟨h, rfl⟩
  have hsplit {x : Char} (hx : Solid x) : Text.splitAt '\n' (m ++ [x]) = [m ++ [x]] := by
    refine Text.splitAt_of_not_mem ?_
    simpa using ⟨h.not_feed, hx.ne_feed.symm⟩
  constructor
  · intro y x hy hx
    have hfeed : Text.splitAt '\n' ('\n' :: (m ++ [x])) = [[], m ++ [x]] := by
      rw [Text.splitAt_cons_self, hsplit hx]
    rw [List.cons_append, steady_cons hy hfeed, List.forall_mem_singleton]
    exact iff_of_true ⟨rfl, hlast hx⟩ trivial
  · intro y x hy hx
    have hfeed : Text.splitAt '\n' ('\n' :: '\n' :: (m ++ [x])) = [[], [], m ++ [x]] := by
      rw [Text.splitAt_cons_self, Text.splitAt_cons_self, hsplit hx]
    rw [List.cons_append, List.cons_append, steady_cons hy hfeed, List.forall_mem_cons,
      List.forall_mem_singleton]
    exact iff_of_true ⟨rfl, ⟨rfl, by simp⟩, hlast hx⟩ trivial

theorem exists_of_speaks (h : speaks cs = true) :
    ∃ front z behind, Inert front ∧ Solid z ∧ cs = front ++ z :: behind := by
  induction cs with
  | nil => cases h
  | cons c cs ih =>
    simp only [speaks, Bool.and_eq_true, Bool.or_eq_true, Bool.not_eq_true'] at h
    rcases h.2 with hc | hspeaks
    · exact ⟨[], c, cs, List.forall_mem_nil _, hc, rfl⟩
    · obtain ⟨front, z, behind, hfront, hz, rfl⟩ := ih hspeaks
      exact ⟨c :: front, z, behind, List.forall_mem_cons.mpr ⟨h.1, hfront⟩, hz, rfl⟩

theorem speaks_append_cons (hfront : Inert front) (hx : Solid x) (behind : List Char) :
    speaks (front ++ x :: behind) = true := by
  induction front with
  | nil =>
    rw [List.nil_append, speaks, hx.isLineEnd, hx]
    rfl
  | cons c front ih =>
    obtain ⟨hc, hfront⟩ := List.forall_mem_cons.mp hfront
    rw [List.cons_append, speaks, hc, ih hfront, Bool.or_true]
    rfl

/-- A text whose first line is not blank may as well begin on a new line, or after an empty one. -/
theorem Between.on_new_line (h : Between cs P) (hspeaks : speaks cs = true) :
    Between ('\n' :: cs) P ∧ Between ('\n' :: '\n' :: cs) P := by
  -- what decides is behind the first mark of the text, and this stays where it is
  obtain ⟨front, z, behind, hfront, hz, rfl⟩ := exists_of_speaks hspeaks
  have hbehind := between_framed behind
  have hsame := ((between_inert hfront).append hz hbehind).unique h
  obtain ⟨hfeed, hfeeds⟩ := between_feed hfront
  exact ⟨(hfeed.append hz hbehind).congr hsame, (hfeeds.append hz hbehind).congr hsame⟩

/-- Marks of the text itself, such as brackets, change nothing. -/
theorem Between.enclose {a b : Char} (h : Between cs P) (ha : Solid a) (hb : Solid b) :
    Between (a :: (cs ++ [b])) P :=
  (between_nil.append ha (h.append hb between_nil)).congr (by rw [true_and, and_true])

/-- Behind the last mark of the text there is no line end. -/
def Settles (cs : List Char) : Prop :=
  ∃ front z m, Solid z ∧ Inert m ∧ cs = front ++ z :: m

theorem Settles.append (h : Settles cs) (front : List Char) : Settles (front ++ cs) := by
  obtain ⟨before, z, m, hz, hm, rfl⟩ := h
  exact ⟨front ++ before, z, m, hz, hm, (List.append_assoc ..).symm⟩

/-- What follows such a text may as well be a new line. -/
theorem Between.append_of_settles (hfront : Between front P) (hsettles : Settles front)
    (hbehind : Between behind Q) : Between (front ++ behind) (P ∧ Q) := by
  obtain ⟨before, z, m, hz, hm, rfl⟩ := hsettles
  have hbefore := between_framed before
  have hsame := (hbefore.append hz (between_inert hm)).unique hfront
  rw [and_true] at hsame
  rw [List.append_assoc, List.cons_append]
  exact (hbefore.append hz (hbehind.pad_front hm)).congr (and_congr_left' hsame)

/-! ## Texts that begin and end with marks -/

/-- The text begins with a mark and ends with one. -/
def Framed (cs : List Char) : Prop :=
  ∃ a inner b, Solid a ∧ Solid b ∧ cs = a :: (inner ++ [b])

namespace Framed

theorem speaks (h : Framed cs) : speaks cs = true := by
  obtain ⟨a, inner, b, ha, _, rfl⟩ := h
  exact speaks_append_cons (List.forall_mem_nil _) ha _

theorem settles (h : Framed cs) : Settles cs := by
  obtain ⟨a, inner, b, _, hb, rfl⟩ := h
  exact ⟨a :: inner, b, [], hb, List.forall_mem_nil _, rfl⟩

/-- Two framed texts with anything between them are framed by the marks at the outer ends. -/
theorem append (hfront : Framed front) (hbehind : Framed behind) (m : List Char) :
    Framed (front ++ (m ++ behind)) := by
  obtain ⟨a, inner, b, ha, _, rfl⟩ := hfront
  obtain ⟨a', inner', b', _, hb', rfl⟩ := hbehind
  exact ⟨a, inner ++ [b] ++ m ++ a' :: inner', b', ha, hb', by simp⟩

/-- No other marks are needed around such a text. -/
theorem steady_iff (hframed : Framed cs) (h : Between cs P) : Steady cs ↔ P := by
  obtain ⟨a, inner, b, ha, hb, rfl⟩ := hframed
  exact (between_framed inner a b ha hb).trans (((between_framed inner).enclose ha hb).unique h)

end Framed

/-! ## Literals and atoms -/

theorem not_feed_escapeChars (cs : List Char) : '\n' ∉ escapeChars cs := by
  fun_induction escapeChars cs with
  | case1 => exact List.not_mem_nil
  | case2 rest ih | case3 rest ih | case4 rest ih | case5 rest ih => simpa using ih
  | case6 c rest _ _ hfeed _ ih => simpa using ⟨fun h => hfeed h.symm, ih⟩

/-- The only line ends that escaping takes out of a text are line feeds. -/
theorem inert_escapeChars_iff (cs : List Char) : Inert (escapeChars cs) ↔ FeedsOnly cs := by
  unfold Inert FeedsOnly
  fun_induction escapeChars cs with
  | case1 => exact ⟨fun _ => List.forall_mem_nil _, fun _ => List.forall_mem_nil _⟩
  | case2 rest ih | case3 rest ih | case4 rest ih | case5 rest ih =>
    simp only [List.forall_mem_cons, ih]
    simp [isLineEnd]
  | case6 c rest _ _ hfeed _ ih =>
    rw [List.forall_mem_cons, List.forall_mem_cons, ih]
    refine and_congr_left' ⟨fun h hend => ?_, fun h => ?_⟩
    · rw [h] at hend
      cases hend
    · by_contra hend
      exact hfeed (h (by simpa using hend))

/-- A literal is steady exactly if the line feed is the only line end in its text. The quotation
marks are the marks around it. -/
theorem between_literalChars (cs : List Char) : Between (literalChars cs) (FeedsOnly cs) :=
  ((between_of_not_feed (not_feed_escapeChars cs)).congr (inert_escapeChars_iff cs)).enclose
    (by decide) (by decide)

theorem not_isAtomChar_of_isLineEnd {c : Char} (h : isLineEnd c = true) :
    isAtomChar c = false ∧ c ≠ '?' ∧ c ≠ '!' := by
  simp only [isLineEnd, Bool.or_eq_true, decide_eq_true_eq] at h
  rcases h with ((((((((rfl | rfl) | rfl) | rfl) | rfl) | rfl) | rfl) | rfl) | rfl) | rfl
  all_goals decide

theorem inert_of_isAtomTail (h : isAtomTail cs = true) : Inert cs := by
  -- the three kinds of characters that a name goes on with
  have hchar {c : Char} (hc : isAtomChar c = true ∨ c = '?' ∨ c = '!') : isLineEnd c = false := by
    by_contra hend
    obtain ⟨hatom, hquestion, hbang⟩ := not_isAtomChar_of_isLineEnd (by simpa using hend)
    simp [hatom, hquestion, hbang] at hc
  fun_induction isAtomTail cs with
  | case1 => exact List.forall_mem_nil _
  | case2 c => exact List.forall_mem_singleton.mpr (hchar (by simpa [or_assoc] using h))
  | case3 c rest _ ih =>
    rw [Bool.and_eq_true] at h
    exact List.forall_mem_cons.mpr ⟨hchar (.inl h.1), ih h.2⟩

theorem inert_of_isPlainAtom (h : isPlainAtom cs = true) : Inert cs := by
  cases cs with
  | nil => cases h
  | cons c rest =>
    rw [isPlainAtom, Bool.and_eq_true] at h
    have hc : isAtomChar c = true := by
      simp [isAtomChar, h.1]
    refine List.forall_mem_cons.mpr ⟨?_, inert_of_isAtomTail h.2⟩
    by_contra hend
    rw [(not_isAtomChar_of_isLineEnd (by simpa using hend)).1] at hc
    cases hc

/-- An atom without quotation marks has no line ends anyway. -/
theorem between_atomName (cs : List Char) : Between (atomName cs) (FeedsOnly cs) := by
  unfold atomName
  split
  · next hplain =>
    have hinert := inert_of_isPlainAtom hplain
    exact (between_inert hinert).congr (iff_of_true trivial hinert.feedsOnly)
  · exact between_literalChars cs

theorem solid_of_isAtomStart {c : Char} (h : isAtomStart c = true) : Solid c := by
  simp only [isAtomStart, Bool.or_eq_true, Bool.and_eq_true, decide_eq_true_eq, Char.le_def] at h
  rw [Solid]
  by_contra hblank
  simp only [isBlank, Text.inRanges, Text.blankRanges] at hblank
  rcases h with h | rfl
  · have hfirst : 'a'.toNat ≤ c.toNat := h.1
    have hlast : c.toNat ≤ 'z'.toNat := h.2
    simp at hblank hfirst hlast
    omega
  · simp at hblank

/-- The name of an atom begins with a mark. -/
theorem exists_atomName (cs : List Char) : ∃ z rest, Solid z ∧ atomName cs = z :: rest := by
  unfold atomName
  split
  · next hplain =>
    cases cs with
    | nil => cases hplain
    | cons c rest =>
      rw [isPlainAtom, Bool.and_eq_true] at hplain
      exact ⟨c, rest, solid_of_isAtomStart hplain.1, rfl⟩
  · exact ⟨'"', _, by decide, rfl⟩

/-- The colon of an atom is a mark too. -/
theorem between_atom (name : String) : Between (atom name).toList (FeedsOnly name.toList) := by
  rw [atom, String.toList_ofList]
  exact (between_nil.append (by decide) (between_atomName name.toList)).congr (by rw [true_and])

/-! ## Lists -/

/-- Items with commas between them, each of them after some blanks or on a line of its own. -/
theorem between_intercalate {α : Type} {xs : List α} {texts : List String} {Q : α → Prop}
    (lead : String) (hlead : Between lead.toList True)
    (h : List.Forall₂ (fun x text => Between (lead.toList ++ text.toList) (Q x)) xs texts) :
    Between (lead.toList ++ (("," ++ lead).intercalate texts).toList) (∀ x ∈ xs, Q x) := by
  induction h with
  | nil =>
    have hnil : Inert "".toList := by decide
    exact (hlead.congr (by simp)).pad_back hnil
  | @cons x text xs texts hx hrest ih =>
    cases hrest with
    | nil =>
      rw [String.intercalate_singleton]
      exact hx.congr (by simp)
    | @cons next text' xs texts hnext hrest =>
      -- the comma is a mark, so each side may be looked at alone
      have htexts : lead.toList ++ (("," ++ lead).intercalate (text :: text' :: texts)).toList =
          (lead.toList ++ text.toList) ++
            ',' :: (lead.toList ++ (("," ++ lead).intercalate (text' :: texts)).toList) := by
        rw [String.intercalate_cons_cons]
        simp
      rw [htexts]
      exact (hx.append (by decide) ih).congr List.forall_mem_cons.symm

theorem between_commas {α : Type} {xs : List α} {texts : List String} {Q : α → Prop}
    (h : List.Forall₂ (fun x text => Between text.toList (Q x)) xs texts) :
    Between (", ".intercalate texts).toList (∀ x ∈ xs, Q x) := by
  have hblank : Inert " ".toList := by decide
  have hpadded := h.imp fun x text hx => (hx.pad_front hblank)
  have hlist := between_intercalate " " (between_inert hblank) hpadded
  exact (between_pad_front hblank).mp hlist

/-! ## Urls -/

theorem inert_flatMap {α : Type} {xs : List α} {text : α → List Char} :
    Inert (xs.flatMap text) ↔ ∀ x ∈ xs, Inert (text x) :=
  List.forall_mem_flatMap

/-- A url is steady if its texts have no line ends but line feeds; the names of its variables have
none at all. -/
theorem between_interpolationText {pieces : List Piece}
    (h : ∀ name, .var name ∈ pieces → Inert name.toList) :
    Between (interpolationText pieces).toList
      (∀ text, .text text ∈ pieces → FeedsOnly text.toList) := by
  have hvar {name : String} (hname : .var name ∈ pieces) :
      Inert (pieceText (.var name)).toList := by
    rw [toList_pieceText_var]
    simpa [Inert, isLineEnd, or_imp, forall_and] using h name hname
  have hfeed : '\n' ∉ pieces.flatMap fun piece => (pieceText piece).toList := by
    intro hmem
    obtain ⟨piece, hpiece, hmem⟩ := List.mem_flatMap.mp hmem
    cases piece with
    | text s =>
      rw [toList_pieceText_text] at hmem
      exact not_feed_escapeChars s.toList hmem
    | var name => exact (hvar hpiece).not_feed hmem
  -- on one line the text is kept if nothing in it ends a line, and this is only left open for the
  -- texts
  have hinert : Inert (pieces.flatMap fun piece => (pieceText piece).toList) ↔
      ∀ text, .text text ∈ pieces → FeedsOnly text.toList := by
    rw [inert_flatMap]
    constructor
    · intro hall text htext
      have htext := hall _ htext
      rwa [toList_pieceText_text, inert_escapeChars_iff] at htext
    · intro hall piece hpiece
      cases piece with
      | text s => rw [toList_pieceText_text, inert_escapeChars_iff]; exact hall s hpiece
      | var name => exact hvar hpiece
  rw [toList_interpolationText]
  exact ((between_of_not_feed hfeed).congr hinert).enclose (by decide) (by decide)

/-! ## Numbers -/

theorem inert_toString (n : Int) : Inert (toString n).toList := by
  have hdigits (n : Nat) : Inert n.repr.toList := by
    intro c hc
    rw [Nat.toList_repr] at hc
    have hdigit : ('0' ≤ c && c ≤ '9') = true :=
      Nat.isDigit_of_mem_toDigits (by decide) (by decide) hc
    by_contra hend
    have hatom := (not_isAtomChar_of_isLineEnd (by simpa using hend)).1
    rw [isAtomChar, hdigit, Bool.or_true] at hatom
    cases hatom
  rw [Int.toString_eq_repr]
  cases n with
  | ofNat n => exact hdigits n
  | negSucc n =>
    rw [Int.repr, String.toList_append]
    exact inert_append.mpr ⟨by decide, hdigits _⟩

end ElixirClient.Source
