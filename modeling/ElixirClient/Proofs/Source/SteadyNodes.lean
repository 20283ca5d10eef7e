import ElixirClient.Proofs.Node.Merging
import ElixirClient.Proofs.Source.Printing
import ElixirClient.Proofs.Source.Steadiness

/-!
# Steady nodes

A node is steady if the texts it has in quotation marks have no line ends but line feeds, and the
names of modules in it, which are printed as they are, stay as they are. If nothing else in it has a
line end (`Node.Plain`), it is printed as a steady text exactly if it is steady, as a type
(`between_markerText`) or as an expression (`between_exprText`).
-/

namespace ElixirClient

open Text (FeedsOnly)

namespace Source

/-- The name of a module stays as it is where it is printed, in braces. -/
def SteadyName (name : String) : Prop := Steady ('\x7b' :: (name.toList ++ [',']))

instance (name : String) : Decidable (SteadyName name) :=
  inferInstanceAs (Decidable (Steady ('\x7b' :: (name.toList ++ [',']))))

theorem between_name (name : String) : Between name.toList (SteadyName name) :=
  between_framed name.toList

end Source

/-- If the value is a text, this has no line ends but line feeds. -/
@[simp] def Json.FeedsOnly : Json → Prop
  | .str text => Text.FeedsOnly text.toList
  | _ => True

instance : (value : Json) → Decidable value.FeedsOnly
  | .str text => inferInstanceAs (Decidable (Text.FeedsOnly text.toList))
  | .null | .bool _ | .int _ | .float _ | .arr _ | .obj _ => isTrue trivial

namespace Node

open Source (Inert SteadyName)

/-- The texts that the node itself prints in quotation marks have no line ends but line feeds, and a
module that it calls by name stays as it is. -/
@[simp] def QuietHere : Node → Prop
  | .moduleRef module => SteadyName module
  | .marker text | .tagged text _ => FeedsOnly text.toList
  | .atom value | .literal value => value.FeedsOnly
  | .selectKeys _ keys => ∀ key ∈ keys, key.FeedsOnly
  | .mapLiteral entries => ∀ entry ∈ entries, FeedsOnly entry.1.toList
  | .interpolation pieces => ∀ text, .text text ∈ pieces → FeedsOnly text.toList
  | _ => True

/-- What the node itself prints stays as it is. -/
@[simp] def SteadyHere (node : Node) : Prop :=
  node.QuietHere ∧ ∀ module, node = .named module → SteadyName module.plain

/-- What the node and all nodes below it print stays as it is. -/
def Steady (node : Node) : Prop := node.Throughout SteadyHere

/-- What the node itself prints without quotation marks, modules apart, is on one line. A map ends
with a variable. -/
def PlainHere : Node → Prop
  | .mapLiteral entries => ∃ front key name, entries = front ++ [(key, .var name)]
  | .var name | .attribute name | .call _ name _ | .assign name _ => Inert name.toList
  | .literal (.float x) => Inert x.text.toList
  | .interpolation pieces => ∀ name, .var name ∈ pieces → Inert name.toList
  | _ => True

/-- Variables, functions and module attributes have names without line ends. -/
def Plain (node : Node) : Prop := node.Throughout PlainHere

variable {node : Node}

/-- The modules of types are one thing, all other texts another. -/
theorem steady_iff : node.Steady ↔
    node.Throughout QuietHere ∧ ∀ module, node.Names module → SteadyName module.plain := by
  unfold Steady SteadyHere
  rw [throughout_and]
  refine and_congr_right' ⟨fun h module hmodule => h _ hmodule module rfl, ?_⟩
  rintro h part hpart module rfl
  exact h module hpart

/-- A type that describes data shows the names of its modules and nothing else. -/
theorem quiet_of_isType (h : node.IsType) (htags : node.Untagged) : node.Throughout QuietHere := by
  intro part hpart
  have htag := htags part hpart
  cases h.parts part hpart with
  | marker | tagged => cases htag
  | _ => trivial

end Node

namespace Source

variable {node : Node} {text : String}

/-! ## Types -/

theorem inert_scalarMarker {name : String} (h : name ∈ Node.scalarNames) :
    Inert (scalarMarker name).toList := by
  simp only [Node.scalarNames, List.mem_cons, List.not_mem_nil, or_false] at h
  rcases h with rfl | rfl | rfl | rfl | rfl | rfl
  all_goals decide

theorem toList_inBraces (s : String) : (inBraces s).toList = '\x7b' :: (s.toList ++ ['\x7d']) := by
  rw [inBraces, String.toList_append, String.toList_append]
  rfl

theorem between_inBraces {s : String} {P : Prop} (h : Between s.toList P) :
    Between (inBraces s).toList P := by
  rw [toList_inBraces]
  exact h.enclose (by decide) (by decide)

/-- Two texts around an operator, which may have more on either side of its sign. -/
theorem between_operator {s t operator : String} {P Q : Prop} {front behind : List Char} {sign : Char}
    (hoperator : operator.toList = front ++ sign :: behind) (hfront : Inert front)
    (hsign : Solid sign) (hbehind : Inert behind) (hs : Between s.toList P)
    (ht : Between t.toList Q) : Between (s ++ operator ++ t).toList (P ∧ Q) := by
  have htexts : (s ++ operator ++ t).toList = (s.toList ++ front) ++ sign :: (behind ++ t.toList) := by
    simp [hoperator]
  rw [htexts]
  exact (hs.pad_back hfront).append hsign (ht.pad_front hbehind)

/-- Two texts with a comma between them. -/
theorem between_comma {s t : String} {P Q : Prop} (hs : Between s.toList P)
    (ht : Between t.toList Q) : Between (s ++ ", " ++ t).toList (P ∧ Q) := by
  have hcomma : ", ".toList = [] ++ ',' :: [' '] := by decide
  exact between_operator hcomma (by decide) (by decide) (by decide) hs ht

theorem between_brackets {s : String} {P : Prop} (h : Between s.toList P) :
    Between ("[" ++ s ++ "]").toList P := by
  rw [String.toList_append, String.toList_append]
  exact h.enclose (a := '[') (b := ']') (by decide) (by decide)

/-- A text in brackets of any kind behind another one: the arguments of a call, or a key. -/
theorem between_bracketed {s t : String} {P Q : Prop} {a b : Char} (ha : Solid a) (hb : Solid b)
    (hs : Between s.toList P) (ht : Between t.toList Q) :
    Between (s ++ String.singleton a ++ t ++ String.singleton b).toList (P ∧ Q) := by
  have htexts : (s ++ String.singleton a ++ t ++ String.singleton b).toList =
      s.toList ++ a :: (t.toList ++ [b]) := by
    simp
  rw [htexts]
  exact (hs.append ha (ht.append hb between_nil)).congr (by simp)

theorem between_markerText (h : node.IsType) (htext : markerText node = .ok text) :
    Between text.toList node.Steady := by
  unfold Node.Steady
  induction h generalizing text with
  | scalar h =>
    rw [markerText] at htext
    cases htext
    exact (between_inert (inert_scalarMarker h)).congr (by simp)
  | map | options =>
    rw [markerText] at htext
    cases htext
    exact (between_inert (by decide)).congr (by simp)
  | named module =>
    rw [markerText] at htext
    cases htext
    have hrest : Inert ":t".toList := by decide
    have hname := between_comma (between_name module.plain) (between_inert hrest)
    rw [String.append_assoc] at hname
    exact (between_inBraces hname).congr (by simp)
  | marker tag =>
    rw [markerText] at htext
    cases htext
    exact (between_atom tag).congr (by simp)
  | sequence h ih =>
    rw [markerText] at htext
    obtain ⟨inner, hinner, htext⟩ := bind_eq_ok.mp htext
    cases htext
    exact (between_brackets (ih hinner)).congr (by simp)
  | tagged tag h ih =>
    rw [markerText] at htext
    obtain ⟨inner, hinner, htext⟩ := bind_eq_ok.mp htext
    cases htext
    have hboth := between_comma (between_atom tag) (ih hinner)
    exact (between_inBraces hboth).congr (by simp)
  | union h ih =>
    rw [markerText, markerTexts_eq] at htext
    obtain ⟨texts, htexts, htext⟩ := bind_eq_ok.mp htext
    cases htext
    have hfront : Inert ":union".toList := by decide
    -- the members are written one after the other, so their markers follow one another in a list
    have hmembers := between_commas (forall₂_of_mapM_eq_ok (fun x hx text => ih x hx) htexts)
    have hlist := between_comma (between_inert hfront) (between_brackets hmembers)
    have hassoc : ":union" ++ ", " ++ ("[" ++ ", ".intercalate texts ++ "]") =
        ":union, [" ++ ", ".intercalate texts ++ "]" := by
      simp [String.ext_iff]
    rw [hassoc] at hlist
    exact (between_inBraces hlist).congr (by simp)

/-! ## Parts of expressions -/

theorem between_stringLiteral (s : String) :
    Between (stringLiteral s).toList (FeedsOnly s.toList) := by
  rw [stringLiteral, String.toList_ofList]
  exact between_literalChars s.toList

theorem between_atomKey {s t : String} {P : Prop} (h : Between t.toList P) :
    Between (atomKey s ++ " " ++ t).toList (FeedsOnly s.toList ∧ P) := by
  have hblank : Inert " ".toList := by decide
  have htexts : (atomKey s ++ " " ++ t).toList =
      atomName s.toList ++ ':' :: (" ".toList ++ t.toList) := by
    rw [atomKey, String.toList_append, String.toList_append, String.toList_ofList, atomKeyChars]
    simp
  rw [htexts]
  exact (between_atomName s.toList).append (by decide) (h.pad_front hblank)

theorem between_literalText {value : Json} (h : value.IsSimple)
    (hplain : (Node.literal value).Plain) (htext : literalText value = .ok text) :
    Between text.toList (Node.literal value).Steady := by
  have hhere : (Node.literal value).PlainHere := (Node.throughout_leaf rfl).mp hplain
  cases value with
  | arr items => exact h.elim
  | obj members => exact h.elim
  | str s =>
    cases htext
    exact (between_stringLiteral s).congr (by simp [Node.Steady])
  | int n =>
    cases htext
    exact (between_inert (inert_toString n)).congr (by simp [Node.Steady])
  | float x =>
    cases htext
    exact (between_inert hhere).congr (by simp [Node.Steady])
  | null =>
    cases htext
    exact (between_inert (by decide)).congr (by simp [Node.Steady])
  | bool b =>
    cases htext
    refine (between_inert ?_).congr (by simp [Node.Steady])
    cases b <;> decide

/-- A pair in a keyword list is written without its braces. -/
theorem between_keyword {name : String} {value : Node} {item : String} {P : Prop}
    (hvalue : exprText value = .ok item)
    (h : ∀ text, exprText (.pair (.atom (.str name)) value) = .ok text → Between text.toList P) :
    Between (atomKey name ++ " " ++ item).toList P := by
  -- nothing is known of the value but what it adds to any frame, and it adds the same to both
  have hitem := between_name item
  have hpair := between_inBraces (between_comma (between_atom name) hitem)
  have htext : exprText (.pair (.atom (.str name)) value) =
      .ok (inBraces (atom name ++ ", " ++ item)) := by
    rw [exprText, exprText, hvalue]
    rfl
  exact (between_atomKey hitem).congr (hpair.unique (h _ htext))

theorem forall₂_of_keywordTexts {items : List Node} {Q : Node → Prop}
    (h : ∀ item ∈ items, ∀ text, exprText item = .ok text → Between text.toList (Q item))
    {texts : List String} (htexts : keywordTexts items = .ok texts) :
    List.Forall₂ (fun item text => Between text.toList (Q item)) items texts := by
  induction items generalizing texts with
  | nil =>
    rw [keywordTexts] at htexts
    cases htexts
    exact .nil
  | cons item rest ih =>
    obtain ⟨hitem, hrest⟩ := List.forall_mem_cons.mp h
    by_cases hkeyword : ∃ name value, item = .pair (.atom name) value
    · obtain ⟨name, value, rfl⟩ := hkeyword
      rw [keywordTexts] at htexts
      obtain ⟨key, hkey, htexts⟩ := bind_eq_ok.mp htexts
      obtain ⟨text, htext, htexts⟩ := bind_eq_ok.mp htexts
      obtain ⟨others, hothers, htexts⟩ := bind_eq_ok.mp htexts
      cases htexts
      cases name with
      | str name =>
        cases hkey
        exact .cons (between_keyword htext hitem) (ih hrest hothers)
      | _ => cases hkey
    · rw [keywordTexts] at htexts
      · obtain ⟨text, htext, htexts⟩ := bind_eq_ok.mp htexts
        obtain ⟨others, hothers, htexts⟩ := bind_eq_ok.mp htexts
        cases htexts
        exact .cons (hitem text htext) (ih hrest hothers)
      · exact fun name value hitem => hkeyword ⟨name, value, hitem⟩

theorem between_entry {key text : String} {P : Prop} (h : Between text.toList P) :
    Between ("\n".toList ++ ("  " ++ atomKey key ++ " " ++ text).toList)
      (FeedsOnly key.toList ∧ P) := by
  have hindent : Inert "  ".toList := by decide
  have htexts : "\n".toList ++ ("  " ++ atomKey key ++ " " ++ text).toList =
      '\n' :: ("  ".toList ++ (atomKey key ++ " " ++ text).toList) := by
    simp
  -- a key is never blank, so the line that it begins is indented
  obtain ⟨z, name, hz, hname⟩ := exists_atomName key.toList
  have hkey : (atomKey key ++ " " ++ text).toList = z :: (name ++ ':' :: ' ' :: text.toList) := by
    simp [atomKey, atomKeyChars, hname]
  have hspeaks : speaks ("  ".toList ++ (atomKey key ++ " " ++ text).toList) = true := by
    rw [hkey]
    exact speaks_append_cons hindent hz _
  rw [htexts]
  exact (((between_atomKey h).pad_front hindent).on_new_line hspeaks).1

theorem settles_entry {key name : String} (hname : Inert name.toList) :
    Settles ("  " ++ atomKey key ++ " " ++ name).toList := by
  refine ⟨' ' :: ' ' :: atomName key.toList, ':', ' ' :: name.toList, by decide, ?_, ?_⟩
  · exact List.forall_mem_cons.mpr ⟨by decide, hname⟩
  · simp [atomKey, atomKeyChars]

theorem settles_intercalate {text : String} (h : Settles text.toList) (sep : String)
    (texts : List String) : Settles (sep.intercalate (texts ++ [text])).toList := by
  by_cases htexts : texts = []
  · rwa [htexts, List.nil_append, String.intercalate_singleton]
  · rw [String.intercalate_append_of_ne_nil htexts (List.cons_ne_nil _ _),
      String.intercalate_singleton, String.toList_append]
    exact h.append _

/-- The entries of a map, the last of them for a variable, between its braces. -/
theorem between_mapText {entries : List (String × Node)} {Q : String × Node → Prop}
    {texts : List String} {text : String} (hsettles : Settles text.toList)
    (h : List.Forall₂ (fun entry text => Between ("\n".toList ++ text.toList) (Q entry))
      entries (texts ++ [text])) :
    Between (mapText (texts ++ [text])).toList (∀ entry ∈ entries, Q entry) := by
  have hfeed : Between "\n".toList True := (between_feed (List.forall_mem_nil _)).1
  have hentries := between_intercalate "\n" hfeed h
  -- behind the last mark of the last entry no line ends but by the feed before the brace
  have hall := hentries.append_of_settles ((settles_intercalate hsettles _ texts).append _) hfeed
  have hbraces := between_nil.append (z := '%') (by decide)
    (hall.enclose (a := '\x7b') (b := '\x7d') (by decide) (by decide))
  have htext : (mapText (texts ++ [text])).toList = [] ++ '%' :: '\x7b' ::
      (("\n".toList ++ (("," ++ "\n").intercalate (texts ++ [text])).toList ++ "\n".toList) ++
        ['\x7d']) := by
    have hne : texts ++ [text] ≠ [] := by simp
    cases hcons : texts ++ [text] with
    | nil => exact absurd hcons hne
    | cons first rest =>
      rw [mapText]
      · simp
      · simp
  rw [htext]
  exact hbraces.congr (by simp)

/-- The options under the given keys. -/
theorem between_selectKeys {source : Node} {keys : List Json} {P : Prop}
    (hkeys : ∀ key ∈ keys, ∃ name, key = .str name)
    (h : ∀ text, exprText source = .ok text → Between text.toList P)
    (htext : exprText (.selectKeys source keys) = .ok text) :
    Between text.toList (P ∧ ∀ key ∈ keys, key.FeedsOnly) := by
  rw [exprText] at htext
  obtain ⟨keyTexts, hkeyTexts, htext⟩ := bind_eq_ok.mp htext
  obtain ⟨inner, hinner, htext⟩ := bind_eq_ok.mp htext
  cases htext
  have hkey : ∀ key ∈ keys, ∀ text, atomText key = .ok text →
      Between text.toList key.FeedsOnly := by
    intro key hkey text htext
    obtain ⟨name, rfl⟩ := hkeys key hkey
    cases htext
    exact between_atom name
  have hfront : Inert "Keyword.take".toList := by decide
  have hlist := between_brackets (between_commas (forall₂_of_mapM_eq_ok hkey hkeyTexts))
  have hcall := between_bracketed (a := '(') (b := ')') (by decide) (by decide)
    (between_inert hfront) (between_comma (h inner hinner) hlist)
  have htext : "Keyword.take" ++ String.singleton '(' ++
      (inner ++ ", " ++ ("[" ++ ", ".intercalate keyTexts ++ "]")) ++ String.singleton ')' =
        "Keyword.take(" ++ inner ++ ", [" ++ ", ".intercalate keyTexts ++ "])" := by
    simp [String.ext_iff]
  rw [htext] at hcall
  exact hcall.congr (by simp)

/-- A list is steady if its items are, whether it is a keyword list or not. -/
theorem between_list {items : List Node} {Q : Node → Prop}
    (h : ∀ item ∈ items, ∀ text, exprText item = .ok text → Between text.toList (Q item))
    (htext : exprText (.list items) = .ok text) : Between text.toList (∀ item ∈ items, Q item) := by
  rw [exprText] at htext
  split at htext
  · obtain ⟨texts, htexts, htext⟩ := bind_eq_ok.mp htext
    cases htext
    exact between_brackets (between_commas (forall₂_of_keywordTexts h htexts))
  · rw [exprTexts_eq] at htext
    obtain ⟨texts, htexts, htext⟩ := bind_eq_ok.mp htext
    cases htext
    exact between_brackets (between_commas (forall₂_of_mapM_eq_ok h htexts))

theorem between_mapLiteral {front : List (String × Node)} {key name : String} {Q : Node → Prop}
    (hname : Inert name.toList)
    (h : ∀ entry ∈ front ++ [(key, .var name)], ∀ text, exprText entry.2 = .ok text →
      Between text.toList (Q entry.2))
    (htext : exprText (.mapLiteral (front ++ [(key, .var name)])) = .ok text) :
    Between text.toList (∀ entry ∈ front ++ [(key, .var name)],
      FeedsOnly entry.1.toList ∧ Q entry.2) := by
  rw [exprText, entryTexts_eq] at htext
  obtain ⟨texts, htexts, htext⟩ := bind_eq_ok.mp htext
  cases htext
  have hentry : ∀ entry ∈ front ++ [(key, .var name)], ∀ text, entryText entry = .ok text →
      Between ("\n".toList ++ text.toList) (FeedsOnly entry.1.toList ∧ Q entry.2) := by
    intro entry hmem text htext
    obtain ⟨value, hvalue, htext⟩ := bind_eq_ok.mp htext
    cases htext
    exact between_entry (h entry hmem value hvalue)
  have hrows := forall₂_of_mapM_eq_ok hentry htexts
  obtain ⟨row, hrow, rfl⟩ := mapM_eq_ok.mp htexts
  rw [List.map_append, List.map_singleton] at hrows ⊢
  -- the line feed before the closing brace is no matter, since a variable has no line end
  refine between_mapText ?_ hrows
  have hlast := hrow (key, .var name) (by simp)
  rw [entryText, exprText] at hlast
  rw [← Except.ok.inj hlast]
  exact settles_entry hname

/-- A call: the function behind the target, and the arguments in parentheses. -/
theorem between_call {target : Node} {function : String} {args : List Node} {P : Prop}
    {Q : Node → Prop} (hfunction : Inert function.toList)
    (htarget : ∀ text, exprText target = .ok text → Between text.toList P)
    (hargs : ∀ arg ∈ args, ∀ text, exprText arg = .ok text → Between text.toList (Q arg))
    (htext : exprText (.call target function args) = .ok text) :
    Between text.toList ((P ∧ True) ∧ ∀ arg ∈ args, Q arg) := by
  rw [exprText] at htext
  obtain ⟨argTexts, hargTexts, htext⟩ := bind_eq_ok.mp htext
  obtain ⟨targetText, htargetText, htext⟩ := bind_eq_ok.mp htext
  cases htext
  rw [exprTexts_eq] at hargTexts
  have hdot : ".".toList = [] ++ '.' :: [] := by decide
  have hfront : Between (targetText ++ "." ++ function).toList _ :=
    between_operator hdot (by decide) (by decide) (by decide) (htarget targetText htargetText)
      (between_inert hfunction)
  have hlist := between_commas (forall₂_of_mapM_eq_ok hargs hargTexts)
  exact between_bracketed (a := '(') (b := ')') (by decide) (by decide) hfront hlist

/-! ## Expressions -/

theorem between_exprText (h : node.IsExpr) (hplain : node.Plain)
    (htext : exprText node = .ok text) : Between text.toList node.Steady := by
  unfold Node.Plain at hplain
  unfold Node.Steady
  induction h generalizing text with
  | var name =>
    rw [exprText] at htext
    cases htext
    -- a name is written as it is, so it must not end a line
    have hname : Inert name.toList := (Node.throughout_leaf rfl).mp hplain
    exact (between_inert hname).congr (by simp)
  | atom name =>
    rw [exprText] at htext
    cases htext
    exact (between_atom name).congr (by simp)
  | literal hvalue =>
    rw [exprText] at htext
    exact between_literalText hvalue hplain htext
  | moduleRef module =>
    rw [exprText] at htext
    cases htext
    exact (between_name module).congr (by simp)
  | moduleAttribute name =>
    rw [exprText] at htext
    cases htext
    have hname : Inert ("@" ++ name).toList := by
      rw [String.toList_append, inert_append]
      exact ⟨by decide, (Node.throughout_leaf rfl).mp hplain⟩
    exact (between_inert hname).congr (by simp)
  | interpolation pieces =>
    rw [exprText] at htext
    cases htext
    have hnames : (Node.interpolation pieces).PlainHere :=
      (Node.throughout_leaf rfl).mp hplain
    exact (between_interpolationText hnames).congr (by simp)
  | typeValue htype =>
    rw [exprText] at htext
    exact (between_markerText htype htext).congr (by simp [Node.Steady])
  | access hsubject hkey ihsubject ihkey =>
    rw [Node.throughout_access] at hplain
    rw [exprText] at htext
    obtain ⟨subject, hsubject, htext⟩ := bind_eq_ok.mp htext
    obtain ⟨key, hkey, htext⟩ := bind_eq_ok.mp htext
    cases htext
    -- the operands by induction, each between marks, which the brackets are for the other one
    have hboth := between_bracketed (a := '[') (b := ']') (by decide) (by decide)
      (ihsubject hplain.2.1 hsubject) (ihkey hplain.2.2 hkey)
    exact hboth.congr (by simp)
  | fallback hprimary halternative ihprimary ihalternative =>
    rw [Node.throughout_fallback] at hplain
    rw [exprText] at htext
    obtain ⟨primary, hprimary, htext⟩ := bind_eq_ok.mp htext
    obtain ⟨alternative, halternative, htext⟩ := bind_eq_ok.mp htext
    cases htext
    have hbars : " || ".toList = [' ', '|'] ++ '|' :: [' '] := by decide
    have hboth := between_operator hbars (by decide) (by decide) (by decide)
      (ihprimary hplain.2.1 hprimary) (ihalternative hplain.2.2 halternative)
    exact hboth.congr (by simp)
  | selectKeys hsource hkeys ih =>
    rw [Node.throughout_selectKeys] at hplain
    have hselect := between_selectKeys hkeys (fun text htext => ih hplain.2 htext) htext
    exact hselect.congr (by simp [and_comm])
  | pair hkey hvalue ihkey ihvalue =>
    rw [Node.throughout_pair] at hplain
    rw [exprText] at htext
    obtain ⟨key, hkey, htext⟩ := bind_eq_ok.mp htext
    obtain ⟨value, hvalue, htext⟩ := bind_eq_ok.mp htext
    cases htext
    have hboth := between_comma (ihkey hplain.2.1 hkey) (ihvalue hplain.2.2 hvalue)
    exact (between_inBraces hboth).congr (by simp)
  | list h ih =>
    rw [Node.throughout_list] at hplain
    have hlist := between_list (fun item hmem text htext => ih item hmem (hplain.2 item hmem) htext)
      htext
    exact hlist.congr (by simp)
  | mapLiteral h ih =>
    rw [Node.throughout_mapLiteral] at hplain
    obtain ⟨⟨front, key, name, rfl⟩, hvalues⟩ := hplain
    have hname : Inert name.toList :=
      (Node.throughout_leaf rfl).mp (hvalues (key, .var name) (by simp))
    have hmap := between_mapLiteral hname
      (fun entry hmem text htext => ih entry hmem (hvalues entry hmem) htext) htext
    exact hmap.congr (by simp only [Node.throughout_mapLiteral, Node.SteadyHere]; simp [forall_and])
  | call function htarget hargs ihtarget ihargs =>
    rw [Node.throughout_call] at hplain
    have hcall := between_call hplain.1 (fun text htext => ihtarget hplain.2.1 htext)
      (fun arg hmem text htext => ihargs arg hmem (hplain.2.2 arg hmem) htext) htext
    exact hcall.congr (by simp)
  | assign target h ih =>
    rw [Node.throughout_assign] at hplain
    rw [exprText] at htext
    obtain ⟨value, hvalue, htext⟩ := bind_eq_ok.mp htext
    cases htext
    have hsign : " = ".toList = [' '] ++ '=' :: [' '] := by decide
    have hboth := between_operator hsign (by decide) (by decide) (by decide)
      (between_inert hplain.1) (ih hplain.2 hvalue)
    exact hboth.congr (by simp)

/-! ## Bodies -/

theorem bodyText_cons (first second third : String) (rest : List String) :
    bodyText (first :: second :: third :: rest) =
      first ++ "\n" ++ bodyText (second :: third :: rest) := by
  simp [bodyText, String.intercalate_cons_cons, String.append_assoc]

/-- Statements that begin and end with marks. -/
theorem between_bodyText {nodes : List Node} {texts : List String} {Q : Node → Prop}
    (h : List.Forall₂ (fun node text => Between text.toList (Q node)) nodes texts)
    (hframed : ∀ text ∈ texts, Framed text.toList) :
    Framed (bodyText texts).toList ∧ Between (bodyText texts).toList (∀ node ∈ nodes, Q node) := by
  induction h with
  | nil =>
    have hnil : Inert "nil".toList := by decide
    exact ⟨⟨'n', ['i'], 'l', by decide, by decide, rfl⟩, (between_inert hnil).congr (by simp)⟩
  | @cons node text nodes texts hfirst hrest ih =>
    obtain ⟨htext, htexts⟩ := List.forall_mem_cons.mp hframed
    cases hrest with
    | nil => exact ⟨htext, hfirst.congr (by simp)⟩
    | @cons node' text' nodes texts hsecond hrest =>
      obtain ⟨hbody, hbetween⟩ := ih htexts
      obtain ⟨hline, hlines⟩ := hbetween.on_new_line hbody.speaks
      cases texts with
      | nil =>
        -- the last statement comes after an empty line
        have hlast : (bodyText [text, text']).toList =
            text.toList ++ '\n' :: '\n' :: text'.toList := by
          simp [bodyText]
        rw [hlast]
        exact ⟨htext.append hbody ['\n', '\n'],
          (hfirst.append_of_settles htext.settles hlines).congr List.forall_mem_cons.symm⟩
      | cons text'' texts =>
        have hmore : (bodyText (text :: text' :: text'' :: texts)).toList =
            text.toList ++ '\n' :: (bodyText (text' :: text'' :: texts)).toList := by
          rw [bodyText_cons]
          simp
        rw [hmore]
        exact ⟨htext.append hbody ['\n'],
          (hfirst.append_of_settles htext.settles hline).congr List.forall_mem_cons.symm⟩

/-- Outdenting takes back what indenting does to the body of a function exactly if its statements
are steady. -/
theorem outdent_bodyText_iff {nodes : List Node} {texts : List String}
    (hexpr : ∀ node ∈ nodes, node.IsExpr) (hplain : ∀ node ∈ nodes, node.Plain)
    (htexts : exprTexts nodes = .ok texts) (hframed : ∀ text ∈ texts, Framed text.toList) :
    outdent (indentLines (bodyText texts).toList) = (bodyText texts).toList ↔
      ∀ node ∈ nodes, node.Steady := by
  rw [exprTexts_eq] at htexts
  have hrows := forall₂_of_mapM_eq_ok (fun node hnode text htext =>
    between_exprText (hexpr node hnode) (hplain node hnode) htext) htexts
  obtain ⟨hbody, hbetween⟩ := between_bodyText hrows hframed
  exact (outdent_indentLines_iff _).trans (hbody.steady_iff hbetween)

end Source

end ElixirClient
