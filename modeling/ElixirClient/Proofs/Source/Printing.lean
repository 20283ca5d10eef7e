import ElixirClient.Proofs.Fault.Loops
import ElixirClient.Proofs.Json.Sorting
import ElixirClient.Proofs.Node.Kinds
import ElixirClient.Source.Definition

/-!
# What can be written

Writing fails on a node of the wrong family, on an atom that is not called by text and on a literal
that is made of other values. None of these stands in a tree of types or of expressions: a type is
written in both of its forms (`WritesTypes.exists_text`), an expression is written
(`exists_exprText`), and so are the definitions that are made of them. `Prints` says of a node that
it is written in the forms of its own family.
-/

namespace ElixirClient

/-- Whether the node is one of those that describe types. -/
def Node.describesType : Node → Bool
  | .scalar _ | .sequence _ | .map | .named _ | .options | .union _ | .marker _ | .tagged _ _ => true
  | _ => false

namespace Source

variable {node : Node} {nodes : List Node}

/-! ## Lists of nodes -/

theorem typeTexts_eq (nodes : List Node) : typeTexts nodes = nodes.mapM typeText :=
  eq_mapM (by rw [typeTexts]) (fun _ _ => by rw [typeTexts]) nodes

theorem markerTexts_eq (nodes : List Node) : markerTexts nodes = nodes.mapM markerText :=
  eq_mapM (by rw [markerTexts]) (fun _ _ => by rw [markerTexts]) nodes

theorem exprTexts_eq (nodes : List Node) : exprTexts nodes = nodes.mapM exprText :=
  eq_mapM (by rw [exprTexts]) (fun _ _ => by rw [exprTexts]) nodes

/-- The characters of a text that could be written. -/
def written : Except Fault String → List Char
  | .ok text => text.toList
  | .error _ => []

/-- Nodes that can be written are written in a row. -/
theorem mapM_written {write : Node → Except Fault String}
    (h : ∀ node ∈ nodes, ∃ text, write node = .ok text) :
    nodes.mapM write = .ok (nodes.map fun node => String.ofList (written (write node))) := by
  refine mapM_of_forall fun node hnode => ?_
  obtain ⟨text, htext⟩ := h node hnode
  rw [htext, written, String.ofList_toList]

/-- An entry of a map on a line of its own. -/
def entryText (entry : String × Node) : Except Fault String := do
  let text ← exprText entry.2
  return "  " ++ atomKey entry.1 ++ " " ++ text

theorem entryTexts_eq (entries : List (String × Node)) :
    entryTexts entries = entries.mapM entryText := by
  refine eq_mapM (by rw [entryTexts]) (fun entry rest => ?_) entries
  rw [entryTexts, entryText]
  cases exprText entry.2 <;> rfl

theorem exists_entryTexts {entries : List (String × Node)}
    (h : ∀ entry ∈ entries, ∃ text, exprText entry.2 = .ok text) :
    ∃ texts, entryTexts entries = .ok texts := by
  rw [entryTexts_eq]
  refine exists_mapM_eq_ok fun entry hentry => ?_
  obtain ⟨text, htext⟩ := h entry hentry
  rw [entryText, htext]
  exact ⟨_, rfl⟩

/-- Items that are written as expressions can be written as a keyword list. -/
theorem exists_keywordTexts (h : ∀ node ∈ nodes, ∃ text, exprText node = .ok text) :
    ∃ texts, keywordTexts nodes = .ok texts := by
  induction nodes with
  | nil => exact ⟨[], by rw [keywordTexts]⟩
  | cons node rest ih =>
    obtain ⟨text, htext⟩ := h node List.mem_cons_self
    obtain ⟨texts, htexts⟩ := ih fun other hother => h other (List.mem_cons_of_mem node hother)
    by_cases hkeyword : ∃ name value, node = .pair (.atom name) value
    · obtain ⟨name, value, rfl⟩ := hkeyword
      -- a pair is written from its key and its value, so both of them can be written
      rw [exprText] at htext
      obtain ⟨key, hkey, htext⟩ := bind_eq_ok.mp htext
      obtain ⟨item, hitem, _⟩ := bind_eq_ok.mp htext
      rw [exprText] at hkey
      cases name with
      | str name =>
        rw [keywordTexts, hitem, htexts]
        exact ⟨_, rfl⟩
      | _ => cases hkey
    · rw [keywordTexts, htext, htexts]
      · exact ⟨_, rfl⟩
      · exact fun name value hnode => hkeyword ⟨name, value, hnode⟩

/-! ## Types -/

/-- What the two forms of a type have in common: a type with nothing below it is written as a word,
any other one from the texts of the types below, and what is no type is refused. -/
structure WritesTypes (write : Node → Except Fault String) : Prop where
  word {node : Node} : node.describesType → node.isLeaf → ∃ text, write node = .ok text
  sequence (item : Node) : ∃ frame : String → String, write (.sequence item) = frame <$> write item
  tagged (tag : String) (payload : Node) : ∃ frame : String → String,
    write (.tagged tag payload) = frame <$> write payload
  union (members : List Node) : ∃ frame : List String → String,
    write (.union members) = frame <$> members.mapM write
  other {node : Node} : node.describesType = false → write node = .error (.notType node)

theorem writesTypes_typeText : WritesTypes typeText where
  word {node} hdescribes hleaf := by
    cases node with
    | scalar | map | named | options | marker => exact ⟨_, rfl⟩
    | sequence | union | tagged => cases hleaf
    | _ => cases hdescribes
  sequence item := ⟨fun text => "[" ++ text ++ "]", by rw [typeText, ← bind_pure_comp]⟩
  tagged tag payload := ⟨fun text => inBraces (atom tag ++ ", " ++ text),
    by rw [typeText, ← bind_pure_comp]⟩
  union members := ⟨fun texts => " | ".intercalate texts,
    by rw [typeText, typeTexts_eq, ← bind_pure_comp]⟩
  other {node} h := by
    cases node with
    | scalar | map | named | options | marker | sequence | union | tagged => cases h
    | _ => rfl

theorem writesTypes_markerText : WritesTypes markerText where
  word {node} hdescribes hleaf := by
    cases node with
    | scalar | map | named | options | marker => exact ⟨_, rfl⟩
    | sequence | union | tagged => cases hleaf
    | _ => cases hdescribes
  sequence item := ⟨fun text => "[" ++ text ++ "]", by rw [markerText, ← bind_pure_comp]⟩
  tagged tag payload := ⟨fun text => inBraces (atom tag ++ ", " ++ text),
    by rw [markerText, ← bind_pure_comp]⟩
  union members := ⟨fun texts => inBraces (":union, [" ++ ", ".intercalate texts ++ "]"),
    by rw [markerText, markerTexts_eq, ← bind_pure_comp]⟩
  other {node} h := by
    cases node with
    | scalar | map | named | options | marker | sequence | union | tagged => cases h
    | _ => rfl

/-- Types are written in either form: nothing in them can fail. -/
theorem WritesTypes.exists_text {write : Node → Except Fault String} (hwrite : WritesTypes write)
    (h : node.IsType) : ∃ text, write node = .ok text := by
  induction h with
  | scalar _ | map | named _ | options | marker _ => exact hwrite.word rfl rfl
  | sequence _ ih =>
    obtain ⟨text, htext⟩ := ih
    obtain ⟨frame, hframe⟩ := hwrite.sequence _
    exact ⟨frame text, hframe.trans (congrArg (frame <$> ·) htext)⟩
  | tagged tag _ ih =>
    obtain ⟨text, htext⟩ := ih
    obtain ⟨frame, hframe⟩ := hwrite.tagged tag _
    exact ⟨frame text, hframe.trans (congrArg (frame <$> ·) htext)⟩
  | union _ ih =>
    obtain ⟨texts, htexts⟩ := exists_mapM_eq_ok ih
    obtain ⟨frame, hframe⟩ := hwrite.union _
    exact ⟨frame texts, hframe.trans (congrArg (frame <$> ·) htexts)⟩

/-! ## Expressions -/

/-- Literals are written unless they hold other values. -/
theorem exists_literalText {value : Json} (h : value.IsSimple) :
    ∃ text, literalText value = .ok text := by
  cases value with
  | arr items => exact h.elim
  | obj members => exact h.elim
  | _ => exact ⟨_, rfl⟩

/-- An expression is written once its keywords, its entries and the types in it are. -/
theorem exists_exprText (h : node.IsExpr) : ∃ text, exprText node = .ok text := by
  induction h with
  | var _ | moduleRef _ | moduleAttribute _ | interpolation _ =>
    rw [exprText]
    exact ⟨_, rfl⟩
  | atom name =>
    rw [exprText]
    exact ⟨_, rfl⟩
  | literal hvalue =>
    rw [exprText]
    exact exists_literalText hvalue
  | typeValue htype =>
    rw [exprText]
    exact writesTypes_markerText.exists_text htype
  | access _ _ ihfirst ihsecond | fallback _ _ ihfirst ihsecond | pair _ _ ihfirst ihsecond =>
    obtain ⟨first, hfirst⟩ := ihfirst
    obtain ⟨second, hsecond⟩ := ihsecond
    rw [exprText, hfirst, hsecond]
    exact ⟨_, rfl⟩
  | selectKeys _ hkeys ih =>
    obtain ⟨source, hsource⟩ := ih
    obtain ⟨keys, htexts⟩ : ∃ texts, _ = Except.ok texts := exists_mapM_eq_ok (f := atomText)
      fun key hkey => by
        obtain ⟨text, rfl⟩ := hkeys key hkey
        exact ⟨_, rfl⟩
    rw [exprText, htexts, hsource]
    exact ⟨_, rfl⟩
  | list _ ih =>
    rw [exprText]
    -- the items of a keyword list are written in parts, those of any other list as they are
    split
    · obtain ⟨texts, htexts⟩ := exists_keywordTexts ih
      rw [htexts]
      exact ⟨_, rfl⟩
    · obtain ⟨texts, htexts⟩ := exists_mapM_eq_ok ih
      rw [exprTexts_eq, htexts]
      exact ⟨_, rfl⟩
  | mapLiteral _ ih =>
    obtain ⟨texts, htexts⟩ := exists_entryTexts ih
    rw [exprText, htexts]
    exact ⟨_, rfl⟩
  | call _ _ _ ihtarget ihargs =>
    obtain ⟨target, htarget⟩ := ihtarget
    obtain ⟨args, hargs⟩ := exists_mapM_eq_ok ihargs
    rw [exprText, exprTexts_eq, hargs, htarget]
    exact ⟨_, rfl⟩
  | assign _ _ ih =>
    obtain ⟨value, hvalue⟩ := ih
    rw [exprText, hvalue]
    exact ⟨_, rfl⟩

/-- The node is written as what it is: a type as a type and as a marker, any other node as an
expression. -/
def Prints (node : Node) : Prop :=
  if node.describesType then
    (∃ text, typeText node = .ok text) ∧ ∃ text, markerText node = .ok text
  else ∃ text, exprText node = .ok text

/-- A node that describes a type is printed as a type, as no expression describes one. -/
theorem prints_of_isType (h : node.IsType) : Prints node := by
  have hfamily : node.describesType = true := by
    cases h <;> rfl
  rw [Prints, if_pos hfamily]
  exact ⟨writesTypes_typeText.exists_text h, writesTypes_markerText.exists_text h⟩

theorem prints_of_isExpr (h : node.IsExpr) : Prints node := by
  have hfamily : ¬ node.describesType = true := by
    cases h <;> exact Bool.false_ne_true
  rw [Prints, if_neg hfamily]
  exact exists_exprText h

/-! ## Definitions -/

theorem exists_documentation {doc : Doc} (h : doc.text.IsText) (name : String) :
    ∃ text, documentation name doc = .ok text := by
  obtain ⟨text, htext⟩ := h
  rw [documentation, htext]
  exact ⟨_, rfl⟩

theorem exists_specText {signature : Signature}
    (harguments : ∀ node ∈ signature.arguments, node.IsType)
    (hreturn : signature.returnType.IsType) : ∃ text, specText signature = .ok text := by
  obtain ⟨arguments, hargumentTexts⟩ :=
    exists_mapM_eq_ok fun node hnode => writesTypes_typeText.exists_text (harguments node hnode)
  obtain ⟨text, htext⟩ := writesTypes_typeText.exists_text hreturn
  rw [specText, typeTexts_eq, hargumentTexts, htext]
  exact ⟨_, rfl⟩

/-- A function is written if its defaults and its statements are expressions. -/
theorem exists_functionText {function : Function}
    (hdefaults : ∀ node ∈ function.arguments.filterMap Argument.default, node.IsExpr)
    (hbody : ∀ node ∈ function.body, node.IsExpr) : ∃ text, functionText function = .ok text := by
  have hargument : ∀ argument ∈ function.arguments, ∃ text, argumentText argument = .ok text := by
    intro argument hmem
    unfold argumentText
    -- only a default has to be written, the name of an argument stands for itself
    cases hdefault : argument.default with
    | none => exact ⟨_, rfl⟩
    | some node =>
      obtain ⟨text, htext⟩ :=
        exists_exprText (hdefaults node (List.mem_filterMap.mpr ⟨argument, hmem, hdefault⟩))
      simp only [htext]
      exact ⟨_, rfl⟩
  obtain ⟨arguments, harguments⟩ := exists_mapM_eq_ok hargument
  obtain ⟨body, hstatements⟩ :=
    exists_mapM_eq_ok fun node hnode => exists_exprText (hbody node hnode)
  rw [functionText, harguments, exprTexts_eq, hstatements]
  exact ⟨_, rfl⟩

end Source

end ElixirClient
