import ElixirClient.Proofs.Fault.Confined
import ElixirClient.Proofs.Source.Printing

/-!
# What writing can come upon

A node of the wrong family and a value that is no text are all that can keep a tree from being
written down (`WritesTypes.confined`, `confined_exprText`), and so it is with the definitions that are
made of trees. None of these faults is one that a run reports.
-/

namespace ElixirClient

/-- A node or a value that has no text, or a place that cannot be written. -/
inductive Fault.Unwritable : Fault → Prop
  | type (node : Node) : Unwritable (.notType node)
  | expression (node : Node) : Unwritable (.notExpression node)
  | value (cause : Misuse) : Unwritable (.misuse cause)
  | place {cause : FileFault} : (∀ path, cause ≠ .missing path) → Unwritable (.file cause)

namespace Source

open Fault (Unwritable)

/-! ## Types -/

section WritesTypes

variable {write : Node → Except Fault String} (hwrite : WritesTypes write) {node : Node}

include hwrite

/-- Words need nothing to be written. -/
theorem WritesTypes.confined_word (htype : node.describesType) (hleaf : node.isLeaf) :
    Confined Unwritable (write node) := by
  obtain ⟨text, htext⟩ := hwrite.word htype hleaf
  rw [htext]
  exact .ok text

theorem WritesTypes.confined_other (htype : node.describesType = false) :
    Confined Unwritable (write node) := by
  rw [hwrite.other htype]
  exact .error (.type node)

/-- A type is written by its constructor, and what is no type is refused as such. Types hold no
values that could be without a text. -/
theorem WritesTypes.confined : (node : Node) → Confined Unwritable (write node)
  | .scalar _ | .map | .named _ | .options | .marker _ => hwrite.confined_word rfl rfl
  | .sequence item => by
    obtain ⟨frame, hframe⟩ := hwrite.sequence item
    rw [hframe]
    exact (WritesTypes.confined item).map frame
  | .tagged tag payload => by
    obtain ⟨frame, hframe⟩ := hwrite.tagged tag payload
    rw [hframe]
    exact (WritesTypes.confined payload).map frame
  | .union members => by
    obtain ⟨frame, hframe⟩ := hwrite.union members
    rw [hframe]
    exact (Confined.mapM fun member _ => WritesTypes.confined member).map frame
  | .var _ | .atom _ | .literal _ | .moduleRef _ | .attribute _ | .typeValue _ | .access _ _
  | .fallback _ _ | .selectKeys _ _ | .pair _ _ | .list _ | .mapLiteral _ | .interpolation _
  | .call _ _ _ | .assign _ _ | .stray _ => hwrite.confined_other rfl

end WritesTypes

/-! ## Expressions -/

/-- An atom may have any value as its name until it is written; only texts can be. -/
theorem confined_atomText (name : Json) : Confined Unwritable (atomText name) := by
  cases name with
  | str _ => exact .ok _
  | _ => exact .error (.value _)

theorem confined_atomKeyText (name : Json) : Confined Unwritable (atomKeyText name) := by
  cases name with
  | str _ => exact .ok _
  | _ => exact .error (.value _)

/-- Lists and objects are not written as literals. -/
theorem confined_literalText (value : Json) : Confined Unwritable (literalText value) := by
  cases value with
  | arr _ | obj _ => exact .error (.value _)
  | _ => exact .ok _

/-- What is known of single nodes is known of lists of them. -/
theorem confined_exprTexts {nodes : List Node}
    (h : ∀ node ∈ nodes, Confined Unwritable (exprText node)) :
    Confined Unwritable (exprTexts nodes) := by
  rw [exprTexts_eq]
  exact .mapM h

/-- A keyword is written as its pair would be: if its key has a text, what is left is the value. -/
theorem confined_keywordTexts {nodes : List Node}
    (h : ∀ node ∈ nodes, Confined Unwritable (exprText node)) :
    Confined Unwritable (keywordTexts nodes) := by
  induction nodes with
  | nil => exact .ok []
  | cons node rest ih =>
    rw [List.forall_mem_cons] at h
    have hrest := ih h.2
    -- a pair that begins with an atom is written as a keyword, any other item as it is
    by_cases hkeyword : ∃ name value, node = .pair (.atom name) value
    · obtain ⟨name, value, rfl⟩ := hkeyword
      rw [keywordTexts]
      refine (confined_atomKeyText name).bind fun key hkey => ?_
      -- the pair has the fault of its value, so the fault is one that is known
      refine Confined.bind (fun fault hfault => h.1 fault ?_) fun _ _ => ?_
      · cases name with
        | str name =>
          rw [exprText, exprText, hfault]
          rfl
        | _ => cases hkey
      · exact hrest.bind fun _ _ => .ok _
    · rw [keywordTexts]
      · exact h.1.bind fun _ _ => hrest.bind fun _ _ => .ok _
      · exact fun name value hnode => hkeyword ⟨name, value, hnode⟩

/-- The key of an entry is a text anyway, so only its value can have none. -/
theorem confined_entryTexts {entries : List (String × Node)}
    (h : ∀ entry ∈ entries, Confined Unwritable (exprText entry.2)) :
    Confined Unwritable (entryTexts entries) := by
  induction entries with
  | nil => exact .ok []
  | cons entry rest ih =>
    rw [List.forall_mem_cons] at h
    rw [entryTexts]
    exact h.1.bind fun _ _ => (ih h.2).bind fun _ _ => .ok _

mutual
/-- An expression is written by its constructor, and what is no expression is refused as such. Here
a value may be without a text: the name of an atom, or a literal. -/
theorem confined_exprText : (node : Node) → Confined Unwritable (exprText node)
  | .var _ | .moduleRef _ | .attribute _ | .interpolation _ => by
    rw [exprText]
    exact .ok _
  | .atom name => by
    rw [exprText]
    exact confined_atomText name
  | .literal value => by
    rw [exprText]
    exact confined_literalText value
  | .typeValue type => by
    rw [exprText]
    exact writesTypes_markerText.confined type
  | .access subject key => by
    rw [exprText]
    refine (confined_exprText subject).bind fun _ _ => ?_
    exact (confined_exprText key).bind fun _ _ => .ok _
  | .fallback primary alternative => by
    rw [exprText]
    refine (confined_exprText primary).bind fun _ _ => ?_
    exact (confined_exprText alternative).bind fun _ _ => .ok _
  | .selectKeys source keys => by
    rw [exprText]
    refine (Confined.mapM fun key _ => confined_atomText key).bind fun _ _ => ?_
    exact (confined_exprText source).bind fun _ _ => .ok _
  | .pair key value => by
    rw [exprText]
    refine (confined_exprText key).bind fun _ _ => ?_
    exact (confined_exprText value).bind fun _ _ => .ok _
  | .list items => by
    rw [exprText]
    -- a list of keywords, or of anything else
    split
    · exact (confined_keywordTexts (confined_exprs items)).bind fun _ _ => .ok _
    · exact (confined_exprTexts (confined_exprs items)).bind fun _ _ => .ok _
  | .mapLiteral entries => by
    rw [exprText]
    exact (confined_entryTexts (confined_entries entries)).bind fun _ _ => .ok _
  | .call target _ args => by
    rw [exprText]
    refine (confined_exprTexts (confined_exprs args)).bind fun _ _ => ?_
    exact (confined_exprText target).bind fun _ _ => .ok _
  | .assign _ value => by
    rw [exprText]
    exact (confined_exprText value).bind fun _ _ => .ok _
  | .scalar _ | .sequence _ | .map | .named _ | .options | .union _ | .marker _ | .tagged _ _
  | .stray _ => .error (.expression _)

/-- The loop over nodes below another, as the recursion needs it: what `confined_exprTexts` and
`confined_keywordTexts` ask for, at every node of the list. -/
theorem confined_exprs : (nodes : List Node) →
    ∀ node ∈ nodes, Confined Unwritable (exprText node)
  | [] => List.forall_mem_nil _
  | node :: rest => List.forall_mem_cons.mpr ⟨confined_exprText node, confined_exprs rest⟩

theorem confined_entries : (entries : List (String × Node)) →
    ∀ entry ∈ entries, Confined Unwritable (exprText entry.2)
  -- the recursion is on the list, to stay below the map
  | [] => List.forall_mem_nil _
  | (_, value) :: rest => List.forall_mem_cons.mpr ⟨confined_exprText value, confined_entries rest⟩
end

/-! ## Definitions -/

/-- Documentation is a text or nothing; anything else has come from outside. -/
theorem confined_documentation (name : String) (doc : Doc) :
    Confined Unwritable (documentation name doc) := by
  unfold documentation
  split
  · exact .ok _
  · exact .error (.value _)

/-- The types of a signature are all that a spec line can fail on. -/
theorem confined_specText (signature : Signature) : Confined Unwritable (specText signature) := by
  have harguments : Confined Unwritable (typeTexts signature.arguments) := by
    rw [typeTexts_eq]
    exact .mapM fun type _ => writesTypes_typeText.confined type
  refine harguments.bind fun _ _ => ?_
  exact (writesTypes_typeText.confined signature.returnType).bind fun _ _ => .ok _

theorem confined_argumentText (argument : Argument) :
    Confined Unwritable (argumentText argument) := by
  unfold argumentText
  split
  · exact .ok _
  · exact (confined_exprText _).bind fun _ _ => .ok _

/-- A function fails on a default of an argument or on a statement. -/
theorem confined_functionText (function : Function) :
    Confined Unwritable (functionText function) := by
  refine (Confined.mapM fun argument _ => confined_argumentText argument).bind fun _ _ => ?_
  exact (confined_exprTexts (confined_exprs function.body)).bind fun _ _ => .ok _

end Source

end ElixirClient
