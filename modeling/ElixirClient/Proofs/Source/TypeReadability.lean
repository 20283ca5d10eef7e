import ElixirClient.Proofs.Resolver.NormalForm
import ElixirClient.Proofs.Resolver.Unions
import ElixirClient.Proofs.Source.Printing
import ElixirClient.Proofs.Text.Joined
import ElixirClient.Text.Letter

/-!
# Types can be told by their texts

A type that a reference resolves to is one of a few words, a module, a sequence or a union
(`Node.Legible`). If the names of modules are made of letters, numerals, underscores and dots, its
two texts can mean no other type.

Of markers, none begins another (`apart_markerChars`). A type ends at a blank or at a bracket, and a
union is written as its members with bars between them; so it is the members of types that are told
apart (`apart_typeChars`), and that suffices since a union has more than one member and no member
that is a union.
-/

namespace ElixirClient

/-- The name of a module: letters, numerals, underscores and dots. -/
def IsModuleName (name : String) : Prop := ∀ c ∈ name.toList, Text.isWordChar c = true ∨ c = '.'

instance (name : String) : Decidable (IsModuleName name) :=
  List.decidableBAll (fun c => Text.isWordChar c = true ∨ c = '.') name.toList

/-- What stands around and between names in the texts of types. -/
def typeDelimiters : List Char := [' ', '|', '[', ']', '(', ')', '\x7b', '\x7d', ',', ':']

theorem IsModuleName.not_mem {name : String} (h : IsModuleName name) {c : Char}
    (hc : c ∈ typeDelimiters) : c ∉ name.toList := by
  have hall : typeDelimiters.all (fun d => !Text.isWordChar d && d ≠ '.') = true := by
    decide +kernel
  intro hmem
  obtain ⟨hword, hdot⟩ : Text.isWordChar c = false ∧ c ≠ '.' := by
    simpa using List.all_eq_true.mp hall c hc
  rcases h c hmem with hchar | hchar
  · rw [hword] at hchar
    cases hchar
  · exact hdot hchar

namespace Node

/-- The types that are written as one word. -/
def typeWords : List Node := .map :: scalarNames.map .scalar

/-- A type of data that can be told from its text. -/
inductive Legible : Node → Prop
  | word {node : Node} (h : node ∈ typeWords) : Legible node
  | named {name : String} (h : IsModuleName name) (hstring : name ≠ "String") :
    Legible (.named (.str name))
  | sequence {item : Node} (h : Legible item) : Legible (.sequence item)
  | union {members : List Node} (hform : UnionForm members)
    (h : ∀ member ∈ members, Legible member) : Legible (.union members)

theorem isType_of_mem_typeWords {node : Node} (h : node ∈ typeWords) : node.IsType := by
  rcases List.mem_cons.mp h with rfl | h
  · exact .map
  · obtain ⟨name, hname, rfl⟩ := List.mem_map.mp h
    exact .scalar hname

theorem unionMembers_of_mem_typeWords {node : Node} (h : node ∈ typeWords) :
    node.unionMembers = [node] := by
  rcases List.mem_cons.mp h with rfl | h
  · rfl
  · obtain ⟨name, _, rfl⟩ := List.mem_map.mp h
    rfl

theorem Legible.isType {node : Node} (h : node.Legible) : node.IsType := by
  induction h with
  | word h => exact isType_of_mem_typeWords h
  | named => exact .named _
  | sequence _ ih => exact .sequence ih
  | union _ _ ih => exact .union ih

/-- The members of a type are legible, and none of them is a union. -/
theorem Legible.unionMembers {node : Node} (h : node.Legible) :
    ∀ member ∈ node.unionMembers, member.Legible ∧ ∀ inner, member ≠ .union inner := by
  cases h with
  | word h =>
    rw [unionMembers_of_mem_typeWords h]
    refine List.forall_mem_singleton.mpr ⟨.word h, ?_⟩
    rintro inner rfl
    simp [typeWords] at h
  | named h hstring => exact List.forall_mem_singleton.mpr ⟨.named h hstring, fun _ => nofun⟩
  | sequence h => exact List.forall_mem_singleton.mpr ⟨.sequence h, fun _ => nofun⟩
  | union hform h => exact fun member hmember => ⟨h member hmember, hform.flat member hmember⟩

theorem mem_unionMembers_self {node : Node} (h : ∀ inner, node ≠ .union inner) :
    node ∈ node.unionMembers := by
  cases node with
  | union members => exact absurd rfl (h members)
  | _ => exact List.mem_singleton_self _

theorem Legible.unionMembers_ne_nil {node : Node} (h : node.Legible) : node.unionMembers ≠ [] := by
  cases h with
  | word h =>
    rw [unionMembers_of_mem_typeWords h]
    exact List.cons_ne_nil _ _
  | @union members hform =>
    have hseveral := hform.several
    rintro rfl
    cases hseveral
  | _ => exact List.cons_ne_nil _ _

/-- A type is the union of its members. -/
theorem Legible.ofUnion_unionMembers {node : Node} (h : node.Legible) :
    ofUnion node.unionMembers = node := by
  cases h with
  | word h =>
    rw [unionMembers_of_mem_typeWords h]
    rfl
  | @union members hform =>
    have hseveral := hform.several
    match members, hseveral with
    | first :: second :: rest, _ => rfl
  | _ => rfl

/-- A type in normal form, about data, with modules that are called by fit names, is legible. By
induction on the type: a union is several members, none of them a union. -/
theorem legible_of_isType {node : Node} (h : node.IsType) (hnormal : node.Normal)
    (huntagged : node.Untagged) (hoptions : node.Throughout (· ≠ .options))
    (hnames : ∀ module, node.Names module →
      ∃ name, module = .str name ∧ IsModuleName name ∧ name ≠ "String") : node.Legible := by
  induction h with
  | scalar h => exact .word (List.mem_cons_of_mem _ (List.mem_map_of_mem h))
  | sequence _ ih =>
    exact .sequence (ih (normal_sequence.mp hnormal) (throughout_sequence.mp huntagged).2
      (throughout_sequence.mp hoptions).2 fun module hmodule =>
        hnames module (names_sequence.mpr hmodule))
  | map => exact .word List.mem_cons_self
  | named module =>
    obtain ⟨name, rfl, hname, hstring⟩ := hnames module (names_named.mpr rfl)
    exact .named hname hstring
  -- these two are types of arguments and of outcomes, not of schemas
  | options => exact absurd rfl ((throughout_leaf rfl).mp hoptions)
  | union _ ih =>
    obtain ⟨hform, hmembers⟩ := normal_union.mp hnormal
    exact .union hform fun member hmember => ih member hmember (hmembers member hmember)
      ((throughout_union.mp huntagged).2 member hmember)
      ((throughout_union.mp hoptions).2 member hmember) fun module hmodule =>
        hnames module (names_union.mpr ⟨member, hmember, hmodule⟩)
  | marker tag => exact absurd ((throughout_leaf rfl).mp huntagged) nofun
  | tagged tag _ => exact absurd (throughout_tagged.mp huntagged).1 nofun

end Node

namespace Source

open Node (Legible)
open Text (Apart)

/-! ## Texts as characters -/

def typeChars (node : Node) : List Char := written (typeText node)

def markerChars (node : Node) : List Char := written (markerText node)

variable {a b item : Node} {members : List Node}

theorem toList_inBrackets (text : String) :
    ("[" ++ text ++ "]").toList = '[' :: (text.toList ++ [']']) := by
  rw [String.toList_append, String.toList_append]
  rfl

theorem toList_intercalate_written (separator : String) (write : Node → Except Fault String)
    (nodes : List Node) :
    (separator.intercalate (nodes.map fun node => String.ofList (written (write node)))).toList =
      separator.toList.intercalate (nodes.map fun node => written (write node)) := by
  rw [String.toList_intercalate, List.map_map]
  exact congrArg _ (List.map_congr_left fun node _ => String.toList_ofList)

theorem markerChars_sequence (h : item.IsType) :
    markerChars (.sequence item) = '[' :: (markerChars item ++ [']']) := by
  obtain ⟨text, htext⟩ := writesTypes_markerText.exists_text h
  rw [markerChars, markerChars, markerText, htext]
  exact toList_inBrackets text

theorem markerChars_named (name : String) :
    markerChars (.named (.str name)) = '\x7b' :: (name.toList ++ ',' :: " :t\x7d".toList) := by
  rw [markerChars, markerText]
  show (inBraces (name ++ ", :t")).toList = _
  rw [inBraces, String.toList_append, String.toList_append, String.toList_append, List.append_assoc,
    List.append_assoc]
  rfl

/-- A union shows its members between brackets, so its end can be seen. -/
theorem markerChars_union (h : ∀ member ∈ members, member.IsType) :
    markerChars (.union members) = '\x7b' :: (":union, [".toList ++
      (", ".toList.intercalate (members.map markerChars) ++ "]\x7d".toList)) := by
  rw [markerChars, markerText, markerTexts_eq,
    mapM_written fun member hmember => writesTypes_markerText.exists_text (h member hmember)]
  show (inBraces (":union, [" ++ ", ".intercalate _ ++ "]")).toList = _
  rw [inBraces, String.toList_append, String.toList_append, String.toList_append,
    String.toList_append, toList_intercalate_written]
  -- the text is put together from the left, the list from the right
  simp only [List.append_assoc]
  rfl

theorem typeChars_sequence (h : item.IsType) :
    typeChars (.sequence item) = '[' :: (typeChars item ++ [']']) := by
  obtain ⟨text, htext⟩ := writesTypes_typeText.exists_text h
  rw [typeChars, typeChars, typeText, htext]
  exact toList_inBrackets text

theorem typeChars_named (name : String) :
    typeChars (.named (.str name)) = name.toList ++ ".t()".toList := by
  rw [typeChars, typeText]
  show (name ++ ".t()").toList = _
  rw [String.toList_append]

theorem typeChars_union (h : ∀ member ∈ members, member.IsType) :
    typeChars (.union members) = " | ".toList.intercalate (members.map typeChars) := by
  rw [typeChars, typeText, typeTexts_eq,
    mapM_written fun member hmember => writesTypes_typeText.exists_text (h member hmember)]
  exact toList_intercalate_written " | " typeText members

/-- A type is written as its members with bars between them. -/
theorem typeChars_eq_intercalate (h : a.IsType) :
    typeChars a = " | ".toList.intercalate (a.unionMembers.map typeChars) := by
  cases h with
  | union h => exact typeChars_union h
  | _ => exact (List.intercalate_singleton).symm

/-! ## Markers -/

/-- Markers of different kinds begin with different characters, except that modules and unions both
begin with a brace. -/
theorem head?_markerChars_word (h : a ∈ Node.typeWords) : (markerChars a).head? = some ':' := by
  revert a
  decide

theorem head?_markerChars_named (name : String) :
    (markerChars (.named (.str name))).head? = some '\x7b' := by
  rw [markerChars_named]
  rfl

theorem head?_markerChars_sequence (h : item.IsType) :
    (markerChars (.sequence item)).head? = some '[' := by
  rw [markerChars_sequence h]
  rfl

theorem head?_markerChars_union (h : ∀ member ∈ members, member.IsType) :
    (markerChars (.union members)).head? = some '\x7b' := by
  rw [markerChars_union h]
  rfl

/-- What may follow a marker. -/
def AfterMarker (_ : List Char) : Prop := True

theorem apart_markerChars_words (ha : a ∈ Node.typeWords) (hb : b ∈ Node.typeWords) :
    Apart markerChars AfterMarker a b := by
  have hbegins : ∀ a ∈ Node.typeWords, ∀ b ∈ Node.typeWords,
      markerChars a <+: markerChars b → a = b := by decide
  exact Text.apart_of_prefix (hbegins a ha b hb) (hbegins b hb a ha)

/-- The comma behind the name of a module ends it. -/
theorem apart_markerChars_named {name other : String} (hname : IsModuleName name)
    (hother : IsModuleName other) :
    Apart markerChars AfterMarker (.named (.str name)) (.named (.str other)) := by
  have hcomma {name : String} (h : IsModuleName name) : ',' ∉ name.toList := h.not_mem (by decide)
  intro rest rest' _ _ h
  rw [markerChars_named, markerChars_named, List.cons_append, List.cons_append, List.append_assoc,
    List.append_assoc, List.cons_append, List.cons_append] at h
  -- neither name holds the comma that ends it
  obtain ⟨hsame, hrest⟩ :=
    Text.append_cons_inj (hcomma hname) (hcomma hother) (List.cons.inj h).2
  exact ⟨by rw [String.toList_injective hsame], List.append_cancel_left hrest⟩

/-- A module is written in the braces of a union, but no name begins with a colon. -/
theorem apart_markerChars_named_union {name : String} (hname : IsModuleName name)
    (h : ∀ member ∈ members, member.IsType) :
    Apart markerChars AfterMarker (.named (.str name)) (.union members) := by
  intro rest rest' _ _ heq
  rw [markerChars_named, markerChars_union h] at heq
  have hhead := congrArg List.head? (List.cons.inj heq).2
  have hcolon := hname.not_mem (c := ':') (by decide)
  cases hchars : name.toList with
  | nil => simp [hchars] at hhead
  | cons c cs =>
    rw [hchars] at hhead hcolon
    simp at hhead
    exact absurd (hhead ▸ List.mem_cons_self) hcolon

/-- No marker begins another one. -/
theorem apart_markerChars (ha : a.Legible) (hb : b.Legible) :
    Apart markerChars AfterMarker a b := by
  induction ha generalizing b with
  | word ha =>
    -- a word begins with a colon, and no other marker does
    have hhead := head?_markerChars_word ha
    cases hb with
    | word hb => exact apart_markerChars_words ha hb
    | named => exact Text.apart_of_head? hhead (head?_markerChars_named _) (by decide)
    | sequence hitem =>
      exact Text.apart_of_head? hhead (head?_markerChars_sequence hitem.isType) (by decide)
    | union _ hmembers =>
      exact Text.apart_of_head? hhead
        (head?_markerChars_union fun member hmember => (hmembers member hmember).isType) (by decide)
  | @named name hname =>
    have hhead := head?_markerChars_named name
    cases hb with
    | word hb => exact Text.apart_of_head? hhead (head?_markerChars_word hb) (by decide)
    | named hother => exact apart_markerChars_named hname hother
    | sequence hitem =>
      exact Text.apart_of_head? hhead (head?_markerChars_sequence hitem.isType) (by decide)
    | union _ hmembers =>
      exact apart_markerChars_named_union hname fun member hmember =>
        (hmembers member hmember).isType
  | @sequence item hitem ih =>
    have hhead := head?_markerChars_sequence hitem.isType
    cases hb with
    | word hb => exact Text.apart_of_head? hhead (head?_markerChars_word hb) (by decide)
    | named => exact Text.apart_of_head? hhead (head?_markerChars_named _) (by decide)
    | sequence hother =>
      intro rest rest' _ _ h
      rw [markerChars_sequence hitem.isType, markerChars_sequence hother.isType, List.cons_append,
        List.cons_append, List.append_assoc, List.append_assoc] at h
      -- the bracket is common, and the items are apart
      obtain ⟨rfl, hrest⟩ := ih hother _ _ trivial trivial (List.cons.inj h).2
      exact ⟨rfl, (List.cons.inj hrest).2⟩
    | union _ hmembers =>
      exact Text.apart_of_head? hhead
        (head?_markerChars_union fun member hmember => (hmembers member hmember).isType) (by decide)
  | @union members hform hmembers ih =>
    have htypes : ∀ member ∈ members, member.IsType := fun member hmember =>
      (hmembers member hmember).isType
    have hhead := head?_markerChars_union htypes
    cases hb with
    | word hb => exact Text.apart_of_head? hhead (head?_markerChars_word hb) (by decide)
    | named hname => exact (apart_markerChars_named_union hname htypes).symm
    | sequence hitem =>
      exact Text.apart_of_head? hhead (head?_markerChars_sequence hitem.isType) (by decide)
    | union hform' hmembers' =>
      intro rest rest' _ _ h
      rw [markerChars_union htypes,
        markerChars_union fun member hmember => (hmembers' member hmember).isType] at h
      simp only [List.cons_append, List.append_assoc] at h
      -- neither list of members can end early, as a comma is no closing bracket
      obtain ⟨rfl, hrest⟩ := Text.intercalate_inj (Legible.union hform hmembers).unionMembers_ne_nil
        (Legible.union hform' hmembers').unionMembers_ne_nil
        (fun member hmember other hother => ih member hmember (hmembers' other hother))
        (fun _ => trivial) trivial trivial (by simp) (by simp)
        (List.append_cancel_left (List.cons.inj h).2)
      exact ⟨rfl, List.append_cancel_left hrest⟩

/-! ## Types -/

/-- A type goes on until a bar or a closing bracket. -/
def AfterType (rest : List Char) : Prop := ∀ c, rest.head? = some c → c = ' ' ∨ c = ']'

theorem afterType_cons {c : Char} (hc : c = ' ' ∨ c = ']') (rest : List Char) :
    AfterType (c :: rest) := by
  rintro _ ⟨⟩
  exact hc

/-- Types are told apart if their members are, as long as no bar comes behind them. -/
theorem eq_of_members_apart (ha : a.Legible) (hb : b.Legible)
    (hmembers : ∀ x ∈ a.unionMembers, ∀ y ∈ b.unionMembers, Apart typeChars AfterType x y)
    {rest rest' : List Char} (hrest : AfterType rest) (hrest' : AfterType rest')
    (hend : ¬ " | ".toList <+: rest) (hend' : ¬ " | ".toList <+: rest')
    (h : typeChars a ++ rest = typeChars b ++ rest') : a = b ∧ rest = rest' := by
  have hbar (more : List Char) : AfterType (" | ".toList ++ more) := afterType_cons (.inl rfl) _
  rw [typeChars_eq_intercalate ha.isType, typeChars_eq_intercalate hb.isType] at h
  obtain ⟨hsame, hrests⟩ := Text.intercalate_inj ha.unionMembers_ne_nil hb.unionMembers_ne_nil
    hmembers hbar hrest hrest' hend hend' h
  rw [← ha.ofUnion_unionMembers, ← hb.ofUnion_unionMembers, hsame]
  exact ⟨rfl, hrests⟩

/-- A text that is neither ended nor begun by what stands around types. -/
def IsTypeWord (cs : List Char) : Prop := cs ≠ [] ∧ ∀ c ∈ cs, c ∉ [' ', ']', '[']

instance (cs : List Char) : Decidable (IsTypeWord cs) :=
  decidable_of_iff (cs ≠ [] ∧ cs.all (· ∉ [' ', ']', '[']) = true)
    (and_congr_right' (by simp only [List.all_eq_true, decide_eq_true_eq]))

theorem isTypeWord_of_mem_typeWords (h : a ∈ Node.typeWords) : IsTypeWord (typeChars a) := by
  revert a
  decide

theorem isTypeWord_named {name : String} (h : IsModuleName name) :
    IsTypeWord (typeChars (.named (.str name))) := by
  rw [typeChars_named]
  refine ⟨by simp, fun c hc hends => ?_⟩
  rcases List.mem_append.mp hc with hc | hc
  · exact h.not_mem ((by decide : [' ', ']', '['] ⊆ typeDelimiters) hends) hc
  · exact (by decide : IsTypeWord ".t()".toList).2 c hc hends

/-- Words end at the first blank or bracket, so equal texts are equal words. -/
theorem apart_of_isTypeWord (ha : IsTypeWord (typeChars a)) (hb : IsTypeWord (typeChars b))
    (h : typeChars a = typeChars b → a = b) : Apart typeChars AfterType a b := by
  have hword {cs : List Char} (hcs : IsTypeWord cs) :
      ∀ c ∈ cs, decide (c ≠ ' ' ∧ c ≠ ']') = true := by
    intro c hc
    have hends := hcs.2 c hc
    simp only [List.mem_cons, not_or] at hends
    exact decide_eq_true ⟨hends.1, hends.2.1⟩
  have hafter {rest : List Char} (hrest : AfterType rest) :
      ∀ c, rest.head? = some c → decide (c ≠ ' ' ∧ c ≠ ']') = false := by
    intro c hc
    rcases hrest c hc with rfl | rfl <;> rfl
  intro rest rest' hrest hrest' heq
  obtain ⟨hsame, hrests⟩ :=
    Text.append_inj_of_ends (hword ha) (hword hb) (hafter hrest) (hafter hrest') heq
  exact ⟨h hsame, hrests⟩

/-- Only sequences begin with a bracket. -/
theorem apart_sequence_of_isTypeWord (ha : IsTypeWord (typeChars a)) (hitem : item.IsType) :
    Apart typeChars AfterType a (.sequence item) := by
  obtain ⟨c, cs, hchars⟩ := List.exists_cons_of_ne_nil ha.1
  have hbracket : c ≠ '[' := by
    rintro rfl
    exact ha.2 '[' (hchars ▸ List.mem_cons_self) (by decide)
  refine Text.apart_of_head? (by rw [hchars]; rfl) ?_ hbracket
  rw [typeChars_sequence hitem]
  rfl

/-- The only word that is written as a module is the string type. -/
theorem typeChars_word_ne_named (ha : a ∈ Node.typeWords) {name : String}
    (hname : name ≠ "String") : typeChars a ≠ typeChars (.named (.str name)) := by
  have hwords : ∀ a ∈ Node.typeWords, ".t()".toList <:+ typeChars a →
      typeChars a = "String".toList ++ ".t()".toList := by decide
  intro h
  rw [typeChars_named] at h
  rw [hwords a ha ⟨_, h.symm⟩] at h
  exact hname (String.toList_injective (List.append_cancel_right h)).symm

/-- Different words have different texts. There are seven of them. -/
theorem typeChars_words_inj :
    ∀ a ∈ Node.typeWords, ∀ b ∈ Node.typeWords, typeChars a = typeChars b → a = b := by
  decide

/-- Types that are not unions are apart from each other, if the members of sequences are. -/
theorem apart_typeChars_single (ha : a.Legible) (hb : b.Legible)
    (hsingle : ∀ inner, a ≠ .union inner) (hsingle' : ∀ inner, b ≠ .union inner)
    (hitems : ∀ item, a = .sequence item → ∀ other : Node, other.Legible →
      ∀ x ∈ item.unionMembers, ∀ y ∈ other.unionMembers, Apart typeChars AfterType x y) :
    Apart typeChars AfterType a b := by
  cases ha with
  | word ha =>
    have hword := isTypeWord_of_mem_typeWords ha
    cases hb with
    | word hb =>
      exact apart_of_isTypeWord hword (isTypeWord_of_mem_typeWords hb)
        (typeChars_words_inj a ha b hb)
    | named hname hstring =>
      exact apart_of_isTypeWord hword (isTypeWord_named hname) fun h =>
        absurd h (typeChars_word_ne_named ha hstring)
    | sequence hitem => exact apart_sequence_of_isTypeWord hword hitem.isType
    | @union members => exact absurd rfl (hsingle' members)
  | @named name hname hstring =>
    have hword := isTypeWord_named hname
    cases hb with
    | word hb =>
      exact apart_of_isTypeWord hword (isTypeWord_of_mem_typeWords hb) fun h =>
        absurd h.symm (typeChars_word_ne_named hb hstring)
    | @named other hother =>
      refine apart_of_isTypeWord hword (isTypeWord_named hother) fun h => ?_
      rw [typeChars_named, typeChars_named] at h
      rw [String.toList_injective (List.append_cancel_right h)]
    | sequence hitem => exact apart_sequence_of_isTypeWord hword hitem.isType
    | @union members => exact absurd rfl (hsingle' members)
  | @sequence item hitem =>
    cases hb with
    | word hb =>
      exact (apart_sequence_of_isTypeWord (isTypeWord_of_mem_typeWords hb) hitem.isType).symm
    | named hname => exact (apart_sequence_of_isTypeWord (isTypeWord_named hname) hitem.isType).symm
    | @sequence other hother =>
      intro rest rest' _ _ h
      rw [typeChars_sequence hitem.isType, typeChars_sequence hother.isType, List.cons_append,
        List.cons_append, List.append_assoc, List.append_assoc] at h
      -- behind both items is a closing bracket, which continues no type
      obtain ⟨rfl, hrest⟩ := eq_of_members_apart hitem hother (hitems item rfl other hother)
        (afterType_cons (.inr rfl) rest) (afterType_cons (.inr rfl) rest') (by simp) (by simp)
        (List.cons.inj h).2
      exact ⟨rfl, (List.cons.inj hrest).2⟩
    | @union members => exact absurd rfl (hsingle' members)
  | @union members => exact absurd rfl (hsingle members)

/-- The members of types are apart from each other. -/
theorem apart_typeChars (ha : a.Legible) (hb : b.Legible) :
    ∀ x ∈ a.unionMembers, ∀ y ∈ b.unionMembers, Apart typeChars AfterType x y := by
  induction ha generalizing b with
  | @word a ha =>
    intro x hx y hy
    rw [Node.unionMembers_of_mem_typeWords ha, List.mem_singleton] at hx
    subst hx
    obtain ⟨hy, hsingle⟩ := hb.unionMembers y hy
    refine apart_typeChars_single (.word ha) hy ?_ hsingle ?_
    · rintro inner rfl
      simp [Node.typeWords] at ha
    · rintro item rfl
      simp [Node.typeWords] at ha
  | named hname hstring =>
    intro x hx y hy
    obtain rfl := List.mem_singleton.mp hx
    obtain ⟨hy, hsingle⟩ := hb.unionMembers y hy
    exact apart_typeChars_single (.named hname hstring) hy (fun _ => nofun) hsingle fun _ => nofun
  | sequence hitem ih =>
    intro x hx y hy
    obtain rfl := List.mem_singleton.mp hx
    obtain ⟨hy, hsingle⟩ := hb.unionMembers y hy
    refine apart_typeChars_single (.sequence hitem) hy (fun _ => nofun) hsingle ?_
    rintro _ ⟨⟩ other hother
    exact ih hother
  | union hform _ ih =>
    -- members are no unions, so each is its own only member
    exact fun x hx => ih x hx hb x (Node.mem_unionMembers_self (hform.flat x hx))

/-! ## Resolved types -/

/-- A marker is told with nothing behind it. -/
theorem markerChars_inj (ha : a.Legible) (hb : b.Legible) (h : markerChars a = markerChars b) :
    a = b :=
  (apart_markerChars ha hb [] [] trivial trivial (by rw [h])).1

/-- And so is a type: it is told member by member. -/
theorem typeChars_inj (ha : a.Legible) (hb : b.Legible) (h : typeChars a = typeChars b) :
    a = b := by
  have hend : AfterType [] := nofun
  exact (eq_of_members_apart ha hb (apart_typeChars ha hb) hend hend (by simp) (by simp)
    (congrArg (· ++ []) h)).1

end Source

namespace Resolver

variable {r r' : Resolver} {ref ref' : TypeRef} {a b : Node}

/-- Resolved types are legible if the modules they name are. -/
theorem legible_of_resolve (h : r.resolve ref = .ok a)
    (hnames : ∀ module, a.Names module →
      ∃ name, module = .str name ∧ IsModuleName name ∧ name ≠ "String") : a.Legible := by
  have hoptions : a.Throughout (· ≠ .options) := throughout_of_resolve
    (fun kind => by cases kind <;> exact nofun) (fun _ => nofun) (fun _ => nofun) (fun _ => nofun) h
  exact Node.legible_of_isType (isType_of_resolve h) (resolve_normal h) (untagged_of_resolve h)
    hoptions hnames

/-- **Texts of types are unambiguous.** Two types that references resolve to, under any base module
and any table of names, are the same if they are written alike, as types or as markers. The modules
they name must have names that are made of letters, numerals, underscores and dots, other than
`String`, which would be written as the string type. -/
theorem texts_unambiguous (ha : r.resolve ref = .ok a) (hb : r'.resolve ref' = .ok b)
    (hnames : ∀ module, a.Names module ∨ b.Names module →
      ∃ name, module = .str name ∧ IsModuleName name ∧ name ≠ "String") :
    (Source.markerText a = Source.markerText b → a = b) ∧
      (Source.typeText a = Source.typeText b → a = b) := by
  have hlegible := legible_of_resolve ha fun module hmodule => hnames module (.inl hmodule)
  have hlegible' := legible_of_resolve hb fun module hmodule => hnames module (.inr hmodule)
  exact ⟨fun h => Source.markerChars_inj hlegible hlegible' (congrArg Source.written h),
    fun h => Source.typeChars_inj hlegible hlegible' (congrArg Source.written h)⟩

/-- A list of which each item is a pet or a text. -/
def mixedList : Node := .sequence (.union [.named (.str "Example.Pet"), .scalar "string"])

/-- A list of pets, or a text. -/
def listOrText : Node := .union [.sequence (.named (.str "Example.Pet")), .scalar "string"]

theorem texts_unambiguous_lists :
    (Resolver.mk (.str "Example") [("pet", "Pet")]).resolve
        (.array (.union [.schema (.str "pet"), .primitive .string])) = .ok mixedList ∧
      (Resolver.mk (.str "Example") [("pet", "Pet")]).resolve
        (.union [.array (.schema (.str "pet")), .primitive .string]) = .ok listOrText ∧
      Source.markerText mixedList ≠ Source.markerText listOrText ∧
      Source.typeText mixedList ≠ Source.typeText listOrText := by
  have hmixed : (Resolver.mk (.str "Example") [("pet", "Pet")]).resolve
      (.array (.union [.schema (.str "pet"), .primitive .string])) = .ok mixedList := by
    decide +kernel
  have hlist : (Resolver.mk (.str "Example") [("pet", "Pet")]).resolve
      (.union [.array (.schema (.str "pet")), .primitive .string]) = .ok listOrText := by
    decide +kernel
  have hpet : IsModuleName "Example.Pet" := by decide +kernel
  have hdistinct : mixedList ≠ listOrText := nofun
  obtain ⟨hmarkers, htypes⟩ := texts_unambiguous hmixed hlist fun module hmodule => by
    have hname : .str "Example.Pet" = module := by simpa [mixedList, listOrText] using hmodule
    exact ⟨"Example.Pet", hname.symm, hpet, by decide⟩
  exact ⟨hmixed, hlist, mt hmarkers hdistinct, mt htypes hdistinct⟩

end Resolver

end ElixirClient
