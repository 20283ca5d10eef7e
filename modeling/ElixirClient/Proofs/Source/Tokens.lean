import ElixirClient.Proofs.Node.Regrouping
import ElixirClient.Proofs.Source.AtomReader
import ElixirClient.Proofs.Source.Printing
import ElixirClient.Proofs.Text.Joined

/-!
# Terms as tokens

The text of a term is the texts of its `tokens`, one after the other. Nothing of how the tokens were
nested is left in them, so terms that slide into each other have the same tokens.

The tokens can be told from the text: a name goes on as far as it can, an atom and the name of a
function end where their own text says, and everything else is one of a few marks, of which none
begins another. What matters is that no operand stands directly behind another (`Sound`).
-/

namespace ElixirClient.Source

open Node
open Text (Apart continued continued_cons)

/-- What is always written the same. -/
inductive Mark
  | openKey
  | closeKey
  | comma
  | closeCall
  | orElse
deriving DecidableEq

def Mark.chars : Mark → List Char
  | .openKey => ['[']
  | .closeKey => [']']
  | .comma => [',', ' ']
  | .closeCall => [')']
  | .orElse => [' ', '|', '|', ' ']

inductive Token
  | operand (node : Node)
  /-- The function that is called, up to its arguments. -/
  | call (function : String)
  | mark (sign : Mark)

def exprChars (node : Node) : List Char := written (exprText node)

namespace Token

def chars : Token → List Char
  | operand node => exprChars node
  | call function => '.' :: (function.toList ++ ['('])
  | mark sign => sign.chars

def isOperand : Token → Bool
  | operand _ => true
  | _ => false

/-- The token as it is found in terms. -/
def OfTerm : Token → Prop
  | operand node => node.IsOperand
  | call function => '(' ∉ function.toList
  | mark _ => True

end Token

mutual
def tokens : Node → List Token
  | .access subject key => tokens subject ++ .mark .openKey :: (tokens key ++ [.mark .closeKey])
  | .fallback primary alternative => tokens primary ++ .mark .orElse :: tokens alternative
  | .call target function args =>
    tokens target ++ .call function ::
      ([.mark .comma].intercalate (tokensAll args) ++ [.mark .closeCall])
  | node => [.operand node]

def tokensAll : List Node → List (List Token)
  | [] => []
  | node :: rest => tokens node :: tokensAll rest
end

theorem tokensAll_eq (nodes : List Node) : tokensAll nodes = nodes.map tokens := by
  induction nodes with
  | nil => rw [tokensAll, List.map_nil]
  | cons node rest ih => rw [tokensAll, List.map_cons, ih]

/-- An operand is one token, whatever its text is. -/
theorem tokens_operand {node : Node} (h : node.IsOperand) : tokens node = [.operand node] := by
  cases h <;> rw [tokens] <;> nofun

theorem tokens_call (target : Node) (function : String) (args : List Node) :
    tokens (.call target function args) = tokens target ++ .call function ::
      ([.mark .comma].intercalate (args.map tokens) ++ [.mark .closeCall]) := by
  rw [tokens, tokensAll_eq]

variable {a b node : Node}

/-- Sliding leaves the tokens where they are. -/
theorem tokens_eq_of_slides (h : Congruent Slides a b) : tokens a = tokens b := by
  induction h with
  | step h =>
    cases h with
    | regroups h => cases h; simp [tokens]
    | access => simp [tokens]
    | call => simp [tokens]
  | refl => rfl
  | symm _ ih => exact ih.symm
  | trans _ _ ihab ihbc => exact ihab.trans ihbc
  | access _ _ ihsubject ihkey => rw [tokens, tokens, ihsubject, ihkey]
  | fallback _ _ ihprimary ihalternative => rw [tokens, tokens, ihprimary, ihalternative]
  | target _ _ _ ih => rw [tokens_call, tokens_call, ih]
  | arg _ _ _ _ _ ih =>
    simp only [tokens_call, List.map_append, List.map_cons, ih]

/-! ## The text of a term -/

def spelled (ts : List Token) : List Char := ts.flatMap Token.chars

@[simp] theorem spelled_nil : spelled [] = [] := rfl

@[simp] theorem spelled_append (ts us : List Token) :
    spelled (ts ++ us) = spelled ts ++ spelled us :=
  List.flatMap_append

@[simp] theorem spelled_cons (t : Token) (ts : List Token) :
    spelled (t :: ts) = t.chars ++ spelled ts :=
  List.flatMap_cons

theorem spelled_intercalate (separator : List Token) (lists : List (List Token)) :
    spelled (separator.intercalate lists) =
      (spelled separator).intercalate (lists.map spelled) := by
  induction lists with
  | nil => rfl
  | cons first rest ih =>
    -- the separator comes with the second list
    cases rest with
    | nil => simp
    | cons second rest =>
      rw [List.intercalate_cons_cons, spelled_append, spelled_append, ih, List.map_cons,
        List.map_cons, List.map_cons, List.intercalate_cons_cons]

/-- A term is written, and its text is that of its tokens. -/
theorem exprText_eq_spelled (h : node.IsTerm) :
    exprText node = .ok (String.ofList (spelled (tokens node))) := by
  induction h with
  | operand h =>
    rw [tokens_operand h, spelled_cons]
    cases h <;> simp [exprText, atomText, spelled, Token.chars, exprChars, written]
  | access _ _ ihsubject ihkey =>
    rw [exprText, ihsubject, ihkey]
    refine congrArg Except.ok (String.toList_injective ?_)
    simp [tokens, Token.chars, Mark.chars]
  | fallback _ _ ihprimary ihalternative =>
    rw [exprText, ihprimary, ihalternative]
    refine congrArg Except.ok (String.toList_injective ?_)
    simp [tokens, Token.chars, Mark.chars]
  | call _ _ _ ihtarget ihargs =>
    rw [exprText, exprTexts_eq, mapM_of_forall ihargs, ihtarget]
    refine congrArg Except.ok (String.toList_injective ?_)
    simp [tokens_call, spelled_intercalate, Token.chars, Mark.chars, Function.comp_def]

/-! ## Tokens one after another -/

/-- No operand comes first. -/
def Ends (ts : List Token) : Prop := ∀ t, ts.head? = some t → t.isOperand = false

/-- Tokens of terms of which no operand stands directly behind another. -/
def Sound : List Token → Prop
  | [] => True
  | t :: ts => t.OfTerm ∧ (t.isOperand = true → Ends ts) ∧ Sound ts

/-- Behind an operand may come whatever is none. -/
theorem ends_cons {t : Token} (h : t.isOperand = false) (ts : List Token) : Ends (t :: ts) := by
  rintro _ ⟨⟩
  exact h

theorem Sound.mark {ts : List Token} (h : Sound ts) (sign : Mark) : Sound (.mark sign :: ts) :=
  ⟨trivial, nofun, h⟩

variable {args : List Node} {rest : List Token}

/-- Arguments that come after a comma are sound if each of them is. -/
theorem sound_continued
    (hargs : ∀ arg ∈ args, ∀ rest, Sound rest → Ends rest → Sound (tokens arg ++ rest))
    (hrest : Sound rest) (hends : Ends rest) :
    Sound (continued tokens [.mark .comma] args ++ rest) ∧
      Ends (continued tokens [.mark .comma] args ++ rest) := by
  induction args with
  | nil => exact ⟨hrest, hends⟩
  | cons arg args ih =>
    obtain ⟨harg, hargs⟩ := List.forall_mem_cons.mp hargs
    obtain ⟨hothers, hothersEnd⟩ := ih hargs
    rw [continued_cons, List.singleton_append, List.cons_append, List.append_assoc]
    exact ⟨.mark (harg _ hothers hothersEnd) .comma, ends_cons rfl _⟩

/-- The tokens of a term may stand before any that no operand begins. -/
theorem sound_tokens (h : node.IsTerm) (hrest : Sound rest) (hends : Ends rest) :
    Sound (tokens node ++ rest) := by
  induction h generalizing rest with
  | operand h =>
    rw [tokens_operand h]
    exact ⟨h, fun _ => hends, hrest⟩
  | access _ _ ihsubject ihkey =>
    rw [tokens, List.append_assoc, List.cons_append, List.append_assoc]
    have hkey := ihkey (.mark hrest .closeKey) (ends_cons rfl _)
    exact ihsubject (.mark hkey .openKey) (ends_cons rfl _)
  | fallback _ _ ihprimary ihalternative =>
    rw [tokens, List.append_assoc, List.cons_append]
    exact ihprimary (.mark (ihalternative hrest hends) .orElse) (ends_cons rfl _)
  | @call target function args _ hfunction _ ihtarget ihargs =>
    rw [tokens_call, List.append_assoc, List.cons_append, List.append_assoc]
    refine ihtarget ⟨hfunction, nofun, ?_⟩ (ends_cons rfl _)
    -- from the back: the closing mark, then the arguments, then the target in front
    have hclosed : Sound (.mark .closeCall :: rest) := .mark hrest .closeCall
    cases args with
    | nil => exact hclosed
    | cons first others =>
      obtain ⟨hfirst, hothers⟩ := List.forall_mem_cons.mp ihargs
      obtain ⟨hsound, hend⟩ := sound_continued (fun arg harg rest => hothers arg harg) hclosed
        (ends_cons rfl _)
      rw [Text.intercalate_eq_append_continued, List.append_assoc]
      exact hfirst hsound hend

/-! ## Tokens are told apart -/

/-- The characters that tokens begin with that are no operands. -/
def delimiters : List Char := [' ', '.', ',', '[', ']', ')']

/-- No operand goes on here. -/
def EndsOperand (rest : List Char) : Prop := ∀ c, rest.head? = some c → c ∈ delimiters

theorem isNameChar_eq_false {c : Char} (h : c ∈ delimiters ++ ['@', ':']) :
    isNameChar c = false := by
  have hall : (delimiters ++ ['@', ':']).all (!isNameChar ·) = true := by decide +kernel
  simpa using List.all_eq_true.mp hall c h

theorem exprChars_var (name : String) : exprChars (.var name) = name.toList := by
  rw [exprChars, exprText, written]

theorem exprChars_moduleAttribute (name : String) :
    exprChars (.attribute name) = '@' :: name.toList := by
  rw [exprChars, exprText, written, String.toList_append]
  rfl

theorem exprChars_atom (name : String) : exprChars (.atom (.str name)) = (atom name).toList := by
  rw [exprChars, exprText, atomText, written]

theorem head?_exprChars_moduleAttribute (name : String) :
    (exprChars (.attribute name)).head? = some '@' := by
  rw [exprChars_moduleAttribute]
  rfl

theorem head?_exprChars_atom (name : String) :
    (exprChars (.atom (.str name))).head? = some ':' := by
  rw [exprChars_atom, atom, String.toList_ofList]
  rfl

/-- A name is written without a sign in front. -/
theorem apart_var {name : String} (hname : IsName name) {c : Char} (hc : c ∈ ['@', ':'])
    (hb : (exprChars b).head? = some c) : Apart exprChars EndsOperand (.var name) b := by
  obtain ⟨d, hd, hchar⟩ := hname.exists_head
  refine Text.apart_of_head? (by rwa [exprChars_var]) hb ?_
  rintro rfl
  rw [isNameChar_eq_false (List.mem_append_right delimiters hc)] at hchar
  cases hchar

/-- A name is told from what follows, since a name goes on as far as it can. -/
theorem name_inj {name other : String} (hname : IsName name) (hother : IsName other)
    {rest rest' : List Char} (hrest : EndsOperand rest) (hrest' : EndsOperand rest')
    (h : name.toList ++ rest = other.toList ++ rest') : name = other ∧ rest = rest' := by
  have hends {rest : List Char} (hrest : EndsOperand rest) :
      ∀ c, rest.head? = some c → isNameChar c = false := fun c hc =>
    isNameChar_eq_false (List.mem_append_left ['@', ':'] (hrest c hc))
  exact (Text.append_inj_of_ends hname.2 hother.2 (hends hrest) (hends hrest') h).imp_left
    fun hsame => String.toList_injective hsame

theorem EndsOperand.endsName {rest : List Char} (h : EndsOperand rest) : EndsName rest := by
  have hall : delimiters.all (fun c => !isAtomChar c && !isNameMark c) = true := by decide
  intro c hc
  simpa using List.all_eq_true.mp hall c (h c hc)

/-- Two operands with anything behind them that ends an operand: equal texts come from equal
operands. The three kinds begin in different ways. -/
theorem apart_operands (ha : a.IsOperand) (hb : b.IsOperand) :
    Apart exprChars EndsOperand a b := by
  -- by the kinds of both operands; two of one kind are told by their names
  cases ha with
  | @var name hname =>
    cases hb with
    | @var other hother =>
      intro rest rest' hrest hrest' h
      rw [exprChars_var, exprChars_var] at h
      exact (name_inj hname hother hrest hrest' h).imp_left fun hsame => by rw [hsame]
    | moduleAttribute => exact apart_var hname (by decide) (head?_exprChars_moduleAttribute _)
    | atom other => exact apart_var hname (by decide) (head?_exprChars_atom other)
  | @moduleAttribute name hname =>
    have hhead := head?_exprChars_moduleAttribute name
    cases hb with
    | var hother => exact (apart_var hother (by decide) hhead).symm
    | @moduleAttribute other hother =>
      intro rest rest' hrest hrest' h
      rw [exprChars_moduleAttribute, exprChars_moduleAttribute] at h
      exact (name_inj hname hother hrest hrest' (List.cons.inj h).2).imp_left
        fun hsame => by rw [hsame]
    | atom other => exact Text.apart_of_head? hhead (head?_exprChars_atom other) (by decide)
  | atom name =>
    have hhead := head?_exprChars_atom name
    cases hb with
    | var hother => exact (apart_var hother (by decide) hhead).symm
    | moduleAttribute =>
      exact Text.apart_of_head? hhead (head?_exprChars_moduleAttribute _) (by decide)
    | atom other =>
      intro rest rest' hrest hrest' h
      rw [exprChars_atom, exprChars_atom] at h
      have hread := congrArg readAtom h
      rw [readAtom_atom name fun _ => hrest.endsName, readAtom_atom other fun _ => hrest'.endsName,
        Option.some.injEq, Prod.mk.injEq] at hread
      exact ⟨by rw [String.toList_injective hread.1], hread.2⟩

/-- What may follow the token in a text. -/
def Token.Follows : Token → List Char → Prop
  | .operand _, rest => EndsOperand rest
  | _, _ => True

variable {t u : Token}

theorem head?_exprChars (h : a.IsOperand) :
    ∃ c, (exprChars a).head? = some c ∧ c ∉ delimiters := by
  cases h with
  | @var name hname =>
    obtain ⟨c, hc, hchar⟩ := hname.exists_head
    refine ⟨c, by rwa [exprChars_var], fun hmem => ?_⟩
    rw [isNameChar_eq_false (List.mem_append_left _ hmem)] at hchar
    cases hchar
  | @moduleAttribute name => exact ⟨'@', head?_exprChars_moduleAttribute name, by decide⟩
  | atom name => exact ⟨':', head?_exprChars_atom name, by decide⟩

theorem head?_chars (h : t.isOperand = false) :
    ∃ c, t.chars.head? = some c ∧ c ∈ delimiters := by
  cases t with
  | operand node => cases h
  | call function => exact ⟨'.', rfl, by decide⟩
  | mark sign => cases sign <;> exact ⟨_, rfl, by decide⟩

theorem Token.OfTerm.chars_ne_nil (h : t.OfTerm) : t.chars ≠ [] := by
  intro hnil
  cases t with
  | operand node =>
    obtain ⟨c, hc, _⟩ := head?_exprChars h
    rw [show exprChars node = [] from hnil] at hc
    cases hc
  | call function => cases hnil
  | mark sign => cases sign <;> cases hnil

/-- Whatever follows, no operand is taken for another token. -/
theorem apart_operand (h : a.IsOperand) (hu : u.isOperand = false) :
    Apart Token.chars (fun _ => True) (.operand a) u := by
  obtain ⟨c, hc, hout⟩ := head?_exprChars h
  obtain ⟨d, hd, hin⟩ := head?_chars hu
  refine Text.apart_of_head? hc hd ?_
  rintro rfl
  exact hout hin

theorem apart_call_mark (function : String) (sign : Mark) :
    Apart Token.chars (fun _ => True) (.call function) (.mark sign) := by
  have hhead : ∃ c, sign.chars.head? = some c ∧ '.' ≠ c := by
    cases sign <;> exact ⟨_, rfl, by decide⟩
  obtain ⟨c, hc, hne⟩ := hhead
  exact Text.apart_of_head? rfl hc hne

theorem apart_calls {function other : String} (hfunction : '(' ∉ function.toList)
    (hother : '(' ∉ other.toList) :
    Apart Token.chars (fun _ => True) (.call function) (.call other) := by
  intro rest rest' _ _ h
  have hsame : function.toList ++ ('(' :: rest) = other.toList ++ ('(' :: rest') := by
    simpa [Token.chars] using h
  -- the parenthesis ends the name
  obtain ⟨hname, hrest⟩ := Text.append_cons_inj hfunction hother hsame
  exact ⟨by rw [String.toList_injective hname], hrest⟩

theorem apart_marks (sign other : Mark) :
    Apart Token.chars (fun _ => True) (.mark sign) (.mark other) := by
  have hbegins (sign other : Mark) : sign.chars <+: other.chars → sign = other := by
    cases sign <;> cases other <;> decide
  exact Text.apart_of_prefix (fun h => congrArg Token.mark (hbegins sign other h))
    fun h => congrArg Token.mark (hbegins other sign h)

/-- Tokens of terms can be told from what is written for them. -/
theorem Token.OfTerm.inj (ht : t.OfTerm) (hu : u.OfTerm) {rest rest' : List Char}
    (hrest : t.Follows rest) (hrest' : u.Follows rest')
    (h : t.chars ++ rest = u.chars ++ rest') : t = u ∧ rest = rest' := by
  cases t with
  | operand node =>
    cases u with
    | operand other =>
      exact (apart_operands ht hu rest rest' hrest hrest' h).imp_left (congrArg Token.operand)
    | call _ | mark _ => exact apart_operand ht rfl rest rest' trivial trivial h
  | call function =>
    cases u with
    | operand _ => exact (apart_operand hu rfl).symm rest rest' trivial trivial h
    | call other => exact apart_calls ht hu rest rest' trivial trivial h
    | mark sign => exact apart_call_mark function sign rest rest' trivial trivial h
  | mark sign =>
    cases u with
    | operand _ => exact (apart_operand hu rfl).symm rest rest' trivial trivial h
    | call function => exact (apart_call_mark function sign).symm rest rest' trivial trivial h
    | mark other => exact apart_marks sign other rest rest' trivial trivial h

/-- In a sound list of tokens, what follows a token is something that ends it. -/
theorem follows_spelled {ts : List Token} (h : t.isOperand = true → Ends ts) (hts : Sound ts) :
    t.Follows (spelled ts) := by
  cases t with
  | operand node =>
    cases ts with
    | nil => exact nofun
    | cons u us =>
      obtain ⟨c, hc, hmem⟩ := head?_chars (h rfl u rfl)
      intro d hd
      rw [spelled_cons, List.head?_append, hc] at hd
      cases hd
      exact hmem
  | call _ | mark _ => trivial

/-- **The tokens of a text.** Tokens of terms that are spelled the same are the same. -/
theorem Sound.spelled_inj {ts us : List Token} (hts : Sound ts) (hus : Sound us)
    (h : spelled ts = spelled us) : ts = us := by
  induction ts generalizing us with
  | nil =>
    cases us with
    | nil => rfl
    | cons u us => exact absurd (List.append_eq_nil_iff.mp h.symm).1 hus.1.chars_ne_nil
  | cons t ts ih =>
    cases us with
    | nil => exact absurd (List.append_eq_nil_iff.mp h).1 hts.1.chars_ne_nil
    | cons u us =>
      obtain ⟨ht, hend, hts⟩ := hts
      obtain ⟨hu, hend', hus⟩ := hus
      rw [spelled_cons, spelled_cons] at h
      obtain ⟨rfl, hrest⟩ := ht.inj hu (follows_spelled hend hts) (follows_spelled hend' hus) h
      rw [ih hts hus hrest]

/-- Terms that are written alike have the same tokens, and the other way round. -/
theorem exprText_eq_iff (ha : a.IsTerm) (hb : b.IsTerm) :
    exprText a = exprText b ↔ tokens a = tokens b := by
  have hsound {node : Node} (h : node.IsTerm) : Sound (tokens node) := by
    rw [← List.append_nil (tokens node)]
    exact sound_tokens h trivial nofun
  rw [exprText_eq_spelled ha, exprText_eq_spelled hb, Except.ok.injEq, String.ofList_inj]
  exact ⟨(hsound ha).spelled_inj (hsound hb), congrArg spelled⟩

end ElixirClient.Source
