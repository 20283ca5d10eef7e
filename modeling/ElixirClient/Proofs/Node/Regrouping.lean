import ElixirClient.Proofs.Node.Parts
import ElixirClient.Text.Identifier

/-!
# Regrouping fallbacks

Terms are made of variables, module attributes and atoms by accesses, fallbacks and calls. Two terms
may differ in the grouping of nested fallbacks only (`Regroups`), or also in whether an access or a
call is to a fallback or to its last alternative (`Slides`). A term is `Tight` if no access and no
call in it is to a fallback.

`settled` is the term that has the same alternatives grouped to the right, with all accesses and
calls at the alternative they follow. It is tight, and a term comes to it by slides, or by
regrouping alone if it is tight itself.
-/

namespace ElixirClient

/-- What names are made of: characters of identifiers, question and exclamation marks. -/
def isNameChar (c : Char) : Bool := Text.isIdentifierContinue c || c = '?' || c = '!'

def IsName (name : String) : Prop := name ≠ "" ∧ ∀ c ∈ name.toList, isNameChar c = true

instance (name : String) : Decidable (IsName name) :=
  decidable_of_iff (name ≠ "" ∧ name.toList.all isNameChar = true)
    (and_congr_right' List.all_eq_true)

theorem IsName.exists_head {name : String} (h : IsName name) :
    ∃ c, name.toList.head? = some c ∧ isNameChar c = true := by
  obtain ⟨hne, hchars⟩ := h
  cases hname : name.toList with
  | nil => exact absurd (String.toList_eq_nil_iff.mp hname) hne
  | cons c cs => exact ⟨c, rfl, hchars c (hname ▸ List.mem_cons_self)⟩

namespace Node

inductive IsOperand : Node → Prop
  | var {name : String} (h : IsName name) : IsOperand (.var name)
  | moduleAttribute {name : String} (h : IsName name) : IsOperand (.attribute name)
  | atom (name : String) : IsOperand (.atom (.str name))

/-- Variables, module attributes and atoms, and what accesses, fallbacks and calls make of them. -/
inductive IsTerm : Node → Prop
  | operand {node : Node} (h : IsOperand node) : IsTerm node
  | access {subject key : Node} (hsubject : IsTerm subject) (hkey : IsTerm key) :
    IsTerm (.access subject key)
  | fallback {primary alternative : Node} (hprimary : IsTerm primary)
    (halternative : IsTerm alternative) : IsTerm (.fallback primary alternative)
  /-- The name of a function may be anything that no parenthesis is opened in. -/
  | call {target : Node} {function : String} {args : List Node} (htarget : IsTerm target)
    (hfunction : '(' ∉ function.toList) (hargs : ∀ arg ∈ args, IsTerm arg) :
    IsTerm (.call target function args)

def isFallback : Node → Bool
  | .fallback _ _ => true
  | _ => false

/-- The node itself is no access and no call to a fallback. -/
def TightHere : Node → Prop
  | .access subject _ | .call subject _ _ => subject.isFallback = false
  | _ => True

/-- No access and no call in the tree is to a fallback. -/
def Tight (node : Node) : Prop := node.Throughout TightHere

/-! ## Steps inside of terms -/

/-- The first node becomes the second by steps, forwards and backwards, at any places in it. -/
inductive Congruent (Step : Node → Node → Prop) : Node → Node → Prop
  | step {a b : Node} (h : Step a b) : Congruent Step a b
  | refl (a : Node) : Congruent Step a a
  | symm {a b : Node} (h : Congruent Step a b) : Congruent Step b a
  | trans {a b c : Node} (hab : Congruent Step a b) (hbc : Congruent Step b c) : Congruent Step a c
  | access {subject subject' key key' : Node} (hsubject : Congruent Step subject subject')
    (hkey : Congruent Step key key') :
    Congruent Step (.access subject key) (.access subject' key')
  | fallback {primary primary' alternative alternative' : Node}
    (hprimary : Congruent Step primary primary')
    (halternative : Congruent Step alternative alternative') :
    Congruent Step (.fallback primary alternative) (.fallback primary' alternative')
  | target {target target' : Node} (function : String) (args : List Node)
    (h : Congruent Step target target') :
    Congruent Step (.call target function args) (.call target' function args)
  | arg {arg arg' : Node} (target : Node) (function : String) (front behind : List Node)
    (h : Congruent Step arg arg') :
    Congruent Step (.call target function (front ++ arg :: behind))
      (.call target function (front ++ arg' :: behind))

/-- Nested fallbacks are grouped to the other side. -/
inductive Regroups : Node → Node → Prop
  | fallback (first second third : Node) :
    Regroups (.fallback (.fallback first second) third) (.fallback first (.fallback second third))

/-- Fallbacks are regrouped, or what is done to a fallback is done to its last alternative. -/
inductive Slides : Node → Node → Prop
  | regroups {before after : Node} (h : Regroups before after) : Slides before after
  | access (primary alternative key : Node) :
    Slides (.access (.fallback primary alternative) key)
      (.fallback primary (.access alternative key))
  | call (primary alternative : Node) (function : String) (args : List Node) :
    Slides (.call (.fallback primary alternative) function args)
      (.fallback primary (.call alternative function args))

variable {Step : Node → Node → Prop} {a b : Node}

/-- All arguments of a call may change at once. -/
theorem Congruent.args {f : Node → Node} {args : List Node}
    (h : ∀ arg ∈ args, Congruent Step arg (f arg)) (target : Node) (function : String) :
    Congruent Step (.call target function args) (.call target function (args.map f)) := by
  suffices hfront : ∀ front, Congruent Step (.call target function (front ++ args))
      (.call target function (front ++ args.map f)) from hfront []
  induction args with
  | nil => exact fun front => .refl _
  | cons arg rest ih =>
    intro front
    have hrest := ih (fun other hother => h other (List.mem_cons_of_mem arg hother))
      (front ++ [f arg])
    rw [List.append_assoc, List.append_assoc] at hrest
    exact .trans (.arg target function front rest (h arg List.mem_cons_self)) hrest

/-- Regrouping turns no fallback into anything else, and moves no access and no call. -/
theorem Congruent.of_regroups (h : Congruent Regroups a b) :
    a.isFallback = b.isFallback ∧ (a.Tight ↔ b.Tight) := by
  unfold Tight
  induction h with
  | step h =>
    obtain ⟨first, second, third⟩ := h
    exact ⟨rfl, by simp [TightHere, and_assoc]⟩
  | refl => exact ⟨rfl, Iff.rfl⟩
  | symm _ ih => exact ⟨ih.1.symm, ih.2.symm⟩
  | trans _ _ ihab ihbc => exact ⟨ihab.1.trans ihbc.1, ihab.2.trans ihbc.2⟩
  | access _ _ ihsubject ihkey =>
    exact ⟨rfl, by simp only [throughout_access, TightHere, ihsubject.1, ihsubject.2, ihkey.2]⟩
  | fallback _ _ ihprimary ihalternative =>
    exact ⟨rfl, by simp only [throughout_fallback, TightHere, ihprimary.2, ihalternative.2]⟩
  | target _ _ _ ih => exact ⟨rfl, by simp only [throughout_call, TightHere, ih.1, ih.2]⟩
  | arg _ _ _ _ _ ih =>
    refine ⟨rfl, ?_⟩
    simp only [throughout_call, TightHere, List.forall_mem_append, List.forall_mem_cons, ih.2]

/-! ## Alternatives -/

/-- Alternatives grouped to the right, before a last one. -/
def grouped (before : List Node) (last : Node) : Node := before.foldr .fallback last

mutual
/-- The alternatives of a term: those before the last one, and the last one. What is done to a
fallback is done to its last alternative. -/
def alternatives : Node → List Node × Node
  | .access subject key =>
    ((alternatives subject).1,
      .access (alternatives subject).2 (grouped (alternatives key).1 (alternatives key).2))
  | .fallback primary alternative =>
    ((alternatives primary).1 ++ (alternatives primary).2 :: (alternatives alternative).1,
      (alternatives alternative).2)
  | .call target function args =>
    ((alternatives target).1, .call (alternatives target).2 function (settledAll args))
  | node => ([], node)

def settledAll : List Node → List Node
  | [] => []
  | node :: rest => grouped (alternatives node).1 (alternatives node).2 :: settledAll rest
end

/-- The term with its alternatives grouped to the right. -/
def settled (node : Node) : Node := grouped node.alternatives.1 node.alternatives.2

theorem settledAll_eq (nodes : List Node) : settledAll nodes = nodes.map settled := by
  induction nodes with
  | nil => rw [settledAll, List.map_nil]
  | cons node rest ih => rw [settledAll, List.map_cons, ih, settled]

/-- An access follows the last alternative of its subject; the others stay outside. -/
theorem alternatives_access (subject key : Node) : (access subject key).alternatives =
    (subject.alternatives.1, .access subject.alternatives.2 key.settled) := by
  rw [alternatives, settled]

/-- And so does a call, with settled arguments. -/
theorem alternatives_call (target : Node) (function : String) (args : List Node) :
    (call target function args).alternatives =
      (target.alternatives.1, .call target.alternatives.2 function (args.map settled)) := by
  rw [alternatives, settledAll_eq]

theorem grouped_nil (last : Node) : grouped [] last = last := rfl

theorem grouped_append (before others : List Node) (middle last : Node) :
    grouped (before ++ middle :: others) last =
      grouped before (.fallback middle (grouped others last)) := by
  rw [grouped, List.foldr_append]
  rfl

/-- An operand is its only alternative, and there is nothing to settle in it. -/
theorem IsOperand.alternatives (h : IsOperand a) : a.alternatives = ([], a) := by
  cases h <;> rfl

theorem IsOperand.settled (h : IsOperand a) : a.settled = a := by
  rw [Node.settled, h.alternatives, grouped_nil]

theorem settled_access (subject key : Node) : (access subject key).settled =
    grouped subject.alternatives.1 (.access subject.alternatives.2 key.settled) := by
  rw [settled, alternatives_access]

/-- The alternatives of both sides in one row, those of the primary side first. -/
theorem settled_fallback (primary alternative : Node) : (fallback primary alternative).settled =
    grouped primary.alternatives.1 (.fallback primary.alternatives.2 alternative.settled) := by
  rw [settled, alternatives, grouped_append, settled]

theorem settled_call (target : Node) (function : String) (args : List Node) :
    (call target function args).settled =
      grouped target.alternatives.1
        (.call target.alternatives.2 function (args.map settled)) := by
  rw [settled, alternatives_call]

/-! ## Terms settle -/

/-- What moves past one alternative moves past all of them. -/
theorem Congruent.grouped {f : Node → Node}
    (h : ∀ first rest, Congruent Step (f (.fallback first rest)) (.fallback first (f rest)))
    (before : List Node) (last : Node) :
    Congruent Step (f (grouped before last)) (grouped before (f last)) := by
  induction before with
  | nil => exact .refl _
  | cons first before ih => exact .trans (h first _) (.fallback (.refl first) ih)

/-- Every term slides into its settled form: first its parts settle, then accesses and calls move
past alternatives, and then the grouping moves to the right. -/
theorem IsTerm.slides_settled (h : a.IsTerm) : Congruent Slides a a.settled := by
  induction h with
  | operand h =>
    rw [h.settled]
    exact .refl _
  | @access subject key _ _ ihsubject ihkey =>
    rw [settled_access]
    exact .trans (.access ihsubject ihkey)
      (.grouped (f := (.access · key.settled)) (fun _ _ => .step (.access _ _ _)) _ _)
  | @fallback primary alternative _ _ ihprimary ihalternative =>
    rw [settled_fallback]
    exact .trans (.fallback ihprimary ihalternative)
      (.grouped (f := (.fallback · alternative.settled))
        (fun _ _ => .step (.regroups (.fallback _ _ _))) _ _)
  | @call target function args _ _ _ ihtarget ihargs =>
    rw [settled_call]
    exact .trans (.trans (.args ihargs target function) (.target function _ ihtarget))
      (.grouped (f := (.call · function (args.map settled))) (fun _ _ => .step (.call _ _ _ _)) _ _)

/-- A tight term that is no fallback has no alternatives. -/
theorem Tight.alternatives_eq_nil (h : a.IsTerm) (htight : a.Tight)
    (hfallback : a.isFallback = false) : a.alternatives.1 = [] := by
  induction h with
  | operand h => rw [h.alternatives]
  | access _ _ ihsubject =>
    obtain ⟨hhere, hsubject, _⟩ := throughout_access.mp htight
    rw [alternatives_access]
    exact ihsubject hsubject hhere
  | fallback _ _ => cases hfallback
  | call _ _ _ ihtarget =>
    obtain ⟨hhere, htarget, _⟩ := throughout_call.mp htight
    rw [alternatives_call]
    exact ihtarget htarget hhere

/-- A tight term settles by regrouping, since nothing in it is done to a fallback. -/
theorem IsTerm.regroups_settled (h : a.IsTerm) (htight : a.Tight) :
    Congruent Regroups a a.settled := by
  -- below an access or a call, the term is its only alternative
  have hsettled {node : Node} (h : node.IsTerm) (htight : node.Tight)
      (hfallback : node.isFallback = false) : node.alternatives.1 = [] ∧
        node.settled = node.alternatives.2 := by
    have hnil := htight.alternatives_eq_nil h hfallback
    exact ⟨hnil, by rw [settled, hnil, grouped_nil]⟩
  induction h with
  | operand h =>
    rw [h.settled]
    exact .refl _
  | access hterm _ ihsubject ihkey =>
    obtain ⟨hhere, hsubject, hkey⟩ := throughout_access.mp htight
    obtain ⟨hnil, hlast⟩ := hsettled hterm hsubject hhere
    rw [settled_access, hnil, grouped_nil, ← hlast]
    exact .access (ihsubject hsubject) (ihkey hkey)
  | @fallback primary alternative _ _ ihprimary ihalternative =>
    obtain ⟨_, hprimary, halternative⟩ := throughout_fallback.mp htight
    rw [settled_fallback]
    exact .trans (.fallback (ihprimary hprimary) (ihalternative halternative))
      (.grouped (f := (.fallback · alternative.settled)) (fun _ _ => .step (.fallback _ _ _)) _ _)
  | @call target function args hterm _ _ ihtarget ihargs =>
    obtain ⟨hhere, htarget, hargs⟩ := throughout_call.mp htight
    obtain ⟨hnil, hlast⟩ := hsettled hterm htarget hhere
    rw [settled_call, hnil, grouped_nil, ← hlast]
    exact .trans (.args (fun arg harg => ihargs arg harg (hargs arg harg)) target function)
      (.target function _ (ihtarget htarget))

/-! ## Settled terms -/

/-- A tight term that is no fallback itself. -/
structure Single (node : Node) : Prop where
  isTerm : node.IsTerm
  tight : node.Tight
  isFallback : node.isFallback = false

theorem IsOperand.single (h : IsOperand a) : a.Single := by
  refine ⟨.operand h, ?_, ?_⟩
  · cases h <;> exact (throughout_leaf rfl).mpr trivial
  · cases h <;> rfl

/-- A row of alternatives without fallbacks of their own is a tight term. -/
theorem isTerm_and_tight_grouped {before : List Node} {last : Node}
    (hbefore : ∀ node ∈ before, node.Single) (hlast : last.Single) :
    (grouped before last).IsTerm ∧ (grouped before last).Tight := by
  induction before with
  | nil => exact ⟨hlast.isTerm, hlast.tight⟩
  | cons first before ih =>
    obtain ⟨hfirst, hbefore⟩ := List.forall_mem_cons.mp hbefore
    obtain ⟨hterm, htight⟩ := ih hbefore
    exact ⟨.fallback hfirst.isTerm hterm,
      throughout_fallback.mpr ⟨trivial, hfirst.tight, htight⟩⟩

theorem IsTerm.single_alternatives (h : a.IsTerm) :
    (∀ node ∈ a.alternatives.1, node.Single) ∧ a.alternatives.2.Single := by
  -- along the term, with the alternatives of its parts known to be single
  induction h with
  | operand h =>
    rw [h.alternatives]
    exact ⟨nofun, h.single⟩
  | access _ _ ihsubject ihkey =>
    obtain ⟨hbefore, hsubject⟩ := ihsubject
    obtain ⟨hkey, hkeyTight⟩ := isTerm_and_tight_grouped ihkey.1 ihkey.2
    rw [alternatives_access]
    exact ⟨hbefore, .access hsubject.isTerm hkey,
      throughout_access.mpr ⟨hsubject.isFallback, hsubject.tight, hkeyTight⟩, rfl⟩
  | fallback _ _ ihprimary ihalternative =>
    rw [alternatives]
    exact ⟨List.forall_mem_append.mpr
      ⟨ihprimary.1, List.forall_mem_cons.mpr ⟨ihprimary.2, ihalternative.1⟩⟩, ihalternative.2⟩
  | call _ hfunction _ ihtarget ihargs =>
    obtain ⟨hbefore, htarget⟩ := ihtarget
    have hargs := fun arg harg => isTerm_and_tight_grouped (ihargs arg harg).1 (ihargs arg harg).2
    rw [alternatives_call]
    exact ⟨hbefore, .call htarget.isTerm hfunction (List.forall_mem_map.mpr fun arg harg =>
        (hargs arg harg).1),
      throughout_call.mpr ⟨htarget.isFallback, htarget.tight, List.forall_mem_map.mpr
        fun arg harg => (hargs arg harg).2⟩, rfl⟩

theorem IsTerm.tight_settled (h : a.IsTerm) : a.settled.IsTerm ∧ a.settled.Tight :=
  isTerm_and_tight_grouped h.single_alternatives.1 h.single_alternatives.2

end Node

end ElixirClient
