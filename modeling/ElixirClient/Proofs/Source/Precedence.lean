import ElixirClient.Proofs.Source.Tokens

/-!
# Precedence

Tokens are read as the language reads them: accesses and calls belong to the operand they stand
behind, and everything between the signs of a fallback is an alternative. `readTerm` reads the
tokens of a term as the term that it settles to (`readTerm_tokens`).

So two terms are written alike exactly if they slide into each other, and what is done to a fallback
is written like what is done to its last alternative. Among terms in which nothing is done to a
fallback, it is the grouping of fallbacks alone that the text does not show
(`exprText_alike_iff`).
-/

namespace ElixirClient.Source

open Node
open Text (continued continued_cons)

/-! ## Reading tokens -/

/-- What was begun in front of an open bracket or parenthesis: the alternatives before, and what is
accessed or called. -/
inductive Opening
  | key (before : List Node) (subject : Node)
  | call (before : List Node) (target : Node) (function : String) (args : List Node)

/-- What was read: the alternatives before the current one, the current one if it has begun, and
what is open around them. -/
structure Reading where
  before : List Node
  current : Option Node
  openings : List Opening

def Reading.step : Reading → Token → Option Reading
  | ⟨before, none, openings⟩, .operand node => some ⟨before, some node, openings⟩
  | ⟨before, some last, openings⟩, .mark .orElse => some ⟨before ++ [last], none, openings⟩
  | ⟨before, some subject, openings⟩, .mark .openKey =>
    some ⟨[], none, .key before subject :: openings⟩
  | ⟨inner, some last, .key before subject :: openings⟩, .mark .closeKey =>
    some ⟨before, some (.access subject (grouped inner last)), openings⟩
  | ⟨before, some target, openings⟩, .call function =>
    some ⟨[], none, .call before target function [] :: openings⟩
  | ⟨inner, some last, .call before target function args :: openings⟩, .mark .comma =>
    some ⟨[], none, .call before target function (args ++ [grouped inner last]) :: openings⟩
  | ⟨inner, some last, .call before target function args :: openings⟩, .mark .closeCall =>
    some ⟨before, some (.call target function (args ++ [grouped inner last])), openings⟩
  | ⟨[], none, .call before target function [] :: openings⟩, .mark .closeCall =>
    some ⟨before, some (.call target function []), openings⟩
  | _, _ => none

/-- The term that the tokens are read as. -/
def readTerm (ts : List Token) : Option Node :=
  match ts.foldlM Reading.step ⟨[], none, []⟩ with
  | some ⟨before, some last, []⟩ => some (grouped before last)
  | _ => none

variable {a b node : Node} {args : List Node} {reading next : Reading}

theorem foldlM_step {t : Token} {ts : List Token} (h : reading.step t = some next) :
    (t :: ts).foldlM Reading.step reading = ts.foldlM Reading.step next := by
  rw [List.foldlM_cons, h]
  rfl

/-- Reading the tokens adds the alternatives of the term to those that were read before. -/
def ReadsIn (node : Node) : Prop :=
  ∀ before openings ts, (tokens node ++ ts).foldlM Reading.step ⟨before, none, openings⟩ =
    ts.foldlM Reading.step ⟨before ++ node.alternatives.1, some node.alternatives.2, openings⟩

/-- The rest of the arguments of a call, when the current one is the last that was read. -/
theorem foldlM_continued (h : ∀ arg ∈ args, ReadsIn arg) (inner : List Node) (last : Node)
    (before : List Node) (target : Node) (function : String) (done : List Node)
    (openings : List Opening) (ts : List Token) :
    (continued tokens [Token.mark .comma] args ++ .mark .closeCall :: ts).foldlM Reading.step
        ⟨inner, some last, .call before target function done :: openings⟩ =
      ts.foldlM Reading.step ⟨before,
        some (.call target function (done ++ grouped inner last :: args.map settled)),
        openings⟩ := by
  induction args generalizing inner last done with
  | nil => exact foldlM_step rfl
  | cons arg args ih =>
    obtain ⟨harg, hargs⟩ := List.forall_mem_cons.mp h
    rw [continued_cons, List.singleton_append, List.cons_append, List.append_assoc]
    refine (foldlM_step rfl).trans ?_
    rw [harg, ih hargs, List.append_assoc]
    rfl

theorem readsIn (h : node.IsTerm) : ReadsIn node := by
  induction h with
  | operand h =>
    intro before openings ts
    rw [tokens_operand h, h.alternatives, List.append_nil]
    exact foldlM_step rfl
  | access _ _ ihsubject ihkey =>
    intro before openings ts
    -- the key begins an expression of its own, which its closing bracket ends
    rw [tokens, List.append_assoc, ihsubject, alternatives_access, List.cons_append,
      List.append_assoc]
    refine (foldlM_step rfl).trans ?_
    rw [ihkey]
    exact foldlM_step rfl
  | fallback _ _ ihprimary ihalternative =>
    intro before openings ts
    -- what was read so far is put away as the alternative on the left
    rw [tokens, List.append_assoc, ihprimary, alternatives, List.cons_append]
    refine (foldlM_step rfl).trans ?_
    rw [ihalternative, List.append_assoc, List.append_assoc]
    rfl
  | @call target function args _ _ _ ihtarget ihargs =>
    intro before openings ts
    rw [tokens_call, List.append_assoc, ihtarget, alternatives_call, List.cons_append,
      List.append_assoc]
    refine (foldlM_step rfl).trans ?_
    cases args with
    | nil => exact foldlM_step rfl
    | cons first others =>
      obtain ⟨hfirst, hothers⟩ := List.forall_mem_cons.mp ihargs
      rw [Text.intercalate_eq_append_continued, List.append_assoc, hfirst]
      exact foldlM_continued hothers ..

/-- A term is read as what it settles to. -/
theorem readTerm_tokens (h : node.IsTerm) : readTerm (tokens node) = some node.settled := by
  rw [readTerm, ← List.append_nil (tokens node), readsIn h]
  rfl

/-! ## Terms that are written alike -/

/-- The text of a term says what it settles to. -/
theorem settled_eq_of_exprText_eq (ha : a.IsTerm) (hb : b.IsTerm)
    (h : exprText a = exprText b) : a.settled = b.settled := by
  have hread := congrArg readTerm ((exprText_eq_iff ha hb).mp h)
  rwa [readTerm_tokens ha, readTerm_tokens hb, Option.some.injEq] at hread

theorem exprText_eq_iff_slides (ha : a.IsTerm) (hb : b.IsTerm) :
    exprText a = exprText b ↔ Congruent Slides a b := by
  refine ⟨fun h => ?_, fun h => (exprText_eq_iff ha hb).mpr (tokens_eq_of_slides h)⟩
  have hsettled := ha.slides_settled
  rw [settled_eq_of_exprText_eq ha hb h] at hsettled
  exact .trans hsettled (.symm hb.slides_settled)

/-- **Texts of terms.** A term is written, and another one is written like it exactly if the two
slide into each other. That no tight term is written like it but those that group its fallbacks
differently holds exactly if the term is tight itself. -/
theorem exprText_alike_iff (ha : a.IsTerm) :
    (∃ text, exprText a = .ok text) ∧
    (∀ b : Node, b.IsTerm → (exprText a = exprText b ↔ Congruent Slides a b)) ∧
    ((∀ b : Node, b.IsTerm → b.Tight → exprText a = exprText b → Congruent Regroups a b) ↔
      a.Tight) := by
  refine ⟨⟨_, exprText_eq_spelled ha⟩, fun b => exprText_eq_iff_slides ha, fun h => ?_,
    fun htight b hb hbtight halike => ?_⟩
  · -- what the term settles to is tight and written like it
    obtain ⟨hterm, hsettled⟩ := ha.tight_settled
    have halike := (exprText_eq_iff_slides ha hterm).mpr ha.slides_settled
    exact (h a.settled hterm hsettled halike).of_regroups.2.mpr hsettled
  · have hsettled := ha.regroups_settled htight
    rw [settled_eq_of_exprText_eq ha hb halike] at hsettled
    exact .trans hsettled (.symm (hb.regroups_settled hbtight))

/-- The client of a request: one of two that are named, or the one that the options give. -/
def namedOrGiven : Node :=
  .fallback (.fallback (.var "named") (.attribute "default_client"))
    (.access (.var "opts") (.atom (.str "client")))

/-- The same alternatives, grouped to the right. -/
def namedOrGivenRight : Node :=
  .fallback (.var "named")
    (.fallback (.attribute "default_client") (.access (.var "opts") (.atom (.str "client"))))

theorem exprText_alike_iff_namedOrGiven : namedOrGiven.IsTerm ∧ namedOrGivenRight.IsTerm ∧
    exprText namedOrGiven = .ok "named || @default_client || opts[:client]" ∧
    exprText namedOrGiven = exprText namedOrGivenRight ∧
    Congruent Regroups namedOrGiven namedOrGivenRight := by
  have hnamed : (Node.var "named").IsTerm := .operand (.var (by decide +kernel))
  have hdefault : (Node.attribute "default_client").IsTerm :=
    .operand (.moduleAttribute (by decide +kernel))
  have hopts : (Node.access (.var "opts") (.atom (.str "client"))).IsTerm :=
    .access (.operand (.var (by decide +kernel))) (.operand (.atom "client"))
  have hterm : namedOrGiven.IsTerm := .fallback (.fallback hnamed hdefault) hopts
  have hright : namedOrGivenRight.IsTerm := .fallback hnamed (.fallback hdefault hopts)
  have htight : namedOrGiven.Tight := by simp [namedOrGiven, Tight, TightHere, isFallback]
  have htight' : namedOrGivenRight.Tight := by
    simp [namedOrGivenRight, Tight, TightHere, isFallback]
  obtain ⟨_, hslides, hregroups⟩ := exprText_alike_iff hterm
  have halike := (hslides namedOrGivenRight hright).mpr (.step (.regroups (.fallback _ _ _)))
  exact ⟨hterm, hright, by decide +kernel, halike,
    hregroups.mpr htight namedOrGivenRight hright htight' halike⟩

/-- An access to a fallback is written like a fallback to an access. -/
theorem accessOfFallback_alike :
    (Node.access (.fallback (.var "a") (.var "b")) (.atom (.str "k"))).IsTerm ∧
      (Node.fallback (.var "a") (.access (.var "b") (.atom (.str "k")))).IsTerm ∧
      exprText (.access (.fallback (.var "a") (.var "b")) (.atom (.str "k"))) =
        .ok "a || b[:k]" ∧
      exprText (.fallback (.var "a") (.access (.var "b") (.atom (.str "k")))) =
        .ok "a || b[:k]" ∧
      ¬ Congruent Regroups (.access (.fallback (.var "a") (.var "b")) (.atom (.str "k")))
        (.fallback (.var "a") (.access (.var "b") (.atom (.str "k")))) := by
  have ha : (Node.var "a").IsTerm := .operand (.var (by decide +kernel))
  have hb : (Node.var "b").IsTerm := .operand (.var (by decide +kernel))
  have hk : (Node.atom (.str "k")).IsTerm := .operand (.atom "k")
  refine ⟨.access (.fallback ha hb) hk, .fallback ha (.access hb hk), by decide +kernel,
    by decide +kernel, fun h => ?_⟩
  cases h.of_regroups.1

end ElixirClient.Source
