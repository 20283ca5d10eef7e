import ElixirClient.Proofs.Renderer.Scripts

/-!
# What scripts leave behind

The account of a program is how it ends and what happens on the way: the steps that are called, at
every depth, and the artifacts that are left out. It does not mention any trace, and yet it describes
the run from every trace (`describes_run`, `describes_steps`): the run ends as the account says, and
it adds one failure and one line for each artifact that is left out.

Of the default scripts only the one for lists of operations leaves artifacts out
(`silent_default`), so whatever is left out goes back to that step or to a layer
(`exists_called_of_leftOut`).
-/

namespace ElixirClient

variable {α β : Type}

/-! ## Events -/

/-- Something that happens while a program runs. -/
inductive Event
  | called (step : Step)
  /-- An artifact is left out, by the function of a step if it is not from outside. -/
  | leftOut (origin : Option Step) (dangling : Dangling) (artifact : String)

namespace Event

/-- The failure that is recorded for an artifact that is left out. A reference that belongs to an
artifact already stays with it; any other goes to the one that is given. -/
def failure? : Event → Option Dangling
  | called _ => none
  | leftOut _ dangling artifact =>
    some { dangling with artifact := some (dangling.owner?.getD artifact) }

def trace : Event → Trace
  | called _ => {}
  | leftOut _ dangling artifact => Render.omission dangling artifact

end Event

theorem Dangling.attributedTo_eq (dangling : Dangling) (artifact : String) :
    dangling.attributedTo artifact =
      { dangling with artifact := some (dangling.owner?.getD artifact) } := by
  rw [attributedTo]
  cases howner : dangling.owner? with
  | none => rfl
  | some owner =>
    have hartifact : dangling.artifact = some owner := (Option.filter_eq_some_iff.mp howner).1
    rw [Option.isSome_some, if_pos rfl, Option.getD_some, ← hartifact]

namespace Trace

/-- What is left behind where these things happen, in order. -/
def ofEvents : List Event → Trace
  | [] => {}
  | event :: rest => event.trace ++ ofEvents rest

theorem ofEvents_append (events events' : List Event) :
    ofEvents (events ++ events') = ofEvents events ++ ofEvents events' := by
  induction events with
  | nil => rfl
  | cons event rest ih => rw [List.cons_append, ofEvents, ih, ofEvents, append_assoc]

theorem failures_ofEvents (events : List Event) :
    (ofEvents events).failures = events.filterMap Event.failure? := by
  induction events with
  | nil => rfl
  | cons event rest ih =>
    rw [ofEvents, failures_append, ih]
    cases event with
    | called step => rfl
    | leftOut origin dangling artifact =>
      rw [List.filterMap_cons, Event.failure?, ← dangling.attributedTo_eq artifact]
      rfl

/-- Every failure comes with one line, and there are no other lines. -/
theorem log_ofEvents (events : List Event) :
    (ofEvents events).log = (ofEvents events).failures.map
      fun failure => ⟨.warning, .state, "Skipping " ++ failure.message⟩ := by
  induction events with
  | nil => rfl
  | cons event rest ih =>
    rw [ofEvents, log_append, failures_append, ih, List.map_append]
    cases event <;> rfl

end Trace

/-! ## Accounts -/

/-- How a run ends, and what happens until then. -/
structure Account (α : Type) where
  outcome : Except Fault α
  events : List Event

/-- Accounts of all calls. -/
abbrev Accounts := (step : Step) → Scope → step.Subject → Account step.Product

/-- From every trace the step ends as the account says and adds what it says. -/
def Account.Describes (account : Account α) (step : Render α) : Prop :=
  ∀ t, step.run.run t = (account.outcome, t ++ Trace.ofEvents account.events)

/-- The account of a program that is run by a step, or from outside. -/
def Program.account (origin : Option Step) (callees : Accounts) : Program α → Account α
  | .done outcome => ⟨outcome, []⟩
  | .call step scope subject next =>
    let callee := callees step scope subject
    let rest := (next callee.outcome).account origin callees
    ⟨rest.outcome, callee.events ++ rest.events⟩
  | .leaveOut dangling artifact next =>
    let rest := next.account origin callees
    ⟨rest.outcome, .leftOut origin dangling artifact :: rest.events⟩

/-- The account of a call up to some depth of nested calls. -/
def Script.accounts (scripts : (step : Step) → Script step)
    (beyond : (step : Step) → Scope → step.Subject → Except Fault step.Product) : Nat → Accounts
  | 0 => fun step scope subject => ⟨beyond step scope subject, [.called step]⟩
  | depth + 1 => fun step scope subject =>
    let account := (scripts step scope subject).account (some step) (accounts scripts beyond depth)
    ⟨account.outcome, .called step :: account.events⟩

theorem Account.describes_ofExcept (e : Except Fault α) :
    Account.Describes ⟨e, []⟩ (Render.ofExcept e) := by
  intro t
  rw [Render.run_ofExcept]
  exact congrArg _ t.append_empty.symm

/-- A program runs as its account says if the steps that it calls do. -/
theorem Program.describes_run {callees : Accounts} {steps : Steps}
    (h : ∀ step scope subject, (callees step scope subject).Describes (steps step scope subject))
    (origin : Option Step) (p : Program α) : (p.account origin callees).Describes (p.run steps) := by
  induction p with
  | done outcome => exact Account.describes_ofExcept outcome
  | call step scope subject next ih =>
    intro t
    rw [run, Render.run_bind, Render.run_attempt, h]
    simp only
    rw [ih, Trace.append_assoc, ← Trace.ofEvents_append]
    rfl
  | leaveOut dangling artifact next ih =>
    intro t
    rw [run, Render.run_bind, Render.run_leaveOut]
    simp only
    rw [ih, Trace.append_assoc]
    rfl

/-- Every step of a renderer of scripts runs as its account says. Induction on the depth, since a
step calls others one call deeper. -/
theorem Script.describes_steps (layers : List ScriptLayer)
    (beyond : (step : Step) → Scope → step.Subject → Except Fault step.Product) (depth : Nat)
    (step : Step) (scope : Scope) (subject : step.Subject) :
    (accounts (dispatched layers) beyond depth step scope subject).Describes
      ((Implementation.stacked (layers.map ScriptLayer.methods)).steps
        (fun step scope subject => Render.ofExcept (beyond step scope subject)) depth step scope
        subject) := by
  induction depth generalizing step scope with
  | zero => exact Account.describes_ofExcept (beyond step scope subject)
  | succ depth ih =>
    show Account.Describes _
      ((Implementation.stacked (layers.map ScriptLayer.methods)).method step _ scope subject)
    rw [method_dispatched]
    exact Program.describes_run ih (some step) (dispatched layers step scope subject)

/-! ## Who leaves artifacts out -/

/-- The program leaves nothing out itself, although the steps that it calls may. -/
def Program.Silent : Program α → Prop
  | .done _ => True
  | .call _ _ _ next => ∀ outcome, (next outcome).Silent
  | .leaveOut .. => False

theorem Program.Silent.bind {p : Program α} {f : α → Program β} (hp : p.Silent)
    (hf : ∀ a, (f a).Silent) : (p >>= f).Silent := by
  induction p with
  | done outcome =>
    cases outcome with
    | ok a => exact hf a
    | error fault => trivial
  | call step scope subject next ih => exact fun outcome => ih outcome (hp outcome)
  | leaveOut dangling artifact next ih => exact hp.elim

theorem Program.silent_perform (step : Step) (scope : Scope) (subject : step.Subject) :
    (perform step scope subject).Silent := fun _ => trivial

theorem Script.silent_default {step : Step} (h : step ≠ .operations) (scope : Scope)
    (subject : step.Subject) : (default step scope subject).Silent := by
  have hcall := Program.silent_perform
  cases step with
  | operations => exact absurd rfl h
  | operation =>
    refine (hcall _ _ _).bind fun _ => (hcall _ _ _).bind fun _ => (hcall _ _ _).bind fun _ => ?_
    trivial
  | schema =>
    refine Program.Silent.bind trivial fun _ => (hcall _ _ _).bind fun _ => ?_
    refine (hcall _ _ _).bind fun _ => (hcall _ _ _).bind fun _ => (hcall _ _ _).bind fun _ => ?_
    trivial
  | _ => trivial

/-- What happens in a program happens in a call, or it is the program itself that leaves something
out. -/
theorem Program.mem_events {origin : Option Step} {callees : Accounts} {p : Program α} {event : Event}
    (h : event ∈ (p.account origin callees).events) :
    (∃ step scope subject, event ∈ (callees step scope subject).events ∧
      (callees step scope subject).events ⊆ (p.account origin callees).events) ∨
    ¬ p.Silent ∧ ∃ dangling artifact, event = .leftOut origin dangling artifact := by
  induction p with
  | done outcome => cases h
  | call step scope subject next ih =>
    rcases List.mem_append.mp h with h | h
    · exact .inl ⟨step, scope, subject, h, List.subset_append_left _ _⟩
    · rcases ih _ h with ⟨step', scope', subject', hmem, hsub⟩ | ⟨hloud, hevent⟩
      · exact .inl ⟨step', scope', subject', hmem, List.Subset.trans hsub (List.subset_append_right _ _)⟩
      · exact .inr ⟨fun hsilent => hloud (hsilent _), hevent⟩
  | leaveOut dangling artifact next ih =>
    rcases List.mem_cons.mp h with rfl | h
    · exact .inr ⟨id, dangling, artifact, rfl⟩
    · rcases ih h with ⟨step, scope, subject, hmem, hsub⟩ | ⟨_, hevent⟩
      · exact .inl ⟨step, scope, subject, hmem, List.Subset.trans hsub (List.subset_cons_self _ _)⟩
      · exact .inr ⟨id, hevent⟩

/-- Some layer has a function for the step. -/
def Overridden (layers : List ScriptLayer) (step : Step) : Prop :=
  ∃ layer ∈ layers, (layer step).isSome

theorem Script.dispatched_of_not_overridden {layers : List ScriptLayer} {step : Step}
    (h : ¬ Overridden layers step) : dispatched layers step = default step := by
  have hnone : mergeLayers layers step = none := by
    rw [mergeLayers, List.findSome?_eq_none_iff]
    intro layer hlayer
    have hlayer := List.mem_reverse.mp hlayer
    exact Option.not_isSome_iff_eq_none.mp fun hsome => h ⟨layer, hlayer, hsome⟩
  rw [dispatched, hnone, Option.getD_none]

/-- **Where omissions come from.** Where an artifact is left out, a step is called whose function
does so, and that is the step for lists of operations or one that a layer has a function for. -/
theorem Script.exists_called_of_leftOut {layers : List ScriptLayer}
    {beyond : (step : Step) → Scope → step.Subject → Except Fault step.Product} {depth : Nat}
    {step : Step} {scope : Scope} {subject : step.Subject} {origin : Option Step}
    {dangling : Dangling} {artifact : String}
    (h : .leftOut origin dangling artifact ∈
      (accounts (dispatched layers) beyond depth step scope subject).events) :
    ∃ caller, origin = some caller ∧
      .called caller ∈ (accounts (dispatched layers) beyond depth step scope subject).events ∧
      (caller = .operations ∨ Overridden layers caller) := by
  induction depth generalizing step scope with
  | zero => cases List.mem_singleton.mp h
  | succ depth ih =>
    rcases List.mem_cons.mp h with h | h
    · cases h
    · rcases Program.mem_events h with ⟨step', scope', subject', hmem, hsub⟩ | ⟨hloud, _, _, hby⟩
      · obtain ⟨caller, hcaller, hcalled, hfrom⟩ := ih hmem
        exact ⟨caller, hcaller, List.mem_cons_of_mem _ (hsub hcalled), hfrom⟩
      · cases hby
        refine ⟨step, rfl, List.mem_cons_self, ?_⟩
        -- a step with its default method leaves nothing out itself, unless it renders operations
        by_contra hneither
        rw [not_or] at hneither
        rw [dispatched_of_not_overridden hneither.2] at hloud
        exact hloud (silent_default hneither.1 scope subject)

end ElixirClient
