import ElixirClient.Proofs.Session.Account

/-!
# Sessions and their history

What a request comes to, and what it adds to a session, is given by its account, in which nothing of
the history of the session occurs (`perform_eq`). So one step keeps all that was there, and a whole
history is the accounts of its requests, one behind the other (`performAll_eq`): `advances_performAll`.
-/

namespace ElixirClient

/-- Something that may add a failure: a call of the step for lists of operations; or an omission
that is asked for from outside, or made by a function that a layer has in the place of a step. -/
def Event.MayAdd (layers : List ScriptLayer) : Event → Prop
  | called step => step = .operations
  | leftOut none _ _ => True
  | leftOut (some caller) _ _ => Overridden layers caller

namespace Session

/-- The account of a request. -/
def account (session : Session) : (request : Request) → Account request.Answer
  | .render step subject =>
    Script.accounts (Script.dispatched session.layers) session.beyond session.depth step
      session.scope subject
  | .resolve ref => ⟨session.scope.resolver.resolve ref, []⟩
  | .leaveOut dangling artifact => ⟨.ok (), [.leftOut none dangling artifact]⟩

/-- What has been left behind plays no part in an account. -/
theorem account_of_trace (session : Session) (trace : Trace) (request : Request) :
    { session with trace }.account request = session.account request := by
  cases request <;> rfl

theorem describes_answer (session : Session) (request : Request) :
    (session.account request).Describes (session.answer request) := by
  cases request with
  | render step subject => exact Script.describes_steps _ _ _ _ _ _
  | resolve ref => exact Account.describes_ofExcept _
  | leaveOut dangling artifact =>
    intro t
    show (Render.leaveOut dangling artifact).run.run t = _
    rw [Render.run_leaveOut]
    rfl

/-! ## One request -/

/-- A request ends and adds as its account says, and changes nothing else. -/
theorem perform_eq (session : Session) (request : Request) :
    session.perform request = ((session.account request).outcome,
      { session with
        trace := session.trace ++ Trace.ofEvents (session.account request).events }) := by
  rw [perform, describes_answer]

theorem failures_perform (session : Session) (request : Request) :
    (session.perform request).2.trace.failures =
      session.trace.failures ++ (session.account request).events.filterMap Event.failure? := by
  rw [perform_eq, ← Trace.failures_ofEvents]
  rfl

theorem log_perform (session : Session) (request : Request) :
    (session.perform request).2.trace.log = session.trace.log ++
      ((session.account request).events.filterMap Event.failure?).map
        fun failure => ⟨.warning, .state, "Skipping " ++ failure.message⟩ := by
  rw [perform_eq, ← Trace.failures_ofEvents, ← Trace.log_ofEvents]
  rfl

/-- Where nothing may add a failure, nothing is added. -/
theorem trace_perform_of_forall {session : Session} {request : Request}
    (h : ∀ event ∈ (session.account request).events, ¬ event.MayAdd session.layers) :
    (session.perform request).2.trace = session.trace := by
  -- what is left out was left out by a step that was called, and that step may add
  have hnone : (session.account request).events.filterMap Event.failure? = [] := by
    rw [List.filterMap_eq_nil_iff]
    intro event hmem
    cases event with
    | called step => rfl
    | leftOut origin dangling artifact =>
      cases request with
      | render step subject =>
        obtain ⟨caller, rfl, hcalled, hfrom⟩ := Script.exists_called_of_leftOut hmem
        rcases hfrom with rfl | hoverridden
        · exact absurd rfl (h _ hcalled)
        · exact absurd hoverridden (h _ hmem)
      | resolve ref => cases hmem
      | leaveOut =>
        cases List.mem_singleton.mp hmem
        exact absurd trivial (h _ hmem)
  have hfailures := failures_perform session request
  have hlog := log_perform session request
  rw [hnone, List.append_nil] at hfailures
  rw [hnone, List.map_nil, List.append_nil] at hlog
  exact congrArg₂ Trace.mk hfailures hlog

/-- What a request makes of a session. -/
structure Advances (session : Session) (request : Request) : Prop where
  /-- The configuration and the names stay as they are. -/
  scope : (session.perform request).2.scope = session.scope
  /-- Nothing but the trace changes. -/
  fresh : (session.perform request).2.fresh = session.fresh
  kept : session.trace.failures <+: (session.perform request).2.trace.failures
  /-- What is new is one failure for each artifact that was left out, in order. -/
  failures : (session.perform request).2.trace.failures =
    session.trace.failures ++ (session.account request).events.filterMap Event.failure?
  /-- Each new failure has one line of its own. -/
  log : (session.perform request).2.trace.log = session.trace.log ++
    ((session.account request).events.filterMap Event.failure?).map
      fun failure => ⟨.warning, .state, "Skipping " ++ failure.message⟩
  untouched : (∀ event ∈ (session.account request).events, ¬ event.MayAdd session.layers) →
    (session.perform request).2.trace = session.trace
  /-- The request ends as it would at the start. -/
  outcome : (session.perform request).1 = (session.fresh.perform request).1

/-- **One step of a session.** -/
theorem advances (session : Session) (request : Request) : session.Advances request where
  scope := by rw [perform_eq]
  fresh := by
    rw [perform_eq]
    rfl
  kept := by
    rw [failures_perform]
    exact List.prefix_append _ _
  failures := failures_perform session request
  log := log_perform session request
  untouched := trace_perform_of_forall
  outcome := by
    rw [perform_eq, perform_eq]
    exact congrArg Account.outcome (account_of_trace session {} request).symm

/-! ## Histories -/

/-- Induction on the history: the accounts are the same in the session behind the first request. -/
theorem performAll_eq (session : Session) (history : List Request) :
    session.performAll history =
      { session with
        trace := session.trace ++
          Trace.ofEvents (history.flatMap fun request => (session.account request).events) } := by
  induction history generalizing session with
  | nil =>
    rw [List.flatMap_nil, Trace.ofEvents, Trace.append_empty]
    rfl
  | cons request rest ih =>
    show (session.perform request).2.performAll rest = _
    rw [ih, perform_eq, List.flatMap_cons, Trace.ofEvents_append, ← Trace.append_assoc]
    simp only [account_of_trace]

/-- **The history of a session does not show.** Behind any history the session has the scope that it
had at the start, its failures and its log are those of the start and what each request added, in
order, and the next request does to it what it would do at the start. -/
theorem advances_performAll (session : Session) (history : List Request) :
    (session.performAll history).scope = session.scope ∧
    (session.performAll history).fresh = session.fresh ∧
    (session.performAll history).trace.failures = session.trace.failures ++
      history.flatMap (fun request => (session.account request).events.filterMap Event.failure?) ∧
    (session.performAll history).trace.log = session.trace.log ++
      history.flatMap (fun request =>
        ((session.account request).events.filterMap Event.failure?).map
          fun failure => ⟨.warning, .state, "Skipping " ++ failure.message⟩) ∧
    ∀ request, (session.performAll history).Advances request ∧
      (session.performAll history).account request = session.account request := by
  rw [performAll_eq]
  refine ⟨rfl, rfl, ?failures, ?log, fun request => ⟨advances _ request, ?account⟩⟩
  case failures =>
    rw [Trace.failures_append, Trace.failures_ofEvents, List.filterMap_flatMap]
  case log =>
    rw [Trace.log_append, Trace.log_ofEvents, Trace.failures_ofEvents, List.filterMap_flatMap,
      List.map_flatMap]
  case account => exact account_of_trace session _ request

/-- A reference that names an artifact keeps it; an empty name counts as none. -/
example :
    let session : Session :=
      { scope := ⟨{}, []⟩, layers := [], depth := 1, beyond := fun _ _ _ => .error .wrongKind }
    (session.performAll [.leaveOut ⟨.str "ghost", some "Pet"⟩ "Pets.show",
        .leaveOut ⟨.str "ghost", some ""⟩ "Pets.show"]).trace.failures =
      [⟨.str "ghost", some "Pet"⟩, ⟨.str "ghost", some "Pets.show"⟩] := rfl

end Session

end ElixirClient
