import ElixirClient.Renderer.Dispatch

/-!
# Scripts

What a layer puts in the place of a step is a plain function of the scope and the subject. It may
call steps of the run, go on from how these end, and leave artifacts out, but it does not look at
what has been left behind. A script is such a function: its course is a `Program`, and that learns
nothing but how the called steps end.

A session is a renderer at work on one scope. Steps are asked of it one after the other, and what
they leave behind piles up.
-/

namespace ElixirClient

/-- Runs a step up to its end, whether that is a result or a fault. -/
def Render.attempt (step : Render α) : Render (Except Fault α) :=
  tryCatch (.ok <$> step) fun fault => pure (.error fault)

/-- The course of a function: how it ends; or a step that it calls, and how it goes on when it knows
how that ended; or an artifact that it leaves out, and how it goes on. -/
inductive Program (α : Type)
  | done (outcome : Except Fault α)
  | call (step : Step) (scope : Scope) (subject : step.Subject)
      (next : Except Fault step.Product → Program α)
  | leaveOut (dangling : Dangling) (artifact : String) (next : Program α)

namespace Program

protected def bind : Program α → (α → Program β) → Program β
  | .done (.ok a), f => f a
  | .done (.error fault), _ => .done (.error fault)
  | .call step scope subject next, f =>
    .call step scope subject fun outcome => (next outcome).bind f
  | .leaveOut dangling artifact next, f => .leaveOut dangling artifact (next.bind f)

instance : Monad Program where
  pure a := .done (.ok a)
  bind := Program.bind

/-- Calls a step whose faults are not caught. -/
def perform (step : Step) (scope : Scope) (subject : step.Subject) : Program step.Product :=
  .call step scope subject .done

/-- Calls a step; a dangling reference in it leaves the artifact out, any other fault stands. -/
def recording (artifact : String) (step : Step) (scope : Scope) (subject : step.Subject) :
    Program (Option step.Product) :=
  .call step scope subject fun
    | .ok product => .done (.ok (some product))
    | .error (.dangling dangling) => .leaveOut dangling artifact (.done (.ok none))
    | .error fault => .done (.error fault)

def run (steps : Steps) : Program α → Render α
  | .done outcome => Render.ofExcept outcome
  | .call step scope subject next => do
    let outcome ← Render.attempt (steps step scope subject)
    (next outcome).run steps
  | .leaveOut dangling artifact next => do
    Render.leaveOut dangling artifact
    next.run steps

end Program

/-! ### Scripts -/

/-- A function for a step that does not look at what has been left behind. -/
abbrev Script (step : Step) := Scope → step.Subject → Program step.Product

namespace Script

def method (script : Script step) : step.Method := fun steps scope subject =>
  (script scope subject).run steps

/-- The default functions. -/
def default : (step : Step) → Script step
  | .operations => fun scope operations => do
    let sorted ← .done (orderly (Json.sortBy? Operation.functionName operations))
    let rendered ← sorted.mapM fun operation =>
      .recording operation.qualifiedName .operation scope operation
    return rendered.filterMap id
  | .operation => fun scope operation => do
    let doc ← .perform .operationDoc scope operation
    let signature ← .perform .operationSpec scope operation
    let function ← .perform .operationFunction scope operation
    return { name := operation.functionName, doc, signature, function }
  | .operationDoc => fun _ operation => .done (.ok operation.doc)
  | .operationSpec => fun scope operation => .done (operation.signature scope)
  | .operationFunction => fun scope operation => .done (operation.function scope)
  | .schema => fun scope schema => do
    let name ← .done (schema.normalizedName scope)
    let doc ← .perform .schemaDoc scope schema
    let fieldNames ← .perform .schemaFields scope schema
    let fieldTypes ← .perform .schemaTypes scope schema
    let decoders ← .perform .schemaDecoders scope schema
    return {
      name, doc, fieldNames, fieldTypes, decoders
      module := scope.config.qualified (.str name)
      location := Naming.underscore name }
  | .schemaDoc => fun _ schema => .done (.ok schema.doc)
  | .schemaFields => fun _ schema => .done (.ok schema.fieldNames)
  | .schemaTypes => fun scope schema => .done (schema.fieldTypes scope)
  | .schemaDecoders => fun scope schema => .done (schema.decoders scope)

end Script

/-- Scripts for some of the steps. -/
abbrev ScriptLayer := (step : Step) → Option (Script step)

def ScriptLayer.methods (layer : ScriptLayer) : MethodLayer := fun step =>
  (layer step).map Script.method

/-! ### Sessions -/

/-- A renderer at work. Calls of steps are nested up to some depth, and how those end that are
nested deeper is given. -/
structure Session where
  scope : Scope
  /-- The layers around the default steps, the last one outermost. -/
  layers : List ScriptLayer
  depth : Nat
  beyond : (step : Step) → Scope → step.Subject → Except Fault step.Product
  /-- What has been left behind so far. -/
  trace : Trace := {}

namespace Session

/-- What is asked of a session: to render something, to resolve a reference, or to leave out an
artifact. -/
inductive Request
  | render (step : Step) (subject : step.Subject)
  | resolve (ref : TypeRef)
  | leaveOut (dangling : Dangling) (artifact : String)

abbrev Request.Answer : Request → Type
  | .render step _ => step.Product
  | .resolve _ => Node
  | .leaveOut .. => Unit

def steps (session : Session) : Steps :=
  (Implementation.stacked (session.layers.map ScriptLayer.methods)).steps
    (fun step scope subject => Render.ofExcept (session.beyond step scope subject)) session.depth

def answer (session : Session) : (request : Request) → Render request.Answer
  | .render step subject => session.steps step session.scope subject
  | .resolve ref => Render.ofExcept (session.scope.resolver.resolve ref)
  | .leaveOut dangling artifact => Render.leaveOut dangling artifact

/-- How a request ends, and the session behind it. -/
def perform (session : Session) (request : Request) : Except Fault request.Answer × Session :=
  let (outcome, trace) := (session.answer request).run.run session.trace
  (outcome, { session with trace })

/-- The session behind all requests, in order. -/
def performAll (session : Session) (requests : List Request) : Session :=
  requests.foldl (fun session request => (session.perform request).2) session

/-- The session as it would be at the start. -/
def fresh (session : Session) : Session := { session with trace := {} }

end Session

end ElixirClient
