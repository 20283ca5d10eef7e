import ElixirClient.PathTemplate
import ElixirClient.Session

/-!
# Rendering operations

An operation becomes a documented function with a specification. Its body takes the client from the
options, restricts the options to the declared query parameters, and hands a request descriptor to
the client.
-/

namespace ElixirClient

/-- Responses by ascending status, `default` last. -/
def Status.le : Status → Status → Bool
  | .code a, .code b => a ≤ b
  | .code _, .default => true
  | .default, .default => true
  | .default, .code _ => false

def Status.isRedirect : Status → Bool
  | .code n => 300 ≤ n && n < 400
  | .default => false

def Status.node : Status → Node
  | .code n => .literal (.int n)
  | .default => .atom (.str "default")

namespace Operation

def responsesByStatus (operation : Operation) : List (Status × Content) :=
  operation.responses.mergeSort fun a b => a.1.le b.1

/-- Whether `default` is the only declared response. -/
def onlyDefault (operation : Operation) : Bool :=
  operation.responses.map (·.1) = [.default]

/-- Whether a response with this status is a success. -/
def isSuccess (operation : Operation) : Status → Bool
  | .code n => n < 300
  | .default => operation.onlyDefault

/-- The types of all responses that are successes, or of all that are not. Redirects are neither. -/
def outcomeTypes (operation : Operation) (success : Bool) : List TypeRef :=
  operation.responsesByStatus.flatMap fun (status, content) =>
    if status.isRedirect || operation.isSuccess status != success then []
    else content.map (·.2)

/-- One arm of a return type: the bare tag if there are no types. -/
def outcome (resolver : Resolver) (tag : String) (types : List TypeRef) : Except Fault Node :=
  if types.isEmpty then .ok (.marker tag) else .tagged tag <$> resolver.union types

/-- The union of success and error. A configured error type replaces the declared ones. -/
def returnType (scope : Scope) (operation : Operation) : Except Fault Node := do
  let ok ← outcome scope.resolver "ok" (operation.outcomeTypes true)
  let error ← match scope.config.errorType with
    | some type => .tagged "error" <$> scope.resolver.resolve type
    | none => outcome scope.resolver "error" (operation.outcomeTypes false)
  return .union [ok, error]

def hasBody (operation : Operation) : Bool := !operation.requestBody.isEmpty

/-- The docstring as it is. -/
def doc (operation : Operation) : Doc := ⟨operation.docstring⟩

def signature (scope : Scope) (operation : Operation) : Except Fault Signature := do
  let params ← scope.resolver.resolveAll (operation.pathParams.map Param.type)
  let body ← if operation.hasBody then
      (fun node => [node]) <$> scope.resolver.union (operation.requestBody.map (·.2))
    else .ok []
  return {
    name := operation.functionName
    arguments := params ++ body ++ [.options]
    returnType := ← operation.returnType scope }

/-- The options restricted to the declared query parameters, if there are any. -/
def query (operation : Operation) : Except Fault (Option Node) :=
  if operation.queryParams.isEmpty then .ok none
  else do
    let keys ← orderly (Json.sortBy? id (operation.queryParams.map Param.name))
    return some (.assign "query" (.selectKeys (.var "opts") keys))

/-- The types of the request body by content type. -/
def requestTable (resolver : Resolver) (operation : Operation) : Except Fault Node := do
  let pairs ← operation.requestBody.mapM fun (content, type) => do
    return Node.pair (.literal content) (.typeValue (← resolver.resolve type))
  return .list pairs

/-- The types of the responses by status. -/
def responseTable (resolver : Resolver) (operation : Operation) : Except Fault Node := do
  let pairs ← operation.responsesByStatus.mapM fun (status, content) => do
    return Node.pair status.node (.typeValue (← resolver.union (content.map (·.2))))
  return .list pairs

/-- The entry of a table that is there only under a condition. -/
def entryIf (condition : Bool) (key : String) (value : Except Fault Node) :
    Except Fault (List (String × Node)) :=
  if condition then (fun node => [(key, node)]) <$> value else .ok []

/-- The call that hands the request descriptor to the client. -/
def call (scope : Scope) (operation : Operation) : Except Fault Node := do
  let arguments ← operation.pathArguments
  let args := arguments.map fun (raw, name) => Node.pair (.atom (.str raw)) (.var name)
  let bodyArg := if operation.hasBody then [Node.pair (.atom (.str "body")) (.var "body")] else []
  let target := Node.pair (.moduleRef (scope.config.qualified operation.moduleName))
    (.atom operation.functionName)
  let url ← operation.url
  let body ← entryIf operation.hasBody "body" (.ok (.var "body"))
  let query ← entryIf (!operation.queryParams.isEmpty) "query" (.ok (.var "query"))
  let request ← entryIf operation.hasBody "request" (operation.requestTable scope.resolver)
  let response ← entryIf (!operation.responses.isEmpty) "response"
    (operation.responseTable scope.resolver)
  let entries := [("args", Node.list (args ++ bodyArg)), ("call", target),
      ("url", .interpolation url)] ++ body ++ [("method", .atom (.str operation.method))]
    ++ query ++ request ++ response ++ [("opts", .var "opts")]
  return .call (.var "client") "request" [.mapLiteral entries]

/-- The client from the options, or else the default one. -/
def clientStatement : Node :=
  .assign "client"
    (.fallback (.access (.var "opts") (.atom (.str "client"))) (.attribute "default_client"))

def function (scope : Scope) (operation : Operation) : Except Fault Function := do
  let arguments ← operation.pathArguments
  let params := arguments.map fun (_, name) => Argument.mk name none
  let body := if operation.hasBody then [Argument.mk "body" none] else []
  let query ← operation.query
  let call ← operation.call scope
  return {
    name := operation.functionName
    arguments := params ++ body ++ [⟨"opts", some (.list [])⟩]
    body := clientStatement :: query.toList ++ [call] }

end Operation

end ElixirClient
