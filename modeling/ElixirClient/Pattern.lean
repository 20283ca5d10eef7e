import ElixirClient.Pattern.Reader
import ElixirClient.Pattern.Matcher

/-!
# Compiled patterns

A pattern with its source text. `search` tells whether it matches anywhere.
-/

namespace ElixirClient

structure Pattern where
  source : String
  regex : Pattern.Regex
  groupCount : Nat
  names : List (String × Nat)
deriving Repr

namespace Pattern

def compile (source : String) : Except Error Pattern := do
  let (regex, groupCount, names) ← readPattern source.toList
  return ⟨source, regex, groupCount, names⟩

/-- Whether the pattern matches somewhere in a text. -/
def search (p : Pattern) (text : String) : Bool :=
  (p.regex.search? text.toList.toArray 0 true).isSome

end Pattern

end ElixirClient
