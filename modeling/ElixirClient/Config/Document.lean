import ElixirClient.Config.Reader
import ElixirClient.Descriptor.Document

/-!
# Configuration files
-/

namespace ElixirClient

/-- Reads the configuration in a file. -/
def readConfigDocument (source text : String) : Except Fault Config := do
  let value ← readJson (fun complaint => .configuration (.notJson source complaint))
    (normalizeLineEnds text.toList)
  readConfig value

end ElixirClient
