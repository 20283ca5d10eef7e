import ElixirClient.Fault
import ElixirClient.Text.Split

/-!
# File trees

Files by path, where a path is the list of its names. A directory is there as soon as a file is
below it. Writing a file creates its directories and replaces what was in it.

The tree knows a place by the names that lead to it, as they are written. Two dots are a name like
any other: they do not lead back to the directory above, so `a/../b` and `b` are two places here, and
one on a file system. No file that is generated has such a name of its own; it comes in only with
the output directory or with the name of a document.
-/

namespace ElixirClient

abbrev Path := List String

namespace Path

def isAbsolute (path : Path) : Bool := path.head? = some ""

/-- Empty names and single dots say nothing. -/
def isPlace (name : List Char) : Bool := name ≠ [] && name ≠ ['.']

/-- The names of a path as it is written. An absolute path begins with an empty name, however many
slashes it begins with. A path library may keep a path with exactly two slashes in front apart from
the one with a single slash; here they are one path, as they lead to one place on a file system. -/
def ofChars (cs : List Char) : Path :=
  let names := ((Text.splitAt '/' cs).filter isPlace).map String.ofList
  if cs.head? = some '/' then "" :: names else names

def ofString (s : String) : Path := ofChars s.toList

def text (path : Path) : String :=
  if path.isEmpty then "." else if path = [""] then "/" else "/".intercalate path

/-- A path below another. An absolute path is below none. -/
def join (root path : Path) : Path := if path.isAbsolute then path else root ++ path

end Path

/-- Files with their contents. -/
abbrev SourceTree := List (Path × String)

namespace SourceTree

def isFile (tree : SourceTree) (path : Path) : Bool := (tree.lookup path).isSome

def isDirectory (tree : SourceTree) (path : Path) : Bool :=
  path.isEmpty || path = [""] || tree.any fun (file, _) => path.isPrefixOf file && file ≠ path

/-- Every proper beginning of a path that is not empty. -/
def ancestors (path : Path) : List Path := (List.range' 1 (path.length - 1)).map path.take

def put (path : Path) (content : String) : SourceTree → SourceTree
  | [] => [(path, content)]
  | (p, c) :: rest => if p = path then (p, content) :: rest else (p, c) :: put path content rest

/-- Writes a file. None of its directories may be a file, and it may not be a directory. -/
def write (tree : SourceTree) (path : Path) (content : String) : Except Fault SourceTree :=
  if path.any fun name => name.toList.contains '\x00' then .error (.misuse .wrongValue)
  else if tree.isFile path.dropLast then .error (.file .isFile)
  else if (ancestors path).any tree.isFile then .error (.file .notDirectory)
  else if tree.isDirectory path then .error (.file .isDirectory)
  else .ok (tree.put path content)

/-- Whether a name ends in a slash, or in a slash and a dot. -/
def asksForDirectory (name : List Char) : Bool :=
  ['/'].isSuffixOf name || ['/', '.'].isSuffixOf name

/-- The text of a file by the name it is asked for. -/
def read (tree : SourceTree) (name : String) : Except Fault String :=
  let path := Path.ofString name
  if name.toList.contains '\x00' then .error (.misuse .wrongValue)
  else if name = "" then .error (.file (.missing name))
  else if tree.isDirectory path then .error (.file .isDirectory)
  else if (ancestors path).any tree.isFile then .error (.file .notDirectory)
  else
    match tree.lookup path with
    | some content =>
      if asksForDirectory name.toList then .error (.file .notDirectory) else .ok content
    | none => .error (.file (.missing name))

/-- Files by ascending path text. -/
def sorted (tree : SourceTree) : List (String × String) :=
  (tree.map fun (path, content) => (path.text, content)).mergeSort
    fun a b => decide (a.1 ≤ b.1)

end SourceTree

end ElixirClient
