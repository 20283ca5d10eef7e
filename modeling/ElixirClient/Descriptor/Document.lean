import ElixirClient.Descriptor.Reader

/-!
# Descriptor documents

A document is JSON text, from a file or fetched from an address. In a file every line end counts as
a line feed; what is fetched is taken as it is.
-/

namespace ElixirClient

/-- Line ends of all three kinds become line feeds. -/
def normalizeLineEnds : List Char → List Char
  | [] => []
  | '\r' :: '\n' :: rest => '\n' :: normalizeLineEnds rest
  | '\r' :: rest => '\n' :: normalizeLineEnds rest
  | c :: rest => c :: normalizeLineEnds rest

/-- Reads JSON text; a complaint names its source. -/
def readJson (complain : String → Fault) (text : List Char) : Except Fault Json :=
  match Json.read text with
  | .ok value => .ok value
  | .error (.malformed complaint position) =>
    .error (complain (Json.describe text complaint position))
  | .error .oversizedInteger => .error (.misuse .wrongValue)

/-- Reads the document in a file. -/
def readDocument (source text : String) : Except Fault Descriptors := do
  let value ← readJson (fun complaint => .descriptor (.notJson source complaint))
    (normalizeLineEnds text.toList)
  readDescriptors value

/-! ### Fetched documents

What is wrong with a fetched document is told in the words of the HTTP client library: its phrases
for the status codes, its sentence about a refused response, its reason when there is none. This
program only puts the address in front. -/

/-- What comes back when a document is fetched. The reason of a failure is the text of the error
that the HTTP client library raised. -/
inductive Fetched
  | response (status : Nat) (body : String)
  | failure (reason : String)
deriving DecidableEq, Repr

/-- The phrases for status codes, from the table that the HTTP client library keeps of them. -/
def reasonPhrases : List (Nat × String) :=
  [(100, "Continue"), (101, "Switching Protocols"), (102, "Processing"), (103, "Early Hints"),
   (200, "OK"), (201, "Created"), (202, "Accepted"), (203, "Non-Authoritative Information"),
   (204, "No Content"), (205, "Reset Content"), (206, "Partial Content"), (207, "Multi-Status"),
   (208, "Already Reported"), (226, "IM Used"), (300, "Multiple Choices"),
   (301, "Moved Permanently"), (302, "Found"), (303, "See Other"), (304, "Not Modified"),
   (305, "Use Proxy"), (307, "Temporary Redirect"), (308, "Permanent Redirect"),
   (400, "Bad Request"), (401, "Unauthorized"), (402, "Payment Required"), (403, "Forbidden"),
   (404, "Not Found"), (405, "Method Not Allowed"), (406, "Not Acceptable"),
   (407, "Proxy Authentication Required"), (408, "Request Timeout"), (409, "Conflict"),
   (410, "Gone"), (411, "Length Required"), (412, "Precondition Failed"),
   (413, "Request Entity Too Large"), (414, "Request-URI Too Long"),
   (415, "Unsupported Media Type"), (416, "Requested Range Not Satisfiable"),
   (417, "Expectation Failed"), (418, "I'm a teapot"), (421, "Misdirected Request"),
   (422, "Unprocessable Entity"), (423, "Locked"), (424, "Failed Dependency"),
   (425, "Too Early"), (426, "Upgrade Required"), (428, "Precondition Required"),
   (429, "Too Many Requests"), (431, "Request Header Fields Too Large"),
   (451, "Unavailable For Legal Reasons"), (500, "Internal Server Error"),
   (501, "Not Implemented"), (502, "Bad Gateway"), (503, "Service Unavailable"),
   (504, "Gateway Timeout"), (505, "HTTP Version Not Supported"),
   (506, "Variant Also Negotiates"), (507, "Insufficient Storage"), (508, "Loop Detected"),
   (510, "Not Extended"), (511, "Network Authentication Required")]

/-- What the HTTP client library calls a refused status, by its first digit. -/
def statusKind (status : Nat) : String :=
  match status / 100 with
  | 1 => "Informational response"
  | 3 => "Redirect response"
  | 4 => "Client error"
  | 5 => "Server error"
  | _ => "Invalid status code"

/-- Where the HTTP client library says that each status is explained, up to its number. -/
def statusReference : String := "https:" ++ "//developer.mozilla.org/en-US/docs/Web/HTTP/Status/"

/-- Why a response without success is refused. The text is the one of the HTTP client library and is
passed on unchanged. -/
def statusComplaint (url : String) (status : Nat) : String :=
  statusKind status ++ " '" ++ toString status ++ " " ++ (reasonPhrases.lookup status).getD ""
    ++ "' for url '" ++ url ++ "'\nFor more information check: "
    ++ statusReference ++ toString status

/-- A text without a byte order mark in front. -/
def dropByteOrderMark : List Char → List Char
  | '\ufeff' :: rest => rest
  | cs => cs

/-- Reads the document that was fetched from an address. -/
def readFetched (url : String) : Fetched → Except Fault Descriptors
  | .failure reason => refuseDescriptor (.notFetched url reason)
  | .response status body =>
    if status / 100 = 2 then do
      let value ← readJson (fun complaint => .descriptor (.notJson url complaint))
        (dropByteOrderMark body.toList)
      readDescriptors value
    else refuseDescriptor (.notFetched url (statusComplaint url status))

end ElixirClient
