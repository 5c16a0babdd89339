import Scaffold.Text.Utf8

/-!
# Message — requests and replies

A request with everything evaluated, as it is handed to the network, and what comes back.
-/

set_option autoImplicit false

namespace Scaffold.Http

/-- A part of a multipart body. -/
structure Part where
  name : String
  fileName : Option String := none
  content : Bytes
  deriving DecidableEq

/-- The body of a request. -/
inductive Body
  | none
  | content (b : Bytes)
  | multipart (parts : List Part)
  deriving DecidableEq

/-- A request. -/
structure Request where
  method : String := "GET"
  url : String
  headers : List (String × String) := []
  body : Body := .none
  /-- The certificate of the server is not checked. -/
  skipVerify : Bool := false
  deriving DecidableEq

/-- A reply. -/
structure Reply where
  status : Nat
  headers : List (String × Bytes) := []
  body : Bytes := []
  deriving DecidableEq

end Scaffold.Http

/-!
## Reason — what a status says
-/

namespace Scaffold.Http

/-- The reasons of the statuses that are registered. -/
def reasons : List (Nat × String) := [
  (100, "Continue"), (101, "Switching Protocols"), (102, "Processing"), (103, "Early Hints"),
  (200, "OK"), (201, "Created"), (202, "Accepted"), (203, "Non Authoritative Information"),
  (204, "No Content"), (205, "Reset Content"), (206, "Partial Content"), (207, "Multi-Status"),
  (208, "Already Reported"), (226, "IM Used"),
  (300, "Multiple Choices"), (301, "Moved Permanently"), (302, "Found"), (303, "See Other"),
  (304, "Not Modified"), (305, "Use Proxy"), (307, "Temporary Redirect"),
  (308, "Permanent Redirect"),
  (400, "Bad Request"), (401, "Unauthorized"), (402, "Payment Required"), (403, "Forbidden"),
  (404, "Not Found"), (405, "Method Not Allowed"), (406, "Not Acceptable"),
  (407, "Proxy Authentication Required"), (408, "Request Timeout"), (409, "Conflict"),
  (410, "Gone"), (411, "Length Required"), (412, "Precondition Failed"),
  (413, "Payload Too Large"), (414, "URI Too Long"), (415, "Unsupported Media Type"),
  (416, "Range Not Satisfiable"), (417, "Expectation Failed"), (418, "I'm a teapot"),
  (421, "Misdirected Request"), (422, "Unprocessable Entity"), (423, "Locked"),
  (424, "Failed Dependency"), (425, "Too Early"), (426, "Upgrade Required"),
  (428, "Precondition Required"), (429, "Too Many Requests"),
  (431, "Request Header Fields Too Large"), (451, "Unavailable For Legal Reasons"),
  (500, "Internal Server Error"), (501, "Not Implemented"), (502, "Bad Gateway"),
  (503, "Service Unavailable"), (504, "Gateway Timeout"), (505, "HTTP Version Not Supported"),
  (506, "Variant Also Negotiates"), (507, "Insufficient Storage"), (508, "Loop Detected"),
  (510, "Not Extended"), (511, "Network Authentication Required")]

/-- The reason of a status; empty if it is not registered. -/
def reason (status : Nat) : String :=
  (reasons.lookup status).getD ""

/-- What is wrong with a status, if it tells of an error. -/
def statusFault? (status : Nat) : Option String :=
  let shown : String :=
    toString status ++ match reasons.lookup status with
      | some reason => " " ++ reason
      | none => " <unknown status code>"
  if 400 ≤ status && status < 500 then some ("HTTP status client error (" ++ shown ++ ")")
  else if 500 ≤ status && status < 600 then some ("HTTP status server error (" ++ shown ++ ")")
  else none

end Scaffold.Http
