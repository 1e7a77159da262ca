import ControlPlane.Text.Utf8
import ControlPlane.Url.Basic

/-!
# Requests and responses

A request asks an address with a method and shows its credentials. A response has a status, headers, and a body that may
fail to arrive. The names of headers do not depend on case, and the first header of a name counts.
-/

namespace ControlPlane.Http

/-- What is asked of an address: what is there, what is there without its body, to delete it, or something else. -/
inductive Method where
  | get | head | delete
  | other (word : String)
deriving DecidableEq, Repr

/-- The word for a method. -/
def Method.word : Method → String
  | get => "GET"
  | head => "HEAD"
  | delete => "DELETE"
  | other word => word

/-- The method that a word stands for. -/
def Method.ofWord : String → Method
  | "GET" => get
  | "HEAD" => head
  | "DELETE" => delete
  | word => other word

/-- A request as it is sent: its address has neither credentials nor fragment. -/
structure Request where
  method : Method
  url : Url
  /-- The credentials, in the order in which they are sent. -/
  authorization : List (List UInt8)
deriving DecidableEq, Repr

/-- A header. -/
structure Header where
  name : String
  value : List UInt8
deriving DecidableEq, Repr

/-- Whether an octet is a blank inside a header. -/
def isHeaderBlank (b : UInt8) : Bool := b == 0x20 || b == 0x09

/-- A value without the blanks around it, which do not belong to it. -/
def trimValue (s : List UInt8) : List UInt8 :=
  ((s.dropWhile isHeaderBlank).reverse.dropWhile isHeaderBlank).reverse

/-- Whether octets can be sent as the value of a header: no control characters but the tab. -/
def isHeaderValue (s : List UInt8) : Bool := s.all fun b => b == 0x09 || (0x20 ≤ b && b != 0x7f)

/-- The text of a value, where it holds printable ASCII and tabs only. -/
def plainText? (s : List UInt8) : Option String :=
  if s.all fun b => b == 0x09 || (0x20 ≤ b && b < 0x7f) then some (String.ofList (s.map fun b => Char.ofNat b.toNat))
  else none

/-- A body as it arrives: its octets, and the text that they are read as. Which character set the octets are read in is up to the
HTTP library. -/
structure Body where
  octets : List UInt8
  text : String
deriving DecidableEq, Repr

/-- The body that is written as a text and read as it was written. -/
def Body.written (text : String) : Body := ⟨Text.octets text, text⟩

/-- A response. -/
structure Response where
  status : UInt16
  headers : List Header := []
  /-- The body, if it arrives. -/
  body : Option Body := some (.written "")
deriving DecidableEq, Repr

namespace Response

/-- The value of the first header with a name. -/
def header? (r : Response) (name : String) : Option (List UInt8) :=
  (r.headers.find? fun h => h.name.toLower == name).map fun h => trimValue h.value

/-- The text of the first header with a name, where it is printable. -/
def headerText? (r : Response) (name : String) : Option String := (r.header? name).bind plainText?

/-- Whether the status says that the request succeeded. -/
def isSuccess (r : Response) : Bool := 200 ≤ r.status && r.status < 300

/-- The text of the body, if it arrives. -/
def text? (r : Response) : Option String := r.body.map (·.text)

end Response

/-! ## Statuses in words -/

/-- The words for the statuses that have some. -/
def reasons : List (UInt16 × String) :=
  [(100, "Continue"), (101, "Switching Protocols"), (102, "Processing"),
    (200, "OK"), (201, "Created"), (202, "Accepted"), (203, "Non Authoritative Information"), (204, "No Content"),
    (205, "Reset Content"), (206, "Partial Content"), (207, "Multi-Status"), (208, "Already Reported"), (226, "IM Used"),
    (300, "Multiple Choices"), (301, "Moved Permanently"), (302, "Found"), (303, "See Other"), (304, "Not Modified"),
    (305, "Use Proxy"), (307, "Temporary Redirect"), (308, "Permanent Redirect"),
    (400, "Bad Request"), (401, "Unauthorized"), (402, "Payment Required"), (403, "Forbidden"), (404, "Not Found"),
    (405, "Method Not Allowed"), (406, "Not Acceptable"), (407, "Proxy Authentication Required"),
    (408, "Request Timeout"), (409, "Conflict"), (410, "Gone"), (411, "Length Required"), (412, "Precondition Failed"),
    (413, "Payload Too Large"), (414, "URI Too Long"), (415, "Unsupported Media Type"), (416, "Range Not Satisfiable"),
    (417, "Expectation Failed"), (418, "I'm a teapot"), (421, "Misdirected Request"), (422, "Unprocessable Entity"),
    (423, "Locked"), (424, "Failed Dependency"), (425, "Too Early"), (426, "Upgrade Required"),
    (428, "Precondition Required"), (429, "Too Many Requests"), (431, "Request Header Fields Too Large"),
    (451, "Unavailable For Legal Reasons"),
    (500, "Internal Server Error"), (501, "Not Implemented"), (502, "Bad Gateway"), (503, "Service Unavailable"),
    (504, "Gateway Timeout"), (505, "HTTP Version Not Supported"), (506, "Variant Also Negotiates"),
    (507, "Insufficient Storage"), (508, "Loop Detected"), (510, "Not Extended"),
    (511, "Network Authentication Required")]

/-- A status as it is told: its number and its words. -/
def statusText (status : UInt16) : String :=
  toString status.toNat ++ " " ++ (reasons.lookup status).getD "<unknown status code>"

end ControlPlane.Http
