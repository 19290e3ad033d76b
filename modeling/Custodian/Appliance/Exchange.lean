import Custodian.Json.Printer
import Custodian.Text.Utf8

/-!
# Exchanges with the appliance

A request is a method, a URL and perhaps content: a JSON value or a form of several parts. What comes
back is a status with a body, unless the exchange breaks off: before anything was sent, before
an answer came, or inside the body.
-/

namespace Custodian.Appliance

open Json (Value)

/-- What is done with a URL. -/
inductive Method where
  | get
  | post
  | delete
deriving DecidableEq

def Method.name : Method → Text
  | .get => "GET"
  | .post => "POST"
  | .delete => "DELETE"

/-- A part of a form. -/
structure Part where
  name : Text
  fileName : Option Text
  content : Text
deriving DecidableEq

/-- What a request carries. -/
inductive Content where
  | nothing
  | json (v : Value)
  | form (parts : List Part)
deriving DecidableEq

/-- A request. -/
structure Request where
  method : Method
  url : Text
  content : Content
deriving DecidableEq

/-- What came of a request. -/
inductive Exchange where
  /-- The request was not sent. -/
  | unreachable
  /-- The request was sent, and no answer came. -/
  | closed
  /-- An answer came, whose body broke off. -/
  | truncated (status : Nat)
  | answered (status : Nat) (body : Bytes)
deriving DecidableEq

/-! ### Status codes -/

/-- The registered status codes and their phrases. -/
def phrases : List (Nat × String) :=
  [(100, "Continue"), (101, "Switching Protocols"), (102, "Processing"), (103, "Early Hints"),
    (200, "OK"), (201, "Created"), (202, "Accepted"), (203, "Non Authoritative Information"),
    (204, "No Content"), (205, "Reset Content"), (206, "Partial Content"), (207, "Multi-Status"),
    (208, "Already Reported"), (226, "IM Used"), (300, "Multiple Choices"),
    (301, "Moved Permanently"), (302, "Found"), (303, "See Other"), (304, "Not Modified"),
    (305, "Use Proxy"), (307, "Temporary Redirect"), (308, "Permanent Redirect"),
    (400, "Bad Request"), (401, "Unauthorized"), (402, "Payment Required"), (403, "Forbidden"),
    (404, "Not Found"), (405, "Method Not Allowed"), (406, "Not Acceptable"),
    (407, "Proxy Authentication Required"), (408, "Request Timeout"), (409, "Conflict"),
    (410, "Gone"), (411, "Length Required"), (412, "Precondition Failed"),
    (413, "Payload Too Large"), (414, "URI Too Long"), (415, "Unsupported Media Type"),
    (416, "Range Not Satisfiable"), (417, "Expectation Failed"), (418, "I'm a teapot"),
    (421, "Misdirected Request"), (422, "Unprocessable Entity"), (423, "Locked"),
    (424, "Failed Dependency"), (425, "Too Early"), (426, "Upgrade Required"),
    (428, "Precondition Required"), (429, "Too Many Requests"),
    (431, "Request Header Fields Too Large"), (451, "Unavailable For Legal Reasons"),
    (500, "Internal Server Error"), (501, "Not Implemented"), (502, "Bad Gateway"),
    (503, "Service Unavailable"), (504, "Gateway Timeout"), (505, "HTTP Version Not Supported"),
    (506, "Variant Also Negotiates"), (507, "Insufficient Storage"), (508, "Loop Detected"),
    (510, "Not Extended"), (511, "Network Authentication Required")]

/-- A status code with its phrase. -/
def statusLine (status : Nat) : Text :=
  let phrase := (phrases.find? fun p => p.1 = status).map (·.2.toList)
  Text.ofNat status ++ ' ' :: phrase.getD "<unknown status code>"

end Custodian.Appliance
