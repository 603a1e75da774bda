import ClusterAudit.Url.Reader

/-!
# Requests and replies

What the program asks of other services is a value: a method, an address and a body. What comes
back is a reply with a status, or nothing, when the service cannot be reached. A network is
whatever answers requests.
-/

namespace ClusterAudit

/-- A request to another service. -/
structure Request where
  /-- The method. -/
  method : String
  /-- The address. -/
  url : Url
  /-- The type of the body. -/
  contentType : Option String := none
  /-- The body. -/
  body : String := ""
deriving DecidableEq, Inhabited

/-- What comes back. -/
inductive Reply where
  /-- An answer of the service. -/
  | response (status : Nat) (body : String)
  /-- The service cannot be reached. -/
  | unreachable
deriving DecidableEq, Inhabited

/-- Whatever answers requests. -/
abbrev Network := Request → Reply

/-- The network in which nothing can be reached. -/
def Network.none : Network := fun _ => .unreachable

/-! ### Statuses -/

/-- Whether a status says that the request failed. -/
def isFailure (status : Nat) : Bool :=
  400 ≤ status && status < 600

/-- The names of the statuses of failures. -/
def failureNames : List (Nat × String) :=
  [(400, "Bad Request"), (401, "Unauthorized"), (402, "Payment Required"), (403, "Forbidden"),
    (404, "Not Found"), (405, "Method Not Allowed"), (406, "Not Acceptable"),
    (407, "Proxy Authentication Required"), (408, "Request Timeout"), (409, "Conflict"),
    (410, "Gone"), (411, "Length Required"), (412, "Precondition Failed"),
    (413, "Payload Too Large"), (414, "URI Too Long"), (415, "Unsupported Media Type"),
    (416, "Range Not Satisfiable"), (417, "Expectation Failed"), (418, "I'm a teapot"),
    (421, "Misdirected Request"), (422, "Unprocessable Entity"), (423, "Locked"),
    (424, "Failed Dependency"), (426, "Upgrade Required"), (428, "Precondition Required"),
    (429, "Too Many Requests"), (431, "Request Header Fields Too Large"),
    (451, "Unavailable For Legal Reasons"), (500, "Internal Server Error"),
    (501, "Not Implemented"), (502, "Bad Gateway"), (503, "Service Unavailable"),
    (504, "Gateway Timeout"), (505, "HTTP Version Not Supported"),
    (506, "Variant Also Negotiates"), (507, "Insufficient Storage"), (508, "Loop Detected"),
    (510, "Not Extended"), (511, "Network Authentication Required")]

/-- The status of a failure with its name. -/
def failureText (status : Nat) : String :=
  Text.decimal status ++ " " ++ match failureNames.find? fun e => e.1 == status with
    | some e => e.2
    | none => "<unknown status code>"

/-! ### Sending requests -/

/-- Why a request did not bring what it should. -/
inductive ExchangeFault where
  /-- The service answered with a status that says so. -/
  | status (code : Nat) (url : Url)
  /-- The answer is not what was expected. -/
  | undecodable
  /-- The service cannot be reached. -/
  | unreachable (url : Url)
  /-- The address is of no scheme that requests can be sent to. -/
  | unsupported (url : Url)
  /-- The address is none. -/
  | malformed (cause : Url.Fault)
deriving DecidableEq, Inhabited

namespace ExchangeFault

/-- The words for a request that failed. Passwords are not repeated. -/
def message : ExchangeFault → String
  | .status code url =>
    "HTTP status " ++ (if code < 500 then "client" else "server") ++ " error (" ++ failureText code
      ++ ") for url (" ++ url.withoutUserinfo.text ++ ")"
  | .undecodable => "error decoding response body"
  | .unreachable url => "error sending request for url (" ++ url.withoutUserinfo.text ++ ")"
  | .unsupported url => "builder error for url (" ++ url.withoutUserinfo.text ++ ")"
  | .malformed _ => "builder error"

end ExchangeFault

/-- Whether requests can be sent to an address. -/
def Url.isRequestable (u : Url) : Bool :=
  (u.scheme == "http" || u.scheme == "https") && u.host.isSome

/-- The body of a successful answer to a request. -/
def Network.send (net : Network) (r : Request) : Except ExchangeFault String :=
  if !r.url.isRequestable then .error (.unsupported r.url)
  else match net r with
    | .unreachable => .error (.unreachable r.url)
    | .response status body => if isFailure status then .error (.status status r.url) else .ok body

/-- The body of a successful answer to a request for what stands at an address. -/
def Network.fetch (net : Network) (address : String) : Except ExchangeFault String :=
  match Url.parse address with
  | .error e => .error (.malformed e)
  | .ok url => net.send { method := "GET", url }

end ClusterAudit
