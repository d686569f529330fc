import Enrolment.Json.Printer
import Enrolment.Service.Request
import Enrolment.Text.Blank
/-!
The account service over HTTP: what is sent for a request, and what an answer means.

An answer of status 499 tells that this build of the client is no longer accepted, which the client
remembers. Any other failure is told by the service in the body, or else by the status.
-/
namespace Enrolment.Service

structure HttpRequest where
  method : String
  url : Url
  query : List (String × String)
  authorization : String
  body : Json
  deriving Inhabited

structure HttpResponse where
  status : Nat
  body : Bytes
  deriving DecidableEq, Inhabited

/-- A network with a state of its own; it may bring no answer, and tell why. -/
abbrev Exchange (ε : Type) := HttpRequest → ε → Except String HttpResponse × ε

structure HttpClient (ε : Type) where
  base : Url
  /-- Set for ever once an answer said so. -/
  deprecated : Bool
  network : ε
  deriving Inhabited

def reasonPhrases : List (Nat × String) :=
  [(100, "Continue"), (101, "Switching Protocols"), (102, "Processing"), (200, "OK"), (201, "Created"),
    (202, "Accepted"), (203, "Non Authoritative Information"), (204, "No Content"), (205, "Reset Content"),
    (206, "Partial Content"), (207, "Multi-Status"), (208, "Already Reported"), (226, "IM Used"),
    (300, "Multiple Choices"), (301, "Moved Permanently"), (302, "Found"), (303, "See Other"),
    (304, "Not Modified"), (305, "Use Proxy"), (307, "Temporary Redirect"), (308, "Permanent Redirect"),
    (400, "Bad Request"), (401, "Unauthorized"), (402, "Payment Required"), (403, "Forbidden"),
    (404, "Not Found"), (405, "Method Not Allowed"), (406, "Not Acceptable"),
    (407, "Proxy Authentication Required"), (408, "Request Timeout"), (409, "Conflict"), (410, "Gone"),
    (411, "Length Required"), (412, "Precondition Failed"), (413, "Payload Too Large"), (414, "URI Too Long"),
    (415, "Unsupported Media Type"), (416, "Range Not Satisfiable"), (417, "Expectation Failed"),
    (418, "I'm a teapot"), (421, "Misdirected Request"), (422, "Unprocessable Entity"), (423, "Locked"),
    (424, "Failed Dependency"), (425, "Too Early"), (426, "Upgrade Required"), (428, "Precondition Required"),
    (429, "Too Many Requests"), (431, "Request Header Fields Too Large"),
    (451, "Unavailable For Legal Reasons"), (500, "Internal Server Error"), (501, "Not Implemented"),
    (502, "Bad Gateway"), (503, "Service Unavailable"), (504, "Gateway Timeout"),
    (505, "HTTP Version Not Supported"), (506, "Variant Also Negotiates"), (507, "Insufficient Storage"),
    (508, "Loop Detected"), (510, "Not Extended"), (511, "Network Authentication Required")]

def reasonPhrase (status : Nat) : String := (reasonPhrases.lookup status).getD "request failed"

def isSuccess (status : Nat) : Bool := 200 ≤ status && status < 300

/-- What a failed answer says: its body if that is in the service's form, or else its status. -/
def failureOf (response : HttpResponse) : Failure :=
  let text := Text.ofUtf8Lossy response.body
  match (Json.document? text).bind Failure.ofJson? with
  | some failure => failure
  | none =>
    ⟨.ofStatus response.status, if Text.allBlank text then reasonPhrase response.status else text⟩

def judge (path : String) (response : HttpResponse) : Except NetworkError Bytes :=
  if response.status = deprecatedStatus then .error .deprecated
  else if isSuccess response.status then .ok response.body
  else .error (.rejected path response.status (failureOf response))

def verifyResponse? (body : Bytes) : Option VerifyResponse :=
  (Json.documentOfBytes? body).bind VerifyResponse.ofJson?

namespace HttpClient

variable {ε : Type}

def new (serverUrl : String) (network : ε) : Except NetworkError (HttpClient ε) :=
  match Url.parse serverUrl with
  | .ok base => .ok ⟨base, false, network⟩
  | .error e => .error (.invalidUrl e)

def send (exchange : Exchange ε) (c : HttpClient ε) (method path : String) (query : List (String × String))
    (credentials : Credentials) (body : Json) : Except NetworkError Bytes × HttpClient ε :=
  match c.base.resolve path with
  | .error e => (.error (.invalidUrl e), c)
  | .ok url =>
    let authorization := "Basic " ++ Text.base64 (Text.utf8 (credentials.username ++ ":" ++ credentials.password))
    match exchange ⟨method, url, query, authorization, body⟩ c.network with
    | (.error detail, network) => (.error (.transport path detail), { c with network })
    | (.ok response, network) =>
      (judge path response,
        { c with network, deprecated := c.deprecated || response.status = deprecatedStatus })

def service (exchange : Exchange ε) : AccountService (HttpClient ε)
  | .verify request credentials, c =>
    let path := "/v1/registration"
    match c.send exchange "POST" path [] credentials request.toJson with
    | (.error e, c) => (.error e, c)
    | (.ok body, c) =>
      match verifyResponse? body with
      | some response => (.ok response, c)
      | none => (.error (.transport path "error decoding response body"), c)
  | .publish space upload credentials, c =>
    match c.send exchange "PUT" "/v2/keys" [("identity", space.name)] credentials upload.toJson with
    | (.error e, c) => (.error e, c)
    | (.ok _, c) => (.ok (), c)

end HttpClient

/-- An address without its user, whose name and password are sent apart from it. They stay where they
cannot be read as text. -/
def withoutUser (url : Url) : Url :=
  match url.authority with
  | none => url
  | some a =>
    let read (part : String) : Option String := Text.ofUtf8? (Text.percentDecode (Text.utf8 part))
    let readable := match read a.username with
      | none => false
      | some username => !username.isEmpty || (!a.password.isEmpty && (read a.password).isSome)
    if readable then { url with authority := some { a with username := "", password := "" } } else url

def HttpRequest.address (r : HttpRequest) : String :=
  let query := String.intercalate "&" (r.query.map fun (name, value) => name ++ "=" ++ value)
  (withoutUser r.url).toText ++ (if query.isEmpty then "" else "?" ++ query)

def addressLimit : Nat := 65534

/-- Whether a request can be sent at all. What is not for the web cannot, and some hosts have signs that
are not allowed on the way. -/
def HttpRequest.canBeSent (r : HttpRequest) : Bool :=
  ["http", "https"].contains r.url.scheme && !r.url.host.toList.any ("\"\x60\x7b\x7d".toList.contains ·) &&
    r.address.utf8ByteSize ≤ addressLimit

def unreachable : Exchange Unit := fun request network =>
  let failed := if request.canBeSent then "error sending request" else "builder error"
  (.error (failed ++ " for url (" ++ request.address ++ ")"), network)

end Enrolment.Service
