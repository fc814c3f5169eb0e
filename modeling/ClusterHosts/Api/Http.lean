import ClusterHosts.Api.Address
import ClusterHosts.Json.Record
import ClusterHosts.Object
import ClusterHosts.Text.Basic

/-! # Requests and answers

A server is asked with the target of a request and answers with a status and a text. The program
reaches servers only through `Http`. An answer of a status that reports an error usually says why in
a form of its own.

Exchanges say how requests and answers are written.
-/

namespace ClusterHosts

/-- An answer of a server. -/
structure Response where
  status : Nat
  body : String
  deriving DecidableEq, Inhabited

/-- Ways to ask servers. -/
structure Http (m : Type → Type) where
  /-- Sends a request for a target to a server; without an answer, the reason in words. -/
  get : ServerAddress → String → m (Except String Response)

/-- How those who ask make themselves known with every request. -/
inductive Authorization where
  | absent
  /-- With a name and a password, which can always be sent. -/
  | password
  | token (text : String)
  deriving DecidableEq, Inhabited

/-- What a server says about an error. -/
structure ApiStatus where
  status : String
  message : String
  reason : String
  code : Nat
  deriving DecidableEq, Inhabited

namespace ApiStatus

/-- The form in which errors are told. -/
def form : RecordForm ApiStatus where
  name := "ErrorResponse"
  start := ⟨"", "", "", 0⟩
  fields := [
    { name := "status", required := true,
      read := fun draft status => do pure { status with status := ← draft.text "a string" } },
    { name := "message",
      read := fun draft status => do pure { status with message := ← draft.text "a string" } },
    { name := "reason",
      read := fun draft status => do pure { status with reason := ← draft.text "a string" } },
    { name := "code", required := true,
      read := fun draft status => do pure { status with code := ← draft.natural 16 } }]

/-- The usual name of a status. -/
def statusName : Nat → String
  | 400 => "Bad Request"
  | 401 => "Unauthorized"
  | 402 => "Payment Required"
  | 403 => "Forbidden"
  | 404 => "Not Found"
  | 405 => "Method Not Allowed"
  | 406 => "Not Acceptable"
  | 407 => "Proxy Authentication Required"
  | 408 => "Request Timeout"
  | 409 => "Conflict"
  | 410 => "Gone"
  | 411 => "Length Required"
  | 412 => "Precondition Failed"
  | 413 => "Payload Too Large"
  | 414 => "URI Too Long"
  | 415 => "Unsupported Media Type"
  | 416 => "Range Not Satisfiable"
  | 417 => "Expectation Failed"
  | 418 => "I'm a teapot"
  | 421 => "Misdirected Request"
  | 422 => "Unprocessable Entity"
  | 423 => "Locked"
  | 424 => "Failed Dependency"
  | 425 => "Too Early"
  | 426 => "Upgrade Required"
  | 428 => "Precondition Required"
  | 429 => "Too Many Requests"
  | 431 => "Request Header Fields Too Large"
  | 451 => "Unavailable For Legal Reasons"
  | 500 => "Internal Server Error"
  | 501 => "Not Implemented"
  | 502 => "Bad Gateway"
  | 503 => "Service Unavailable"
  | 504 => "Gateway Timeout"
  | 505 => "HTTP Version Not Supported"
  | 506 => "Variant Also Negotiates"
  | 507 => "Insufficient Storage"
  | 508 => "Loop Detected"
  | 510 => "Not Extended"
  | 511 => "Network Authentication Required"
  | _ => "<unknown status code>"

/-- What an answer that reports an error says. -/
def ofResponse (response : Response) : ApiStatus :=
  match form.parse response.body with
  | .ok status => status
  | .error _ => {
      status := String.ofList (Text.decimal response.status) ++ " " ++ statusName response.status
      message := String.ofList (Text.quoted response.body)
      reason := "Failed to parse error data"
      code := response.status }

/-- The fields of an error as a message shows them. -/
def fieldsText (status : ApiStatus) : String :=
  let quoted (text : String) := String.ofList (Text.quoted text)
  "ErrorResponse \x7b status: " ++ quoted status.status ++ ", message: " ++ quoted status.message ++
    ", reason: " ++ quoted status.reason ++ ", code: " ++
    String.ofList (Text.decimal status.code) ++ " \x7d"

end ApiStatus

/-- Why a server does not give what it is asked for. -/
inductive ApiError where
  /-- There is no answer, for a reason in words. -/
  | noAnswer (words : String)
  /-- The target is not one that can be sent. -/
  | badTarget
  | reported (status : ApiStatus)
  /-- The answer does not have the expected form. -/
  | malformed (cause : DecodeError)
  deriving DecidableEq, Inhabited

/-- The wording of a failure. -/
def ApiError.message : ApiError → String
  | .noAnswer words => "ServiceError: " ++ words
  | .badTarget => "HttpError: invalid uri character"
  | .reported status =>
      "ApiError: " ++ status.message ++ ": " ++ status.reason ++ " (" ++ status.fieldsText ++ ")"
  | .malformed cause => "Error deserializing response: " ++ cause.message

namespace Http

variable {m : Type → Type} [Monad m]

/-- The text of an answer that reports no error. -/
def accepted (response : Response) : Except ApiError String :=
  if 400 ≤ response.status ∧ response.status < 600 then
    .error (.reported (.ofResponse response))
  else .ok response.body

/-- The JSON value in a text, with its members in the order of their names. -/
def decoded (text : String) : Except ApiError Json :=
  match Json.parse text with
  | .ok value => .ok value.canonical
  | .error error => .error (.malformed (.notJson error))

/-- Whether a text can be said in the head of a request. -/
def isSayable (text : String) : Bool :=
  text.toList.all fun c => (0x20 ≤ c.toNat && c.toNat != 0x7F) || c == '\t'

/-- A way to ask servers that fails before a request is sent if a token without the blanks around it
cannot be said in its head, or if the address has no scheme. -/
def authorized (http : Http m) (authorization : Authorization) : Http m where
  get address target :=
    match authorization with
    | .token text =>
        if isSayable (Text.trim text) then send address target
        else pure (.error "invalid bearer token: failed to parse header value")
    | _ => send address target
where
  /-- Sends a request to an address that has a scheme. -/
  send (address : ServerAddress) (target : String) : m (Except String Response) :=
    if address.scheme.isNone then pure (.error "client error (UserAbsoluteUriRequired)")
    else http.get address target

/-- Asks for a JSON value. An address that no path can follow stops the client for good. -/
def getJson (http : Http m) (address : ServerAddress) (target : String) :
    m (Except ApiError Json) :=
  if !ServerAddress.isPathAndQuery target.toList then pure (.error .badTarget)
  else if !address.takesPaths then
    pure (.error (.noAnswer "buffer's worker closed unexpectedly"))
  else do
    match ← http.get address (address.target target) with
    | .error words => pure (.error (.noAnswer words))
    | .ok response => pure ((accepted response).bind decoded)

/-- Asks for a value of a shape. -/
def getShape (http : Http m) (address : ServerAddress) (target : String) (shape : Shape) :
    m (Except ApiError Json) := do
  match ← http.getJson address target with
  | .error error => pure (.error error)
  | .ok value =>
      match Shape.decode value shape with
      | .ok value => pure (.ok value)
      | .error cause => pure (.error (.malformed cause))

end Http

/-! ## Exchanges with a server

How a request is sent, and how the answer to it is read. An exchange is one request and one answer,
after which the server ends the connection. The body of an answer has the length that its head
tells, or comes in chunks that each tell their length, or else lasts until the end.
-/

namespace Exchange

/-- The text of a request for a target. -/
def requestText (address : ServerAddress) (target : String) : String :=
  "GET " ++ target ++ " HTTP/1.1\r\nhost: " ++ address.authority ++
    "\r\naccept: application/json\r\nconnection: close\r\n\r\n"

/-- The characters before the first empty line, and the bytes behind it. -/
def splitHead? : List UInt8 → Option (List Char × List UInt8)
  | 13 :: 10 :: 13 :: 10 :: rest => some ([], rest)
  | byte :: rest =>
      (splitHead? rest).map fun (head, rest) => (Char.ofNat byte.toNat :: head, rest)
  | [] => none

/-- The characters of the first line, and the bytes behind it. -/
def splitLine? : List UInt8 → Option (List Char × List UInt8)
  | 13 :: 10 :: rest => some ([], rest)
  | byte :: rest =>
      (splitLine? rest).map fun (line, rest) => (Char.ofNat byte.toNat :: line, rest)
  | [] => none

/-- Characters without blanks at either end. -/
def trimBlanks (cs : List Char) : List Char :=
  let isBlank (c : Char) := c == ' ' || c == '\t' || c == '\r'
  ((cs.dropWhile isBlank).reverse.dropWhile isBlank).reverse

/-- What comes before the answer's body. -/
structure Head where
  status : Nat
  /-- The fields by name. Names are in small letters. -/
  fields : List (List Char × List Char)
  deriving DecidableEq, Inhabited

/-- The field in a line of a head. -/
def fieldOfLine (line : List Char) : List Char × List Char :=
  ((line.takeWhile (· != ':')).map Char.toLower, trimBlanks ((line.dropWhile (· != ':')).drop 1))

/-- The head that characters stand for. -/
def Head.ofChars? (cs : List Char) : Option Head :=
  match Text.split '\n' cs with
  | [] => none
  | first :: lines =>
      match Text.split ' ' (trimBlanks first) with
      | _ :: code :: _ =>
          (Text.natural? code).map fun status => ⟨status, lines.map fieldOfLine⟩
      | _ => none

/-- The length of a chunk, which its first line tells before a semicolon. -/
def chunkLength? (line : List Char) : Option Nat :=
  Text.inBase? 16 (trimBlanks (line.takeWhile (· != ';')))

/-- The content of at most a number of chunks, up to the first one of length zero. -/
def joinChunks? : Nat → List UInt8 → Option (List UInt8)
  | 0, _ => none
  | count + 1, bytes => do
      let (line, rest) ← splitLine? bytes
      match ← chunkLength? line with
      | 0 => pure []
      | length =>
          if rest.length < length then none
          else pure (rest.take length ++ (← joinChunks? count (rest.drop (length + 2))))

/-- The body behind a head. It must be complete. -/
def body? (head : Head) (bytes : List UInt8) : Option (List UInt8) :=
  if (head.fields.lookup "transfer-encoding".toList).isSome then
    joinChunks? (bytes.length + 1) bytes
  else match head.fields.lookup "content-length".toList with
    | none => some bytes
    | some text => do
        let length ← Text.natural? text
        if bytes.length < length then none else pure (bytes.take length)

/-- The answer that the bytes of a connection stand for. -/
def response? (bytes : List UInt8) : Option Response := do
  let (cs, rest) ← splitHead? bytes
  let head ← Head.ofChars? cs
  let body ← body? head rest
  let text ← String.fromUTF8? ⟨body.toArray⟩
  pure ⟨head.status, text⟩

/-- The host and the port in an authority, after the name of a user. Without a port it is `80`. -/
def hostAndPort? (authority : String) : Option (String × Nat) :=
  let place := (Text.split '@' authority.toList).getLast?.getD []
  match place with
  | '[' :: rest =>
      let host := String.ofList (rest.takeWhile (· != ']'))
      portOf? ((rest.dropWhile (· != ']')).drop 1) |>.map (host, ·)
  | place =>
      portOf? (place.dropWhile (· != ':')) |>.map (String.ofList (place.takeWhile (· != ':')), ·)
where
  /-- The port that a text behind a host tells. -/
  portOf? : List Char → Option Nat
    | [] => some 80
    | [':'] => some 80
    | ':' :: digits => (Text.natural? digits).filter (· < UInt16.size)
    | _ => none

end Exchange

end ClusterHosts
