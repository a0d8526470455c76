/-
EmbeddedGo.Server.Response — what the server answers.

  §1 responses
  §2 kinds of them
-/
import EmbeddedGo.Data.Json.Writer
import EmbeddedGo.Error

namespace EmbeddedGo

/-! ## §1 Responses -/

/-- What is wrong with the body of a request, and where. -/
structure BodyIssue where
  location : List Text
  kind : Text
  deriving DecidableEq

/-- What a response carries. -/
inductive Body where
  | bytes (content : Bytes)
  | json (v : Value)
  | issues (found : List BodyIssue)

/-- An answer to a request. -/
structure Response where
  status : Nat
  contentType : Option Text
  body : Body
  cacheControl : Option Text := none
  /-- The failure that nothing in the server handles. -/
  raised : Option Error := none

namespace Response

/-- The bytes that are sent. -/
def content (r : Response) : Bytes :=
  match r.body with
  | .bytes content => content
  | .json v => Utf8.encode (Json.write v)
  | .issues _ => []

/-! ## §2 Kinds -/

/-- An object with texts for its names. -/
def object (members : List (Text × Value)) : Value :=
  .map (members.map fun m => (.text m.1, m.2))

/-- The type of JSON. -/
def jsonType : Text := "application/json"

/-- The type of scripts. -/
def scriptType : Text := "application/javascript"

/-- The type of plain texts. -/
def plainType : Text := "text/plain; charset=utf-8"

/-- The type of binaries. -/
def wasmType : Text := "application/wasm"

/-- The type of a stream of events. -/
def eventsType : Text := "text/event-stream; charset=utf-8"

/-- An object. -/
def ofObject (members : List (Text × Value)) : Response :=
  { status := 200, contentType := some jsonType, body := .json (object members) }

/-- A refusal with its reason. -/
def refusal (status : Nat) (detail : Text) : Response :=
  { status, contentType := some jsonType, body := .json (object [("detail", .text detail)]) }

/-- A script. -/
def script (code : Text) : Response :=
  { status := 200, contentType := some scriptType, body := .bytes (Utf8.encode code) }

/-- A file of some type. -/
def file (type : Text) (content : Bytes) : Response :=
  { status := 200, contentType := some type, body := .bytes content }

/-- A binary, which no one is to keep. -/
def wasm (content : Bytes) : Response :=
  { status := 200, contentType := some wasmType, body := .bytes content
    cacheControl := some "no-cache" }

/-- A plain text with a status. -/
def plain (status : Nat) (s : Text) : Response :=
  { status, contentType := some plainType, body := .bytes (Utf8.encode s) }

/-- The answer to a path that is known with or without a slash at its end. -/
def redirect : Response := { status := 307, contentType := none, body := .bytes [] }

/-- The answer to a body that does not fit. -/
def unfit (found : List BodyIssue) : Response :=
  { status := 422, contentType := some jsonType, body := .issues found }

/-- The answer when something failed that nothing handles. -/
def failed (cause : Error) : Response :=
  { plain 500 "Internal Server Error" with raised := some cause }

end Response
end EmbeddedGo
