/-
EmbeddedGo.Server.App — a server for a project: its files, with modules compiled on request.

Artifacts are answered before anything else, whatever the method. Then come the fixed paths: the four
pages that the web framework has for itself, and four of the server. Every other path is that of a file
in the project: a script is transformed, and anything else is sent as it is. A path that leads out of
the project is refused.

What the framework writes on its pages is not known here. It comes with the state of the server.

  §1 the server and its state
  §2 files
  §3 notices of changed files
  §4 paths
  §5 `respond`: the answer to a request
  §6 clients that wait for events
-/
import EmbeddedGo.Data.Json.Encoded
import EmbeddedGo.Plugin
import EmbeddedGo.Server.MediaType
import EmbeddedGo.Server.Response

namespace EmbeddedGo

/-! ## §1 The server -/

/-- The version of the library. -/
def version : Text := "0.1.0"

/-- The message that asks a client to reload. -/
inductive Payload where
  | fullReload
  deriving DecidableEq

/-- A client's queue and its stream. -/
structure Client where
  queue : Nat
  stream : Nat

/-- The pages of the web framework: a description of the server's paths, two views of it, and one that
the first of these leads to. -/
inductive Page where
  | description
  | docs
  | docsRedirect
  | redoc
  deriving DecidableEq

/-- The path of a page. -/
def Page.path : Page → Text
  | .description => "/openapi.json"
  | .docs => "/docs"
  | .docsRedirect => "/docs/oauth2-redirect"
  | .redoc => "/redoc"

/-- What a server remembers: its session, the channel to its clients, these, and what the framework
answers on its own pages. -/
structure ServerState where
  session : Session
  channel : Reload.Channel Payload := {}
  clients : List Client := []
  pages : Page → Response := fun _ => { status := 200, contentType := none, body := .bytes [] }

/-- A request. -/
structure Request where
  method : Text := "GET"
  path : Text
  body : Bytes := []

/-- What a server does for a request, where a response can come early. -/
abbrev Handler := ExceptT Response (StateM ServerState)

namespace Server

/-- The title of the server. -/
def title : Text := "use-golang dev server"

/-- What happens in the session of a server. -/
def onSession {α : Type} (f : StateM Session α) : StateM ServerState α := do
  let s ← get
  let (a, session) := f.run s.session
  set { s with session }
  return a

/-- A step of the session. What it fails with is not handled, unless `handle` knows an answer. -/
def step {α : Type} (f : Step α) (handle : Error → Option Response) : Handler α := do
  match ← ExceptT.lift (onSession f.run) with
  | .ok a => return a
  | .error e => throw ((handle e).getD (.failed e))

/-- A step whose failures nothing handles. -/
def sure {α : Type} (f : Action α) : Handler α := step (Session.act f) fun _ => none

/-! ## §2 Files -/

/-- Whether a path is the root or lies below it. -/
def isInside (root p : Path) : Bool := p.slashes = root.slashes && root.names.isPrefixOf p.names

/-- The place behind a path that is seen from the root, if it is inside. -/
def projectFile (root : Path) (wanted : Text) : Handler Path := do
  let p ← sure do
    match Host.realPath (← get).files (root.child wanted) with
    | .ok p => return p
    | .error e => throw e
  if isInside root p then return p
  else throw (.refusal 403 ("Path outside project root: " ++ wanted))

/-- The words for a failed transform. -/
def transformFailure : Error → Option Response
  | .transform id cause => some (.refusal 500 (Error.transform id cause).message)
  | _ => none

/-- A script, with what stands in for it if it holds Go. -/
def serveScript (plugin : Plugin) (p : Path) : Handler Response := do
  let code ← sure (Host.readText p)
  match ← step (plugin.transform code p.text) transformFailure with
  | some result => return .script result.code
  | none => return .script code

/-- The file that a directory is shown by. -/
def indexName : Text := "index.html"

/-- What a path without slashes in front means: nothing means the index. -/
def wantedFile (requested : Text) : Text :=
  match requested.dropWhile (· = '/') with
  | [] => indexName
  | wanted => wanted

/-- The file that a request is for. -/
def serveFile (plugin : Plugin) (requested : Text) : Handler Response := do
  let p ← projectFile plugin.projectRoot (wantedFile requested)
  let p := if ← sure (Host.look (·.isDirectory p)) then p.child indexName else p
  if ← sure (Host.look (·.isFile p)) then
    if Reload.isScript p.name then serveScript plugin p
    else return .file (MediaType.ofName p.name) (← sure (Host.readBytes p))
  else throw (.refusal 404 ("Not found: /" ++ requested))

/-! ## §3 Notices -/

/-- A problem with the whole body or a name in it. -/
def bodyIssue (name : Option Text) (kind : Text) : Response :=
  .unfit [⟨"body" :: name.toList, kind⟩]

/-- Whether a value is a number that JSON has no form for. -/
def isBoundless : Value → Bool
  | .real x => !x.isFinite
  | _ => false

/-- Whether a value is a string that is no text. -/
def isUnpaired : Value → Bool
  | .unpaired _ => true
  | _ => false

/-- A problem with a value. The answer shows the value, and fails if that cannot be written. -/
def valueIssue (name : Option Text) (kind : Text) (v : Value) : Response :=
  if v.anyPart isBoundless then
    .failed (.foreign "Out of range float values are not JSON compliant")
  else if v.anyPart isUnpaired then .failed .unpairedHalf
  else bodyIssue name kind

/-- The words for a body that is no JSON for another reason than its grammar. -/
def unreadableBody : Response := .refusal 400 "There was an error parsing the body"

/-- How deeply lists and objects in a body can be nested. -/
def bodyNesting : Nat := 970

/-- The value that a body writes. -/
def bodyValue (body : Bytes) : Except Response Value :=
  match Json.textOf? body with
  | none => .error unreadableBody
  | some s =>
    match Json.readNested bodyNesting s with
    | .ok v => .ok v
    | .error (.malformed ..) => .error (bodyIssue none "json_invalid")
    | .error _ => .error unreadableBody

/-- The file that the body of a notice names. -/
def noticedFile (body : Bytes) : Except Response Text := do
  if body.isEmpty then throw (bodyIssue none "missing")
  match ← bodyValue body with
  | .map entries =>
    match Value.lookup? "file" entries with
    | some (.text file) => return file
    | some (.unpaired points) => throw (valueIssue (some "file") "string_unicode" (.unpaired points))
    | some v => throw (valueIssue (some "file") "string_type" v)
    | none => throw (valueIssue (some "file") "missing" (.map entries))
  | v => throw (valueIssue none "model_attributes_type" v)

/-- A message to every client. -/
def sendReload : StateM ServerState Unit :=
  modify fun s => { s with channel := s.channel.send .fullReload }

/-- The answer to a notice of a changed file. -/
def noticeChange (plugin : Plugin) (body : Bytes) : Handler Response := do
  let file ← ExceptT.mk (pure (noticedFile body))
  let p ← projectFile plugin.projectRoot file
  if ← sure (Host.look (·.isFile p)) then
    let reloaded ← sure (Reload.isAskedBy p)
    if reloaded then ExceptT.lift sendReload
    let count := (← get).channel.subscriberCount
    let clients : Nat := if reloaded then count else 0
    return .ofObject [
      ("file", .text p.text), ("reloaded", .bool reloaded), ("clients", .int clients)]
  else throw (.refusal 404 ("File not found: " ++ file))

/-! ## §4 Paths -/

/-- The path where clients wait for events. -/
def eventsPath : Text := "/__use-golang/events"

/-- The path where changed files are noticed. -/
def noticePath : Text := "/__use-golang/hot-update"

/-- The path that says how the server is. -/
def healthPath : Text := "/health"

/-- What a path is for. -/
inductive Route where
  | page (p : Page)
  | health
  | glue
  | events
  | file (requested : Text)
  deriving DecidableEq

/-- What stands behind the first slash of a path of one line. One line feed may end it. -/
def requestedFile? : Text → Option Text
  | '/' :: rest =>
    let requested := Reload.withoutFinalBreak rest
    if requested.contains '\n' then none else some requested
  | _ => none

/-- The fixed paths for those who ask for something. -/
def fixedRoutes : List (Text × Route) :=
  [Page.description, .docs, .docsRedirect, .redoc].map (fun p => (p.path, Route.page p)) ++
    [(healthPath, .health), (VirtualId.glue, .glue), (eventsPath, .events)]

/-- What a path is for, to those who ask for something. -/
def route? (path : Text) : Option Route :=
  match fixedRoutes.lookup (Reload.withoutFinalBreak path) with
  | some route => some route
  | none => (requestedFile? path).map .file

/-- Whether a route is for a method. Only the pages of the framework can be asked for without their
contents. -/
def Route.takes : Route → (method : Text) → Bool
  | .page _, method => method = "GET".toList || method = "HEAD".toList
  | _, method => method = "GET".toList

/-- A path with a slash at its end taken away or put there. -/
def otherPath (path : Text) : Text :=
  match path.reverse with
  | '/' :: rest => (rest.dropWhile (· = '/')).reverse
  | _ => path ++ "/"

/-! ## §5 Requests -/

/-- How the server is. -/
def health (plugin : Plugin) : Response :=
  .ofObject [
    ("status", .text "healthy"), ("version", .text version), ("mode", .text plugin.mode.text),
    ("tinygo_path", .text plugin.compiler.command),
    ("optimization", .text plugin.compiler.optimization.text),
    ("build_dir", .text plugin.buildRoot.text)]

/-- The words for glue that cannot be read. -/
def glueFailure : Error → Option Response
  | .glueNotFound reason => some (.refusal 500 (Error.glueNotFound reason).message)
  | _ => none

/-- What is at the end of a route. -/
def serveRoute (plugin : Plugin) : Route → Handler Response
  | .page p => return (← get).pages p
  | .health => return health plugin
  | .glue => return .script (← step (Session.loadGlue plugin.compiler) glueFailure)
  | .events => return { status := 200, contentType := some Response.eventsType, body := .bytes [] }
  | .file requested => serveFile plugin requested

/-- The answer for a path that is nothing's. -/
def unknownPath (path : Text) : Response :=
  if path ≠ ['/'] ∧ (route? (otherPath path)).isSome then .redirect else .refusal 404 "Not Found"

/-- The answer to a request that is not for an artifact. -/
def serve (plugin : Plugin) (r : Request) : Handler Response :=
  match route? r.path with
  | none => return unknownPath r.path
  | some route =>
    if r.method = "POST".toList ∧ Reload.withoutFinalBreak r.path = noticePath then
      noticeChange plugin r.body
    else if route.takes r.method then serveRoute plugin route
    else return .refusal 405 "Method Not Allowed"

/-- Whether a path is that of an artifact. -/
def isArtifact (path : Text) : Bool :=
  VirtualId.isVirtual path && Text.endsWith path VirtualId.wasmEnding

/-- The words for an artifact that is not there. -/
def artifactFailure : Error → Option Response
  | .artifactNotFound id path => some (.plain 404 (Error.artifactNotFound id path).message)
  | _ => none

/-- An artifact. -/
def serveArtifact (plugin : Plugin) (path : Text) : Handler Response := do
  return .wasm (← step (Session.act (Session.readArtifact plugin.buildRoot path)) artifactFailure)

/-- The answer to a request. -/
def respond (plugin : Plugin) (r : Request) : StateM ServerState Response := do
  let handler :=
    if plugin.servesArtifacts && isArtifact r.path then serveArtifact plugin r.path
    else serve plugin r
  match ← handler.run with
  | .ok response => return response
  | .error response => return response

/-! ## §6 Clients -/

/-- A new client, which waits for events: its number. -/
def connect : StateM ServerState Nat := do
  let s ← get
  let (queue, channel) := s.channel.subscribe
  let (stream, channel) := channel.stream queue
  let client : Client := ⟨queue, stream⟩
  set { s with channel := channel.start stream, clients := s.clients ++ [client] }
  return s.clients.length

/-- A client that goes away. -/
def disconnect (client : Nat) : StateM ServerState Unit :=
  modify fun s =>
    match s.clients[client]? with
    | some c => { s with channel := s.channel.close c.stream }
    | none => s

/-- One event as a client reads it. -/
def eventText : Payload → Text
  | .fullReload => "data: \x7b\"type\": \"full-reload\", \"path\": \"*\"\x7d\n\n"

/-- All that a client was sent. -/
def events (s : ServerState) (client : Nat) : Text :=
  match s.clients[client]? with
  | some c => (s.channel.received c.queue).flatMap eventText
  | none => []

end Server
end EmbeddedGo
