/-
EmbeddedGo.Config — options from a file.

The file is named, or it is the first of three that stand in the project; without any the options
are the defaults. A file whose name ends in `.json` holds JSON, any other YAML. A document that says
nothing gives the defaults too.

Loading is said for any way to look paths up and read files, and for any reader of YAML (`Source`), and
then for the files of a host.

  §1 failures: some are reported as errors of the configuration, and some are not foreseen
  §2 reading a document
  §3 `loadFrom`: the options from a source
  §4 `load`: the options from files
-/
import EmbeddedGo.Data.Yaml.Document
import EmbeddedGo.Error
import EmbeddedGo.Options
import EmbeddedGo.Text.Lines

namespace EmbeddedGo.Config

/-! ## §1 Failures -/

/-- Why no options come from a file. -/
inductive Failure where
  /-- The named file does not exist. -/
  | missing (path : Text)
  /-- The file cannot be read or is no document; the words say why. -/
  | unreadable (path words : Text)
  /-- The document is no mapping. -/
  | noMapping (path : Text)
  | invalid (path : Text) (issues : List Options.Issue)
  /-- A name in the document is no text. -/
  | nameNotText
  /-- Something that is no failure of the configuration by itself. -/
  | unforeseen (cause : Error)

/-- The words of a failure. -/
def Failure.message : Failure → Text
  | missing path => Error.tagged ("Config file not found: " ++ path)
  | unreadable path words => Error.tagged ("Could not read " ++ path ++ ": " ++ words)
  | noMapping path => Error.tagged (path ++ " must contain a mapping of options")
  | invalid path issues =>
    Error.tagged ("Invalid options in " ++ path ++ ": " ++ Options.issuesMessage issues)
  | nameNotText => "keywords must be strings"
  | unforeseen cause => cause.message

/-- Whether a failure is reported as an error of the configuration. -/
def Failure.isReported : Failure → Bool
  | nameNotText | unforeseen _ => false
  | _ => true

/-! ## §2 Documents -/

/-- What a document holds, as far as options are made of it: nothing, a mapping, whose names are all
strings or not, with the options that its entries make, or something else. -/
inductive Document where
  | nothing
  | mapping (isNamed : Bool) (options : Except (List Options.Issue) Options)
  | other

/-- The document that holds a value. -/
def Document.ofValue (v : Value) : Document :=
  if !v.isTruthy then .nothing
  else
    match v with
    | .map entries => .mapping (entries.all (·.1.isString)) (Options.ofEntries entries)
    | _ => .other

/-- Why a reader makes nothing of a file: it says so in words, or it fails in a way of its own. -/
inductive Unread where
  | stated (words : Text)
  | other (cause : Error)

/-- What options are loaded from: a look-up of paths, the bytes behind them, how deeply lists and
objects in JSON can be nested, and a reader of YAML, which is no part of the library. -/
structure Source where
  exists? : Path → Except Error Bool
  read : Path → Except Fault Bytes
  nesting : Nat
  yaml : (path : Text) → Bytes → Except Unread Document

/-- The document that a text in JSON is. -/
def readJson (nesting : Nat) (path s : Text) : Except Failure Document :=
  match Json.readNested nesting s with
  | .ok v => .ok (.ofValue v)
  | .error (.numberTooLong digits) => .error (.unforeseen (.foreign (Json.tooLongMessage digits)))
  | .error (.tooDeep what) => .error (.unforeseen (.tooDeep (Json.tooDeepMessage what)))
  | .error e => .error (.unreadable path (e.message s))

/-- The document that some bytes are, in the format that the path of their file tells. -/
def readBytes (src : Source) (p : Path) (content : Bytes) : Except Failure Document :=
  if p.ending = ".json".toList then
    match Utf8.decode? content with
    | none => .error (.unforeseen .notText)
    | some s => readJson src.nesting p.text (Text.unifyBreaks s)
  else
    match src.yaml p.text content with
    | .ok d => .ok d
    | .error (.stated words) => .error (.unreadable p.text words)
    | .error (.other cause) => .error (.unforeseen cause)

/-- The document in the file at a path. -/
def readFile (src : Source) (p : Path) : Except Failure Document :=
  match src.read p with
  | .error f => .error (.unreadable p.text f.message)
  | .ok content => readBytes src p content

/-- The options that a document makes. -/
def optionsOf (p : Path) : Document → Except Failure Options
  | .nothing => .ok {}
  | .mapping false _ => .error .nameNotText
  | .mapping true (.ok o) => .ok o
  | .mapping true (.error issues) => .error (.invalid p.text issues)
  | .other => .error (.noMapping p.text)

/-! ## §3 Loading -/

/-- The names under which a file is looked for. -/
def defaultNames : List Text := ["use-golang.yaml", "use-golang.yml", "use-golang.json"]

/-- Whether a path leads to anything. -/
def isThere (src : Source) (p : Path) : Except Failure Bool :=
  match src.exists? p with
  | .ok b => .ok b
  | .error cause => .error (.unforeseen cause)

/-- The first of the named files in a directory that is there. -/
def findFile (src : Source) (root : Path) : List Text → Except Failure (Option Path)
  | [] => .ok none
  | name :: names => do
    let p := root.child name
    if ← isThere src p then return some p else findFile src root names

/-- The options in the named file, or in the one that stands in the project. -/
def loadFrom (src : Source) (named : Option Path) (projectRoot : Path) :
    Except Failure Options := do
  match named with
  | some p =>
    if ← isThere src p then optionsOf p (← readFile src p) else throw (.missing p.text)
  | none =>
    match ← findFile src projectRoot defaultNames with
    | some p => optionsOf p (← readFile src p)
    | none => return {}

/-! ## §4 Files -/

/-- The document that some bytes in YAML are, as far as it is read here: without anchors, aliases, tags
and block scalars. -/
def readYaml (path : Text) (content : Bytes) : Except Unread Document :=
  match Utf8.decode? content with
  | none => .error (.other .notText)
  | some s =>
    match Yaml.read (Text.unifyBreaks s) with
    | .ok v => .ok (.ofValue v)
    | .error (.noValue words) => .error (.other (.foreign words))
    | .error (.tooLarge words) => .error (.other (.tooLarge words))
    | .error .tooDeep => .error (.other (.tooDeep (Yaml.Problem.tooDeep.message path)))
    | .error e => .error (.stated (e.message path))

/-- A file system as what options are loaded from. -/
def Source.ofFiles (files : FileTree) : Source where
  exists? := fun p =>
    match files.exists? p with
    | .ok b => .ok b
    | .error f => .error (.fault f)
  read := files.read
  nesting := Json.nestingLimit
  yaml := readYaml

/-- The options in a file system. -/
def load (files : FileTree) (named : Option Path) (projectRoot : Path) : Except Failure Options :=
  loadFrom (.ofFiles files) named projectRoot

end EmbeddedGo.Config
