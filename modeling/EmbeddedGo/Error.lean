/-
EmbeddedGo.Error — what can go wrong between a module and its artifact, and the words for it.

Every message of the library itself begins with one tag, so that a host that prints many messages
shows where this one comes from. An error that wraps another keeps the tag of the outermost only.

  §1 the words of the file system
  §2 the causes
  §3 `message`: the words of a cause
-/
import EmbeddedGo.FileTree
import EmbeddedGo.Text.Quoted

namespace EmbeddedGo

/-! ## §1 The file system -/

/-- The number and the words of a refusal. -/
def Refusal.words : Refusal → Option (Nat × Text)
  | .notFound => some (2, "No such file or directory")
  | .accessDenied => some (13, "Permission denied")
  | .alreadyExists => some (17, "File exists")
  | .notDirectory => some (20, "Not a directory")
  | .isDirectory => some (21, "Is a directory")
  | .nameTooLong => some (36, "File name too long")
  | .tooManyLinks => some (40, "Too many levels of symbolic links")
  | .nulCharacter | .linkNotTree => none

/-- A refusal without the path it is about. -/
def Refusal.summary (r : Refusal) : Text :=
  match r, r.words with
  | _, some (_, words) => words
  | .linkNotTree, none => "Cannot call rmtree on a symbolic link"
  | _, none => "embedded null byte"

/-- The words of a refusal with its number and its path. -/
def Fault.message (f : Fault) : Text :=
  let quoted := Text.quoted f.path
  let shown := if f.asPathValue then "PosixPath(" ++ quoted ++ ")" else quoted
  match f.refusal.words with
  | some (number, words) => "[Errno " ++ Text.ofNat number ++ "] " ++ words ++ ": " ++ shown
  | none => f.refusal.summary

/-! ## §2 Causes -/

/-- What can go wrong. -/
inductive Error where
  /-- A module without the directive was to be cut open. -/
  | directiveNotFound
  /-- Nothing but blanks follows the directive. -/
  | emptyGuestCode
  /-- The compiler cannot be run. -/
  | toolchainNotFound (command : Text) (reason : Option Text)
  /-- The compiler ran and reported failure. -/
  | compilation (diagnostics : Text)
  /-- A virtual id has no file behind it. -/
  | artifactNotFound (id : Text) (path : Option Text)
  /-- The runtime glue cannot be read. -/
  | glueNotFound (reason : Text)
  /-- One module cannot be transformed. -/
  | transform (id : Text) (cause : Error)
  /-- A failure described only by its words. -/
  | described (words : Text)
  /-- The file system refuses. -/
  | fault (f : Fault)
  /-- The contents of a file are not text. -/
  | notText
  /-- A whole number is too large for what it enters. -/
  | tooLarge (words : Text)
  /-- A string cannot be written, since half of a surrogate pair stands alone in it. -/
  | unpairedHalf
  /-- The links that a path leads through lead round to themselves. -/
  | linkLoop (path : Text)
  /-- A document or a directory is nested more deeply than can be gone through. -/
  | tooDeep (words : Text)
  /-- A failure of something outside the library, in its own words. -/
  | foreign (words : Text)
  deriving DecidableEq, Inhabited

namespace Error

/-! ## §3 Words -/

/-- The tag of every message. -/
def tag : Text := "[use-golang]"

/-- The words with the tag in front, unless they begin with it. -/
def tagged (words : Text) : Text :=
  if Text.startsWith words tag then words else tag ++ " " ++ words

/-- The words without the tag in front and the blanks after it. -/
def untagged (words : Text) : Text :=
  match Text.after? tag words with
  | some rest => Text.trimStart rest
  | none => words

/-- A note in brackets, if there is one and it is not empty. -/
def note (before after : Text) : Option Text → Text
  | none => []
  | some s => if s.isEmpty then [] else before ++ s ++ after

/-- The message of an error. -/
def message : Error → Text
  | directiveNotFound => tagged "No \"use golang\" directive found"
  | emptyGuestCode => tagged "\"use golang\" directive is not followed by any Go code"
  | toolchainNotFound command reason =>
    tagged ("TinyGo not found at '" ++ command ++ "'" ++ note ": " [] reason ++
      " (install from https://tinygo.org/getting-started/install/)")
  | compilation diagnostics => tagged ("TinyGo compilation failed: " ++ diagnostics)
  | artifactNotFound id path =>
    tagged ("Artifact not found for " ++ id ++ note " (" ")" path)
  | glueNotFound reason =>
    tagged ("Could not find wasm_exec.js from TinyGo installation: " ++ reason)
  | transform id cause =>
    tagged ("Failed to process " ++ id ++ ": " ++ untagged cause.message)
  | described words => tagged words
  | fault f => f.message
  | notText => "the bytes are not a text"
  | tooLarge words => words
  | unpairedHalf => "surrogates not allowed"
  | linkLoop path => "Symlink loop from " ++ Text.quoted path
  | tooDeep words => words
  | foreign words => words

/-- Whether an error is one of the library's own, which carry its tag. -/
def isOwn : Error → Bool
  | fault _ | notText | tooLarge _ | unpairedHalf | linkLoop _ | tooDeep _ | foreign _ => false
  | _ => true

end Error
end EmbeddedGo
