/-
EmbeddedGo.Command.Invocation — what a command line asks for.

A command line is read in two steps. The first one reads what stands in front of the command, and the
second one the words of the command itself; between them the project is looked up. Paths are checked
in the order in which they are given, and those that are left out come last.

  §1 requests
  §2 paths on the command line, which may have to be there or be of a kind
  §3 `Request.read`: the words of a command
  §4 `Invocation.read`: what stands in front of them
-/
import EmbeddedGo.Command.Arguments
import EmbeddedGo.Error
import EmbeddedGo.Text.Numeral

namespace EmbeddedGo.Command

/-! ## §1 Requests -/

/-- The commands. -/
inductive Name where
  | doctor
  | clean
  | build
  | serve
  deriving DecidableEq

/-- The command of a name. -/
def Name.ofText? (s : Text) : Option Name :=
  if s = "doctor".toList then some doctor
  else if s = "clean".toList then some clean
  else if s = "build".toList then some build
  else if s = "serve".toList then some serve
  else none

/-- One of the commands with its options. -/
inductive Request where
  | doctor
  | clean (olderThan : Option Binary64)
  | build (files : List Text) (out : Text)
  | serve (host : Text) (portNumber : Int)

/-- What holds for every command. -/
structure Common where
  debug : Bool
  config : Option Text
  root : Text

/-- What a command line asks for. -/
inductive Invocation where
  | version
  /-- Only an explanation is asked for. -/
  | help
  | command (common : Common) (name : Name) (words : List Text)

/-- Why a command line cannot be read. -/
inductive Misreading where
  /-- It is not understood. -/
  | usage
  /-- A path on it cannot be one. -/
  | failure (cause : Error)

/-- What is read from a command line. -/
abbrev Reading := Except Misreading

/-- What is there has been understood. -/
def understood {α : Type} : Option α → Reading α
  | some a => .ok a
  | none => .error .usage

/-! ## §2 Paths -/

/-- What a word names, if it is there. -/
def entryAt (files : FileTree) (word : Text) : Option Entry :=
  match files.locateWord word with
  | .ok (_, some item) => some item.entry
  | _ => none

/-- Whether a directory is there. -/
def isDirectory (found : Option Entry) : Bool := found = some .directory

/-- Whether something is there that is no directory. -/
def isFile (found : Option Entry) : Bool :=
  match found with
  | some (.file _) => true
  | _ => false

/-- Checks that what a word names is allowed. -/
def checkPath (files : FileTree) (isAllowed : Option Entry → Bool) (word : Text) : Reading Unit :=
  if word.contains '\x00' then
    .error (.failure (.fault { refusal := .nulCharacter, path := word }))
  else if isAllowed (entryAt files word) then .ok ()
  else .error .usage

/-! ## §3 Words of commands -/

/-- The option that asks for an explanation. -/
def helpOption : OptionSpec := { name := "help", takesValue := false }

/-- The options of a command. -/
def Name.options : Name → List OptionSpec
  | doctor => []
  | clean => [{ name := "older-than" }]
  | build => [{ name := "out", letter := some 'o' }]
  | serve => [{ name := "host" }, { name := "port", letter := some 'p' }]

/-- Checks that no argument is there. -/
def checkNoWords (a : Arguments) : Reading Unit :=
  if a.words.isEmpty then .ok () else .error .usage

/-- The request to remove slots. -/
def readClean (a : Arguments) : Reading Request := do
  let olderThan ← match a.value? "older-than" with
    | none => pure none
    | some word => (understood (Numeral.real? word)).map some
  checkNoWords a
  return .clean olderThan

/-- Checks the files of a bundle, of which there is at least one. -/
def checkFiles (files : FileTree) (a : Arguments) : Reading Unit := do
  a.words.forM (checkPath files isFile)
  if a.words.isEmpty then throw .usage

/-- The request to build a bundle. -/
def readBuild (files : FileTree) (a : Arguments) : Reading Request := do
  let out := (a.value? "out").getD "dist"
  if a.has "out" then checkPath files (!isFile ·) out
  checkFiles files a
  checkPath files (!isFile ·) out
  return .build a.words out

/-- The request to run a server. -/
def readServe (a : Arguments) : Reading Request := do
  let portNumber ← match a.value? "port" with
    | none => pure 5173
    | some word => understood (Numeral.int? word)
  checkNoWords a
  return .serve ((a.value? "host").getD "127.0.0.1") portNumber

/-- What the words of a command ask for; none is an explanation. -/
def Request.read (files : FileTree) (name : Name) (words : List Text) : Reading (Option Request) := do
  let a ← understood (Arguments.read (helpOption :: name.options) true words)
  if a.has "help" then return none
  match name with
  | .doctor => do checkNoWords a; return some .doctor
  | .clean => some <$> readClean a
  | .build => some <$> readBuild files a
  | .serve => some <$> readServe a

/-! ## §4 Command lines -/

/-- The options in front of the command. -/
def commonOptions : List OptionSpec := [
  helpOption, { name := "version", takesValue := false }, { name := "debug", takesValue := false },
  { name := "config", letter := some 'c' }, { name := "root" }]

/-- The first of the options that end a command line early. -/
def early? (a : Arguments) : Option Invocation :=
  a.options.findSome? fun o =>
    if o.1 = "version".toList then some .version
    else if o.1 = "help".toList then some .help
    else none

/-- The root of the project as it is given. -/
def rootOf (a : Arguments) : Text := (a.value? "root").getD "."

/-- Checks the path behind an option. -/
def checkOption (files : FileTree) (a : Arguments) (name : Text) : Reading Unit :=
  if name = "config".toList then
    match a.value? "config" with
    | some word => checkPath files (!isDirectory ·) word
    | none => .ok ()
  else if name = "root".toList then checkPath files (!isFile ·) (rootOf a)
  else .ok ()

/-- Reads what stands in front of the first argument: the arguments, unless it ends early. -/
def readCommon (files : FileTree) (words : List Text) : Reading (Invocation ⊕ Arguments) := do
  let a ← understood (Arguments.read commonOptions false words)
  match early? a with
  | some i => return .inl i
  | none =>
    (a.options.map Prod.fst ++ ["root".toList]).forM (checkOption files a)
    return .inr a

/-- Whether a word looks like an option: it begins with neither a letter nor a digit. -/
def looksLikeOption (word : Text) : Bool :=
  match word with
  | [] => false
  | c :: _ => !(Text.isWord c && c ≠ '_')

/-- What a command line asks for. Where an option stands in the place of the command, it is read as
one before the command line is given up. -/
def Invocation.read (files : FileTree) (words : List Text) : Reading Invocation := do
  match ← readCommon files words with
  | .inl i => return i
  | .inr a =>
    match a.words with
    | [] => throw .usage
    | word :: rest =>
      match Name.ofText? word with
      | some name =>
        return .command { debug := a.has "debug", config := a.value? "config", root := rootOf a }
          name rest
      | none =>
        if looksLikeOption word then
          match ← readCommon files a.words with
          | .inl i => return i
          | .inr _ => throw .usage
        else throw .usage

end EmbeddedGo.Command
