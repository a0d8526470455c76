/-
EmbeddedGo.Host — what a build works on: files, and a compiler to run.

The compiler is a program outside the library. All that is known of it is where it stands, whether it
can be started, and what a run comes to, which depends on its arguments and on the source it reads.

  §1 the compiler as a program
  §2 the host, and actions on it
  §3 file actions
  §4 `start?`: the program that a command starts; `run`: a run of it
-/
import EmbeddedGo.Error
import EmbeddedGo.Text.Lines

namespace EmbeddedGo

/-! ## §1 The program -/

/-- What a run comes to: whether it succeeded, what it printed, and what it wrote to its output
file before it ended. -/
structure Answer where
  succeeded : Bool
  stdout : Bytes := []
  stderr : Bytes := []
  written : Option Bytes := none
  deriving DecidableEq, Inhabited

/-- What stands in the place of the program. -/
inductive Presence where
  | executable
  | locked
  | absent
  deriving DecidableEq

/-- A compiler: its place, its answers to arguments and a source, and what it says first, under the
name it was started by, if it cannot write its output file. -/
structure Toolchain where
  place : Place
  presence : Presence := .absent
  answer : (args : List Text) → (source : Bytes) → Answer := fun _ _ => { succeeded := false }
  complaint : (program output : Text) → Refusal → Bytes := fun _ _ _ => []

/-! ## §2 The host -/

/-- The files, the compiler, the directories where commands are looked up, and the arguments of
every run so far. -/
structure Host where
  files : FileTree
  toolchain : Toolchain
  searched : List Path := []
  runs : List (List Text) := []

/-- What changes the host and can fail; what was changed before a failure stays changed. -/
abbrev Action := ExceptT Error (StateM Host)

namespace Host

/-! ## §3 Files -/

/-- The path behind all links, unless they lead round to themselves. -/
def realPath (files : FileTree) (p : Path) : Except Error Path :=
  match files.realPath p with
  | .ok p => .ok p
  | .error ⟨.tooManyLinks, path, _⟩ => .error (.linkLoop path)
  | .error f => .error (.fault f)

/-- An action that only looks at the files. -/
def look {α : Type} (f : FileTree → Except Fault α) : Action α := do
  match f (← get).files with
  | .ok a => return a
  | .error e => throw (.fault e)

/-- An action that only looks at the files and can fail in any way. -/
def inspect {α : Type} (f : FileTree → Except Error α) : Action α := do
  match f (← get).files with
  | .ok a => return a
  | .error e => throw e

/-- An action that changes the files, unless it is refused. -/
def change (f : FileTree → Except Fault FileTree) : Action Unit := do
  let h ← get
  match f h.files with
  | .ok files => set { h with files }
  | .error e => throw (.fault e)

/-- Directories down to a path. -/
def makePath (p : Path) : Action Unit := do
  let h ← get
  let (done, files) := h.files.makePath p
  set { h with files }
  match done with
  | .ok () => return ()
  | .error e => throw (.fault e)

/-- What is said where directories are nested too deeply. -/
def tooDeep : Error := .tooDeep "maximum recursion depth exceeded"

/-- Removes a directory with everything in it. -/
def removeTree (p : Path) : Action Unit := do
  let h ← get
  match h.files.removeTree p with
  | .error e => throw (.fault e)
  | .ok (isWhole, files) =>
    set { h with files }
    unless isWhole do throw tooDeep

/-- Bytes into a file. -/
def writeBytes (p : Path) (content : Bytes) : Action Unit := change (·.write p content)

/-- A text into a file, as it is. -/
def writeText (p : Path) (s : Text) : Action Unit := writeBytes p (Utf8.encode s)

/-- The bytes of a file. -/
def readBytes (p : Path) : Action Bytes := look (·.read p)

/-- The text of a file, with a line feed for every line end. -/
def readText (p : Path) : Action Text := do
  match Utf8.decode? (← readBytes p) with
  | some s => return Text.unifyBreaks s
  | none => throw .notText

/-! ## §4 Runs -/

/-- Whether the file that a word leads to can be started. -/
def startAt (h : Host) (word : Text) : Except Refusal Unit :=
  match h.files.locateWord word with
  | .error e => .error e
  | .ok (_, none) => .error .notFound
  | .ok (place, some _) =>
    if place ≠ h.toolchain.place then .error .accessDenied
    else
      match h.toolchain.presence with
      | .executable => .ok ()
      | .locked => .error .accessDenied
      | .absent => .error .notFound

/-- Whether a refusal only means that a command is to be looked for elsewhere. -/
def isElsewhere : Refusal → Bool
  | .notFound | .notDirectory => true
  | _ => false

/-- Tries one word after the other: the one that leads to what can be started. If none does, the
first refusal counts that says more than that nothing is there. -/
def startFirst (h : Host) : (last : Refusal) → List Text → Except Refusal Text
  | last, [] => .error last
  | last, word :: words =>
    match h.startAt word with
    | .ok () => .ok word
    | .error e =>
      match startFirst h e words with
      | .ok w => .ok w
      | .error f => .error (if isElsewhere last then f else last)

/-- The words that a command can mean: itself if it has a slash, else its name in every directory
that is searched. -/
def candidates (h : Host) (command : Text) : List Text :=
  if command.contains '/' then [command] else h.searched.map (·.text ++ "/" ++ command)

/-- The program that a command with arguments starts, if it can be started. -/
def start? (h : Host) (command : Text) (args : List Text) : Except Refusal Text :=
  if (command :: args).any (·.contains '\x00') then .error .nulCharacter
  else h.startFirst .notFound (h.candidates command)

/-- The word that follows the flag for the output file. -/
def outputOf : List Text → Option Text
  | [] => none
  | flag :: rest => if flag = "-o".toList then rest.head? else outputOf rest

/-- The bytes of the file that the last word names, if it can be read. -/
def sourceOf (h : Host) (args : List Text) : Bytes :=
  match h.files.locateWord (args.getLast?.getD []) with
  | .ok (_, some ⟨.file content, _⟩) => content
  | _ => []

/-- Writes the output file of a run. If that is refused, the run only complains. -/
def writeOutput (h : Host) (program : Text) (args : List Text) (a : Answer) : Bytes × FileTree :=
  match outputOf args, a.written with
  | some output, some content =>
    match h.files.writeWord output content with
    | .ok files => ([], files)
    | .error refusal => (h.toolchain.complaint program output refusal, h.files)
  | _, _ => ([], h.files)

/-- A run of a program: its answer, and the host with what it wrote. -/
def ran (h : Host) (program : Text) (args : List Text) : Answer × Host :=
  let a := h.toolchain.answer args (h.sourceOf args)
  let (complaint, files) := h.writeOutput program args a
  ({ a with stderr := complaint ++ a.stderr }, { h with files, runs := h.runs ++ [args] })

/-- Runs a command. -/
def run (command : Text) (args : List Text) : Action Answer := do
  let h ← get
  match h.start? command args with
  | .error refusal => throw (.fault { refusal, path := command })
  | .ok program =>
    let (a, h) := h.ran program args
    set h
    return a

end Host
end EmbeddedGo
