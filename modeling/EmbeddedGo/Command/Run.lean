/-
EmbeddedGo.Command.Run — what the commands do.

  §1 how a command ends, and what it leaves behind
  §2 showing
  §3 checking the compiler
  §4 removing slots
  §5 building a bundle
  §6 serving
  §7 `run`: a command line from its words to its end
-/
import EmbeddedGo.Command.Invocation
import EmbeddedGo.Config
import EmbeddedGo.Console.Screen
import EmbeddedGo.Server.App

namespace EmbeddedGo.Command

/-! ## §1 Ends -/

/-- A failure that no command handles. -/
inductive Crash where
  | error (e : Error)
  | config (f : Config.Failure)
  /-- Something to be shown is no markup. -/
  | markup (fault : Markup.Fault)

/-- How a command ends early. -/
inductive Stop where
  | exit (status : Nat)
  | crash (cause : Crash)

/-- The server that a command starts. -/
structure Served where
  title : Text
  host : Text
  portNumber : Int
  debug : Bool

/-- What a command has done so far. -/
structure Progress where
  session : Session
  shown : List Console.Shown := []
  /-- What is being worked on. -/
  task : Text := "Building..."
  served : Option Served := none

/-- What a command does. -/
abbrev Doing := ExceptT Stop (StateM Progress)

/-- What a command line comes to. -/
structure Outcome where
  status : Nat
  shown : List Console.Shown := []
  crash : Option Crash := none
  served : Option Served := none

/-! ## §2 Showing -/

/-- Puts something on the screen. -/
def put (s : Console.Shown) : Doing Unit := modify fun p => { p with shown := p.shown ++ [s] }

/-- A markup as it is shown. -/
def rendered (markup : Text) : Doing Text :=
  match Console.shown markup with
  | .ok s => return s
  | .error fault => throw (.crash (.markup fault))

/-- Shows a markup. -/
def say (markup : Text) : Doing Unit := do put (.text (← rendered markup))

/-- A text in a style. -/
def styled (style s : Text) : Text := "[" ++ style ++ "]" ++ s ++ "[/" ++ style ++ "]"

/-- The step of a session: its value or its failure. -/
def attempt {α : Type} (f : Step α) : Doing (Except Error α) := do
  let p ← get
  let (r, session) := f.run.run p.session
  set { p with session }
  return r

/-- The step of a session, whose failure no one handles. -/
def sure {α : Type} (f : Step α) : Doing α := do
  match ← attempt f with
  | .ok a => return a
  | .error e => throw (.crash (.error e))

/-- An action on the host, whose failure no one handles. -/
def act {α : Type} (f : Action α) : Doing α := sure (Session.act f)

/-- What does not depend on anything but the files. -/
def ask {α : Type} (f : FileTree → Except Error α) : Doing α := do
  match f (← get).session.host.files with
  | .ok a => return a
  | .error e => throw (.crash (.error e))

/-- The line that says what failed. -/
def failureLine (style s : Text) : Text := styled style ("✗ " ++ s)

/-- The options for a command. A failure of the configuration ends it. -/
def options (c : Common) (root : Path) : Doing Options := do
  match Config.load (← get).session.host.files (c.config.map Path.ofText) root with
  | .ok o => return o
  | .error f =>
    if f.isReported then
      say (failureLine "bold red" (Markup.escape f.message))
      throw (.exit 1)
    else throw (.crash (.config f))

/-- A count in front of what is counted. -/
def counted (n : Nat) (what : Text) : Text := Text.ofNat n ++ " " ++ what ++ "(s)"

/-! ## §3 Checking -/

/-- The rows of the table of options. -/
def optionRows (o : Options) (buildRoot : Path) : List (Text × Text) := [
  ("Option", "Value"),
  ("tinygo_path", o.tinygoPath),
  ("optimization", o.optimization.text),
  ("build_dir", buildRoot.text),
  ("generate_types", (Value.bool o.generateTypes).shown),
  ("validate_exports", (Value.bool o.validateExports).shown)]

/-- Shows a table. -/
def showTable (title : Text) : List (Text × Text) → (done : List (List Text)) → Doing Unit
  | [], done => put (.table title done)
  | (name, value) :: rest, done => do
    let row : List Text := [← rendered name, ← rendered value]
    showTable title rest (done ++ [row])

/-- Says whether the compiler is there, how the project is configured, and how many slots it has. -/
def doctor (c : Common) (root : Path) : Doing Unit := do
  let o ← options c root
  let compiler : Compiler := ⟨o.tinygoPath, o.optimization⟩
  let buildRoot ← ask (BuildRoot.ofOptions · o root)
  say (styled "bold blue" "Running diagnostics..." ++ "\n")
  let installed ← act compiler.isInstalled
  if installed then
    say (styled "green" ("✓ TinyGo found: " ++ (← act compiler.version)))
  else
    say (styled "red" ("✗ TinyGo not found (" ++ o.tinygoPath ++ ")"))
    say "\nInstall from: https://tinygo.org/getting-started/install/"
  showTable "Configuration" (optionRows o buildRoot) []
  let slots ← act (Host.look (BuildRoot.slotNames · buildRoot))
  say ("\nBuild directory: " ++ buildRoot.text ++ " (" ++ counted slots.length "slot" ++ ")")
  if !installed then throw (.exit 1)

/-! ## §4 Removing -/

/-- A number of days by six digits. A whole number has to be in the reach of fractions. -/
def daysText (d : BuildRoot.Days) : Except Error Text :=
  match d with
  | .real x => .ok x.textShort
  | .whole n =>
    match Binary64.ofInt n with
    | .infinite _ => .error (.tooLarge Binary64.tooLargeMessage)
    | x => .ok x.textShort

/-- Removes the slots that are too old, or everything if no age is given. -/
def clean (now : Int) (c : Common) (root : Path) (olderThan : Option Binary64) : Doing Unit := do
  let o ← options c root
  let buildRoot ← ask (BuildRoot.ofOptions · o root)
  let age : Option BuildRoot.Days := match olderThan with
    | some x => some (.real x)
    | none => o.cleanupDays.map fun n => .whole n
  match age with
  | some days =>
    let shownDays ← ask fun _ => daysText days
    say (styled "bold blue"
      ("Removing slots older than " ++ shownDays ++ " day(s) in " ++ buildRoot.text))
    let removed ← act (BuildRoot.prune buildRoot now days)
    say (styled "green" ("✓ Removed " ++ counted removed.length "slot"))
  | none =>
    say (styled "bold blue" ("Cleaning " ++ buildRoot.text ++ "..."))
    if ← act (BuildRoot.clean buildRoot) then say (styled "green" "✓ Clean complete")
    else say "Nothing to clean"

/-! ## §5 Building -/

/-- The place of a file below the project, or its name alone if it is elsewhere. -/
def relativeTo (root source : Path) : Path :=
  match source.below? root with
  | some p => p
  | none => ⟨0, [source.name]⟩

/-- The ending of compiled modules. -/
def scriptEnding : Text := ".js"

/-- The code for a module as the bundle has it, and whether it was compiled. -/
def bundled (p : Plugin) (code id : Text) : Step (Bool × Text) := do
  match ← p.transform code id with
  | some r => return (true, ← p.renderChunk r.code)
  | none => return (false, ← p.renderChunk code)

/-- The line for a module that failed. Only the failure of a transform names the module itself. -/
def moduleFailure (relative : Path) (e : Error) : Text :=
  match e with
  | .transform .. => failureLine "red" (Markup.escape e.message)
  | _ => failureLine "red" (relative.text ++ ": " ++ Markup.escape e.message)

/-- Builds one file into the directory of the bundle: whether it failed. -/
def buildFile (p : Plugin) (out : Path) (file : Text) : Doing Bool := do
  let source ← ask (Host.realPath · (Path.ofText file))
  let relative := relativeTo p.projectRoot source
  modify fun done => { done with task := "Compiling " ++ relative.text ++ "..." }
  let code ← act (Host.readText source)
  match ← attempt (bundled p code source.text) with
  | .error e =>
    if e.isOwn then
      say (moduleFailure relative e)
      return true
    else throw (.crash (.error e))
  | .ok (compiled, output) =>
    let target := out / relative.withEnding scriptEnding
    act (Host.makePath target.parent)
    act (Host.writeText target output)
    let marker : Text := if compiled then "compiled" else "copied"
    say (styled "green" ("✓ " ++ relative.text ++ " → " ++
      (relative.withEnding scriptEnding).text ++ " (" ++ marker ++ ")"))
    return false

/-- Builds files one after the other: how many failed. -/
def buildFiles (p : Plugin) (out : Path) : List Text → Doing Nat
  | [] => return 0
  | file :: files => do
    let failed ← buildFile p out file
    let more ← buildFiles p out files
    return if failed then more + 1 else more

/-- Shows what was worked on last, when the work has ended. -/
def showTask : Doing Unit := do
  put (.task (← rendered ("[progress.description]" ++ (← get).task)))

/-- Builds all files: how many failed. What was worked on is shown whether a failure that nothing
handles ends the work or not, and that it cannot be shown comes before such a failure. -/
def buildAll (p : Plugin) (out : Path) (files : List Text) : Doing Nat := do
  let done ← ExceptT.lift (buildFiles p out files).run
  showTask
  match done with
  | .ok failures => return failures
  | .error stop => throw stop

/-- Builds a bundle: the files, and then the assets they refer to. -/
def build (c : Common) (root : Path) (files : List Text) (out : Text) : Doing Unit := do
  let o ← options c root
  let out ← ask (Host.realPath · (Path.ofText out))
  let p ← ask (Plugin.create · o root Mode.build.text)
  say (styled "bold blue"
    ("Building " ++ counted files.length "module" ++ " into " ++ out.text))
  match ← attempt (Session.act p.buildStart) with
  | .ok _ => pure ()
  | .error e =>
    if e.isOwn then
      say (failureLine "bold red" (Markup.escape e.message))
      throw (.exit 1)
    else throw (.crash (.error e))
  let failures ← buildAll p out files
  let written ← act (Plugin.writeAssets out (← get).session.assets)
  written.forM fun w => say ("  asset " ++ w.1)
  if failures = 0 then say (styled "bold green" "✓ Build successful!")
  else
    say (failureLine "bold red" ("Build failed for " ++ counted failures "module"))
    throw (.exit 1)

/-! ## §6 Serving -/

/-- Starts a server. -/
def serve (c : Common) (root : Path) (host : Text) (portNumber : Int) : Doing Unit := do
  let o ← options c root
  let _ ← ask (Plugin.create · o root Mode.serve.text)
  say (styled "bold blue"
    ("Serving " ++ root.text ++ " on http://" ++ host ++ ":" ++ Text.ofInt portNumber))
  let served : Served := { title := Server.title, host, portNumber, debug := c.debug }
  modify fun p => { p with served := some served }

/-! ## §7 Command lines -/

/-- The status of a command line that cannot be understood. -/
def usageStatus : Nat := 2

/-- How a command line ends that cannot be read. -/
def Misreading.stop : Misreading → Stop
  | usage => .exit usageStatus
  | failure cause => .crash (.error cause)

/-- Does what is asked for. -/
def perform (now : Int) (c : Common) (root : Path) : Request → Doing Unit
  | .doctor => doctor c root
  | .clean olderThan => clean now c root olderThan
  | .build files out => build c root files out
  | .serve host portNumber => serve c root host portNumber

/-- Runs a command with its words. The project is looked up before these are read. -/
def runCommand (now : Int) (c : Common) (name : Name) (words : List Text) : Doing Unit := do
  let root ← ask (Host.realPath · (Path.ofText c.root))
  match Request.read (← get).session.host.files name words with
  | .error misread => throw misread.stop
  | .ok none => return ()
  | .ok (some r) => perform now c root r

/-- What a command comes to that has stopped. -/
def outcome (stop : Except Stop Unit) (p : Progress) : Outcome :=
  match stop with
  | .ok () => { status := 0, shown := p.shown, served := p.served }
  | .error (.exit status) => { status, shown := p.shown, served := p.served }
  | .error (.crash cause) => { status := 1, shown := p.shown, crash := some cause }

/-- What a command line does. -/
def invoke (now : Int) (words : List Text) : Doing Unit := do
  match Invocation.read (← get).session.host.files words with
  | .error misread => throw misread.stop
  | .ok .version => put (.text ("usegolang, version " ++ EmbeddedGo.version))
  | .ok .help => return ()
  | .ok (.command c name words) => runCommand now c name words

/-- Runs a command line. -/
def run (now : Int) (words : List Text) : StateM Host Outcome := do
  let (stop, p) := (invoke now words).run.run { session := { host := ← get } }
  set p.session.host
  return outcome stop p

end EmbeddedGo.Command
