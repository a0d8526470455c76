/-
EmbeddedGo.Transform — from a module with Go to the JavaScript that stands in for it.

A transform makes the slot's directory, then holds the slot while it writes the source, runs the
compiler and writes the declarations, and then renders the wrapper. Each of these phases is an action
of its own; between phases other transforms may go on, but never two that hold the same slot.

  §1 settings and results
  §2 the phases
  §3 `transform`: all phases of one transform, one after the other
  §4 a transform as a machine that halts after each phase
  §5 `transformAll`: several transforms that take turns
-/
import EmbeddedGo.BuildRoot
import EmbeddedGo.Compiler
import EmbeddedGo.Declarations
import EmbeddedGo.Directive
import EmbeddedGo.Go.Exports
import EmbeddedGo.Go.Source
import EmbeddedGo.Wrapper

namespace EmbeddedGo

namespace Transform

/-! ## §1 Settings and results -/

/-- What all transforms of a build share. -/
structure Settings where
  buildRoot : Path
  compiler : Compiler
  projectRoot : Path
  generateTypes : Bool := false
  validateExports : Bool := false

/-- The code that stands in for a module, and what was built for it. -/
structure Result where
  code : Text
  slot : Text
  wasmFile : Path
  declarations : Option Path := none
  functions : List Go.Function := []
  warnings : List Text := []

/-! ## §2 Phases -/

/-- A module that is to be built: its unit as a main package, the name of its slot, and the
directory of that. -/
structure Job where
  id : Text
  source : Text
  slot : Text
  directory : Path

/-- The first phase: the unit is extracted and the slot's directory made. -/
def prepare (s : Settings) (code id : Text) : Action Job := do
  match Directive.extract code with
  | .error e => throw e
  | .ok unit =>
    let slot := Slot.name id
    let directory ← BuildRoot.slot s.buildRoot slot
    return { id, source := Go.wrap unit, slot, directory }

/-- The source file of a job. -/
def Job.goFile (j : Job) : Path := j.directory.child BuildRoot.goName

/-- The binary of a job. -/
def Job.wasmFile (j : Job) : Path := j.directory.child Wrapper.wasmName

/-- The declaration file of a job. -/
def Job.declarations (j : Job) : Path := j.directory.child BuildRoot.declarationsName

/-- The second phase: the source is written. -/
def writeSource (j : Job) : Action Unit := Host.writeText j.goFile j.source

/-- The third phase: the compiler runs, and may warn. -/
def compile (s : Settings) (j : Job) : Action (List Text) :=
  s.compiler.compile j.goFile.text j.wasmFile.text

/-- The functions that a job's unit offers, if anyone asks for them. -/
def Job.functions (s : Settings) (j : Job) : List Go.Function :=
  if s.generateTypes || s.validateExports then Go.exported j.source else []

/-- The fourth phase: the declarations are written, if they are wanted. -/
def writeDeclarations (s : Settings) (j : Job) : Action Unit :=
  if s.generateTypes then Host.writeText j.declarations (Declarations.render (j.functions s))
  else return ()

/-- What a finished job comes to. -/
def Job.result (s : Settings) (here : List Text) (j : Job) (warnings : List Text) : Result :=
  let functions := j.functions s
  let names := if s.validateExports then functions.map (·.name) else []
  { code := Wrapper.render here s.projectRoot (some s.buildRoot) j.slot names
    slot := j.slot
    wasmFile := j.wasmFile
    declarations := if s.generateTypes then some j.declarations else none
    functions
    warnings }

/-! ## §3 One transform -/

/-- The phases of a module with the directive, one after the other. -/
def build (s : Settings) (code id : Text) : Action Result := do
  let job ← prepare s code id
  writeSource job
  let warnings ← compile s job
  writeDeclarations s job
  return job.result s (← get).files.here warnings

/-- What stands in for a module; nothing does if it has no directive. Every failure names the
module. -/
def transform (s : Settings) (code id : Text) : Action (Option Result) :=
  if Directive.isPresent code then
    tryCatch (return some (← build s code id)) fun e => throw (.transform id e)
  else return none

/-! ## §4 Transforms that halt -/

/-- How far a transform has come. -/
inductive Stage where
  | ready (code id : Text)
  /-- The directory is there; the slot has to be free. -/
  | waiting (job : Job)
  | holding (job : Job)
  | written (job : Job)
  | compiled (job : Job) (warnings : List Text)
  /-- Nothing is left to do but to let go of the slot. -/
  | leaving (slot : Text) (outcome : Except Error (Option Result))
  | ended (outcome : Except Error (Option Result))

/-- What transforms share: the host, and a lock for every slot that one of them has asked for. -/
structure Shared where
  host : Host
  locks : List (Text × Bool) := []

namespace Shared

/-- Whether a slot is held. One that nobody has asked for is not. -/
def isHeld (d : Shared) (slot : Text) : Bool := (d.locks.lookup slot).getD false

/-- The lock of a slot, which is made if it is missing, closed or opened. -/
def setHeld (slot : Text) (held : Bool) (d : Shared) : Shared :=
  { d with locks := Table.put slot held d.locks }

/-- A phase on the host, and the stage behind it. -/
def act {α : Type} (phase : Action α) (next : Except Error α → Stage) : StateM Shared Stage :=
  modifyGet fun d =>
    let (a, host) := phase.run.run d.host
    (next a, { d with host })

end Shared

/-- Where a failure leads to that comes while the slot is held. -/
def Job.failed (j : Job) (e : Error) : Stage := .leaving j.slot (.error (.transform j.id e))

/-- The next phase of a transform. -/
def Stage.step (s : Settings) : Stage → StateM Shared Stage
  | ready code id =>
    if Directive.isPresent code then
      Shared.act (prepare s code id) fun
        | .ok j => .waiting j
        | .error e => .ended (.error (.transform id e))
    else return .ended (.ok none)
  | waiting j =>
    modifyGet fun d =>
      if d.isHeld j.slot then (.waiting j, d) else (.holding j, d.setHeld j.slot true)
  | holding j =>
    Shared.act (writeSource j) fun
      | .ok () => .written j
      | .error e => j.failed e
  | written j =>
    Shared.act (compile s j) fun
      | .ok warnings => .compiled j warnings
      | .error e => j.failed e
  | compiled j warnings =>
    Shared.act (do writeDeclarations s j; return (← get).files.here) fun
      | .ok here => .leaving j.slot (.ok (some (j.result s here warnings)))
      | .error e => j.failed e
  | leaving slot outcome => modifyGet fun d => (.ended outcome, d.setHeld slot false)
  | ended outcome => return .ended outcome

/-! ## §5 Several transforms -/

/-- Several transforms under way, and what they share. -/
structure Run where
  stages : List Stage
  shared : Shared

namespace Run

/-- Transforms that have yet to begin. -/
def start (modules : List (Text × Text)) (host : Host) : Run :=
  { stages := modules.map fun m => .ready m.1 m.2, shared := { host } }

/-- A turn for one of the transforms. -/
def turn (s : Settings) (r : Run) (i : Nat) : Run :=
  match r.stages[i]? with
  | none => r
  | some stage =>
    let (stage, shared) := (stage.step s).run r.shared
    { stages := r.stages.set i stage, shared }

/-- Turns for transforms, in order. -/
def turns (s : Settings) (r : Run) (schedule : List Nat) : Run := schedule.foldl (turn s) r

end Run

/-- How many turns one transform takes that never waits. -/
def phaseCount : Nat := 6

/-- The outcome of a transform that has ended. -/
def Stage.outcome? : Stage → Option (Except Error (Option Result))
  | ended outcome => some outcome
  | _ => none

/-- The outcomes of several transforms that take turns, in order. Those of one slot wait for each
other, so there are turns enough for all of them to come one after the other. -/
def transformAll (s : Settings) (modules : List (Text × Text)) :
    StateM Host (List (Except Error (Option Result))) := do
  let schedule :=
    (List.replicate (phaseCount * (modules.length + 1)) (List.range modules.length)).flatten
  let last := (Run.start modules (← get)).turns s schedule
  set last.shared.host
  return last.stages.filterMap Stage.outcome?

end Transform
end EmbeddedGo
