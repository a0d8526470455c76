/-
EmbeddedGo.Session — what a build remembers between the calls of its host: the runtime glue, once it
has been read, and the assets of the bundle.

  §1 sessions, and what happens in them
  §2 the runtime glue
  §3 artifacts
-/
import EmbeddedGo.Bundle.Assets
import EmbeddedGo.Compiler
import EmbeddedGo.VirtualId

namespace EmbeddedGo

/-! ## §1 Sessions -/

/-- A host, the glue if it is known, and the assets so far. -/
structure Session where
  host : Host
  glue : Option Text := none
  assets : Bundle.Assets := []

/-- What changes a session and can fail; what was changed before a failure stays changed. -/
abbrev Step := ExceptT Error (StateM Session)

namespace Session

/-- What does not fail, on the host of a session. -/
def onHost {α : Type} (f : StateM Host α) : StateM Session α := do
  let s ← get
  let (a, host) := f.run s.host
  set { s with host }
  return a

/-- An action on the host of a session. -/
def act {α : Type} (f : Action α) : Step α := ExceptT.mk (onHost f.run)

/-! ## §2 The glue -/

/-- The file of the glue below the directory of the compiler. -/
def gluePath (root : Path) : Path := root / ⟨0, ["targets", VirtualId.glueName]⟩

/-- The glue, read from the compiler's own files. -/
def readGlue (c : Compiler) : Action Text := do
  let root ← tryCatch c.root fun e =>
    match e with
    | .toolchainNotFound .. => throw (.glueNotFound e.message)
    | _ => throw e
  let p := gluePath root
  tryCatch (Host.readText p) fun e =>
    match e with
    | .fault ⟨.nulCharacter, _, _⟩ => throw e
    | .fault f => throw (.glueNotFound (p.text ++ ": " ++ f.refusal.summary))
    | _ => throw e

/-- The glue, which is read once. -/
def loadGlue (c : Compiler) : Step Text := do
  match (← get).glue with
  | some glue => return glue
  | none =>
    let glue ← act (readGlue c)
    modify fun s => { s with glue := some glue }
    return glue

/-! ## §3 Artifacts -/

/-- The file behind the id of an artifact. -/
def artifactPath (buildRoot : Path) (id : Text) : Action Path := do
  match VirtualId.resolve buildRoot id with
  | some (.file p) =>
    if ← Host.look (·.isFile p) then return p else throw (.artifactNotFound id (some p.text))
  | _ => throw (.artifactNotFound id none)

/-- The bytes behind the id of an artifact. -/
def readArtifact (buildRoot : Path) (id : Text) : Action Bytes := do
  let p ← artifactPath buildRoot id
  tryCatch (Host.readBytes p) fun e =>
    match e with
    | .fault ⟨.notFound, _, _⟩ => throw (.artifactNotFound id (some p.text))
    | _ => throw e

end Session
end EmbeddedGo
