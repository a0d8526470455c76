/-
EmbeddedGo.Bundle.Finalize — a finished code with assets in the place of virtual ids.

Each id that the code refers to is emitted once, in order of first occurrence: the glue as a text, an
artifact by its bytes. What was emitted before an id that has nothing behind it stays emitted.
-/
import EmbeddedGo.Bundle.Reference
import EmbeddedGo.Session

namespace EmbeddedGo.Bundle

/-- Adds an asset: its name. -/
def emit (name : Text) (content : Bytes) : Step Text := do
  let s ← get
  let (name, assets) := s.assets.emit assetsDirectory name content
  set { s with assets }
  return name

/-- The name of an artifact behind its slot: what comes after the first slash behind the prefix. -/
def fileName (id : Text) : Text :=
  let name := (Text.after? VirtualId.start id).getD []
  (name.dropWhile (· ≠ '/')).drop 1

/-- Emits what stands behind an id: the URL of the asset. -/
def emitTarget (c : Compiler) (buildRoot : Path) (base id : Text) : Step Text := do
  if id = VirtualId.glue then
    let glue ← Session.loadGlue c
    return base ++ (← emit VirtualId.glueName (Utf8.encode glue))
  else
    let content ← Session.act (Session.readArtifact buildRoot id)
    return base ++ (← emit (fileName id) content)

/-- Emits what stands behind each of the references: the references with their URLs. -/
def emitAll (c : Compiler) (buildRoot : Path) (base : Text) : List Text → Step (List (Text × Text))
  | [] => return []
  | reference :: rest => do
    let url ← emitTarget c buildRoot base (Percent.decode reference)
    return (reference, url) :: (← emitAll c buildRoot base rest)

/-- The code with the URLs of assets in the place of its references. -/
def finalize (c : Compiler) (buildRoot : Path) (base code : Text) : Step Text := do
  let urls ← emitAll c buildRoot base (references code)
  return substitute (fun reference => (urls.lookup reference).getD []) code

end EmbeddedGo.Bundle
