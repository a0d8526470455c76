/-
EmbeddedGo.VirtualId — the ids under which generated code finds what was built.

All of them begin with one prefix. `wasm_exec.js` under it is the runtime glue, which all modules
share; `<slot>/<file>` is a file in a build slot.

  §1 the ids
  §2 `resolve`: what stands behind an id
-/
import EmbeddedGo.Path
import EmbeddedGo.Text.Percent

namespace EmbeddedGo.VirtualId

/-! ## §1 Ids -/

/-- The beginning of every id. -/
def start : Text := "/@vite-golang/"

/-- The file name of the glue. -/
def glueName : Text := "wasm_exec.js"

/-- The id of the glue. -/
def glue : Text := start ++ glueName

/-- The ending of artifacts. -/
def wasmEnding : Text := ".wasm"

/-- Whether an id is one of ours. -/
def isVirtual (id : Text) : Bool := Text.startsWith id start

/-- The id of a file in a slot. -/
def artifact (slot file : Text) : Text := start ++ slot ++ "/" ++ file

/-- The id of a file in a slot as a URL, where the slot and the file are one segment each. -/
def artifactUrl (slot file : Text) : Text :=
  start ++ Percent.encode slot ++ "/" ++ Percent.encode file

/-! ## §2 What stands behind an id -/

/-- What an id stands for. -/
inductive Target where
  | glue
  | file (path : Path)
  deriving DecidableEq

/-- Whether a path consists of two parts, neither of them a double dot. The slashes that an absolute
path begins with are a part. -/
def hasTwoParts (p : Path) : Bool :=
  p.names.length + (if p.isAbsolute then 1 else 0) = 2 && !p.names.contains ['.', '.']

/-- The target of the part of an id behind the prefix: the glue, or an artifact of two parts seen
from the build root. -/
def resolveName (buildRoot : Path) (name : Text) : Option Target :=
  if name = glueName then some .glue
  else if hasTwoParts (Path.ofText name) && Text.endsWith name wasmEnding then
    some (.file (buildRoot / Path.ofText name))
  else none

/-- The target of an id, if it is one of ours and has one. -/
def resolve (buildRoot : Path) (id : Text) : Option Target :=
  (Text.after? start id).bind (resolveName buildRoot)

end EmbeddedGo.VirtualId
