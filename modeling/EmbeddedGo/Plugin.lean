/-
EmbeddedGo.Plugin — what a build tool calls: one plugin for each build.

In a server the artifacts are answered from their slots; in a bundle they are emitted as assets, and
finished codes refer to these. The mode is fixed when the plugin is made.

  §1 plugins
  §2 what the build tool calls
-/
import EmbeddedGo.Bundle.Finalize
import EmbeddedGo.Reload
import EmbeddedGo.Transform

namespace EmbeddedGo

/-! ## §1 Plugins -/

/-- How artifacts reach the browser. -/
inductive Mode where
  | serve
  | build
  deriving DecidableEq

/-- The name of a mode. -/
def Mode.text : Mode → Text
  | serve => "serve"
  | build => "build"

/-- The mode with a name. -/
def Mode.ofText (s : Text) : Except Error Mode :=
  if s = Mode.serve.text then .ok .serve
  else if s = Mode.build.text then .ok .build
  else .error (.foreign ("Unknown build mode: " ++ Text.quoted s))

/-- The options of a build, its directories behind all links, and its mode. -/
structure Plugin where
  options : Options
  projectRoot : Path
  buildRoot : Path
  mode : Mode

namespace Plugin

/-- A plugin for a project. -/
def create (files : FileTree) (options : Options) (projectRoot : Path) (mode : Text) :
    Except Error Plugin := do
  let projectRoot ← Host.realPath files projectRoot
  let buildRoot ← BuildRoot.ofOptions files options projectRoot
  return { options, projectRoot, buildRoot, mode := ← Mode.ofText mode }

/-- The compiler of a plugin. -/
def compiler (p : Plugin) : Compiler := ⟨p.options.tinygoPath, p.options.optimization⟩

/-- What all transforms of a plugin share. -/
def settings (p : Plugin) : Transform.Settings :=
  { buildRoot := p.buildRoot
    compiler := p.compiler
    projectRoot := p.projectRoot
    generateTypes := p.options.generateTypes
    validateExports := p.options.validateExports }

/-! ## §2 Calls -/

/-- Makes the build root and asks the compiler for its version; without one the build stops. -/
def buildStart (p : Plugin) : Action Text := do
  Host.makePath p.buildRoot
  if ← p.compiler.isInstalled then p.compiler.version
  else throw (.toolchainNotFound p.compiler.command none)

/-- Ids of ours resolve to themselves. -/
def resolveId (id : Text) : Option Text := if VirtualId.isVirtual id then some id else none

/-- The source behind an id, which only the glue has. -/
def load (p : Plugin) (id : Text) : Step (Option Text) := do
  if id = VirtualId.glue then return some (← Session.loadGlue p.compiler) else return none

/-- What stands in for a module. -/
def transform (p : Plugin) (code id : Text) : Step (Option Transform.Result) :=
  Session.act (Transform.transform p.settings code id)

/-- A finished code as it is written out. -/
def renderChunk (p : Plugin) (code : Text) : Step Text :=
  match p.mode with
  | .serve => return code
  | .build => Bundle.finalize p.compiler p.buildRoot p.options.base code

/-- Whether a server has to answer artifacts for the plugin. -/
def servesArtifacts (p : Plugin) : Bool := p.mode == .serve

/-- Writes every asset below a directory: the names of the assets with the paths written. -/
def writeAssets (directory : Path) : List (Text × Bytes) → Action (List (Text × Path))
  | [] => return []
  | (name, content) :: rest => do
    let target := directory.child name
    Host.makePath target.parent
    Host.writeBytes target content
    return (name, target) :: (← writeAssets directory rest)

end Plugin
end EmbeddedGo
