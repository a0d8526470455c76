/-
EmbeddedGo.Wrapper — the JavaScript module that stands in for a module with Go.

It loads the runtime glue, instantiates the slot's binary, starts the Go program, and exports the
functions that the program installed: the declared ones, each of which has to be there, or, if none
are declared, whatever is new on the global object.

  §1 the fixed lines
  §2 `render`: the whole module
-/
import EmbeddedGo.Data.Json.Literal
import EmbeddedGo.VirtualId

namespace EmbeddedGo.Wrapper

/-! ## §1 Fixed lines -/

/-- The file name of a compiled binary. -/
def wasmName : Text := "main.wasm"

/-- The comment that names the slot, the import of the glue, and the runtime. -/
def header (slot : Text) : Text :=
  "// Generated by use-golang from build slot " ++ slot ++ ". Do not edit.\n" ++
  "import " ++ Json.literal true VirtualId.glue ++ ";\n\n" ++
  "const go = new Go();\n"

/-- The lines that fetch the binary. -/
def instantiate (url : Text) : Text :=
  "const \x7b instance \x7d = await WebAssembly.instantiateStreaming(\n" ++
  "  fetch(" ++ Json.literal true url ++ "),\n" ++
  "  go.importObject\n" ++
  ");\n"

/-- The lines that export what the program put on the global object. -/
def discover : Text :=
  "const before = new Set(Object.getOwnPropertyNames(globalThis));\n" ++
  "go.run(instance);\n" ++
  "\n" ++
  "const bindings = \x7b\x7d;\n" ++
  "for (const name of Object.getOwnPropertyNames(globalThis)) \x7b\n" ++
  "  if (!before.has(name)) \x7b\n" ++
  "    bindings[name] = globalThis[name];\n" ++
  "  \x7d\n" ++
  "\x7d\n" ++
  "\n" ++
  "export default bindings;\n"

/-- The lines that export the declared names. -/
def declare (names : List Text) : Text :=
  "go.run(instance);\n" ++
  "\n" ++
  "const declared = " ++ Json.literalList names ++ ";\n" ++
  "const missing = declared.filter((name) => typeof globalThis[name] === \"undefined\");\n" ++
  "if (missing.length > 0) \x7b\n" ++
  "  throw new Error(\n" ++
  "    \"[use-golang] missing binding(s) \" + missing.join(\", \") +\n" ++
  "    \": the Go program must install every //export function on globalThis\"\n" ++
  "  );\n" ++
  "\x7d\n" ++
  "\n" ++
  "const bindings = \x7b\x7d;\n" ++
  "for (const name of declared) \x7b\n" ++
  "  bindings[name] = globalThis[name];\n" ++
  "\x7d\n" ++
  "\n" ++
  "export default bindings;\n"

/-! ## §2 The module -/

/-- Where a slot is shown to live: on the way from the project root to it, if the build root is
known. -/
def shownSlot (here : List Text) (projectRoot : Path) (buildRoot : Option Path) (slot : Text) :
    Text :=
  match buildRoot with
  | some root => (Path.way here projectRoot (root.child slot)).text
  | none => slot

/-- The module for a slot that is shown as `shown`; an empty list of names declares nothing. -/
def module (shown slot : Text) (names : List Text) : Text :=
  header shown ++ instantiate (VirtualId.artifactUrl slot wasmName) ++
    if names.isEmpty then discover else declare names

/-- The module for a slot. -/
def render (here : List Text) (projectRoot : Path) (buildRoot : Option Path) (slot : Text)
    (names : List Text) : Text :=
  module (shownSlot here projectRoot buildRoot slot) slot names

end EmbeddedGo.Wrapper
