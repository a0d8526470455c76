/-
EmbeddedGo.Compiler — running the compiler.

  §1 the compiler's command lines
  §2 questions to it
  §3 `compile`: a binary from a source
-/
import EmbeddedGo.Host
import EmbeddedGo.Optimization
import EmbeddedGo.Text.ShellWords

namespace EmbeddedGo

/-- The command that starts the compiler, and how hard it is to work. -/
structure Compiler where
  command : Text := "tinygo"
  optimization : Optimization := .smallest
  deriving DecidableEq

namespace Compiler

/-! ## §1 Command lines -/

/-- The words behind the command that build a binary. -/
def buildWords (c : Compiler) (goFile wasmFile : Text) : List Text :=
  ["build", "-target", "wasm", "-opt", c.optimization.text, "-no-debug", "-o", wasmFile, goFile]

/-- The command and the words that build a binary. -/
def buildArgs (c : Compiler) (goFile wasmFile : Text) : List Text :=
  c.command :: c.buildWords goFile wasmFile

/-- The same as one line of a shell. -/
def commandLine (c : Compiler) (goFile wasmFile : Text) : Text :=
  ShellWords.join (c.buildArgs goFile wasmFile)

/-! ## §2 Questions -/

/-- What a run printed, as a text. -/
def printed (output : Bytes) : Text := Utf8.decodeLossy output

/-- What a run printed, without blanks around it; nothing at all if it printed only blanks. -/
def said? (output : Bytes) : Option Text :=
  match Text.trim (printed output) with
  | [] => none
  | s => some s

/-- Whether an error says that a program could not be started. -/
def isRefused : Error → Bool
  | .fault ⟨.nulCharacter, _, _⟩ => false
  | .fault _ => true
  | _ => false

/-- A run of the compiler. One that could not be started is not installed. -/
def run (c : Compiler) (args : List Text) : Action Answer :=
  tryCatch (Host.run c.command args) fun e =>
    if isRefused e then throw (.toolchainNotFound c.command (some e.message)) else throw e

/-- Whether the compiler can be run. -/
def isInstalled (c : Compiler) : Action Bool :=
  tryCatch (return (← Host.run c.command ["version"]).succeeded) fun e =>
    if isRefused e then return false else throw e

/-- The version of the compiler. -/
def version (c : Compiler) : Action Text := do
  let a ← c.run ["version"]
  if a.succeeded then return Text.trim (printed a.stdout)
  else throw (.toolchainNotFound c.command (said? a.stderr))

/-- The directory where the compiler is installed. -/
def root (c : Compiler) : Action Path := do
  let a ← c.run ["env", "TINYGOROOT"]
  match a.succeeded, said? a.stdout with
  | true, some root => return Path.ofText root
  | _, _ =>
    throw (.toolchainNotFound c.command (some ((said? a.stderr).getD "TINYGOROOT is not set")))

/-! ## §3 Compiling -/

/-- What a failing run has to say: its diagnostics, or its output if it has none. -/
def diagnostics (a : Answer) : Text :=
  if a.stderr.isEmpty then printed a.stdout else printed a.stderr

/-- Builds a binary: the warnings, which are all that a succeeding run has to say. -/
def compile (c : Compiler) (goFile wasmFile : Text) : Action (List Text) := do
  let a ← c.run (c.buildWords goFile wasmFile)
  if a.succeeded then return (said? a.stderr).toList
  else throw (.compilation (diagnostics a))

end Compiler
end EmbeddedGo
