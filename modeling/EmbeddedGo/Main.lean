/-
EmbeddedGo.Main — the command line on a real disk.

The directory that a command runs in is read, the command works on it as a value, and what it changed
is written back. No other program is started from here, so the compiler counts as not installed.

  §1 from the disk to a tree
  §2 from a tree to the disk
  §3 the program
-/
import EmbeddedGo.Command.Run

namespace EmbeddedGo.Disk

/-! ## §1 Reading -/

/-- The path of a place on the disk. -/
def pathOf (place : Place) : String := Text.toString (Path.ofNames place).text

/-- What stands at a place on the disk, and below it. -/
partial def itemsAt (place : Place) : IO (List (Place × Item)) := do
  let path := (← IO.currentDir) / pathOf place
  let found ← path.symlinkMetadata
  let modified := found.modified.sec
  match found.type with
  | .symlink =>
    let target := (← (IO.FS.realPath path).toBaseIO).toOption.map fun p => p.toString.toList
    return [(place, ⟨.link (target.getD []), modified⟩)]
  | .dir =>
    let entries ← path.readDir
    let below ← entries.toList.mapM fun e => itemsAt (place ++ [e.fileName.toList])
    return (place, ⟨.directory, modified⟩) :: below.flatten
  | _ => return [(place, ⟨.file (← IO.FS.readBinFile path).toList, modified⟩)]

/-- The directories on the way to a place. -/
def ancestors (place : Place) : List (Place × Item) :=
  (List.range place.length).filterMap fun n =>
    if n = 0 then none else some (place.take n, ⟨.directory, 0⟩)

/-- The current time, which is that of a file made now. -/
def now : IO Int := do
  let (_, path) ← IO.FS.createTempFile
  let time := (← path.metadata).modified.sec
  IO.FS.removeFile path
  return time

/-- The directory that the command runs in. -/
def load : IO FileTree := do
  let here := (Path.ofText (← IO.currentDir).toString.toList).names
  return { items := ancestors here ++ (← itemsAt here), here, clock := ← now }

/-! ## §2 Writing -/

/-- Writes what is new in a tree. -/
def writeNew (old new : FileTree) : IO Unit :=
  new.items.forM fun (place, item) => do
    if old.get? place ≠ some item then
      match item.entry with
      | .directory => IO.FS.createDirAll (pathOf place)
      | .file content => IO.FS.writeBinFile (pathOf place) (ByteArray.mk content.toArray)
      | .link _ => pure ()

/-- Removes what is no longer in a tree, the innermost entries first. -/
def removeGone (old new : FileTree) : IO Unit :=
  old.items.reverse.forM fun (place, item) => do
    if (new.get? place).isNone then
      match item.entry with
      | .directory => IO.FS.removeDir (pathOf place)
      | _ => IO.FS.removeFile (pathOf place)

/-! ## §3 The program -/

/-- The lines of something shown. -/
def linesOf : Console.Shown → List Text
  | .text s => [s]
  | shown => shown.lines

/-- The words of a failure that no command handles. -/
def crashMessage : Command.Crash → Text
  | .error e => e.message
  | .config f => f.message
  | .markup fault => fault.message

/-- Runs the command that the arguments name: its status. -/
def runCommand (args : List String) : IO UInt32 := do
  let files ← load
  let host : Host := { files, toolchain := { place := ["tinygo"] } }
  let (outcome, host) := (Command.run files.clock (args.map String.toList)).run host
  (outcome.shown.flatMap linesOf).forM fun line => IO.println (Text.toString line)
  match outcome.crash with
  | some crash => IO.eprintln (Text.toString (crashMessage crash))
  | none => pure ()
  writeNew files host.files
  removeGone files host.files
  return UInt32.ofNat outcome.status

end EmbeddedGo.Disk

/-- The program. -/
def main (args : List String) : IO UInt32 := EmbeddedGo.Disk.runCommand args
