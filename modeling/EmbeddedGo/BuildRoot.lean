/-
EmbeddedGo.BuildRoot — the directory that holds a slot for each module.

  §1 where the root of a project is
  §2 slots
  §3 ages: a slot is as old as its newest file
  §4 removing what is old, or everything
-/
import EmbeddedGo.Data.Binary64
import EmbeddedGo.Host
import EmbeddedGo.Options
import EmbeddedGo.Slot

namespace EmbeddedGo.BuildRoot

/-! ## §1 The root -/

/-- The directory of the slots: the configured one, seen from the project, behind all links. -/
def ofOptions (files : FileTree) (o : Options) (projectRoot : Path) : Except Error Path :=
  Host.realPath files (projectRoot / Path.ofText o.buildDirectory)

/-! ## §2 Slots -/

/-- The name of the source in a slot. -/
def goName : Text := "main.go"

/-- The name of the declarations in a slot. -/
def declarationsName : Text := "types.d.ts"

/-- The directory of a slot, which is made if it is missing. -/
def slot (root : Path) (name : Text) : Action Path := do
  let p := root.child name
  Host.makePath p
  return p

/-- Writes the source of a slot. -/
def writeGo (slot : Path) (code : Text) : Action Path := do
  let p := slot.child goName
  Host.writeText p code
  return p

/-- The names of those entries of a directory that satisfy a condition. -/
def namesThat (holds : Path → Except Fault Bool) (root : Path) :
    List Text → Except Fault (List Text)
  | [] => .ok []
  | name :: names => do
    let rest ← namesThat holds root names
    return if ← holds (root / ⟨0, [name]⟩) then name :: rest else rest

/-- The names of the directories in the root, in order. -/
def slotNames (files : FileTree) (root : Path) : Except Fault (List Text) := do
  if ← files.isDirectory root then
    match files.locate true root with
    | .ok (place, _) => namesThat files.isDirectory root (files.namesIn place)
    | .error refusal => .error { refusal, path := root.text }
  else return []

/-! ## §3 Ages -/

/-- A number, whole or not. -/
inductive Number where
  | whole (n : Int)
  | real (x : Binary64)

instance : Coe Int Number := ⟨.whole⟩

/-- The number among the binary fractions, which do not reach as far as whole numbers. -/
def Number.toReal : Number → Except Error Binary64
  | .real x => .ok x
  | .whole n =>
    match Binary64.ofInt n with
    | .infinite _ => .error (.tooLarge Binary64.tooLargeMessage)
    | x => .ok x

/-- The difference of two numbers, which is counted in binary fractions unless both are whole. -/
def Number.sub : Number → Number → Except Error Number
  | .whole n, .whole m => .ok (.whole (n - m))
  | a, b => return .real ((← a.toReal).sub (← b.toReal))

/-- Whether a whole number is less than a number. -/
def Number.isAbove (a : Number) (i : Int) : Bool :=
  match a with
  | .whole n => i < n
  | .real x => Binary64.intLess i x

/-- A number of days. -/
abbrev Days := Number

/-- The seconds of a day. -/
def daySeconds : Int := 86400

/-- The seconds of a number of days. -/
def secondsOf : Days → Number
  | .whole n => .whole (n * daySeconds)
  | .real x => .real (x.mul (Binary64.ofInt daySeconds))

/-- The time of the file that a path leads to, if it leads to one. -/
def fileTime (files : FileTree) (p : Path) : Except Error (Option Int) :=
  match files.find p with
  | .ok ⟨.file _, m⟩ => .ok (some m)
  | .ok _ => .ok none
  | .error e =>
    if FileTree.Refusal.meansAbsent e then .ok none
    else .error (.fault { refusal := e, path := p.text })

/-- The times of the files among some entries below a place that a path leads to. Each of them is
looked for by that path and the names on the way down to it, and what is in it comes next. -/
def fileTimes (files : FileTree) (p : Path) (place : Place) :
    List (Place × Item) → Except Error (List Int)
  | [] => .ok []
  | below :: rest => do
    let time ← fileTime files ⟨p.slashes, p.names ++ below.1.drop place.length⟩
    if files.isTooDeep place below then throw Host.tooDeep
    return time.toList ++ (← fileTimes files p place rest)

/-- The latest of some times. -/
def latest : List Int → Option Int
  | [] => none
  | t :: ts => some (ts.foldl max t)

/-- The time of the newest file at any depth below the place that a path leads to, or else that of the
place itself. -/
def newest (files : FileTree) (p : Path) (place : Place) (item : Item) : Except Error Int := do
  let times ← fileTimes files p place (files.itemsBelow place)
  return (latest times).getD item.modified

/-! ## §4 Removing -/

/-- Removes those of the named slots whose newest file is too old: their names. -/
def pruneNames (root : Path) (isOld : Int → Bool) : List Text → Action (List Text)
  | [] => return []
  | name :: names => do
    let p := root / ⟨0, [name]⟩
    let (place, item) ← Host.look fun files =>
      match files.locate true p with
      | .ok (place, some item) => .ok (place, item)
      | .ok (_, none) => .error { refusal := .notFound, path := p.text }
      | .error refusal => .error { refusal, path := p.text }
    if isOld (← Host.inspect (newest · p place item)) then
      Host.removeTree p
      return name :: (← pruneNames root isOld names)
    else pruneNames root isOld names

/-- Removes the slots that are older than a number of days: their names, in order. -/
def prune (root : Path) (now : Number) (days : Days) : Action (List Text) := do
  match now.sub (secondsOf days) with
  | .ok limit => pruneNames root limit.isAbove (← Host.look (slotNames · root))
  | .error e => throw e

/-- Removes the root with everything in it: whether there was one. -/
def clean (root : Path) : Action Bool := do
  if ← Host.look (·.exists? root) then
    Host.removeTree root
    return true
  else return false

end EmbeddedGo.BuildRoot
