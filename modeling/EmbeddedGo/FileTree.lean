/-
EmbeddedGo.FileTree — a file system as a value.

A tree lists what stands at each place: a file with its bytes, a directory, or a symbolic link with
the text of its target. A place is the list of names on the way down from the top. The tree also
carries the working directory, from which relative paths start, the time that new entries get, and how
deeply directories can be nested for all of them to be walked through.

Nobody is refused access: every directory can be searched, and every file can be read and written.

  §1 places, items and the tree
  §2 `walk`: how a path leads to a place, through directories and links
  §3 `realPath`: the place behind a path with every link followed, whether it exists or not
  §4 questions that change nothing
  §5 changes
  §6 laws: what stands where after a change
-/
import EmbeddedGo.Path
import EmbeddedGo.Table
import EmbeddedGo.Text.Utf8

namespace EmbeddedGo

/-! ## §1 The tree -/

/-- The names on the way from the top to an entry. -/
abbrev Place := List Text

/-- What can stand at a place. -/
inductive Entry where
  | file (content : Bytes)
  | directory
  | link (target : Text)
  deriving DecidableEq, Inhabited

/-- An entry and the time of its last change, in seconds. -/
structure Item where
  entry : Entry
  modified : Int
  deriving DecidableEq, Inhabited

/-- The entries below the top, the working directory, the current time, and how many directories one
in another a walk through all that stands in a directory comes through. -/
structure FileTree where
  items : List (Place × Item) := []
  here : Place := []
  clock : Int := 0
  nesting : Nat := 970

/-- Why the file system refuses an operation. -/
inductive Refusal where
  | notFound
  | accessDenied
  | alreadyExists
  | notDirectory
  | isDirectory
  | nameTooLong
  | tooManyLinks
  /-- The path holds a character that no path can hold. -/
  | nulCharacter
  /-- A whole directory is to be removed, and the path names a link to one. -/
  | linkNotTree
  deriving DecidableEq

/-- A refusal and the text of the path it is about. -/
structure Fault where
  refusal : Refusal
  path : Text
  /-- The path is shown as a path value and not as a plain text. -/
  asPathValue : Bool := false
  deriving DecidableEq

namespace FileTree

/-- What stands at a place; the top is always a directory. -/
def get? (t : FileTree) (place : Place) : Option Item :=
  if place = [] then some ⟨.directory, 0⟩ else t.items.lookup place

/-- Whether a directory stands at the place. -/
def isDirectoryAt (t : FileTree) (place : Place) : Bool :=
  match t.get? place with
  | some ⟨.directory, _⟩ => true
  | _ => false

/-! ## §2 Walking -/

/-- The most bytes a name can have. -/
def nameLimit : Nat := 255

/-- The bytes that no path reaches. -/
def pathLimit : Nat := 4096

/-- How many links one walk follows. -/
def linkLimit : Nat := 40

/-- The names in the target of a link. -/
def targetNames (target : Text) : List Text := (Path.ofText target).names

/-- The steps that the target of a link takes. Behind a slash or a single dot at its end it stays
where it is, which only a directory allows. -/
def targetSteps (target : Text) : List Text :=
  if Text.endsWith target "/" || Text.endsWith target "/." then targetNames target ++ [['.']]
  else targetNames target

/-- Where the target of a link that stands in `here` starts. -/
def targetStart (here : Place) (target : Text) : Place :=
  if (Path.ofText target).isAbsolute then [] else here

/-- Follows names from a directory, with a number of links left to follow: the place reached and
what stands there. The last name may name nothing yet. A link at the end is followed if `follow`
says so. -/
def walk (t : FileTree) (follow : Bool) :
    (links : Nat) → (names : List Text) → (here : Place) → Except Refusal (Place × Option Item)
  | _, [], here => .ok (here, t.get? here)
  | links, name :: rest, here =>
    if name = ['.', '.'] then walk t follow links rest here.dropLast
    else if name = ['.'] then walk t follow links rest here
    else if nameLimit < (Utf8.encode name).length then .error .nameTooLong
    else
      match t.get? (here ++ [name]) with
      | none => if rest.isEmpty then .ok (here ++ [name], none) else .error .notFound
      | some ⟨.directory, _⟩ => walk t follow links rest (here ++ [name])
      | some ⟨.file c, m⟩ =>
        if rest.isEmpty then .ok (here ++ [name], some ⟨.file c, m⟩) else .error .notDirectory
      | some ⟨.link target, m⟩ =>
        if rest.isEmpty && !follow then .ok (here ++ [name], some ⟨.link target, m⟩)
        else match links with
          | 0 => .error .tooManyLinks
          | links + 1 =>
            walk t follow links (targetSteps target ++ rest) (targetStart here target)
  termination_by links names => (links, names.length)

/-- The place a path leads to and what stands there, if anything does. -/
def locate (t : FileTree) (follow : Bool) (p : Path) : Except Refusal (Place × Option Item) :=
  if p.text.contains '\x00' then .error .nulCharacter
  else if pathLimit ≤ (Utf8.encode p.text).length then .error .nameTooLong
  else walk t follow linkLimit p.names (if p.isAbsolute then [] else t.here)

/-- The place that a word leads to, if it is read as a path just as it stands, and what stands there.
An empty word leads nowhere, and behind a slash at the end of a word stands a directory. -/
def locateWord (t : FileTree) (word : Text) : Except Refusal (Place × Option Item) :=
  if word.contains '\x00' then .error .nulCharacter
  else if word.isEmpty then .error .notFound
  else if pathLimit ≤ (Utf8.encode word).length then .error .nameTooLong
  else walk t true linkLimit (targetSteps word) (targetStart t.here word)

/-- What a path leads to through links. -/
def find (t : FileTree) (p : Path) : Except Refusal Item :=
  match t.locate true p with
  | .error e => .error e
  | .ok (_, none) => .error .notFound
  | .ok (_, some item) => .ok item

/-! ## §3 Real paths -/

/-- Follows names from a place, whether the entries exist or not, through every link that is not
being followed already: the names reached, and whether no link came round to itself. -/
def chase (t : FileTree) : (depth : Nat) → (busy : List Place) → (names : List Text) →
    (here : Place) → List Text × Bool
  | _, _, [], here => (here, true)
  | depth, busy, name :: rest, here =>
    if name = ['.', '.'] then chase t depth busy rest here.dropLast
    else
      match t.get? (here ++ [name]) with
      | some ⟨.link target, _⟩ =>
        match depth with
        | 0 => (here ++ name :: rest, false)
        | depth + 1 =>
          if busy.contains (here ++ [name]) then (here ++ name :: rest, false)
          else
            match chase t depth ((here ++ [name]) :: busy) (targetNames target)
                (targetStart here target) with
            | (place, true) => chase t (depth + 1) busy rest place
            | (place, false) => (place ++ rest, false)
      | _ => chase t depth busy rest (here ++ [name])
  termination_by depth _ names => (depth, names.length)

/-- The path from the top to what `p` leads to. It need not exist. It is refused if too many links
are left in it, which is so where one leads round to itself. -/
def realPath (t : FileTree) (p : Path) : Except Fault Path :=
  if p.text.contains '\x00' then .error { refusal := .nulCharacter, path := p.text }
  else
    let start := if p.isAbsolute then [] else t.here
    let real := Path.ofNames (Path.climb (t.chase (t.items.length + 1) [] p.names start).1)
    match t.find real with
    | .error .tooManyLinks => .error { refusal := .tooManyLinks, path := real.text }
    | _ => .ok real

/-! ## §4 Questions -/

/-- Whether a refusal only means that there is nothing to be found. -/
def Refusal.meansAbsent : Refusal → Bool
  | .notFound | .notDirectory | .tooManyLinks | .nulCharacter => true
  | _ => false

/-- A property of what the path leads to; nothing at all does not have it. -/
def test (t : FileTree) (holds : Entry → Bool) (p : Path) : Except Fault Bool :=
  match t.find p with
  | .ok item => .ok (holds item.entry)
  | .error e => if Refusal.meansAbsent e then .ok false else .error { refusal := e, path := p.text }

/-- Whether the path leads to anything. -/
def exists? (t : FileTree) (p : Path) : Except Fault Bool := t.test (fun _ => true) p

/-- Whether the path leads to a file. -/
def isFile (t : FileTree) (p : Path) : Except Fault Bool :=
  t.test (fun e => match e with | .file _ => true | _ => false) p

/-- Whether the path leads to a directory. -/
def isDirectory (t : FileTree) (p : Path) : Except Fault Bool :=
  t.test (fun e => match e with | .directory => true | _ => false) p

/-- The bytes of the file that the path leads to. -/
def read (t : FileTree) (p : Path) : Except Fault Bytes :=
  match t.find p with
  | .ok ⟨.file content, _⟩ => .ok content
  | .ok _ => .error { refusal := .isDirectory, path := p.text }
  | .error e => .error { refusal := e, path := p.text }

/-- The names of the entries in the directory at a place, in order. -/
def namesIn (t : FileTree) (place : Place) : List Text :=
  (t.items.filterMap fun item =>
    if item.1.length = place.length + 1 && place.isPrefixOf item.1 then item.1.getLast? else none)
    |>.mergeSort Text.le

/-- The entries below a place, at any depth. -/
def itemsBelow (t : FileTree) (place : Place) : List (Place × Item) :=
  t.items.filter fun item => place.length < item.1.length && place.isPrefixOf item.1

/-- Whether an entry below a place is a directory that a walk from there does not come through. -/
def isTooDeep (t : FileTree) (place : Place) (below : Place × Item) : Bool :=
  below.2.entry = .directory && t.nesting < below.1.length - place.length

/-! ## §5 Changes -/

/-- The tree with an item at a place; what stood there is replaced where it stood. -/
def put (t : FileTree) (place : Place) (item : Item) : FileTree :=
  { t with items := Table.put place item t.items }

/-- The tree with the directory at a place marked as changed now. -/
def touch (t : FileTree) (place : Place) : FileTree :=
  match t.items.lookup place with
  | some ⟨.directory, _⟩ => t.put place ⟨.directory, t.clock⟩
  | _ => t

/-- The tree with a new entry at a place, made now. -/
def insert (t : FileTree) (place : Place) (entry : Entry) : FileTree :=
  (t.put place ⟨entry, t.clock⟩).touch place.dropLast

/-- The tree without what stands at a place and below it. -/
def erase (t : FileTree) (place : Place) : FileTree :=
  { t with items := t.items.filter fun item => !place.isPrefixOf item.1 }.touch place.dropLast

/-- The tree with the bytes in the file that the path leads to, which is made if it is missing. -/
def write (t : FileTree) (p : Path) (content : Bytes) : Except Fault FileTree :=
  match t.locate true p with
  | .error e => .error { refusal := e, path := p.text }
  | .ok (place, none) => .ok (t.insert place (.file content))
  | .ok (place, some ⟨.file _, _⟩) => .ok (t.put place ⟨.file content, t.clock⟩)
  | .ok _ => .error { refusal := .isDirectory, path := p.text }

/-- A word without the slashes at its end. -/
def withoutSlashes (word : Text) : Text := (word.reverse.dropWhile (· = '/')).reverse

/-- The tree with the bytes in the file that a word leads to. A slash at the end of the word names a
directory, which no file can be. -/
def writeWord (t : FileTree) (word : Text) (content : Bytes) : Except Refusal FileTree :=
  let bare := withoutSlashes word
  if bare.isEmpty && !word.isEmpty then .error .isDirectory
  else
    match t.locateWord bare with
    | .error e => .error e
    | .ok (_, some ⟨.directory, _⟩) => .error .isDirectory
    | .ok (place, found) =>
      if bare ≠ word then .error .isDirectory
      else if found.isNone then .ok (t.insert place (.file content))
      else .ok (t.put place ⟨.file content, t.clock⟩)

/-- The tree with a new directory; its parent has to be there, and the directory must not. -/
def makeDirectory (t : FileTree) (p : Path) : Except Refusal FileTree :=
  match t.locate false p with
  | .error e => .error e
  | .ok (place, none) => .ok (t.insert place .directory)
  | .ok (_, some _) => .error .alreadyExists

/-- A directory that is there afterwards, whether it was before or not; its parent has to be. -/
def ensureDirectory (t : FileTree) (p : Path) : Except Fault FileTree :=
  match t.makeDirectory p with
  | .ok t => .ok t
  | .error e =>
    match t.isDirectory p with
    | .error f => .error f
    | .ok true => .ok t
    | .ok false => .error { refusal := e, path := p.text }

/-- The directories that are missing on the way to `p`, at most `depth` of them, and then the last
one. The tree that comes back holds what was made before a refusal. -/
def ensurePath : (depth : Nat) → FileTree → Path → Except Fault Unit × FileTree
  | depth, t, p =>
    match t.makeDirectory p with
    | .ok t => (.ok (), t)
    | .error .notFound =>
      match depth with
      | 0 => (.error { refusal := .notFound, path := p.text }, t)
      | depth + 1 =>
        match ensurePath depth t p.parent with
        | (.error f, t) => (.error f, t)
        | (.ok (), t) =>
          match t.ensureDirectory p with
          | .ok t => (.ok (), t)
          | .error f => (.error f, t)
    | .error _ =>
      match t.ensureDirectory p with
      | .ok t => (.ok (), t)
      | .error f => (.error f, t)

/-- Directories down to `p`, all of them there afterwards. -/
def makePath (t : FileTree) (p : Path) : Except Fault Unit × FileTree :=
  ensurePath p.names.length t p

/-- Whether a walk in the order of the names is done with one place when it comes to another. -/
def comesBefore : Place → Place → Bool
  | name :: place, name' :: place' =>
    if name = name' then comesBefore place place' else Text.le name name'
  | _, _ => false

/-- Whether a place below another comes before all that is too deep there. -/
def isReached (t : FileTree) (place q : Place) : Bool :=
  place.isPrefixOf q &&
    ((t.itemsBelow place).filter (t.isTooDeep place)).all fun deep => comesBefore q deep.1

/-- The tree without what stands below a place and comes before all that is too deep there. -/
def eraseReached (t : FileTree) (place : Place) : FileTree :=
  (t.items.filter fun item => t.isReached place item.1).foldl
    (fun left item => left.touch item.1.dropLast)
    { t with items := t.items.filter fun item => !t.isReached place item.1 }

/-- The tree without the directory at the end of the path and everything in it, and whether that is so.
Where directories are nested too deeply, only what comes before the first of them is gone. -/
def removeTree (t : FileTree) (p : Path) : Except Fault (Bool × FileTree) :=
  match t.locate false p with
  | .error e => .error { refusal := e, path := p.text, asPathValue := true }
  | .ok (_, none) => .error { refusal := .notFound, path := p.text, asPathValue := true }
  | .ok (place, some ⟨.directory, _⟩) =>
    if (t.itemsBelow place).any (t.isTooDeep place) then .ok (false, t.eraseReached place)
    else .ok (true, t.erase place)
  | .ok (_, some ⟨.link _, _⟩) => .error { refusal := .linkNotTree, path := p.text }
  | .ok (_, some ⟨.file _, _⟩) =>
    .error { refusal := .notDirectory, path := p.text, asPathValue := true }

/-! ## §6 Laws -/

theorem get?_put {place : Place} (hp : place ≠ []) (t : FileTree) (item : Item) (other : Place) :
    (t.put place item).get? other = if other = place then some item else t.get? other := by
  by_cases ho : other = []
  · subst ho
    rw [if_neg (Ne.symm hp)]
    rfl
  · simp only [get?, put, if_neg ho, Table.lookup_put, beq_iff_eq]

theorem get?_put_self {place : Place} (hp : place ≠ []) (t : FileTree) (item : Item) :
    (t.put place item).get? place = some item := by
  rw [get?_put hp, if_pos rfl]

/-- What stands at the top stands there for good. -/
theorem get?_put_top (t : FileTree) (item : Item) (other : Place) :
    ((t.put [] item).get? other) = t.get? other := by
  by_cases ho : other = []
  · subst ho
    rfl
  · simp only [get?, put, if_neg ho, Table.lookup_put, beq_iff_eq]

/-- Marking a directory as changed exchanges no entry. -/
theorem entry_touch (t : FileTree) (place other : Place) :
    ((t.touch place).get? other).map Item.entry = (t.get? other).map Item.entry := by
  unfold touch
  split
  · rename_i m h
    by_cases hp : place = []
    · subst hp
      rw [get?_put_top]
    · rw [get?_put hp]
      split
      · subst other
        simp only [get?, if_neg hp, h, Option.map_some]
      · rfl
  · rfl

/-- A new entry stands at its place; no other changes. -/
theorem entry_insert {place : Place} (hp : place ≠ []) (t : FileTree) (entry : Entry)
    (other : Place) :
    ((t.insert place entry).get? other).map Item.entry =
      if other = place then some entry else (t.get? other).map Item.entry := by
  rw [insert, entry_touch, get?_put hp]
  split <;> rfl

/-- What stood at the place or below it is gone; no other entry changes. -/
theorem entry_erase {place : Place} (hp : place ≠ []) (t : FileTree) (other : Place) :
    ((t.erase place).get? other).map Item.entry =
      if place <+: other then none else (t.get? other).map Item.entry := by
  rw [erase, entry_touch]
  by_cases ho : other = []
  · subst ho
    simp [get?, hp]
  · simp only [get?, ho, if_false]
    rw [Table.lookup_filter (fun p => !place.isPrefixOf p)]
    by_cases h : place <+: other
    · simp [h, List.isPrefixOf_iff_prefix.2 h]
    · have : place.isPrefixOf other = false := by
        rw [← Bool.not_eq_true, List.isPrefixOf_iff_prefix]; exact h
      simp [h, this]

end FileTree
end EmbeddedGo
