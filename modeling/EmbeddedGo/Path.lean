/-
EmbeddedGo.Path — paths as written, before any file system is asked about them.

  §1 reading and writing: repeated slashes and single dots go, double dots stay, and exactly two
     leading slashes stay two
  §2 joining, names and endings
  §3 ways from one directory to another, with the double dots worked off
  §4 laws
-/
import EmbeddedGo.Text.Basic

namespace EmbeddedGo

/-- A path: how many slashes it begins with (none, one or two) and the names between slashes. -/
structure Path where
  slashes : Nat
  names : List Text
  deriving DecidableEq, Inhabited

namespace Path

/-! ## §1 Reading and writing -/

/-- The leading slashes that count. -/
def rootSlashes : Text → Nat
  | '/' :: '/' :: '/' :: _ => 1
  | '/' :: '/' :: _ => 2
  | '/' :: _ => 1
  | _ => 0

/-- Whether a piece between slashes names something: it is neither empty nor a single dot. -/
def isName (piece : Text) : Bool := !(piece.isEmpty || piece == ['.'])

/-- The path that a text writes. -/
def ofText (s : Text) : Path := ⟨rootSlashes s, (Text.splitOn '/' s).filter isName⟩

/-- The text of a path; the empty path is a single dot. -/
def text (p : Path) : Text :=
  if p.slashes = 0 ∧ p.names = [] then "."
  else List.replicate p.slashes '/' ++ Text.join "/" p.names

/-- Whether the path begins at the top. -/
def isAbsolute (p : Path) : Bool := p.slashes != 0

/-- The path from the top through the names. -/
def ofNames (names : List Text) : Path := ⟨1, names⟩

/-! ## §2 Joining and names -/

/-- `q` seen from `p`: an absolute path is itself from everywhere. -/
def join (p q : Path) : Path := if q.isAbsolute then q else ⟨p.slashes, p.names ++ q.names⟩

instance : Div Path := ⟨join⟩

/-- A path below `p`, written as a text. -/
def child (p : Path) (s : Text) : Path := p / ofText s

/-- The last name; a path without names has the empty one. -/
def name (p : Path) : Text := p.names.getLast?.getD []

/-- The path without its last name. -/
def parent (p : Path) : Path := ⟨p.slashes, p.names.dropLast⟩

/-- A name cut before its last dot, unless that dot is its first or last character. -/
def splitName (name : Text) : Text × Text :=
  let ending := name.reverse.takeWhile (· ≠ '.')
  let size := name.length - ending.length
  if ending = [] ∨ size ≤ 1 then (name, [])
  else (name.take (size - 1), name.drop (size - 1))

/-- The last name without its ending. -/
def stem (p : Path) : Text := (splitName p.name).1

/-- The ending of the last name, with its dot. -/
def ending (p : Path) : Text := (splitName p.name).2

/-- The path with another ending to its last name. -/
def withEnding (p : Path) (e : Text) : Path := ⟨p.slashes, p.names.dropLast ++ [p.stem ++ e]⟩

/-- What is left of a path below `top`. -/
def below? (p top : Path) : Option Path :=
  if p.slashes = top.slashes ∧ top.names.isPrefixOf p.names then
    some ⟨0, p.names.drop top.names.length⟩
  else none

/-! ## §3 Ways between directories -/

/-- The names with each double dot taking back the name before it; at the top it takes nothing. -/
def climb (names : List Text) : List Text :=
  names.foldl (fun done n => if n = ['.', '.'] then done.dropLast else done ++ [n]) []

/-- The names from the top to `p`, which starts at `here` unless it is absolute. -/
def fromTop (here : List Text) (p : Path) : List Text :=
  climb (if p.isAbsolute then p.names else here ++ p.names)

/-- How many names two lists begin with in common. -/
def commonLength : List Text → List Text → Nat
  | a :: as, b :: bs => if a = b then commonLength as bs + 1 else 0
  | _, _ => 0

/-- The way from the directory `start` to `p`, both seen from `here`: up to the last directory in
common, then down. -/
def way (here : List Text) (start p : Path) : Path :=
  let source := fromTop here start
  let target := fromTop here p
  let shared := commonLength source target
  ⟨0, List.replicate (source.length - shared) ['.', '.'] ++ target.drop shared⟩

/-! ## §4 Laws -/

/-- A name that was read names something and holds no slash. -/
theorem mem_names_ofText {s name : Text} (h : name ∈ (ofText s).names) :
    name ≠ [] ∧ name ≠ ['.'] ∧ '/' ∉ name := by
  obtain ⟨hs, hn⟩ := List.mem_filter.1 h
  refine ⟨?_, ?_, Text.not_mem_of_mem_splitOn hs⟩ <;> rintro rfl <;> simp [isName] at hn

theorem rootSlashes_of_not_mem {s : Text} (h : '/' ∉ s) : rootSlashes s = 0 := by
  match s with
  | [] => rfl
  | c :: s =>
    rw [List.mem_cons, not_or] at h
    unfold rootSlashes
    grind

theorem ofText_of_not_mem {s : Text} (h : '/' ∉ s) :
    ofText s = ⟨0, if isName s then [s] else []⟩ := by
  simp only [ofText, rootSlashes_of_not_mem h, Text.splitOn_of_not_mem h, List.filter_cons,
    List.filter_nil]

theorem join_of_not_absolute {p q : Path} (h : q.isAbsolute = false) :
    p / q = ⟨p.slashes, p.names ++ q.names⟩ := by
  show join p q = _
  simp [join, h]

theorem climb_append_singleton (names : List Text) (n : Text) :
    climb (names ++ [n]) =
      if n = ['.', '.'] then (climb names).dropLast else climb names ++ [n] := by
  simp [climb]

/-- Without double dots there is nothing to work off. -/
theorem climb_of_not_mem {names : List Text} (h : ['.', '.'] ∉ names) : climb names = names := by
  suffices ∀ done, names.foldl
      (fun done n => if n = ['.', '.'] then done.dropLast else done ++ [n]) done =
        done ++ names from
    this []
  induction names with
  | nil => simp
  | cons n names ih =>
    rw [List.mem_cons, not_or] at h
    intro done
    simp [Ne.symm h.1, ih h.2]

/-- No double dot is left. -/
theorem mem_of_mem_climb {names : List Text} {n : Text} (h : n ∈ climb names) :
    n ∈ names ∧ n ≠ ['.', '.'] := by
  suffices ∀ done, n ∈ names.foldl
      (fun done n => if n = ['.', '.'] then done.dropLast else done ++ [n]) done →
      n ∈ done ∨ n ∈ names ∧ n ≠ ['.', '.'] by
    simpa using this [] h
  clear h
  induction names with
  | nil => intro done h; exact .inl h
  | cons m names ih =>
    intro done h
    rcases ih _ h with h | h
    · dsimp only at h
      split at h
      · exact .inl (List.dropLast_sublist done |>.subset h)
      · grind
    · exact .inr ⟨List.mem_cons_of_mem _ h.1, h.2⟩

end Path
end EmbeddedGo
