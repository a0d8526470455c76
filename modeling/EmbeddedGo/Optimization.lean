/-
EmbeddedGo.Optimization — how hard the compiler works on a binary.
-/
import EmbeddedGo.Text.Quoted

namespace EmbeddedGo

/-- A level of optimization: three degrees of speed, and two of size. -/
inductive Optimization where
  | none
  | some
  | full
  | small
  | smallest
  deriving DecidableEq, Inhabited

namespace Optimization

/-- All levels. -/
def all : List Optimization := [none, some, full, small, smallest]

/-- The name of a level on the command line of the compiler. -/
def text : Optimization → Text
  | none => "0"
  | some => "1"
  | full => "2"
  | small => "s"
  | smallest => "z"

/-- The level with a name. -/
def ofText? (s : Text) : Option Optimization := all.find? (·.text == s)

/-- The words for a name that no level has. -/
def unknownMessage (s : Text) : Text :=
  "Invalid optimization level " ++ Text.quoted s ++ ", expected one of " ++
    Text.join ", " (all.map text)

theorem ofText?_text (o : Optimization) : ofText? o.text = .some o := by
  cases o <;> decide

/-- A name belongs to the level that has it. -/
theorem ofText?_eq_some_iff {s : Text} {o : Optimization} : ofText? s = .some o ↔ s = o.text := by
  constructor
  · intro h
    have found : (o.text == s) = true :=
      List.find?_some (p := fun l : Optimization => l.text == s) h
    exact (eq_of_beq found).symm
  · rintro rfl
    exact ofText?_text o

end Optimization
end EmbeddedGo
