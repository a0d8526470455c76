/-
EmbeddedGo.Data.Yaml.Problem — places in a YAML text, and what can be wrong there.

  §1 marks: lines and columns, counted from zero
  §2 the cursor, which moves through a text and knows its mark
  §3 problems and their words
-/
import EmbeddedGo.Data.Value

namespace EmbeddedGo.Yaml

open Text

/-! ## §1 Marks -/

/-- A line and a column. -/
structure Mark where
  line : Nat := 0
  column : Nat := 0
  deriving DecidableEq, Inhabited

/-! ## §2 The cursor -/

/-- What is left of a text, how many characters are behind, and the place they lead to. -/
structure Cursor where
  rest : Text
  index : Nat := 0
  mark : Mark := {}
  deriving Inhabited

/-- The characters that end a line. -/
def isBreak (c : Char) : Bool :=
  c == '\n' || c == '\r' || c == '\x85' || c == '\u2028' || c == '\u2029'

/-- Whether a line ends at a character, or the text does. -/
def endsLine : Option Char → Bool
  | none => true
  | some c => isBreak c

/-- Whether a word ends at a character, or the text does. -/
def endsWord : Option Char → Bool
  | none => true
  | some c => c == ' ' || c == '\t' || isBreak c

namespace Cursor

/-- The character `k` places ahead. -/
def peek (cur : Cursor) (k : Nat) : Option Char := cur.rest[k]?

/-- The mark behind a character. -/
def markAfter (m : Mark) (c : Char) : Mark :=
  if isBreak c then ⟨m.line + 1, 0⟩
  else if c = '\uFEFF' then m
  else { m with column := m.column + 1 }

/-- The cursor one character further. -/
def next (cur : Cursor) : Cursor :=
  match cur.rest with
  | [] => cur
  | c :: rest => ⟨rest, cur.index + 1, markAfter cur.mark c⟩

/-- The cursor `n` characters further. -/
def skip : (n : Nat) → Cursor → Cursor
  | 0, cur => cur
  | n + 1, cur => skip n cur.next

/-- How many characters ahead have a property. -/
def count (cur : Cursor) (holds : Char → Bool) : Nat := (cur.rest.takeWhile holds).length

/-- The cursor behind the characters that have a property. -/
def skipWhile (cur : Cursor) (holds : Char → Bool) : Cursor := cur.skip (cur.count holds)

/-- The line break at the cursor as it is kept, and the cursor behind it. The two separators of
Unicode keep their kind. -/
def lineBreak? (cur : Cursor) : Option (Char × Cursor) :=
  match cur.rest with
  | c :: _ =>
    if c = '\u2028' ∨ c = '\u2029' then some (c, cur.next)
    else if isBreak c then some ('\n', cur.next)
    else none
  | [] => none

/-- Whether three equal characters and the end of a word stand here. -/
def atTriple (cur : Cursor) (c : Char) : Bool :=
  cur.rest.take 3 == [c, c, c] && endsWord (cur.peek 3)

/-- Whether a line that separates documents begins here. -/
def atSeparator (cur : Cursor) : Bool := cur.atTriple '-' || cur.atTriple '.'

end Cursor

/-! ## §3 Problems -/

/-- What is wrong with a text. -/
inductive Problem where
  /-- What was being read, and what was found instead of it. -/
  | marked (context : Option (Text × Mark)) (words : Text) (mark : Mark)
  /-- A character that no document may hold. -/
  | unacceptable (c : Char) (position : Nat)
  /-- A number or a date that is none. -/
  | noValue (words : Text)
  /-- A number that is too large for what it enters. -/
  | tooLarge (words : Text)
  /-- Sequences and mappings are nested too deeply. -/
  | tooDeep
  deriving DecidableEq

/-- A place in a file. -/
def Mark.message (file : Text) (m : Mark) : Text :=
  "  in \"" ++ file ++ "\", line " ++ ofNat (m.line + 1) ++ ", column " ++ ofNat (m.column + 1)

/-- The words of a problem in a file. The place of the context is left out where the problem is. -/
def Problem.message (file : Text) : Problem → Text
  | .marked context words mark =>
    let before : List Text := match context with
      | none => []
      | some (what, m) => if m = mark then [what] else [what, m.message file]
    join "\n" (before ++ ([words, mark.message file] : List Text))
  | .unacceptable c position =>
    "unacceptable character #x" ++ hexPadded 4 c.toNat ++
      ": special characters are not allowed\n  in \"" ++ file ++ "\", position " ++ ofNat position
  | .noValue words => words
  | .tooLarge words => words
  | .tooDeep => "maximum recursion depth exceeded while calling a Python object"

end EmbeddedGo.Yaml
