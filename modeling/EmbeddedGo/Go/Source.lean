/-
EmbeddedGo.Go.Source — a Go unit as the body of a main package.

  §1 `wrap`: the unit with a package clause, which is added unless some line begins with one
  §2 `imports`: the paths a unit imports, single imports first, then those in brackets
-/
import EmbeddedGo.Text.Lines
import EmbeddedGo.Text.Scan
import EmbeddedGo.Text.Words

namespace EmbeddedGo.Go

open Text

/-! ## §1 The package clause -/

/-- What comes behind a keyword and the blanks after it, of which there is at least one. -/
def afterKeyword? (keyword s : Text) : Option Text :=
  match after? keyword s with
  | some (c :: rest) => if isBlank c then some (trimStart rest) else none
  | _ => none

/-- Whether a text begins, blanks aside, with the clause of the main package. -/
def startsWithClause (s : Text) : Bool :=
  match (afterKeyword? "package" (trimStart s)).bind (after? "main") with
  | some rest => wordEnds rest
  | none => false

/-- The rest of a text from the beginning of each line after the first. -/
def laterLines : Text → List Text
  | [] => []
  | c :: s => if c = '\n' then s :: laterLines s else laterLines s

/-- Whether some line begins, blanks aside, with the clause of the main package. -/
def hasClause (code : Text) : Bool := (code :: laterLines code).any startsWithClause

/-- The unit as a main package. -/
def wrap (code : Text) : Text := if hasClause code then code else "package main\n\n" ++ code

/-! ## §2 Imports -/

/-- A path between double quotes, which is not empty, and what comes behind it. -/
def quotedPath? : Text → Option (Text × Text)
  | '"' :: s =>
    match upTo? '"' s with
    | some (c :: path, rest) => some (c :: path, rest)
    | _ => none
  | _ => none

/-- The characters of the name that can stand between the keyword and the path. -/
def isAlias (c : Char) : Bool := isWord c || c == '.'

/-- What comes behind a name and the blanks after it. -/
def afterAlias? (s : Text) : Option Text :=
  match s.takeWhile isAlias, s.dropWhile isAlias with
  | _ :: _, c :: rest => if isBlank c then some (trimStart rest) else none
  | _, _ => none

/-- An import of one path. -/
def singleImport? (s : Text) : Option (Text × Text) := do
  let rest ← afterKeyword? "import" s
  quotedPath? ((afterAlias? rest).getD rest)

/-- The inside of an import in brackets. -/
def blockImport? (s : Text) : Option (Text × Text) :=
  match afterKeyword? "import" s with
  | some ('(' :: inside) => upTo? ')' inside
  | _ => none

/-- The paths between the brackets: at most one on each line. -/
def blockPaths (inside : Text) : List Text :=
  (lines inside).filterMap fun line => (findAll quotedPath? line).head?

/-- The paths that a unit imports, each once, in the order they are found. -/
def imports (code : Text) : List Text :=
  (findAll singleImport? code ++ (findAll blockImport? code).flatMap blockPaths).eraseDups

end EmbeddedGo.Go
