/-
EmbeddedGo.Directive — the pragma that marks a module as Go source.

A module holds Go if it begins, blanks aside, with a string literal that reads `use golang`. Either
kind of quote opens and closes the literal, and one semicolon may follow it. Everything after the
directive is the embedded unit.

  §1 recognising the directive
  §2 `extract`: the embedded unit without the blanks at its ends
-/
import EmbeddedGo.Error

namespace EmbeddedGo.Directive

/-! ## §1 Recognising -/

/-- The words between the quotes. -/
def words : Text := "use golang"

/-- The two characters that quote the words. -/
def isQuote (c : Char) : Bool := c == '"' || c == '\''

/-- What follows a text's first character, if that is a quote. -/
def afterQuote? : Text → Option Text
  | [] => none
  | c :: s => if isQuote c then some s else none

/-- What follows the literal, if the text begins with it. -/
def afterLiteral? (s : Text) : Option Text := do
  afterQuote? (← Text.after? words (← afterQuote? s))

/-- A text without the semicolon it may begin with. -/
def dropSemicolon : Text → Text
  | ';' :: s => s
  | s => s

/-- The blanks that belong to the line of the directive. -/
def isSpace (c : Char) : Bool := c == ' ' || c == '\t'

/-- What follows the directive, its semicolon and the blanks on its line. -/
def body? (code : Text) : Option Text :=
  (afterLiteral? (Text.trimStart code)).map fun s => (dropSemicolon s).dropWhile isSpace

/-- Whether the module begins with the directive. -/
def isPresent (code : Text) : Bool := (body? code).isSome

/-! ## §2 The embedded unit -/

/-- The Go code that follows the directive. -/
def extract (code : Text) : Except Error Text :=
  match body? code with
  | none => .error .directiveNotFound
  | some body =>
    let unit := Text.trim body
    if unit.isEmpty then .error .emptyGuestCode else .ok unit

end EmbeddedGo.Directive
