/-
EmbeddedGo.Go.Exports — the functions a Go unit offers to its host.

A line that reads `//export` and a name offers the function declared on the next line. The
declaration reaches to its opening brace, on whatever line that is. A declaration that bindings
cannot express offers nothing, and neither does a marker without a declaration after it.

  §1 markers
  §2 declarations
  §3 `exported`: what a unit offers
-/
import EmbeddedGo.Go.Signature
import EmbeddedGo.Text.Lines

namespace EmbeddedGo.Go

open Text

/-! ## §1 Markers -/

/-- The name on a marker's line. -/
def markerName? (line : Text) : Option Text :=
  match after? "//export" (trimStart line) with
  | some (b :: rest) =>
    if isBlank b then
      match trimStart rest with
      | c :: rest =>
        if isWordStart c && (rest.dropWhile isWord).all isBlank then
          some (c :: rest.takeWhile isWord)
        else none
      | [] => none
    else none
  | _ => none

/-! ## §2 Declarations -/

/-- The lines up to the first opening brace, which is kept; the lines after it are dropped. -/
def upToBrace : List Text → List Text
  | [] => []
  | line :: rest =>
    if line.contains '{' then [line.takeWhile (· ≠ '{') ++ ['{']] else line :: upToBrace rest

/-- The declaration that begins with the first of the lines. -/
def declaration (lines : List Text) : Text := Text.join " " (upToBrace lines)

/-- Whether a line begins, blanks aside, like the declaration of a function. -/
def startsFunction (line : Text) : Bool := startsWith (trimStart line) "func"

/-! ## §3 What a unit offers -/

/-- What a line offers, when it is followed by others. -/
def offered? (line : Text) (rest : List Text) : Option Function :=
  match markerName? line, rest with
  | some name, next :: _ =>
    if startsFunction next then
      match Signature.parse (declaration rest) with
      | .ok f => some { f with name }
      | .error _ => none
    else none
  | _, _ => none

/-- What the lines offer, in order. -/
def exportedIn : List Text → List Function
  | [] => []
  | line :: rest => (offered? line rest).toList ++ exportedIn rest

/-- The functions that a unit offers, in the order of their markers. -/
def exported (source : Text) : List Function := exportedIn (lines source)

end EmbeddedGo.Go
