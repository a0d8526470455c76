/-
EmbeddedGo.Data.Json.Writer — values as JSON texts without spaces, with characters beyond ASCII as
they are.

  §1 strings and numbers
  §2 `write`
-/
import EmbeddedGo.Data.Json.Literal
import EmbeddedGo.Data.Value

namespace EmbeddedGo.Json

open Text

/-! ## §1 Strings and numbers -/

/-- Code points as a literal; half of a surrogate pair is always escaped. -/
def literalOfPoints (points : List Nat) : Text :=
  '"' :: points.flatMap (fun n =>
    if Value.isSurrogate n then unitEscape n else literalChar false (Char.ofNat n)) ++ ['"']

/-- A binary fraction, with words for what is no number. -/
def realText (x : Binary64) : Text :=
  match x with
  | .notANumber => "NaN"
  | .infinite isNegative => if isNegative then "-Infinity" else "Infinity"
  | x => x.text

/-- The name of a member. -/
def nameText : Value → Text
  | .unpaired points => literalOfPoints points
  | v => literal false v.asText

/-! ## §2 Values -/

mutual

/-- A value as JSON. What JSON has no form for is written as messages show it. -/
def write : Value → Text
  | .null => "null"
  | .bool b => if b then "true" else "false"
  | .int i => ofInt i
  | .real x => realText x
  | .text s => literal false s
  | .unpaired points => literalOfPoints points
  | .moment m => literal false (Value.momentShown m)
  | .list items => '[' :: join "," (writeItems items) ++ [']']
  | .map entries => '\x7b' :: join "," (writeMembers entries) ++ ['\x7d']

/-- The items of a list. -/
def writeItems : List Value → List Text
  | [] => []
  | v :: vs => write v :: writeItems vs

/-- The members of an object. -/
def writeMembers : List (Value × Value) → List Text
  | [] => []
  | (k, v) :: rest => (nameText k ++ ":" ++ write v) :: writeMembers rest

end

end EmbeddedGo.Json
