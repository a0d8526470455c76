/-
EmbeddedGo.Data.Json.Literal — texts as JSON string literals.

  §1 one character: the quote, the backslash and the control characters are escaped, and where only
     ASCII is wanted everything beyond it too, by its units of sixteen bits
  §2 literals and lists of them
-/
import EmbeddedGo.Text.Basic

namespace EmbeddedGo.Json

open Text

/-! ## §1 Characters -/

/-- A unit of sixteen bits as an escape. -/
def unitEscape (n : Nat) : Text := "\\u" ++ hexPadded 4 n

/-- The units of a character: itself, or the two that stand for it together. -/
def units (c : Char) : List Nat :=
  let n := c.toNat
  if n < 0x10000 then [n]
  else [0xD800 + (n - 0x10000) / 0x400, 0xDC00 + (n - 0x10000) % 0x400]

/-- A character inside a literal. -/
def literalChar (asciiOnly : Bool) (c : Char) : Text :=
  if c = '"' ∨ c = '\\' then ['\\', c]
  else if c = '\n' then "\\n"
  else if c = '\r' then "\\r"
  else if c = '\t' then "\\t"
  else if c.toNat = 8 then "\\b"
  else if c.toNat = 12 then "\\f"
  else if c.toNat < 32 then unitEscape c.toNat
  else if asciiOnly && 127 ≤ c.toNat then (units c).flatMap unitEscape
  else [c]

/-! ## §2 Literals -/

/-- A text as a literal. -/
def literal (asciiOnly : Bool) (s : Text) : Text :=
  '"' :: s.flatMap (literalChar asciiOnly) ++ ['"']

/-- Texts as a list of literals in ASCII. -/
def literalList (items : List Text) : Text :=
  '[' :: join ", " (items.map (literal true)) ++ [']']

end EmbeddedGo.Json
