/-
EmbeddedGo.Text.Numeral — numbers as people type them.

Blanks may stand around a number, single underscores between its digits, and the digits may be those
of any script.

  §1 blanks and digits
  §2 whole numbers
  §3 fractions, which may also be infinite or no number
-/
import EmbeddedGo.Data.Binary64
import EmbeddedGo.Text.Basic

namespace EmbeddedGo.Numeral

open Text

/-! ## §1 Blanks and digits -/

/-- The blanks around a number. The information separators are none. -/
def isBlank (c : Char) : Bool := Text.isBlank c && !(28 ≤ c.toNat && c.toNat ≤ 31)

/-- A text without the blanks around it. -/
def trimmed (s : Text) : Text := ((s.dropWhile isBlank).reverse.dropWhile isBlank).reverse

/-- The zeros of the scripts beyond ASCII; nine digits follow each of them. -/
def zeros : List Nat := [
  0x660, 0x6F0, 0x7C0, 0x966, 0x9E6, 0xA66, 0xAE6, 0xB66, 0xBE6, 0xC66, 0xCE6, 0xD66, 0xDE6,
  0xE50, 0xED0, 0xF20, 0x1040, 0x1090, 0x17E0, 0x1810, 0x1946, 0x19D0, 0x1A80, 0x1A90, 0x1B50,
  0x1BB0, 0x1C40, 0x1C50, 0xA620, 0xA8D0, 0xA900, 0xA9D0, 0xA9F0, 0xAA50, 0xABF0, 0xFF10,
  0x104A0, 0x10D30, 0x11066, 0x110F0, 0x11136, 0x111D0, 0x112F0, 0x11450, 0x114D0, 0x11650,
  0x116C0, 0x11730, 0x118E0, 0x11950, 0x11C50, 0x11D50, 0x11DA0, 0x16A60, 0x16AC0,
  0x16B50, 0x1D7CE, 0x1D7D8, 0x1D7E2, 0x1D7EC, 0x1D7F6, 0x1E140, 0x1E2F0, 0x1E950,
  0x1FBF0]

/-- A character with the digits of all scripts written in ASCII. -/
def plainDigit (c : Char) : Char :=
  match zeros.find? fun z => z ≤ c.toNat && c.toNat < z + 10 with
  | some z => Nat.digitChar (c.toNat - z)
  | none => c

/-- The most digits of a whole number. -/
def digitLimit : Nat := 4300

/-- Digits with single underscores between them, without these. -/
def digits? (s : Text) : Option Text :=
  let groups := splitOn '_' s
  if groups.all (fun g => !g.isEmpty && g.all Char.isDigit) then some groups.flatten else none

/-- The sign of a number, and what follows it. -/
def signed : Text → Bool × Text
  | '-' :: s => (true, s)
  | '+' :: s => (false, s)
  | s => (false, s)

/-- A typed number without the blanks around it, in ASCII digits. -/
def typed (s : Text) : Text := (trimmed s).map plainDigit

/-! ## §2 Whole numbers -/

/-- The whole number that a text writes. -/
def int? (s : Text) : Option Int := do
  let (negative, rest) := signed (typed s)
  let digits ← digits? rest
  if digitLimit < digits.length then none
  else some (if negative then -(natValue digits : Nat) else natValue digits)

/-! ## §3 Fractions -/

/-- Digits that may be missing altogether. -/
def digitsOrNone? (s : Text) : Option Text := if s.isEmpty then some [] else digits? s

/-- Whether a character introduces an exponent. -/
def isExponentMark (c : Char) : Bool := c == 'e' || c == 'E'

/-- The exponent behind its mark; without a mark it is zero. -/
def exponent? : Text → Option Int
  | [] => some 0
  | _ :: s => do
    let (negative, rest) := signed s
    let digits ← digits? rest
    some (if negative then -(natValue digits : Nat) else natValue digits)

/-- The fraction that digits around a point write. -/
def decimal? (negative : Bool) (s : Text) : Option Binary64 := do
  let mantissa := s.takeWhile (!isExponentMark ·)
  let power ← exponent? (s.dropWhile (!isExponentMark ·))
  let whole ← digitsOrNone? (mantissa.takeWhile (· ≠ '.'))
  let part ← digitsOrNone? ((mantissa.dropWhile (· ≠ '.')).drop 1)
  if whole.isEmpty && part.isEmpty then none
  else some (Binary64.ofDecimal negative (natValue (whole ++ part)) (power - part.length))

/-- The fraction that a text writes. -/
def real? (s : Text) : Option Binary64 :=
  let (negative, rest) := signed (typed s)
  let word := lowerAscii rest
  if word = "inf".toList ∨ word = "infinity".toList then some (.infinite negative)
  else if word = "nan".toList then some .notANumber
  else decimal? negative rest

end EmbeddedGo.Numeral
