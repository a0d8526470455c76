/-
EmbeddedGo.Data.Json.Encoded — the text of JSON that comes as bytes.

A mark at the head of the bytes says how they hold characters. Without one the first bytes tell:
JSON begins with characters of ASCII, and where zeros stand among them each character has two or
four bytes.

  §1 encodings, and which one some bytes are in
  §2 units of two and of four bytes
  §3 `textOf?`
-/
import EmbeddedGo.Data.Json.Literal
import EmbeddedGo.Data.Value
import EmbeddedGo.Text.Utf8

namespace EmbeddedGo.Json

/-! ## §1 Encodings -/

/-- How bytes hold characters. Of units with several bytes the first or the last is the greatest. -/
inductive Encoding where
  | utf8
  | utf16 (greatestFirst : Bool)
  | utf32 (greatestFirst : Bool)
  deriving DecidableEq

/-- The encoding that the zeros among the first bytes tell. -/
def encodingByZeros (bytes : Bytes) : Encoding :=
  match (bytes.take 4).map (· == 0) with
  | [true, second, _, _] => if second then .utf32 true else .utf16 true
  | [false, true, third, fourth] => if third && fourth then .utf32 false else .utf16 false
  | [true, _] => .utf16 true
  | [false, true] => .utf16 false
  | _ => .utf8

/-- The encoding of some bytes, and the bytes behind the mark that says so. -/
def encodingOf (bytes : Bytes) : Encoding × Bytes :=
  match bytes with
  | 0x00 :: 0x00 :: 0xFE :: 0xFF :: rest => (.utf32 true, rest)
  | 0xFF :: 0xFE :: 0x00 :: 0x00 :: rest => (.utf32 false, rest)
  | 0xFE :: 0xFF :: rest => (.utf16 true, rest)
  | 0xFF :: 0xFE :: rest => (.utf16 false, rest)
  | 0xEF :: 0xBB :: 0xBF :: rest => (.utf8, rest)
  | bytes => (encodingByZeros bytes, bytes)

/-! ## §2 Units -/

/-- The number that some bytes write. -/
def unitOf (greatestFirst : Bool) (bytes : Bytes) : Nat :=
  (if greatestFirst then bytes else bytes.reverse).foldl (fun n b => n * 256 + b.toNat) 0

/-- Bytes as units of two; none may be left over. -/
def unitsOfTwo (greatestFirst : Bool) : Bytes → Option (List Nat)
  | [] => some []
  | a :: b :: rest => (unitsOfTwo greatestFirst rest).map (unitOf greatestFirst [a, b] :: ·)
  | _ => none

/-- Bytes as units of four; none may be left over. -/
def unitsOfFour (greatestFirst : Bool) : Bytes → Option (List Nat)
  | [] => some []
  | a :: b :: c :: d :: rest =>
    (unitsOfFour greatestFirst rest).map (unitOf greatestFirst [a, b, c, d] :: ·)
  | _ => none

/-- Units of sixteen bits as code points: two halves that meet are one. -/
def joinHalves : List Nat → List Nat
  | high :: low :: rest =>
    if 0xD800 ≤ high ∧ high ≤ 0xDBFF ∧ 0xDC00 ≤ low ∧ low ≤ 0xDFFF then
      (0x10000 + (high - 0xD800) * 0x400 + (low - 0xDC00)) :: joinHalves rest
    else high :: joinHalves (low :: rest)
  | units => units

/-! ## §3 Texts -/

/-- A code point as a text. Half of a pair becomes its escape, which says the same inside a
string. -/
def pointText (n : Nat) : Text := if Value.isSurrogate n then unitEscape n else [Char.ofNat n]

/-- The text that some bytes hold, if they hold one. -/
def textOf? (bytes : Bytes) : Option Text :=
  match encodingOf bytes with
  | (.utf8, rest) => Utf8.decode? rest
  | (.utf16 greatestFirst, rest) =>
    (unitsOfTwo greatestFirst rest).map fun units => (joinHalves units).flatMap pointText
  | (.utf32 greatestFirst, rest) =>
    match unitsOfFour greatestFirst rest with
    | some points => if points.all (· < 0x110000) then some (points.flatMap pointText) else none
    | none => none

end EmbeddedGo.Json
