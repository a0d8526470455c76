/-
EmbeddedGo.Text.Utf8 — texts as bytes, and bytes as texts.

  §1 writing: each character by its one to four bytes
  §2 reading: what stands at the head of the bytes is a character or an ill-formed piece, the
     longest that begins like a character and is none
  §3 `decode?` refuses ill-formed bytes; `decodeLossy` writes one replacement character for each
     ill-formed piece
-/
import EmbeddedGo.Text.Basic

namespace EmbeddedGo

/-- The contents of a file, or the output of a program. -/
abbrev Bytes := List UInt8

namespace Utf8

/-! ## §1 Writing -/

/-- The bytes of a text. -/
def encode (s : Text) : Bytes := s.flatMap String.utf8EncodeChar

/-! ## §2 Reading -/

/-- What the first byte of a character says: how many bytes follow, the bits it gives itself, and
the bounds of the byte after it. -/
structure Lead where
  following : Nat
  bits : Nat
  low : Nat := 0x80
  high : Nat := 0xBF

/-- The role of a byte at the head of a character, if it can be there. The bounds rule out longer
forms than needed, the surrogates, and numbers past the last code point. -/
def lead? (b : Nat) : Option Lead :=
  if b < 0x80 then some { following := 0, bits := b }
  else if 0xC2 ≤ b ∧ b ≤ 0xDF then some { following := 1, bits := b - 0xC0 }
  else if b = 0xE0 then some { following := 2, bits := 0, low := 0xA0 }
  else if b = 0xED then some { following := 2, bits := 13, high := 0x9F }
  else if 0xE1 ≤ b ∧ b ≤ 0xEF then some { following := 2, bits := b - 0xE0 }
  else if b = 0xF0 then some { following := 3, bits := 0, low := 0x90 }
  else if 0xF1 ≤ b ∧ b ≤ 0xF3 then some { following := 3, bits := b - 0xF0 }
  else if b = 0xF4 then some { following := 3, bits := 4, high := 0x8F }
  else none

/-- Reads the bytes that follow a leading one, as long as they fit: the code point, if all of them
are there, and the rest. -/
def following : (need low high bits : Nat) → Bytes → Option Nat × Bytes
  | 0, _, _, bits, rest => (some bits, rest)
  | _ + 1, _, _, _, [] => (none, [])
  | need + 1, low, high, bits, b :: rest =>
    if low ≤ b.toNat ∧ b.toNat ≤ high then
      following need 0x80 0xBF (bits * 64 + (b.toNat - 0x80)) rest
    else (none, b :: rest)

theorem following_length_le (need low high bits : Nat) (bytes : Bytes) :
    (following need low high bits bytes).2.length ≤ bytes.length := by
  induction need generalizing low high bits bytes with
  | zero => simp [following]
  | succ n ih =>
    cases bytes with
    | nil => simp [following]
    | cons b rest =>
      simp only [following]
      split
      · exact Nat.le_trans (ih _ _ _ rest) (by simp)
      · simp

/-- What stands at the head of bytes that begin with `b`: a character or an ill-formed piece, and
what comes after it. -/
def first (b : UInt8) (rest : Bytes) : Option Char × Bytes :=
  match lead? b.toNat with
  | none => (none, rest)
  | some l =>
    let (code, rest) := following l.following l.low l.high l.bits rest
    (code.map Char.ofNat, rest)

theorem first_length_le (b : UInt8) (rest : Bytes) : (first b rest).2.length ≤ rest.length := by
  unfold first
  split
  · exact Nat.le_refl _
  · exact following_length_le _ _ _ _ rest

/-- The bytes cut into characters and ill-formed pieces. -/
def pieces : Bytes → List (Option Char)
  | [] => []
  | b :: rest => (first b rest).1 :: pieces (first b rest).2
  termination_by bytes => bytes.length
  decreasing_by exact Nat.lt_succ_of_le (first_length_le b rest)

/-! ## §3 Decoding -/

/-- The text that the bytes are of, if they are of one. -/
def decode? (bytes : Bytes) : Option Text := (pieces bytes).mapM id

/-- The text of the bytes, with a replacement character for each ill-formed piece. -/
def decodeLossy (bytes : Bytes) : Text := (pieces bytes).map (·.getD '\uFFFD')

end Utf8
end EmbeddedGo
