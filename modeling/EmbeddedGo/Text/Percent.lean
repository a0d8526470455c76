/-
EmbeddedGo.Text.Percent — percent encoding of one segment of a URL.

  §1 `encode`: letters, digits and four marks stand for themselves, every other character for its
     bytes, each as a percent sign and two capital hexadecimal digits
  §2 `decode`: the bytes behind the escapes, read as UTF-8; a percent sign that begins no escape
     stands for itself
  §3 laws: decoding takes encoding back
-/
import EmbeddedGo.Text.Utf8.RoundTrip

namespace EmbeddedGo.Percent

open Text

/-! ## §1 Encoding -/

/-- The characters that stand for themselves. -/
def isUnreserved (c : Char) : Bool :=
  c.isAlphanum || c == '_' || c == '.' || c == '-' || c == '~'

/-- A byte as an escape. -/
def escape (b : UInt8) : Text :=
  ['%', hexChar true (b.toNat / 16), hexChar true (b.toNat % 16)]

/-- One character of a segment. -/
def encodeChar (c : Char) : Text :=
  if isUnreserved c then [c] else (Utf8.encode [c]).flatMap escape

/-- A text as one segment of a URL. -/
def encode (s : Text) : Text := s.flatMap encodeChar

/-! ## §2 Decoding -/

/-- The byte written by two hexadecimal digits. -/
def byteOf? (a b : Char) : Option UInt8 := do
  return UInt8.ofNat ((← hexDigit? a) * 16 + (← hexDigit? b))

/-- The bytes that a text stands for: one for each escape, and those of every other character. -/
def bytesOf : Text → Bytes
  | [] => []
  | '%' :: a :: b :: s =>
    match byteOf? a b with
    | some byte => byte :: bytesOf s
    | none => 0x25 :: bytesOf (a :: b :: s)
  | c :: s => String.utf8EncodeChar c ++ bytesOf s

/-- The text behind the escapes. -/
def decode (s : Text) : Text := Utf8.decodeLossy (bytesOf s)

/-! ## §3 Laws -/

theorem byteOf?_hexChar (b : UInt8) :
    byteOf? (hexChar true (b.toNat / 16)) (hexChar true (b.toNat % 16)) = some b := by
  have h : ∀ n : Fin 256, byteOf? (hexChar true (n.val / 16)) (hexChar true (n.val % 16)) =
      some (UInt8.ofNat n.val) := by decide +kernel
  have := h ⟨b.toNat, b.toNat_lt⟩
  simpa using this

theorem bytesOf_escape (b : UInt8) (s : Text) : bytesOf (escape b ++ s) = b :: bytesOf s := by
  simp [escape, bytesOf, byteOf?_hexChar]

theorem bytesOf_flatMap_escape (bytes : Bytes) (s : Text) :
    bytesOf (bytes.flatMap escape ++ s) = bytes ++ bytesOf s := by
  induction bytes with
  | nil => rfl
  | cons b bytes ih => simp [bytesOf_escape, ih]

theorem bytesOf_cons {c : Char} (hc : c ≠ '%') (s : Text) :
    bytesOf (c :: s) = String.utf8EncodeChar c ++ bytesOf s := by
  rw [bytesOf.eq_def]
  grind

/-- An encoded text stands for its own bytes. -/
theorem bytesOf_encode (s : Text) : bytesOf (encode s) = Utf8.encode s := by
  induction s with
  | nil => rfl
  | cons c s ih =>
    simp only [encode, Utf8.encode, List.flatMap_cons] at ih ⊢
    by_cases hc : isUnreserved c
    · have : c ≠ '%' := by rintro rfl; simp [isUnreserved] at hc
      simp [encodeChar, hc, bytesOf_cons this, ih]
    · simp only [encodeChar, hc, Bool.false_eq_true, if_false, Utf8.encode]
      simp [bytesOf_flatMap_escape, ih]

/-- Decoding takes encoding back. -/
theorem decode_encode (s : Text) : decode (encode s) = s := by
  rw [decode, bytesOf_encode, Utf8.decodeLossy_encode]

end EmbeddedGo.Percent
