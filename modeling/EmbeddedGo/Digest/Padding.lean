/-
EmbeddedGo.Digest.Padding — the frame that both digests of the library put around a message, and the
hexadecimal writing of a digest.

A message is followed by a one bit, zeros, and its length in bits as eight bytes, so that the whole
is a multiple of sixty-four bytes; it is then read in blocks of sixteen words of thirty-two bits.
-/
import EmbeddedGo.Text.Utf8

namespace EmbeddedGo.Digest

/-- The order of the bytes of a word. -/
inductive ByteOrder where
  | lowFirst
  | highFirst

/-- The bytes of a number, lowest first. -/
def bytesLowFirst : (count n : Nat) → Bytes
  | 0, _ => []
  | count + 1, n => UInt8.ofNat n :: bytesLowFirst count (n / 256)

/-- The bytes of a number in an order. -/
def numberBytes (order : ByteOrder) (count n : Nat) : Bytes :=
  match order with
  | .lowFirst => bytesLowFirst count n
  | .highFirst => (bytesLowFirst count n).reverse

/-- The message with its mark, its zeros and its length. -/
def padded (order : ByteOrder) (message : Bytes) : Bytes :=
  message ++ 0x80 :: List.replicate ((119 - message.length % 64) % 64) 0 ++
    numberBytes order 8 (message.length * 8)

/-- The word of four bytes. -/
def word (order : ByteOrder) (a b c d : UInt8) : UInt32 :=
  match order with
  | .lowFirst => a.toUInt32 ||| b.toUInt32 <<< 8 ||| c.toUInt32 <<< 16 ||| d.toUInt32 <<< 24
  | .highFirst => d.toUInt32 ||| c.toUInt32 <<< 8 ||| b.toUInt32 <<< 16 ||| a.toUInt32 <<< 24

/-- The bytes as words, four at a time. -/
def words (order : ByteOrder) : Bytes → List UInt32
  | a :: b :: c :: d :: rest => word order a b c d :: words order rest
  | _ => []

/-- The words in blocks of sixteen, at most `count` of them. -/
def blocks : (count : Nat) → List UInt32 → List (List UInt32)
  | 0, _ => []
  | count + 1, ws => if ws.isEmpty then [] else ws.take 16 :: blocks count (ws.drop 16)

/-- The blocks of a message. -/
def messageBlocks (order : ByteOrder) (message : Bytes) : List (List UInt32) :=
  let ws := words order (padded order message)
  blocks (ws.length / 16) ws

/-- A word turned to the left. -/
def rotateLeft (w : UInt32) (n : UInt32) : UInt32 := w <<< n ||| w >>> (32 - n)

/-- A word turned to the right. -/
def rotateRight (w : UInt32) (n : UInt32) : UInt32 := w >>> n ||| w <<< (32 - n)

/-- Bytes as hexadecimal digits, two for each. -/
def hex (bytes : Bytes) : Text := bytes.flatMap fun b => Text.hexPadded 2 b.toNat

/-- The bytes of words, in order. -/
def wordBytes (order : ByteOrder) (ws : List UInt32) : Bytes :=
  ws.flatMap fun w => numberBytes order 4 w.toNat

theorem length_bytesLowFirst (count n : Nat) : (bytesLowFirst count n).length = count := by
  induction count generalizing n with
  | zero => rfl
  | succ count ih => simp [bytesLowFirst, ih]

theorem length_hex (bytes : Bytes) : (hex bytes).length = 2 * bytes.length := by
  have h : ∀ n : Fin 256, (Text.hexPadded 2 n.val).length = 2 := by decide +kernel
  induction bytes with
  | nil => rfl
  | cons b bytes ih =>
    have hb : (Text.hexPadded 2 b.toNat).length = 2 := h ⟨b.toNat, b.toNat_lt⟩
    simp only [hex, List.flatMap_cons, List.length_append, List.length_cons] at ih ⊢
    omega

end EmbeddedGo.Digest
