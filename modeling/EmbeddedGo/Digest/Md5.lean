/-
EmbeddedGo.Digest.Md5 — the MD5 digest (RFC 1321).

Sixty-four steps for each block of the message, in four rounds that differ by their mixing function,
the word they read and the turns they make.
-/
import EmbeddedGo.Digest.Padding

namespace EmbeddedGo.Digest.Md5

/-- Four words of state. -/
structure State where
  a : UInt32
  b : UInt32
  c : UInt32
  d : UInt32

/-- The state before the first block. -/
def State.initial : State := ⟨0x67452301, 0xefcdab89, 0x98badcfe, 0x10325476⟩

/-- The constants of the steps: the sines of 1 to 64 without their signs, as fractions of 2³². -/
def sines : Array UInt32 := #[
  0xd76aa478, 0xe8c7b756, 0x242070db, 0xc1bdceee, 0xf57c0faf, 0x4787c62a, 0xa8304613, 0xfd469501,
  0x698098d8, 0x8b44f7af, 0xffff5bb1, 0x895cd7be, 0x6b901122, 0xfd987193, 0xa679438e, 0x49b40821,
  0xf61e2562, 0xc040b340, 0x265e5a51, 0xe9b6c7aa, 0xd62f105d, 0x02441453, 0xd8a1e681, 0xe7d3fbc8,
  0x21e1cde6, 0xc33707d6, 0xf4d50d87, 0x455a14ed, 0xa9e3e905, 0xfcefa3f8, 0x676f02d9, 0x8d2a4c8a,
  0xfffa3942, 0x8771f681, 0x6d9d6122, 0xfde5380c, 0xa4beea44, 0x4bdecfa9, 0xf6bb4b60, 0xbebfbc70,
  0x289b7ec6, 0xeaa127fa, 0xd4ef3085, 0x04881d05, 0xd9d4d039, 0xe6db99e5, 0x1fa27cf8, 0xc4ac5665,
  0xf4292244, 0x432aff97, 0xab9423a7, 0xfc93a039, 0x655b59c3, 0x8f0ccc92, 0xffeff47d, 0x85845dd1,
  0x6fa87e4f, 0xfe2ce6e0, 0xa3014314, 0x4e0811a1, 0xf7537e82, 0xbd3af235, 0x2ad7d2bb, 0xeb86d391]

/-- The turns of a round, used one after another. -/
def turns : (round : Nat) → Array UInt32
  | 0 => #[7, 12, 17, 22]
  | 1 => #[5, 9, 14, 20]
  | 2 => #[4, 11, 16, 23]
  | _ => #[6, 10, 15, 21]

/-- The mixing function of a round. -/
def mix (round : Nat) (b c d : UInt32) : UInt32 :=
  match round with
  | 0 => (b &&& c) ||| (~~~b &&& d)
  | 1 => (d &&& b) ||| (~~~d &&& c)
  | 2 => b ^^^ c ^^^ d
  | _ => c ^^^ (b ||| ~~~d)

/-- The word of the block that a step reads. -/
def source (round step : Nat) : Nat :=
  match round with
  | 0 => step
  | 1 => (5 * step + 1) % 16
  | 2 => (3 * step + 5) % 16
  | _ => (7 * step) % 16

/-- One step. -/
def State.step (block : Array UInt32) (s : State) (i : Nat) : State :=
  let round := i / 16
  let sum := s.a + mix round s.b s.c s.d + sines[i]?.getD 0 + block[source round i]?.getD 0
  ⟨s.d, s.b + rotateLeft sum ((turns round)[i % 4]?.getD 0), s.b, s.c⟩

/-- The state after a block. -/
def State.absorb (s : State) (block : List UInt32) : State :=
  let t := (List.range 64).foldl (State.step block.toArray) s
  ⟨s.a + t.a, s.b + t.b, s.c + t.c, s.d + t.d⟩

/-- The sixteen bytes of the digest. -/
def digest (message : Bytes) : Bytes :=
  let s := (messageBlocks .lowFirst message).foldl State.absorb .initial
  wordBytes .lowFirst [s.a, s.b, s.c, s.d]

end EmbeddedGo.Digest.Md5
