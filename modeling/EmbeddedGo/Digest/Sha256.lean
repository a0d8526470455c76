/-
EmbeddedGo.Digest.Sha256 — the SHA-256 digest (FIPS 180-4).

Each block is stretched to sixty-four words, which are mixed one after another into eight words of
state.
-/
import EmbeddedGo.Digest.Padding

namespace EmbeddedGo.Digest.Sha256

/-- Eight words of state. -/
structure State where
  a : UInt32
  b : UInt32
  c : UInt32
  d : UInt32
  e : UInt32
  f : UInt32
  g : UInt32
  h : UInt32

/-- The state before the first block: the fractions of the square roots of the first primes. -/
def State.initial : State :=
  ⟨0x6a09e667, 0xbb67ae85, 0x3c6ef372, 0xa54ff53a,
    0x510e527f, 0x9b05688c, 0x1f83d9ab, 0x5be0cd19⟩

/-- The constants of the steps: the fractions of the cube roots of the first primes. -/
def roots : Array UInt32 := #[
  0x428a2f98, 0x71374491, 0xb5c0fbcf, 0xe9b5dba5, 0x3956c25b, 0x59f111f1, 0x923f82a4, 0xab1c5ed5,
  0xd807aa98, 0x12835b01, 0x243185be, 0x550c7dc3, 0x72be5d74, 0x80deb1fe, 0x9bdc06a7, 0xc19bf174,
  0xe49b69c1, 0xefbe4786, 0x0fc19dc6, 0x240ca1cc, 0x2de92c6f, 0x4a7484aa, 0x5cb0a9dc, 0x76f988da,
  0x983e5152, 0xa831c66d, 0xb00327c8, 0xbf597fc7, 0xc6e00bf3, 0xd5a79147, 0x06ca6351, 0x14292967,
  0x27b70a85, 0x2e1b2138, 0x4d2c6dfc, 0x53380d13, 0x650a7354, 0x766a0abb, 0x81c2c92e, 0x92722c85,
  0xa2bfe8a1, 0xa81a664b, 0xc24b8b70, 0xc76c51a3, 0xd192e819, 0xd6990624, 0xf40e3585, 0x106aa070,
  0x19a4c116, 0x1e376c08, 0x2748774c, 0x34b0bcb5, 0x391c0cb3, 0x4ed8aa4a, 0x5b9cca4f, 0x682e6ff3,
  0x748f82ee, 0x78a5636f, 0x84c87814, 0x8cc70208, 0x90befffa, 0xa4506ceb, 0xbef9a3f7, 0xc67178f2]

/-- The next word of the stretched block, from the last sixteen with the newest first. -/
def nextWord (recent : List UInt32) : UInt32 :=
  let word (i : Nat) : UInt32 := recent[i]?.getD 0
  let x := word 14
  let y := word 1
  word 15 + (rotateRight x 7 ^^^ rotateRight x 18 ^^^ x >>> 3) + word 6 +
    (rotateRight y 17 ^^^ rotateRight y 19 ^^^ y >>> 10)

/-- `count` more words put in front of the newest. -/
def stretch : (count : Nat) → List UInt32 → List UInt32
  | 0, recent => recent
  | count + 1, recent => stretch count (nextWord recent :: recent)

/-- One step, with the constant and the word it mixes in. -/
def State.step (s : State) (mixed : UInt32 × UInt32) : State :=
  let big := rotateRight s.e 6 ^^^ rotateRight s.e 11 ^^^ rotateRight s.e 25
  let choice := (s.e &&& s.f) ^^^ (~~~s.e &&& s.g)
  let t := s.h + big + choice + mixed.1 + mixed.2
  let small := rotateRight s.a 2 ^^^ rotateRight s.a 13 ^^^ rotateRight s.a 22
  let majority := (s.a &&& s.b) ^^^ (s.a &&& s.c) ^^^ (s.b &&& s.c)
  ⟨t + small + majority, s.a, s.b, s.c, s.d + t, s.e, s.f, s.g⟩

/-- The state after a block. -/
def State.absorb (s : State) (block : List UInt32) : State :=
  let t := (roots.toList.zip (stretch 48 block.reverse).reverse).foldl State.step s
  ⟨s.a + t.a, s.b + t.b, s.c + t.c, s.d + t.d, s.e + t.e, s.f + t.f, s.g + t.g, s.h + t.h⟩

/-- The thirty-two bytes of the digest. -/
def digest (message : Bytes) : Bytes :=
  let s := (messageBlocks .highFirst message).foldl State.absorb .initial
  wordBytes .highFirst [s.a, s.b, s.c, s.d, s.e, s.f, s.g, s.h]

end EmbeddedGo.Digest.Sha256
