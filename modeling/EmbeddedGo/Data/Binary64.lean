/-
EmbeddedGo.Data.Binary64 — the numbers of the sixty-four bit binary format, by their values.

A finite number is a sign, a mantissa below 2^53 and a power of two, so arithmetic is exact
arithmetic on naturals followed by one rounding, to the nearest number and of two equally near ones
to the one with an even mantissa.

  §1 the numbers
  §2 rounding a quotient
  §3 from decimals, from whole numbers, and back to whole numbers
  §4 product, difference, sum and order
-/
namespace EmbeddedGo

/-! ## §1 Numbers -/

/-- A number: plus or minus `mantissa` times 2 to the `exponent`, an infinity, or none. -/
inductive Binary64 where
  | finite (negative : Bool) (mantissa : Nat) (exponent : Int)
  | infinite (negative : Bool)
  | notANumber
  deriving DecidableEq, Inhabited

namespace Binary64

/-- The least exponent of a mantissa. -/
def leastExponent : Int := -1074

/-- Beyond this exponent a mantissa of full length is too large. -/
def greatestExponent : Int := 971

/-- The bits of a mantissa of full length. -/
def precision : Nat := 53

/-- A zero with a sign. -/
def zero (negative : Bool) : Binary64 := .finite negative 0 0

/-- The number with the other sign. -/
def negate : Binary64 → Binary64
  | .finite s m e => .finite (!s) m e
  | .infinite s => .infinite (!s)
  | .notANumber => .notANumber

/-! ## §2 Rounding -/

/-- The quotient of two naturals to the nearest natural, a half to the even one. -/
def nearest (num den : Nat) : Nat :=
  let q := num / den
  let r := num % den
  if 2 * r < den then q
  else if den < 2 * r then q + 1
  else if q % 2 = 0 then q else q + 1

/-- The quotient of `num` by `den` times 2 to the `e`, to the nearest natural. -/
def nearestAt (num den : Nat) (e : Int) : Nat :=
  if 0 ≤ e then nearest num (den * Nat.pow 2 e.toNat)
  else nearest (num * Nat.pow 2 (-e).toNat) den

/-- A mantissa and an exponent without the twos that the mantissa is a multiple of, at most `fuel`
of them. -/
def strip : (fuel m : Nat) → (e : Int) → Nat × Int
  | 0, m, e => (m, e)
  | fuel + 1, m, e => if m % 2 = 0 then strip fuel (m / 2) (e + 1) else (m, e)

/-- The number for a mantissa and an exponent, with the smallest mantissa that can stand for it. -/
def make (negative : Bool) (m : Nat) (e : Int) : Binary64 :=
  if m = 0 then zero negative
  else if greatestExponent < e + (Nat.log2 m + 1) - precision then .infinite negative
  else
    let (m, e) := strip (precision + 1) m e
    .finite negative m e

/-- The exponent at which the quotient of two positive naturals has a mantissa of full length. -/
def exponentOf (num den : Nat) : Int :=
  let e : Int := (Nat.log2 num : Int) - Nat.log2 den - precision
  let big : Bool :=
    if 0 ≤ e then den * Nat.pow 2 e.toNat * Nat.pow 2 precision ≤ num
    else den * Nat.pow 2 precision ≤ num * Nat.pow 2 (-e).toNat
  max leastExponent (if big then e + 1 else e)

/-- The number nearest to the quotient of two naturals. -/
def ofQuotient (negative : Bool) (num den : Nat) : Binary64 :=
  if num = 0 then zero negative
  else
    let e := exponentOf num den
    make negative (nearestAt num den e) e

/-! ## §3 Decimals and whole numbers -/

/-- The number nearest to a decimal: `digits` times 10 to the `exponent`. Beyond the reach of the
format no power is computed. -/
def ofDecimal (negative : Bool) (digits : Nat) (exponent : Int) : Binary64 :=
  let size : Int := Nat.log2 digits
  if digits = 0 then zero negative
  else if 400 < exponent then .infinite negative
  else if exponent < -400 - size then zero negative
  else if 0 ≤ exponent then ofQuotient negative (digits * Nat.pow 10 exponent.toNat) 1
  else ofQuotient negative digits (Nat.pow 10 (-exponent).toNat)

/-- The number nearest to a whole number. -/
def ofInt (i : Int) : Binary64 := ofQuotient (i < 0) i.natAbs 1

/-- The words for a whole number beyond the greatest of these. -/
def tooLargeMessage : String := "int too large to convert to float"

/-- Whether the number is finite. -/
def isFinite : Binary64 → Bool
  | .finite .. => true
  | _ => false

/-- A number as a quotient of naturals, without its sign. -/
def quotient (m : Nat) (e : Int) : Nat × Nat :=
  if 0 ≤ e then (m * Nat.pow 2 e.toNat, 1) else (m, Nat.pow 2 (-e).toNat)

/-- The whole number that a number is, if it is one. -/
def toInt? : Binary64 → Option Int
  | .finite s m e =>
    let (num, den) := quotient m e
    if num % den = 0 then some (if s then -(num / den : Nat) else (num / den : Nat)) else none
  | _ => none

/-! ## §4 Arithmetic -/

/-- The product of two numbers. -/
def mul : Binary64 → Binary64 → Binary64
  | .finite s m e, .finite t n f =>
    let (num, den) := quotient (m * n) (e + f)
    ofQuotient (s != t) num den
  | .notANumber, _ | _, .notANumber => .notANumber
  | .infinite s, .infinite t => .infinite (s != t)
  | .infinite s, .finite t n _ | .finite t n _, .infinite s =>
    if n = 0 then .notANumber else .infinite (s != t)

/-- A finite number as a whole number of units of 2 to the `unit`, which divide it. -/
def scaled (negative : Bool) (m : Nat) (e unit : Int) : Int :=
  let n : Int := m * (Nat.pow 2 (e - unit).toNat : Nat)
  if negative then -n else n

/-- The difference of two numbers. -/
def sub : Binary64 → Binary64 → Binary64
  | .finite s m e, .finite t n f =>
    let unit := min e f
    let d := scaled s m e unit - scaled t n f unit
    let (num, den) := quotient d.natAbs unit
    ofQuotient (d < 0) num den
  | .notANumber, _ | _, .notANumber => .notANumber
  | .infinite s, .infinite t => if s = t then .notANumber else .infinite s
  | .infinite s, _ => .infinite s
  | _, .infinite t => .infinite (!t)

/-- The sum of two numbers. -/
def add (x y : Binary64) : Binary64 := x.sub y.negate

/-- Whether a whole number is less than a number. -/
def intLess (i : Int) : Binary64 → Bool
  | .finite s m e =>
    let unit := min e 0
    scaled (i < 0) i.natAbs 0 unit < scaled s m e unit
  | .infinite s => !s
  | .notANumber => false

end Binary64
end EmbeddedGo
