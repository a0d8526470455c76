/-
EmbeddedGo.Data.Decimal — numbers of the binary format as decimal texts.

  §1 `Decimal`: digits with a point behind the first, and a power of ten; the nearest one of a given
     length
  §2 `shortest`: of the decimals that read back as the number, the nearest one with fewest digits
  §3 writing: with a point while the power is small, else with an exponent
-/
import EmbeddedGo.Data.Binary64
import EmbeddedGo.Text.Basic

namespace EmbeddedGo

/-! ## §1 Decimals -/

/-- The digits `d₁d₂…` of d₁.d₂… times 10 to the `power`. -/
structure Decimal where
  digits : Text
  power : Int
  deriving DecidableEq, Inhabited

namespace Decimal

/-- How many digits a natural has. -/
def digitCount (n : Nat) : Int := (Text.ofNat n).length

/-- The power of ten of the first digit of a quotient of positive naturals. Below one it is read off
the digits of the inverse, rounded up and less one. -/
def powerOf (num den : Nat) : Int :=
  if den ≤ num then digitCount (num / den) - 1 else -digitCount ((den + num - 1) / num - 1)

/-- The quotient in units of the last of `count` digits, rounded by a rule. -/
def unitsAt (round : Nat → Nat → Nat) (num den count : Nat) (power : Int) : Nat :=
  let shift : Int := count - 1 - power
  if 0 ≤ shift then round (num * Nat.pow 10 shift.toNat) den
  else round num (den * Nat.pow 10 (-shift).toNat)

/-- The decimal of `units` in the last of `count` digits, where ten to the `count` is carried. -/
def ofUnits (units count : Nat) (power : Int) : Decimal :=
  let digits := Text.ofNat units
  ⟨digits.take count, power + ((digits.length : Int) - count)⟩

/-- The nearest decimal of `count` digits to a quotient of positive naturals. -/
def nearest (num den count : Nat) : Decimal :=
  let power := powerOf num den
  ofUnits (unitsAt Binary64.nearest num den count power) count power

/-- Without the zeros at the end; one digit stays. -/
def trimZeros (d : Decimal) : Decimal :=
  match (d.digits.reverse.dropWhile (· = '0')).reverse with
  | [] => { d with digits := ['0'] }
  | digits => { d with digits }

/-! ## §2 The shortest decimal -/

/-- The number a decimal reads as. -/
def read (negative : Bool) (d : Decimal) : Binary64 :=
  Binary64.ofDecimal negative (Text.natValue d.digits) (d.power + 1 - d.digits.length)

/-- The neighbours of a quotient among the decimals of `count` digits, the nearer one first. -/
def neighbours (num den count : Nat) : List Decimal :=
  let power := powerOf num den
  let low := unitsAt (· / ·) num den count power
  let near := unitsAt Binary64.nearest num den count power
  let units := if near = low then [low, low + 1] else [low + 1, low]
  units.map (ofUnits · count power)

/-- The first decimal of at least `count` digits that reads back, in at most `fuel` lengths. -/
def shortestFrom (m : Nat) (e : Int) : (fuel count : Nat) → Decimal
  | 0, count =>
    let (num, den) := Binary64.quotient m e
    nearest num den count
  | fuel + 1, count =>
    let (num, den) := Binary64.quotient m e
    let value := Binary64.ofQuotient false num den
    match (neighbours num den count).find? (fun d => d.read false = value) with
    | some d => d
    | none => shortestFrom m e fuel (count + 1)

/-- The shortest decimal of a finite number without its sign. -/
def shortest (m : Nat) (e : Int) : Decimal :=
  if m = 0 then ⟨['0'], 0⟩ else (shortestFrom m e 16 1).trimZeros

/-! ## §3 Writing -/

/-- How a decimal is written. -/
structure Style where
  /-- The powers from here on are written with an exponent. -/
  exponentFrom : Int
  /-- A whole number has a zero behind its point. -/
  keepsPoint : Bool

/-- The exponent: its sign and at least two digits. -/
def exponentText (power : Int) : Text :=
  let digits := Text.ofNat power.natAbs
  'e' :: (if power < 0 then '-' else '+') ::
    (List.replicate (2 - digits.length) '0' ++ digits)

/-- Digits around a point; without digits behind it there is no point. -/
def pointed (whole part : Text) : Text := if part.isEmpty then whole else whole ++ '.' :: part

/-- A decimal in a style. -/
def text (style : Style) (d : Decimal) : Text :=
  if d.power < -4 ∨ style.exponentFrom ≤ d.power then
    pointed (d.digits.take 1) (d.digits.drop 1) ++ exponentText d.power
  else if d.power < 0 then
    "0." ++ List.replicate ((-d.power).toNat - 1) '0' ++ d.digits
  else
    let size := d.power.toNat + 1
    let part := d.digits.drop size
    pointed (d.digits.take size ++ List.replicate (size - d.digits.length) '0')
      (if part.isEmpty && style.keepsPoint then ['0'] else part)

end Decimal

namespace Binary64

/-- The names of what has no digits, and the sign of what has. -/
def textWith (digits : Nat → Int → Text) : Binary64 → Text
  | .finite s m e => (if s then ['-'] else []) ++ digits m e
  | .infinite s => if s then "-inf" else "inf"
  | .notANumber => "nan"

/-- The number by its shortest decimal. -/
def text : Binary64 → Text :=
  textWith fun m e => (Decimal.shortest m e).text ⟨16, true⟩

/-- The number by six digits, without zeros at the end. -/
def textShort : Binary64 → Text :=
  textWith fun m e =>
    let (num, den) := quotient m e
    let d : Decimal := if m = 0 then ⟨['0'], 0⟩ else (Decimal.nearest num den 6).trimZeros
    d.text ⟨6, false⟩

end Binary64
end EmbeddedGo
