/-
EmbeddedGo.Proofs.ExactNumbers — numbers that the sixty-four bit binary format holds.

The format holds a number if that is a power of two in its reach times a mantissa of at most 53 bits
(`Holds`). Rounding such a number changes nothing (`is_ofQuotient`), so arithmetic is exact as long as it
stays among them. Nothing is said about what really has to be rounded.

  §1 values
  §2 rounding what needs no rounding
  §3 arithmetic
-/
import Mathlib
import EmbeddedGo.Data.Binary64

namespace EmbeddedGo.Binary64

/-! ## §1 Values -/

/-- What a sign stands for. -/
def sign (negative : Bool) : Int := if negative then -1 else 1

/-- The number is finite and has a certain value. -/
def Is (x : Binary64) (v : ℚ) : Prop :=
  ∃ s m e, x = .finite s m e ∧ v = sign s * m * (2 : ℚ) ^ (e : ℤ)

/-- The format holds a value. -/
def Holds (v : ℚ) : Prop :=
  ∃ (m : Nat) (e : Int), |v| = m * (2 : ℚ) ^ e ∧ m < 2 ^ precision ∧
    leastExponent ≤ e ∧ e ≤ greatestExponent

theorem sign_bne (s t : Bool) : sign (s != t) = sign s * sign t := by
  cases s <;> cases t <;> rfl

theorem sign_mul_natAbs (i : Int) : (sign (i < 0) : ℚ) * (i.natAbs : ℚ) = i := by
  have hi : sign (i < 0) * (i.natAbs : Int) = i := by
    unfold sign
    by_cases h : i < 0
    · simp only [h, decide_true, if_true]
      omega
    · simp only [h, decide_false, Bool.false_eq_true, if_false]
      omega
  rw [← Int.cast_natCast i.natAbs, ← Int.cast_mul, hi]

/-- A sign in front of something that is not negative. -/
theorem abs_sign_mul (s : Bool) {v : ℚ} (hv : 0 ≤ v) : |sign s * v| = v := by
  rw [abs_mul, abs_of_nonneg hv]
  cases s <;> simp [sign]

theorem quotient_eq (m : Nat) (e : Int) :
    0 < (quotient m e).2 ∧
      ((quotient m e).1 : ℚ) = m * (2 : ℚ) ^ e * (quotient m e).2 := by
  unfold quotient
  split
  · next h =>
    obtain ⟨n, rfl⟩ := Int.eq_ofNat_of_zero_le h
    exact ⟨Nat.one_pos, by simp⟩
  · next h =>
    obtain ⟨n, hn⟩ : ∃ n : Nat, e = -n := ⟨(-e).toNat, by omega⟩
    subst hn
    have h2 : (2 : ℚ) ^ n ≠ 0 := by positivity
    exact ⟨Nat.pow_pos (by decide), by simp [h2]⟩

theorem holds_of_lt {i : Int} (h : i.natAbs < 2 ^ precision) : Holds i := by
  refine ⟨i.natAbs, 0, ?_, h, by decide, by decide⟩
  rw [zpow_zero, mul_one, Nat.cast_natAbs, Int.cast_abs]

/-! ## §2 Rounding -/

theorem nearest_mul (n : Nat) {den : Nat} (hden : 0 < den) : nearest (n * den) den = n := by
  simp [nearest, Nat.mul_div_cancel _ hden, hden]

theorem strip_eq (fuel m : Nat) (e : Int) :
    ((strip fuel m e).1 : ℚ) * (2 : ℚ) ^ (strip fuel m e).2 = m * (2 : ℚ) ^ e := by
  induction fuel generalizing m e with
  | zero => rfl
  | succ fuel ih =>
    rw [strip]
    split
    · next heven =>
      obtain ⟨n, rfl⟩ := Nat.dvd_of_mod_eq_zero heven
      rw [ih, Nat.mul_div_cancel_left _ (by decide), zpow_add₀ (by norm_num)]
      push_cast
      ring
    · rfl

theorem is_make (s : Bool) {m : Nat} {e : Int} (hm : m ≠ 0)
    (hsize : e + (Nat.log2 m + 1) - precision ≤ greatestExponent) :
    (make s m e).Is (sign s * m * (2 : ℚ) ^ e) := by
  have hstrip := strip_eq (precision + 1) m e
  rw [make, if_neg hm, if_neg (not_lt.2 hsize)]
  generalize strip (precision + 1) m e = stripped at hstrip
  exact ⟨s, _, _, rfl, by rw [mul_assoc, mul_assoc, hstrip]⟩

/-- Whether a mantissa of one bit more would still not be above the quotient. -/
theorem isBig_iff (num den : Nat) (e : Int) :
    (if 0 ≤ e then decide (den * Nat.pow 2 e.toNat * Nat.pow 2 precision ≤ num)
      else decide (den * Nat.pow 2 precision ≤ num * Nat.pow 2 (-e).toNat)) = true ↔
      (2 : ℚ) ^ (e + 53) * den ≤ num := by
  split
  · next hpos =>
    obtain ⟨n, rfl⟩ := Int.eq_ofNat_of_zero_le hpos
    have hcast : (2 : ℚ) ^ ((n : Int) + 53) * den = ((den * 2 ^ n * 2 ^ 53 : Nat) : ℚ) := by
      rw [zpow_add₀ (by norm_num)]
      push_cast
      rw [zpow_natCast]
      ring
    rw [hcast, Nat.cast_le]
    exact decide_eq_true_iff
  · next hneg =>
    obtain ⟨n, hn⟩ : ∃ n : Nat, e = -n := ⟨(-e).toNat, by omega⟩
    subst hn
    have hcast : (2 : ℚ) ^ (-(n : Int) + 53) * den = ((den * 2 ^ 53 : Nat) : ℚ) / 2 ^ n := by
      rw [zpow_add₀ (by norm_num), zpow_neg, zpow_natCast]
      push_cast
      ring
    rw [hcast, div_le_iff₀ (by positivity), decide_eq_true_iff, neg_neg, Int.toNat_natCast]
    exact_mod_cast Iff.rfl

/-- The exponent is never so large that a full mantissa would be above the quotient. -/
theorem exponentOf_le {num : Nat} (den : Nat) (hnum : 0 < num) (h : leastExponent < exponentOf num den) :
    (2 : ℚ) ^ (exponentOf num den + 52) * den ≤ num := by
  obtain ⟨e, he⟩ : ∃ e, e = (Nat.log2 num : Int) - Nat.log2 den - precision := ⟨_, rfl⟩
  have hlog : (2 : ℚ) ^ (Nat.log2 num) ≤ num := by exact_mod_cast Nat.log2_self_le hnum.ne'
  have hlog' : (den : ℚ) ≤ (2 : ℚ) ^ (Nat.log2 den + 1) := by
    exact_mod_cast (Nat.lt_log2_self (n := den)).le
  have hsmall : (2 : ℚ) ^ (e + 52) * den ≤ num := by
    have hexp : e + 52 = (Nat.log2 num : Int) - (Nat.log2 den + 1 : Nat) := by
      rw [he, precision]
      omega
    rw [hexp, zpow_sub₀ (by norm_num), zpow_natCast, zpow_natCast, div_mul_eq_mul_div,
      div_le_iff₀ (by positivity)]
    exact mul_le_mul hlog hlog' (by positivity) (by positivity)
  by_cases hbig : (2 : ℚ) ^ (e + 53) * den ≤ num
  · have hexponent : exponentOf num den = max leastExponent (e + 1) := by
      simp only [exponentOf, ← he, (isBig_iff num den e).2 hbig, if_true]
    rw [hexponent] at h ⊢
    rwa [max_eq_right (by omega), add_assoc]
  · have hexponent : exponentOf num den = max leastExponent e := by
      simp only [exponentOf, ← he, mt (isBig_iff num den e).1 hbig, Bool.false_eq_true, if_false]
    rw [hexponent] at h ⊢
    rwa [max_eq_right (by omega)]

/-- The mantissa of a number at an exponent that is not above its own. -/
theorem nearestAt_eq {num den m k : Nat} {e : Int} (hden : 0 < den)
    (hnum : (num : ℚ) = m * (2 : ℚ) ^ (e + k) * den) : nearestAt num den e = m * 2 ^ k := by
  rw [zpow_add₀ (by norm_num), zpow_natCast] at hnum
  unfold nearestAt
  split
  · next hpos =>
    obtain ⟨j, rfl⟩ := Int.eq_ofNat_of_zero_le hpos
    have hsplit : num = m * 2 ^ k * (den * Nat.pow 2 j) := by
      rw [Nat.pow_eq]
      rw [zpow_natCast] at hnum
      qify
      rw [hnum]
      ring
    have hpow : 0 < den * Nat.pow 2 j := Nat.mul_pos hden (Nat.pow_pos (by decide))
    rw [Int.toNat_natCast, hsplit, nearest_mul _ hpow]
  · next hneg =>
    obtain ⟨j, hj⟩ : ∃ j : Nat, e = -j := ⟨(-e).toNat, by omega⟩
    subst hj
    have hsplit : num * Nat.pow 2 j = m * 2 ^ k * den := by
      rw [Nat.pow_eq]
      rw [zpow_neg, zpow_natCast] at hnum
      have h2 : (2 : ℚ) ^ j ≠ 0 := by positivity
      qify
      rw [hnum]
      field_simp
    rw [neg_neg, Int.toNat_natCast, hsplit, nearest_mul _ hden]

/-- Rounding a value that the format holds changes nothing. -/
theorem is_ofQuotient {negative : Bool} {v : ℚ} (hv : Holds v) (hsign : sign negative * |v| = v)
    {num den : Nat} (hden : 0 < den) (hnum : (num : ℚ) = |v| * den) :
    (ofQuotient negative num den).Is v := by
  obtain ⟨m, k, habs, hm, hleast, hgreatest⟩ := hv
  by_cases hzero : num = 0
  · have hv0 : |v| = 0 := by
      have hden' : (den : ℚ) ≠ 0 := by exact_mod_cast hden.ne'
      rw [hzero, Nat.cast_zero] at hnum
      exact (mul_eq_zero.1 hnum.symm).resolve_right hden'
    rw [ofQuotient, if_pos hzero]
    exact ⟨negative, 0, 0, rfl, by simp [abs_eq_zero.1 hv0]⟩
  obtain ⟨e, he⟩ : ∃ e, e = exponentOf num den := ⟨_, rfl⟩
  have hden' : (0 : ℚ) < den := by exact_mod_cast hden
  have hbound : |v| < 2 ^ ((53 : Int) + k) := by
    rw [habs, zpow_add₀ (by norm_num)]
    have hm' : (m : ℚ) < 2 ^ (53 : Int) := by exact_mod_cast hm
    exact mul_lt_mul_of_pos_right hm' (by positivity)
  -- the mantissa that the value has is short, so the exponent need not be above its own
  have hek : e ≤ k := by
    by_contra hlt
    have hfull := exponentOf_le den (Nat.pos_of_ne_zero hzero) (by omega)
    rw [← he, hnum] at hfull
    have hle : (2 : ℚ) ^ (e + 52) ≤ |v| := le_of_mul_le_mul_right hfull hden'
    have hpow : (2 : ℚ) ^ ((53 : Int) + k) ≤ 2 ^ (e + 52) :=
      zpow_le_zpow_right₀ (by norm_num) (by omega)
    linarith
  obtain ⟨j, rfl⟩ : ∃ j : Nat, k = e + j := ⟨(k - e).toNat, by omega⟩
  have hnearest : nearestAt num den e = m * 2 ^ j := nearestAt_eq hden (by rw [hnum, habs])
  have hmantissa : (nearestAt num den e : ℚ) * (2 : ℚ) ^ e = |v| := by
    rw [hnearest, habs, zpow_add₀ (by norm_num), zpow_natCast]
    push_cast
    ring
  have hne : nearestAt num den e ≠ 0 := by
    intro h0
    rw [h0, Nat.cast_zero, zero_mul] at hmantissa
    rw [← hmantissa, zero_mul] at hnum
    exact hzero (by exact_mod_cast hnum)
  have hsize : (Nat.log2 (nearestAt num den e) : Int) + e < 53 + (e + j) := by
    have hlog : (2 : ℚ) ^ (Nat.log2 (nearestAt num den e)) ≤ nearestAt num den e := by
      exact_mod_cast Nat.log2_self_le hne
    have hle : (2 : ℚ) ^ ((Nat.log2 (nearestAt num den e) : Int) + e) ≤ |v| := by
      rw [zpow_add₀ (by norm_num), zpow_natCast, ← hmantissa]
      gcongr
    exact (zpow_lt_zpow_iff_right₀ (by norm_num)).1 (hle.trans_lt hbound)
  rw [ofQuotient, if_neg hzero]
  dsimp only
  rw [← he, ← hsign, ← hmantissa, ← mul_assoc]
  refine is_make negative hne ?_
  unfold precision
  omega

/-! ## §3 Arithmetic -/

variable {x y : Binary64} {a b : ℚ}

/-- What an operation yields from the sign and the size of its exact result. -/
theorem is_ofQuotient_quotient {negative : Bool} {m : Nat} {e : Int} {v : ℚ}
    (h : sign negative * (m * (2 : ℚ) ^ e) = v) (hv : Holds v) :
    (ofQuotient negative (quotient m e).1 (quotient m e).2).Is v := by
  have habs : |v| = m * (2 : ℚ) ^ e := by rw [← h, abs_sign_mul negative (by positivity)]
  obtain ⟨hpos, hquotient⟩ := quotient_eq m e
  exact is_ofQuotient hv (by rw [habs, h]) hpos (by rw [habs, hquotient])

theorem is_ofInt {i : Int} (hi : Holds i) : (ofInt i).Is i := by
  have hquotient : quotient i.natAbs 0 = (i.natAbs, 1) := by simp [quotient]
  have h := is_ofQuotient_quotient (m := i.natAbs) (e := 0)
    (by rw [zpow_zero, mul_one, sign_mul_natAbs]) hi
  rwa [hquotient] at h

theorem Is.mul (hx : x.Is a) (hy : y.Is b) (h : Holds (a * b)) : (x.mul y).Is (a * b) := by
  obtain ⟨s, m, e, rfl, rfl⟩ := hx
  obtain ⟨t, n, f, rfl, rfl⟩ := hy
  refine is_ofQuotient_quotient ?_ h
  rw [sign_bne, zpow_add₀ (by norm_num)]
  push_cast
  ring

theorem scaled_eq (s : Bool) (m : Nat) {e unit : Int} (h : unit ≤ e) :
    (scaled s m e unit : ℚ) * (2 : ℚ) ^ unit = sign s * m * (2 : ℚ) ^ e := by
  obtain ⟨j, rfl⟩ : ∃ j : Nat, e = j + unit := ⟨(e - unit).toNat, by omega⟩
  have hj : ((j : Int) + unit - unit).toNat = j := by omega
  rw [scaled, hj, zpow_add₀ (by norm_num), zpow_natCast]
  cases s <;> simp [sign, mul_assoc]

theorem Is.sub (hx : x.Is a) (hy : y.Is b) (h : Holds (a - b)) : (x.sub y).Is (a - b) := by
  obtain ⟨s, m, e, rfl, rfl⟩ := hx
  obtain ⟨t, n, f, rfl, rfl⟩ := hy
  refine is_ofQuotient_quotient ?_ h
  rw [← mul_assoc, sign_mul_natAbs, Int.cast_sub, sub_mul, scaled_eq s m (min_le_left e f),
    scaled_eq t n (min_le_right e f)]

theorem Is.intLess (hx : x.Is a) (i : Int) : intLess i x = true ↔ (i : ℚ) < a := by
  obtain ⟨s, m, e, rfl, rfl⟩ := hx
  have hunit : (0 : ℚ) < 2 ^ (min e 0) := by positivity
  have hi : (scaled (i < 0) i.natAbs 0 (min e 0) : ℚ) * (2 : ℚ) ^ (min e 0) = i := by
    rw [scaled_eq _ _ (min_le_right e 0), zpow_zero, mul_one, sign_mul_natAbs]
  rw [← hi, ← scaled_eq s m (min_le_left e 0), mul_lt_mul_iff_left₀ hunit, Int.cast_lt]
  exact decide_eq_true_iff

end EmbeddedGo.Binary64
