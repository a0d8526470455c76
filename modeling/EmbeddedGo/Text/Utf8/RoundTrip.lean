/-
EmbeddedGo.Text.Utf8.RoundTrip — what is written is read back, and only that is read.

`decode?_eq_some_iff` says that bytes are of a text exactly if the text is written by them, so the
written form of a text is the only one. Both directions go character by character: the head of the
bytes of a character is that character, whatever comes behind (`pieces_utf8EncodeChar`), and where a
character is read the bytes before the rest are the ones that write it (`utf8EncodeChar_of_first`).
The bounds on the byte after the first are what the second direction rests on: they rule out longer
forms than needed and the numbers that are no characters.

  §1 reading what was written
  §2 writing what was read
-/
import EmbeddedGo.Text.Utf8

namespace EmbeddedGo.Utf8

/-! ## §1 Reading what was written -/

theorem following_ofNat {need low high bits n : Nat} (hl : low ≤ n) (hh : n ≤ high)
    (hn : n < 256) (rest : Bytes) :
    following (need + 1) low high bits (UInt8.ofNat n :: rest) =
      following need 0x80 0xBF (bits * 64 + (n - 0x80)) rest := by
  have h : (UInt8.ofNat n).toNat = n := by
    rw [UInt8.toNat_ofNat']
    exact Nat.mod_eq_of_lt hn
  simp [following, h, hl, hh]

theorem first_ofNat {n : Nat} {l : Lead} (hn : n < 256) (hl : lead? n = some l) (rest : Bytes) :
    first (UInt8.ofNat n) rest =
      ((following l.following l.low l.high l.bits rest).1.map Char.ofNat,
        (following l.following l.low l.high l.bits rest).2) := by
  have h : (UInt8.ofNat n).toNat = n := by
    rw [UInt8.toNat_ofNat']
    exact Nat.mod_eq_of_lt hn
  simp [first, h, hl]

theorem lead?_two {n : Nat} (h : 0xC2 ≤ n) (h' : n ≤ 0xDF) :
    lead? n = some { following := 1, bits := n - 0xC0 } := by
  unfold lead?
  rw [if_neg (by omega), if_pos (by omega)]

theorem lead?_three {n : Nat} (h : 0xE0 ≤ n) (h' : n ≤ 0xEF) :
    lead? n = some { following := 2, bits := n - 0xE0, low := if n = 0xE0 then 0xA0 else 0x80,
                     high := if n = 0xED then 0x9F else 0xBF } := by
  unfold lead?
  rw [if_neg (by omega), if_neg (by omega)]
  by_cases h1 : n = 0xE0
  · simp [h1]
  · by_cases h2 : n = 0xED
    · simp [h2]
    · rw [if_neg h1, if_neg h2, if_pos (by omega), if_neg h1, if_neg h2]

theorem lead?_four {n : Nat} (h : 0xF0 ≤ n) (h' : n ≤ 0xF4) :
    lead? n = some { following := 3, bits := n - 0xF0, low := if n = 0xF0 then 0x90 else 0x80,
                     high := if n = 0xF4 then 0x8F else 0xBF } := by
  unfold lead?
  rw [if_neg (by omega), if_neg (by omega), if_neg (by omega), if_neg (by omega),
    if_neg (by omega)]
  by_cases h1 : n = 0xF0
  · simp [h1]
  · by_cases h2 : n = 0xF4
    · simp [h2]
    · rw [if_neg h1, if_pos (by omega), if_neg h1, if_neg h2]

theorem following_zero (low high bits : Nat) (rest : Bytes) :
    following 0 low high bits rest = (some bits, rest) := rfl

theorem ofNat_of_eq {c : Char} {n : Nat} (h : n = c.toNat) : Char.ofNat n = c := by
  rw [h, Char.ofNat_toNat]

/-- The bytes of a character are read back as that character, whatever comes after them. -/
theorem pieces_utf8EncodeChar (c : Char) (rest : Bytes) :
    pieces (String.utf8EncodeChar c ++ rest) = some c :: pieces rest := by
  have hc : c.toNat < 0xD800 ∨ 0xDFFF < c.toNat ∧ c.toNat < 0x110000 := c.valid
  simp only [String.utf8EncodeChar]
  rw [show c.val.toNat = c.toNat from rfl]
  generalize hv : c.toNat = v at *
  split
  · have hl : lead? v = some { following := 0, bits := v } := by
      unfold lead?
      rw [if_pos (by omega)]
    simp only [List.cons_append, List.nil_append, pieces, first_ofNat (by omega) hl,
      following_zero, Option.map_some, ofNat_of_eq hv.symm]
  · split
    · simp only [List.cons_append, List.nil_append, pieces,
        first_ofNat (n := v / 64 % 32 + 192) (by omega) (lead?_two (by omega) (by omega))]
      rw [following_ofNat (by omega) (by omega) (by omega), following_zero]
      simp only [Option.map_some]
      rw [ofNat_of_eq (c := c) (by omega)]
    · split
      · simp only [List.cons_append, List.nil_append, pieces,
          first_ofNat (n := v / 4096 % 16 + 224) (by omega) (lead?_three (by omega) (by omega))]
        rw [following_ofNat (by split <;> omega) (by split <;> omega) (by omega),
          following_ofNat (by omega) (by omega) (by omega), following_zero]
        simp only [Option.map_some]
        rw [ofNat_of_eq (c := c) (by omega)]
      · simp only [List.cons_append, List.nil_append, pieces,
          first_ofNat (n := v / 262144 % 8 + 240) (by omega) (lead?_four (by omega) (by omega))]
        rw [following_ofNat (by split <;> omega) (by split <;> omega) (by omega),
          following_ofNat (by omega) (by omega) (by omega),
          following_ofNat (by omega) (by omega) (by omega), following_zero]
        simp only [Option.map_some]
        rw [ofNat_of_eq (c := c) (by omega)]

theorem pieces_encode (s : Text) : pieces (encode s) = s.map some := by
  induction s with
  | nil => simp [encode, pieces]
  | cons c s ih =>
    simp only [encode, List.flatMap_cons] at ih ⊢
    rw [pieces_utf8EncodeChar, ih, List.map_cons]

/-- A text is read back from the bytes that write it. -/
theorem decode?_encode (s : Text) : decode? (encode s) = some s := by
  rw [decode?, pieces_encode]
  induction s with
  | nil => rfl
  | cons c s ih => simp [ih]

theorem decodeLossy_encode (s : Text) : decodeLossy (encode s) = s := by
  rw [decodeLossy, pieces_encode, List.map_map]
  exact List.map_id s

theorem encode_append (s t : Text) : encode (s ++ t) = encode s ++ encode t := by
  simp [encode]

/-! ## §2 Writing what was read -/

theorem following_succ_eq_some {need low high bits code : Nat} {bytes rest : Bytes}
    (h : following (need + 1) low high bits bytes = (some code, rest)) :
    ∃ b tail, bytes = b :: tail ∧ low ≤ b.toNat ∧ b.toNat ≤ high ∧
      following need 0x80 0xBF (bits * 64 + (b.toNat - 0x80)) tail = (some code, rest) := by
  cases bytes with
  | nil => simp [following] at h
  | cons b tail =>
    simp only [following] at h
    split at h
    · next hb => exact ⟨b, tail, rfl, hb.1, hb.2, h⟩
    · simp at h

theorem ofNat_eq_of_toNat {n : Nat} {b : UInt8} (h : n = b.toNat) : UInt8.ofNat n = b := by
  rw [h, UInt8.ofNat_toNat]

theorem toNat_ofNat_of_valid {n : Nat} (h : n < 0xD800 ∨ 0xDFFF < n ∧ n < 0x110000) :
    (Char.ofNat n).toNat = n := by
  have hv : n.isValidChar := h
  unfold Char.ofNat
  rw [dif_pos hv]
  rfl

theorem utf8EncodeChar_of_one {b : UInt8} (hb : b.toNat < 0x80) :
    String.utf8EncodeChar (Char.ofNat b.toNat) = [b] := by
  simp only [String.utf8EncodeChar]
  rw [show (Char.ofNat b.toNat).val.toNat = b.toNat from toNat_ofNat_of_valid (by omega),
    if_pos (by omega), ofNat_eq_of_toNat rfl]

theorem utf8EncodeChar_of_two {b : UInt8} {code : Nat} {bytes rest : Bytes}
    (hb : 0xC2 ≤ b.toNat ∧ b.toNat ≤ 0xDF)
    (h : following 1 0x80 0xBF (b.toNat - 0xC0) bytes = (some code, rest)) :
    b :: bytes = String.utf8EncodeChar (Char.ofNat code) ++ rest := by
  obtain ⟨b1, tail, rfl, hl1, hh1, h⟩ := following_succ_eq_some h
  simp only [following, Prod.mk.injEq, Option.some.injEq] at h
  obtain ⟨rfl, rfl⟩ := h
  simp only [String.utf8EncodeChar]
  rw [show (Char.ofNat _).val.toNat = _ from toNat_ofNat_of_valid (by omega),
    if_neg (by omega), if_pos (by omega), ofNat_eq_of_toNat (b := b) (by omega),
    ofNat_eq_of_toNat (b := b1) (by omega)]
  rfl

theorem utf8EncodeChar_of_three {b : UInt8} {code : Nat} {bytes rest : Bytes} (low high : Nat)
    (hb : 0xE0 ≤ b.toNat ∧ b.toNat ≤ 0xEF) (hlow : 0x80 ≤ low) (hhigh : high ≤ 0xBF)
    (hfirst : b.toNat = 0xE0 → 0xA0 ≤ low) (hsurrogate : b.toNat = 0xED → high ≤ 0x9F)
    (h : following 2 low high (b.toNat - 0xE0) bytes = (some code, rest)) :
    b :: bytes = String.utf8EncodeChar (Char.ofNat code) ++ rest := by
  obtain ⟨b1, tail, rfl, hl1, hh1, h⟩ := following_succ_eq_some h
  obtain ⟨b2, tail, rfl, hl2, hh2, h⟩ := following_succ_eq_some h
  simp only [following, Prod.mk.injEq, Option.some.injEq] at h
  obtain ⟨rfl, rfl⟩ := h
  simp only [String.utf8EncodeChar]
  rw [show (Char.ofNat _).val.toNat = _ from toNat_ofNat_of_valid (by omega),
    if_neg (by omega), if_neg (by omega), if_pos (by omega),
    ofNat_eq_of_toNat (b := b) (by omega), ofNat_eq_of_toNat (b := b1) (by omega),
    ofNat_eq_of_toNat (b := b2) (by omega)]
  rfl

theorem utf8EncodeChar_of_four {b : UInt8} {code : Nat} {bytes rest : Bytes} (low high : Nat)
    (hb : 0xF0 ≤ b.toNat ∧ b.toNat ≤ 0xF4) (hlow : 0x80 ≤ low) (hhigh : high ≤ 0xBF)
    (hfirst : b.toNat = 0xF0 → 0x90 ≤ low) (hlast : b.toNat = 0xF4 → high ≤ 0x8F)
    (h : following 3 low high (b.toNat - 0xF0) bytes = (some code, rest)) :
    b :: bytes = String.utf8EncodeChar (Char.ofNat code) ++ rest := by
  obtain ⟨b1, tail, rfl, hl1, hh1, h⟩ := following_succ_eq_some h
  obtain ⟨b2, tail, rfl, hl2, hh2, h⟩ := following_succ_eq_some h
  obtain ⟨b3, tail, rfl, hl3, hh3, h⟩ := following_succ_eq_some h
  simp only [following, Prod.mk.injEq, Option.some.injEq] at h
  obtain ⟨rfl, rfl⟩ := h
  simp only [String.utf8EncodeChar]
  rw [show (Char.ofNat _).val.toNat = _ from toNat_ofNat_of_valid (by omega),
    if_neg (by omega), if_neg (by omega), if_neg (by omega),
    ofNat_eq_of_toNat (b := b) (by omega), ofNat_eq_of_toNat (b := b1) (by omega),
    ofNat_eq_of_toNat (b := b2) (by omega), ofNat_eq_of_toNat (b := b3) (by omega)]
  rfl

theorem following_of_first {b : UInt8} {bytes rest : Bytes} {c : Char}
    (h : first b bytes = (some c, rest)) :
    ∃ l code, lead? b.toNat = some l ∧ Char.ofNat code = c ∧
      following l.following l.low l.high l.bits bytes = (some code, rest) := by
  unfold first at h
  split at h
  · simp at h
  · next l hl =>
    simp only [Prod.mk.injEq, Option.map_eq_some_iff] at h
    obtain ⟨⟨code, h1, h2⟩, h3⟩ := h
    exact ⟨l, code, hl, h2, Prod.ext h1 h3⟩

/-- A character at the head of bytes is written by the bytes before the rest. -/
theorem utf8EncodeChar_of_first {b : UInt8} {bytes rest : Bytes} {c : Char}
    (h : first b bytes = (some c, rest)) : b :: bytes = String.utf8EncodeChar c ++ rest := by
  obtain ⟨l, code, hl, rfl, hc⟩ := following_of_first h
  unfold lead? at hl
  repeat' split at hl
  all_goals first | (cases hl; done) | skip
  all_goals cases hl
  · simp only [following, Prod.mk.injEq, Option.some.injEq] at hc
    obtain ⟨rfl, rfl⟩ := hc
    rw [utf8EncodeChar_of_one (by assumption)]
    rfl
  · exact utf8EncodeChar_of_two (by assumption) hc
  · exact utf8EncodeChar_of_three 0xA0 0xBF (by omega) (by omega) (by omega) (by omega) (by omega)
      (by simpa [show b.toNat - 0xE0 = 0 by omega] using hc)
  · exact utf8EncodeChar_of_three 0x80 0x9F (by omega) (by omega) (by omega) (by omega) (by omega)
      (by simpa [show b.toNat - 0xE0 = 13 by omega] using hc)
  · exact utf8EncodeChar_of_three 0x80 0xBF (by omega) (by omega) (by omega) (by omega) (by omega)
      hc
  · exact utf8EncodeChar_of_four 0x90 0xBF (by omega) (by omega) (by omega) (by omega) (by omega)
      (by simpa [show b.toNat - 0xF0 = 0 by omega] using hc)
  · exact utf8EncodeChar_of_four 0x80 0xBF (by omega) (by omega) (by omega) (by omega) (by omega)
      hc
  · exact utf8EncodeChar_of_four 0x80 0x8F (by omega) (by omega) (by omega) (by omega) (by omega)
      (by simpa [show b.toNat - 0xF0 = 4 by omega] using hc)

/-- Bytes are of a text exactly if the text is written by them. -/
theorem decode?_eq_some_iff {bytes : Bytes} {s : Text} :
    decode? bytes = some s ↔ bytes = encode s := by
  constructor
  · intro h
    unfold decode? at h
    fun_induction pieces bytes generalizing s with
    | case1 => simp at h; subst h; rfl
    | case2 b rest ih =>
      rw [List.mapM_cons] at h
      match hn : (first b rest).1, h with
      | none, h => simp at h
      | some c, h =>
        simp only [id, Option.bind_eq_bind, Option.bind_some, Option.bind_eq_some_iff,
          Option.pure_def, Option.some.injEq] at h
        obtain ⟨t, ht, rfl⟩ := h
        have written : b :: rest = String.utf8EncodeChar c ++ (first b rest).2 :=
          utf8EncodeChar_of_first (Prod.ext hn rfl)
        rw [written, ih ht]
        simp [encode]
  · rintro rfl
    exact decode?_encode s

end EmbeddedGo.Utf8
