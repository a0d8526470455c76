/-
EmbeddedGo.Proofs.ArtifactUrl — the URLs of artifacts.

A URL is written with few characters (`isUrlChar`): none of them is escaped in a literal, and each
can stand in a reference. Decoding it gives the id back, since the slot and the file are encoded each
for itself and the rest holds no percent sign.

  §1 the characters
  §2 decoding
-/
import EmbeddedGo.Bundle.Reference
import EmbeddedGo.Data.Json.Literal
import EmbeddedGo.VirtualId

namespace EmbeddedGo

/-! ## §1 Characters -/

namespace VirtualId

/-- The characters that the URL of an artifact is written with. -/
def isUrlChar (c : Char) : Bool :=
  Percent.isUnreserved c || c == '%' || c == '/' || c == '@'

theorem lt_of_isUrlChar {c : Char} (h : isUrlChar c = true) : c.toNat < 128 := by
  simp only [isUrlChar, Percent.isUnreserved, Bool.or_eq_true, beq_iff_eq] at h
  rcases h with ((((((h | rfl) | rfl) | rfl) | rfl) | rfl) | rfl) | rfl
  · exact Text.lt_of_isAlphanum h
  all_goals decide

/-- What holds of the characters of URLs can be tried out. -/
theorem forall_isUrlChar (holds : Char → Prop) [DecidablePred holds]
    (h : ∀ n : Fin 128, isUrlChar (Char.ofNat n.val) = true → holds (Char.ofNat n.val)) {c : Char}
    (hc : isUrlChar c = true) : holds c := by
  have := h ⟨c.toNat, lt_of_isUrlChar hc⟩
  rw [Char.ofNat_toNat] at this
  exact this hc

theorem literalChar_of_isUrlChar (asciiOnly : Bool) {c : Char} (h : isUrlChar c = true) :
    Json.literalChar asciiOnly c = [c] := by
  cases asciiOnly with
  | false => exact forall_isUrlChar (fun c => Json.literalChar false c = [c]) (by decide +kernel) h
  | true => exact forall_isUrlChar (fun c => Json.literalChar true c = [c]) (by decide +kernel) h

theorem isReferenceChar_of_isUrlChar {c : Char} (h : isUrlChar c = true) :
    Bundle.isReferenceChar c = true :=
  forall_isUrlChar (fun c => Bundle.isReferenceChar c = true) (by decide +kernel) h

theorem isUrlChar_of_mem_encode {s : Text} {c : Char} (h : c ∈ Percent.encode s) :
    isUrlChar c = true := by
  have hhex : ∀ n : Fin 16, isUrlChar (Text.hexChar true n.val) = true := by decide
  obtain ⟨d, -, hc⟩ := List.mem_flatMap.1 h
  unfold Percent.encodeChar at hc
  split at hc
  · next hd =>
    cases List.mem_singleton.1 hc
    simp [isUrlChar, hd]
  · obtain ⟨b, -, hc⟩ := List.mem_flatMap.1 hc
    have hhigh := hhex ⟨b.toNat / 16, by have := b.toNat_lt; omega⟩
    have hlow := hhex ⟨b.toNat % 16, by omega⟩
    simp only [Percent.escape, List.mem_cons, List.not_mem_nil, or_false] at hc
    rcases hc with rfl | rfl | rfl
    · decide
    · exact hhigh
    · exact hlow

/-- The part of a URL behind the prefix. -/
def urlName (slot file : Text) : Text := Percent.encode slot ++ '/' :: Percent.encode file

theorem artifactUrl_eq (slot file : Text) : artifactUrl slot file = start ++ urlName slot file := by
  simp [artifactUrl, urlName]

theorem isUrlChar_of_mem_urlName {slot file : Text} {c : Char} (h : c ∈ urlName slot file) :
    isUrlChar c = true := by
  rw [urlName, List.mem_append, List.mem_cons] at h
  rcases h with h | rfl | h
  · exact isUrlChar_of_mem_encode h
  · decide
  · exact isUrlChar_of_mem_encode h

/-- All characters of a URL are safe. -/
theorem isUrlChar_of_mem_artifactUrl {slot file : Text} {c : Char}
    (h : c ∈ artifactUrl slot file) : isUrlChar c = true := by
  have hstart : ∀ c ∈ start, isUrlChar c = true := List.all_eq_true.1 (by decide)
  rw [artifactUrl_eq, List.mem_append] at h
  exact h.elim (hstart c) isUrlChar_of_mem_urlName

end VirtualId

/-- A literal of safe characters is the text in quotes. -/
theorem Json.literal_of_isUrlChar {asciiOnly : Bool} {s : Text}
    (h : ∀ c ∈ s, VirtualId.isUrlChar c = true) :
    Json.literal asciiOnly s = '"' :: s ++ ['"'] := by
  have hs : s.flatMap (Json.literalChar asciiOnly) = s := by
    induction s with
    | nil => rfl
    | cons c s ih =>
      rw [List.flatMap_cons, VirtualId.literalChar_of_isUrlChar _ (h c (List.mem_cons_self ..)),
        ih fun d hd => h d (List.mem_cons_of_mem _ hd), List.singleton_append]
  rw [Json.literal, hs]

/-! ## §2 Decoding -/

namespace Percent

theorem bytesOf_append_of_not_mem {s : Text} (h : '%' ∉ s) (rest : Text) :
    bytesOf (s ++ rest) = Utf8.encode s ++ bytesOf rest := by
  induction s with
  | nil => rfl
  | cons c s ih =>
    rw [List.mem_cons, not_or] at h
    rw [List.cons_append, bytesOf_cons (Ne.symm h.1), ih h.2]
    simp [Utf8.encode]

theorem bytesOf_encode_append (s rest : Text) :
    bytesOf (encode s ++ rest) = Utf8.encode s ++ bytesOf rest := by
  induction s with
  | nil => rfl
  | cons c s ih =>
    simp only [encode, Utf8.encode, List.flatMap_cons, List.append_assoc] at ih ⊢
    by_cases hc : isUnreserved c
    · have : c ≠ '%' := by rintro rfl; simp [isUnreserved] at hc
      rw [encodeChar, if_pos hc, List.singleton_append, bytesOf_cons this, ih]
    · rw [encodeChar, if_neg hc, bytesOf_flatMap_escape, ih]
      simp [Utf8.encode]

/-- A text without percent signs stands for itself. -/
theorem decode_of_not_mem {s : Text} (h : '%' ∉ s) : decode s = s := by
  have := bytesOf_append_of_not_mem h []
  rw [List.append_nil] at this
  rw [decode, this, bytesOf, List.append_nil, Utf8.decodeLossy_encode]

end Percent

/-- The URL of an artifact stands for its id. -/
theorem VirtualId.decode_artifactUrl (slot file : Text) :
    Percent.decode (artifactUrl slot file) = artifact slot file := by
  have hstart : '%' ∉ start := by decide
  have hslash : '%' ∉ ("/" : Text) := by decide
  have hfile := Percent.bytesOf_encode_append file []
  rw [List.append_nil, Percent.bytesOf, List.append_nil] at hfile
  rw [Percent.decode, artifactUrl, List.append_assoc, List.append_assoc,
    Percent.bytesOf_append_of_not_mem hstart, Percent.bytesOf_encode_append,
    Percent.bytesOf_append_of_not_mem hslash, hfile]
  rw [← Utf8.encode_append, ← Utf8.encode_append, ← Utf8.encode_append, Utf8.decodeLossy_encode,
    artifact]
  simp

end EmbeddedGo
