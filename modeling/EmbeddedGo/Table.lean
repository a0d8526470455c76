/-
EmbeddedGo.Table — lists of keys with values, in the order in which the keys first came up.

  §1 `put`: a value under a key, where an earlier one stood or else at the end
  §2 what is looked up after a change
-/
namespace EmbeddedGo.Table

variable {κ β : Type} [BEq κ]

/-! ## §1 Putting -/

/-- The pairs with a value under a key. -/
def put (key : κ) (value : β) (pairs : List (κ × β)) : List (κ × β) :=
  if (pairs.lookup key).isSome then
    pairs.map fun old => if old.1 == key then (key, value) else old
  else pairs ++ [(key, value)]

/-! ## §2 Looking up -/

variable [LawfulBEq κ]

theorem lookup_map_put (key other : κ) (value : β) (pairs : List (κ × β)) :
    (pairs.map fun old => if old.1 == key then (key, value) else old).lookup other =
      if other == key && (pairs.lookup key).isSome then some value else pairs.lookup other := by
  induction pairs with
  | nil => simp
  | cons pair rest ih =>
    obtain ⟨k, v⟩ := pair
    by_cases hk : k = key
    · subst hk
      by_cases ho : other = k
      · simp [ho]
      · simp [List.lookup_cons, beq_false_of_ne ho, ih]
    · by_cases ho : other = key
      · subst ho
        simp only [List.map_cons, beq_false_of_ne hk, List.lookup_cons,
          beq_false_of_ne (Ne.symm hk), ih, Bool.false_eq_true, if_false]
      · simp [List.lookup_cons, beq_false_of_ne hk, beq_false_of_ne ho, ih]

/-- A key that was put has its value; no other changes. -/
theorem lookup_put (key other : κ) (value : β) (pairs : List (κ × β)) :
    (put key value pairs).lookup other =
      if other == key then some value else pairs.lookup other := by
  unfold put
  split
  · rename_i found
    rw [lookup_map_put]
    simp only [found, Bool.and_true]
  · rename_i missing
    rw [Option.not_isSome_iff_eq_none] at missing
    rw [List.lookup_append]
    by_cases ho : other = key
    · subst ho
      simp [missing]
    · simp [List.lookup_cons, beq_false_of_ne ho]

/-- Dropping keys is seen at the dropped keys only. -/
theorem lookup_filter (keep : κ → Bool) (other : κ) (pairs : List (κ × β)) :
    (pairs.filter fun pair => keep pair.1).lookup other =
      if keep other then pairs.lookup other else none := by
  induction pairs with
  | nil => simp
  | cons pair rest ih =>
    obtain ⟨k, v⟩ := pair
    by_cases hk : keep k
    · by_cases ho : other = k
      · simp [ho, hk]
      · simp [List.lookup_cons, hk, beq_false_of_ne ho, ih]
    · by_cases ho : other = k
      · subst ho
        simp [hk, ih]
      · simp [List.lookup_cons, hk, beq_false_of_ne ho, ih]

end EmbeddedGo.Table
