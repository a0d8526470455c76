/-
EmbeddedGo.Proofs.Reference — where a code refers to virtual ids, and where it does not.

A text passes by (`Passes`) if no reference begins in it, whatever its last characters and those
behind it make together. Two reasons are enough for the codes of the library: no quote stands in
front of a slash (`isClear`, which is computed and goes through concatenation), or the prefix of the
ids stands nowhere in the text (`passes_of_absent`). Between texts that pass by, the quoted ids are
all that a scan finds.

  §1 scans of texts in pieces
  §2 texts that pass by
  §3 references that are found
  §4 directories between slashes
-/
import EmbeddedGo.Proofs.ResolvedPath
import EmbeddedGo.Proofs.ArtifactUrl

namespace EmbeddedGo

/-! ## §1 Pieces -/

namespace Text

variable {α : Type} {read : Text → Option (α × Text)}

/-- Where nothing is found every character passes by. -/
theorem scan_of_findAll_nil {s : Text} (h : findAll read s = []) : scan read s = s.map .plain := by
  unfold findAll at h
  fun_induction scan read s with
  | case1 => rfl
  | case2 c s hread ih => exact congrArg (.plain c :: ·) (ih h)
  | case3 c s a rest hread hle ih => cases h
  | case4 c s a rest hread hle ih => exact congrArg (.plain c :: ·) (ih h)

theorem scan_none {c : Char} {s : Text} (h : read (c :: s) = none) :
    scan read (c :: s) = .plain c :: scan read s := by
  rw [scan, h]

theorem scan_found {c : Char} {s rest : Text} {a : α} (h : read (c :: s) = some (a, rest))
    (hlen : rest.length ≤ s.length) : scan read (c :: s) = .found a :: scan read rest := by
  rw [scan, h]
  dsimp only
  rw [dif_pos hlen]

/-- What is kept of a list of findings is there once. -/
theorem nodup_eraseDups (found : List Text) : found.eraseDups.Nodup := by
  match found with
  | [] => simp
  | s :: found =>
    rw [List.eraseDups_cons, List.nodup_cons]
    exact ⟨by simp [List.mem_eraseDups], nodup_eraseDups _⟩
termination_by found.length
decreasing_by exact Nat.lt_succ_of_le (List.length_filter_le ..)

end Text

namespace Bundle

open Text

/-! ## §2 Passing by -/

/-- The characters that quote a reference. -/
def isQuote (c : Char) : Bool := c == '"' || c == '\''

theorem reference?_eq_none {c : Char} {s : Text}
    (h : isQuote c = true → ¬ VirtualId.start <+: s) : reference? (c :: s) = none := by
  have hstart : isQuote c = true → after? VirtualId.start s = none := by
    intro hc
    have := h hc
    rw [← startsWith_iff, startsWith, Option.not_isSome_iff_eq_none] at this
    exact this
  simp only [reference?]
  split
  · next hc => rw [hstart (by simpa [isQuote] using hc)]
  · rfl

/-- No reference begins in the first text, if the second comes behind it. -/
def Passes : Text → Text → Prop
  | [], _ => True
  | c :: s, rest => reference? (c :: (s ++ rest)) = none ∧ Passes s rest

theorem Passes.append {s t rest : Text} (hs : Passes s (t ++ rest)) (ht : Passes t rest) :
    Passes (s ++ t) rest := by
  induction s with
  | nil => exact ht
  | cons c s ih =>
    refine ⟨?_, ih hs.2⟩
    have := hs.1
    rwa [← List.append_assoc] at this

theorem scan_passes {s rest : Text} (h : Passes s rest) :
    scan reference? (s ++ rest) = s.map .plain ++ scan reference? rest := by
  induction s with
  | nil => rfl
  | cons c s ih =>
    rw [List.cons_append, scan_none h.1, ih h.2]
    rfl

/-- No quote stands in front of a slash, nor at the end. -/
def isClear : Text → Bool
  | [] => true
  | [c] => !isQuote c
  | c :: d :: s => !(isQuote c && d == '/') && isClear (d :: s)

theorem isClear_append {s t : Text} (hs : isClear s = true) (ht : isClear t = true) :
    isClear (s ++ t) = true := by
  fun_induction isClear s with
  | case1 => exact ht
  | case2 c =>
    cases t with
    | nil => exact hs
    | cons d t => simp_all [isClear]
  | case3 c d s ih => simp_all [isClear]

/-- The characters of a string need not be read out of its bytes. -/
theorem isClear_ofList {s : Text} (h : isClear s = true) :
    isClear (String.ofList s).toList = true := by
  rwa [String.toList_ofList]

theorem isClear_of_not_mem {s : Text} {c : Char} (hs : '/' ∉ s) (hc : isQuote c = false)
    (hslash : c ≠ '/') : isClear (s ++ [c]) = true := by
  induction s with
  | nil => simp [isClear, hc]
  | cons d s ih =>
    rw [List.mem_cons, not_or] at hs
    cases s with
    | nil => simp [isClear, hc, hslash]
    | cons e s =>
      have he : e ≠ '/' := fun h => hs.2 (h ▸ List.mem_cons_self ..)
      simp only [List.cons_append, isClear] at ih ⊢
      simp [he, ih hs.2]

theorem passes_of_isClear {s : Text} (h : isClear s = true) (rest : Text) : Passes s rest := by
  -- an id begins with a slash
  have hslash : ∀ c s, c ≠ '/' → ¬ VirtualId.start <+: c :: s := by
    rintro c s hc ⟨t, ht⟩
    exact hc (List.cons.inj ht).1.symm
  fun_induction isClear s with
  | case1 => trivial
  | case2 c => exact ⟨reference?_eq_none fun hc => by simp [hc] at h, trivial⟩
  | case3 c d s ih =>
    simp only [Bool.and_eq_true, Bool.not_eq_true', Bool.and_eq_false_iff] at h
    refine ⟨reference?_eq_none fun hc => ?_, ih h.2⟩
    exact hslash d (s ++ rest) (by simpa [hc] using h.1)

/-- What a text begins with does not reach over a character that it does not hold. -/
theorem prefix_of_prefix_append_cons {start s rest : Text} {c : Char} (hc : c ∉ start)
    (h : start <+: s ++ c :: rest) : start <+: s := by
  rcases Nat.lt_or_ge s.length start.length with hlt | hle
  · have hquote : s ++ [c] <+: s ++ c :: rest := ⟨rest, by simp⟩
    have hin : s ++ [c] <+: start :=
      List.prefix_of_prefix_length_le hquote h (by simp; omega)
    exact absurd (hin.subset (by simp)) hc
  · exact List.prefix_of_prefix_length_le h (List.prefix_append ..) hle

/-- A text that the prefix of the ids stands nowhere in passes by in front of a quote. -/
theorem passes_of_absent {s rest : Text} {c : Char} (hc : c ∉ VirtualId.start)
    (h : ¬ VirtualId.start <:+: s) : Passes s (c :: rest) := by
  induction s with
  | nil => trivial
  | cons d s ih =>
    refine ⟨reference?_eq_none fun _ hpre => ?_, ih fun hin => h (List.infix_cons hin)⟩
    exact h (List.infix_cons (prefix_of_prefix_append_cons hc hpre).isInfix)

/-! ## §3 Findings -/

/-- A quoted id, and a text behind it. -/
def mention (name rest : Text) : Text := '"' :: (VirtualId.start ++ name ++ '"' :: rest)

/-- A quoted id is found, whichever quotes it has. -/
theorem reference?_quoted {quote : Char} (hq : isQuote quote = true) {name : Text} (hne : name ≠ [])
    (hn : ∀ c ∈ name, isReferenceChar c = true) (rest : Text) :
    reference? (quote :: (VirtualId.start ++ name ++ quote :: rest)) =
      some (⟨quote, VirtualId.start ++ name⟩, rest) := by
  have hquote : quote = '"' ∨ quote = '\'' := by simpa [isQuote] using hq
  have hend : isReferenceChar quote = false := by
    rcases hquote with rfl | rfl <;> rfl
  have htake : (name ++ quote :: rest).takeWhile isReferenceChar = name := by
    rw [List.takeWhile_append_of_pos hn]
    simp [hend]
  have hdrop : (name ++ quote :: rest).dropWhile isReferenceChar = quote :: rest := by
    rw [List.dropWhile_append_of_pos hn]
    simp [hend]
  rw [List.append_assoc]
  simp only [reference?, after?_append, htake, hdrop, if_pos hquote]
  cases name with
  | nil => exact absurd rfl hne
  | cons c name => simp

/-- The same of one in double quotes. -/
theorem reference?_mention {name : Text} (hne : name ≠ [])
    (hn : ∀ c ∈ name, isReferenceChar c = true) (rest : Text) :
    reference? (mention name rest) = some (⟨'"', VirtualId.start ++ name⟩, rest) :=
  reference?_quoted rfl hne hn rest

/-- Behind a text that passes by a quoted id is what is found next. -/
theorem scan_mention {before name rest : Text} (hbefore : Passes before (mention name rest))
    (hne : name ≠ []) (hn : ∀ c ∈ name, isReferenceChar c = true) :
    scan reference? (before ++ mention name rest) =
      before.map .plain ++ .found ⟨'"', VirtualId.start ++ name⟩ :: scan reference? rest := by
  have hlen : rest.length ≤ (VirtualId.start ++ name ++ '"' :: rest).length := by simp; omega
  rw [scan_passes hbefore, mention, scan_found (reference?_mention hne hn rest) hlen]

/-- Characters that passed by are written back. -/
theorem flatMap_plain (url : Text → Text) (s : Text) :
    (s.map Piece.plain).flatMap (substitutePiece url) = s := by
  induction s with
  | nil => rfl
  | cons c s ih => rw [List.map_cons, List.flatMap_cons, ih]; rfl

theorem filterMap_plain (s : Text) :
    ((s.map Piece.plain : List (Piece Reference)).filterMap Piece.found?) = [] := by
  induction s with
  | nil => rfl
  | cons c s ih => rw [List.map_cons, List.filterMap_cons]; exact ih

/-- A code with two quoted ids and nothing else that could be taken for one. -/
theorem scan_two {before between after name name' : Text}
    (hbefore : Passes before (mention name (between ++ mention name' after)))
    (hbetween : isClear between = true) (hafter : isClear after = true)
    (hne : name ≠ []) (hn : ∀ c ∈ name, isReferenceChar c = true)
    (hne' : name' ≠ []) (hn' : ∀ c ∈ name', isReferenceChar c = true) :
    scan reference? (before ++ mention name (between ++ mention name' after)) =
      before.map .plain ++ .found ⟨'"', VirtualId.start ++ name⟩ ::
        (between.map .plain ++ .found ⟨'"', VirtualId.start ++ name'⟩ :: after.map .plain) := by
  have hend : scan reference? after = after.map .plain := by
    have := scan_passes (passes_of_isClear hafter [])
    rwa [List.append_nil, scan, List.append_nil] at this
  rw [scan_mention hbefore hne hn, scan_mention (passes_of_isClear hbetween _) hne' hn', hend]

end Bundle

/-! ## §4 Directories -/

namespace Text

/-- What stands between two separators is a piece. -/
theorem mem_splitOn_of_between {sep : Char} {piece s : Text} (hp : sep ∉ piece)
    (h : sep :: piece ++ [sep] <:+: s) : piece ∈ splitOn sep s := by
  obtain ⟨u, v, rfl⟩ := h
  have : u ++ (sep :: piece ++ [sep]) ++ v = u ++ sep :: (piece ++ sep :: v) := by simp
  rw [this, splitOn_append, splitOn_append_cons hp]
  simp

/-- The pieces of joined names with a text behind them: the names, of which the last goes on. -/
theorem mem_splitOn_join_append {sep : Char} {names : List Text} {tail piece : Text}
    (hn : ∀ name ∈ names, sep ∉ name) (ht : sep ∉ tail)
    (h : piece ∈ splitOn sep (join [sep] names ++ tail)) : piece ∈ names ∨ tail <:+ piece := by
  rcases List.eq_nil_or_concat names with rfl | ⟨init, last, rfl⟩
  · rw [show join [sep] [] ++ tail = tail from rfl, splitOn_of_not_mem ht,
      List.mem_singleton] at h
    exact .inr (h ▸ List.suffix_refl _)
  · have hjoin : join [sep] (init ++ [last]) ++ tail = join [sep] (init ++ [last ++ tail]) := by
      rcases List.eq_nil_or_concat init with rfl | ⟨i, l, rfl⟩
      · simp [join]
      · rw [join_append_singleton _ _ (by simp), join_append_singleton _ _ (by simp)]
        simp
    rw [List.concat_eq_append, hjoin, splitOn_join (by simp)] at h
    · rcases List.mem_append.1 h with h | h
      · exact .inl (by simp [h])
      · rw [List.mem_singleton] at h
        exact .inr (h ▸ List.suffix_append ..)
    · intro p hp
      rcases List.mem_append.1 hp with hp | hp
      · exact hn p (by simp [hp])
      · rw [List.mem_singleton.1 hp, List.mem_append, not_or]
        exact ⟨hn last (by simp), ht⟩

end Text
end EmbeddedGo
