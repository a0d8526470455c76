/-
EmbeddedGo.Proofs.LineEnds — cutting a text into lines, piece by piece.

A line end is one character, or a carriage return and a line feed. What stands behind a line end is cut
into lines for itself (`lines_append`), unless it begins with a line feed that belongs to a carriage
return in front of it.

  §1 lines, character by character
  §2 line ends
-/
import EmbeddedGo.Text.Lines

namespace EmbeddedGo.Text

/-! ## §1 Characters -/

theorem isBlank_of_isLineEnd {c : Char} (h : isLineEnd c = true) : isBlank c = true := by
  simp only [isLineEnd, isBlank, Bool.or_eq_true, Bool.and_eq_true, decide_eq_true_eq,
    beq_iff_eq] at *
  omega

theorem consLine_ne_nil (c : Char) (rest : List Text) : consLine c rest ≠ [] := by
  cases rest <;> simp [consLine]

theorem lines_eq_nil {s : Text} : lines s = [] ↔ s = [] := by
  fun_cases lines s with
  | case1 => simp
  | case2 s => simp
  | case3 c s _ hc => simp
  | case4 c s _ hc => simp [consLine_ne_nil]

theorem join_consLine (sep : Text) (c : Char) (rest : List Text) :
    Text.join sep (consLine c rest) = c :: Text.join sep rest := by
  cases rest with
  | nil => simp [consLine, Text.join]
  | cons line rest =>
    cases rest with
    | nil => simp [consLine, Text.join]
    | cons next rest => simp [consLine, Text.join_cons_cons]

theorem lines_end {c : Char} {s : Text} (hc : isLineEnd c = true)
    (hs : c = '\r' → s.head? ≠ some '\n') : lines (c :: s) = [] :: lines s := by
  rw [lines.eq_def]
  split
  · next h => cases h
  · next h =>
    cases h
    exact absurd rfl (hs rfl)
  · next h =>
    cases h
    rw [if_pos hc]

theorem lines_char {c : Char} (hc : isLineEnd c = false) (s : Text) :
    lines (c :: s) = consLine c (lines s) := by
  rw [lines.eq_def]
  split
  · next h => cases h
  · next h =>
    cases h
    cases hc
  · next h =>
    cases h
    rw [if_neg (by simp [hc])]

/-- A line holds characters of the text. -/
theorem mem_of_mem_line {s line : Text} {c : Char} (hl : line ∈ lines s) (hc : c ∈ line) :
    c ∈ s := by
  fun_induction lines s generalizing line with
  | case1 => cases hl
  | case2 s ih =>
    rcases List.mem_cons.1 hl with rfl | hl
    · cases hc
    · exact List.mem_cons_of_mem _ (List.mem_cons_of_mem _ (ih hl hc))
  | case3 d s _ hd ih =>
    rcases List.mem_cons.1 hl with rfl | hl
    · cases hc
    · exact List.mem_cons_of_mem _ (ih hl hc)
  | case4 d s _ hd ih =>
    cases h : lines s with
    | nil =>
      rw [h, consLine, List.mem_singleton] at hl
      subst hl
      exact List.mem_singleton.1 hc ▸ List.mem_cons_self
    | cons first rest =>
      rw [h, consLine, List.mem_cons] at hl
      rcases hl with rfl | hl
      · rcases List.mem_cons.1 hc with rfl | hc
        · exact List.mem_cons_self
        · exact List.mem_cons_of_mem _ (ih (h ▸ List.mem_cons_self) hc)
      · exact List.mem_cons_of_mem _ (ih (h ▸ List.mem_cons_of_mem _ hl) hc)

/-! ## §2 Line ends -/

/-- A line end: one of the characters that end lines, or a carriage return and a line feed. -/
inductive IsBreak : Text → Prop where
  | one {c : Char} (h : isLineEnd c = true) : IsBreak [c]
  | two : IsBreak ['\r', '\n']

theorem lines_break {lineEnd t : Text} (hend : IsBreak lineEnd)
    (ht : lineEnd = ['\r'] → t.head? ≠ some '\n') : lines (lineEnd ++ t) = [] :: lines t := by
  cases hend with
  | one hc => exact lines_end hc fun h => ht (h ▸ rfl)
  | two => rfl

/-- A text without line ends in front of one is a line. -/
theorem lines_line {line lineEnd t : Text} (hline : ∀ c ∈ line, isLineEnd c = false)
    (hend : IsBreak lineEnd) (ht : lineEnd = ['\r'] → t.head? ≠ some '\n') :
    lines (line ++ lineEnd ++ t) = line :: lines t := by
  rw [List.append_assoc]
  induction line with
  | nil => exact lines_break hend ht
  | cons c line ih =>
    rw [List.cons_append, lines_char (hline c (by simp)), ih fun d hd => hline d (by simp [hd])]
    rfl

/-- The lines behind a line end are the lines of what stands there. -/
theorem lines_append {s lineEnd t : Text} (hend : IsBreak lineEnd)
    (ht : lineEnd = ['\r'] → t.head? ≠ some '\n') :
    lines (s ++ lineEnd ++ t) = lines (s ++ lineEnd) ++ lines t := by
  have hnil : lines (lineEnd ++ t) = lines lineEnd ++ lines t := by
    have hlast : lines (lineEnd ++ []) = [[]] := lines_break hend (by simp)
    rw [lines_break hend ht, ← List.append_nil lineEnd, hlast]
    rfl
  fun_induction lines s with
  | case1 => exact hnil
  | case2 s ih =>
    show [] :: lines (s ++ lineEnd ++ t) = [] :: lines (s ++ lineEnd) ++ lines t
    rw [ih]
    rfl
  | case3 c s hcr hc ih =>
    cases s with
    | nil =>
      -- a line feed behind a carriage return belongs to it
      by_cases hcrlf : c = '\r' ∧ lineEnd = ['\n']
      · obtain ⟨rfl, rfl⟩ := hcrlf
        rfl
      · have hhead : ∀ t : Text, c = '\r' → (lineEnd ++ t).head? ≠ some '\n' := by
          rintro t rfl
          cases hend with
          | @one d hd => simpa using hcrlf
          | two => simp
        have hshort := lines_end hc (hhead [])
        rw [List.append_nil] at hshort
        show lines (c :: (lineEnd ++ t)) = lines (c :: lineEnd) ++ lines t
        rw [lines_end hc (hhead t), hshort, hnil]
        rfl
    | cons d s =>
      have hhead : c = '\r' → d ≠ '\n' := by
        rintro rfl rfl
        exact hcr s rfl rfl
      have hend' : ∀ t : Text, lines (c :: (d :: s ++ t)) = [] :: lines (d :: s ++ t) := fun t =>
        lines_end hc fun h => by simpa using hhead h
      rw [List.append_assoc] at ih ⊢
      show lines (c :: (d :: s ++ (lineEnd ++ t))) = lines (c :: (d :: s ++ lineEnd)) ++ lines t
      rw [hend', hend', ih]
      rfl
  | case4 c s _ hc ih =>
    have hc : isLineEnd c = false := by simpa using hc
    obtain ⟨line, rest, hlines⟩ : ∃ line rest, lines (s ++ lineEnd) = line :: rest := by
      refine List.exists_cons_of_ne_nil (mt lines_eq_nil.1 ?_)
      cases hend <;> simp
    show lines (c :: (s ++ lineEnd ++ t)) = lines (c :: (s ++ lineEnd)) ++ lines t
    rw [lines_char hc, lines_char hc, ih, hlines]
    rfl

end EmbeddedGo.Text
