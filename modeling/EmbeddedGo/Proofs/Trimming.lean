/-
EmbeddedGo.Proofs.Trimming — texts without the blanks at their ends.

Trimming is defined from the two ends. What it leaves is characterised by the whole text: some blanks,
a text that neither begins nor ends with one, and some blanks again (`trim_eq_iff`).

  §1 the beginning of a text
  §2 its end
  §3 both
-/
import EmbeddedGo.Text.Basic

namespace EmbeddedGo.Text

/-! ## §1 The beginning -/

theorem trimStart_append {g : Text} (hg : g.all isBlank = true) {c : Char} (hc : isBlank c = false)
    (s : Text) : trimStart (g ++ c :: s) = c :: s := by
  rw [List.all_eq_true] at hg
  rw [trimStart, List.dropWhile_append_of_pos hg, List.dropWhile_cons_of_neg (by simp [hc])]

theorem trimStart_eq_nil {s : Text} (hs : s.all isBlank = true) : trimStart s = [] := by
  rw [trimStart, ← List.append_nil s, List.dropWhile_append_of_pos (List.all_eq_true.1 hs)]
  rfl

/-- A text is blanks and what is left of it without them. -/
theorem exists_trimStart (s : Text) : ∃ g : Text, g.all isBlank = true ∧ s = g ++ trimStart s :=
  ⟨s.takeWhile isBlank, List.all_takeWhile, (List.takeWhile_append_dropWhile).symm⟩

theorem isBlank_of_head?_trimStart {s : Text} {c : Char} (h : (trimStart s).head? = some c) :
    isBlank c = false := by
  have hne : s.dropWhile isBlank ≠ [] := by
    intro hnil
    rw [trimStart, hnil] at h
    cases h
  have hhead := List.head_dropWhile_not (p := isBlank) (l := s) hne
  rw [trimStart, List.head?_eq_some_head hne] at h
  cases h
  exact hhead

/-! ## §2 The end -/

theorem trimEnd_eq (s : Text) : trimEnd s = (trimStart s.reverse).reverse := rfl

/-- A text is what is left of it without the blanks behind it, and these. -/
theorem exists_trimEnd (s : Text) : ∃ g : Text, g.all isBlank = true ∧ s = trimEnd s ++ g := by
  obtain ⟨g, hg, hs⟩ := exists_trimStart s.reverse
  refine ⟨g.reverse, by simpa using hg, ?_⟩
  rw [trimEnd_eq, ← List.reverse_append, ← hs, List.reverse_reverse]

theorem isBlank_of_getLast?_trimEnd {s : Text} {c : Char} (h : (trimEnd s).getLast? = some c) :
    isBlank c = false := by
  rw [trimEnd_eq, List.getLast?_reverse] at h
  exact isBlank_of_head?_trimStart h

theorem trimEnd_append {g : Text} (hg : g.all isBlank = true) {s : Text} {c : Char}
    (hs : s.getLast? = some c) (hc : isBlank c = false) : trimEnd (s ++ g) = s := by
  obtain ⟨init, rfl⟩ := List.getLast?_eq_some_iff.1 hs
  have hreverse : (init ++ [c] ++ g).reverse = g.reverse ++ c :: init.reverse := by simp
  rw [trimEnd_eq, hreverse, trimStart_append (by simpa using hg) hc]
  simp

/-! ## §3 Both ends -/

/-- A text that neither begins nor ends with a blank. -/
structure IsTrimmed (s : Text) : Prop where
  head : ∀ c, s.head? = some c → isBlank c = false
  last : ∀ c, s.getLast? = some c → isBlank c = false

/-- What is left of a text without the blanks at its ends. -/
def IsCoreOf (core s : Text) : Prop :=
  core.IsTrimmed ∧ ∃ before behind : Text, before.all isBlank = true ∧ behind.all isBlank = true ∧
    s = before ++ core ++ behind

/-- Trimming leaves the core of a text, and no text has another. -/
theorem trim_eq_iff {s core : Text} : trim s = core ↔ core.IsCoreOf s := by
  constructor
  · rintro rfl
    obtain ⟨before, hbefore, hs⟩ := exists_trimStart s
    obtain ⟨behind, hbehind, hrest⟩ := exists_trimEnd (trimStart s)
    refine ⟨⟨fun c hc => ?_, fun c hc => isBlank_of_getLast?_trimEnd hc⟩, before, behind, hbefore,
      hbehind, ?_⟩
    · refine isBlank_of_head?_trimStart (s := s) ?_
      rw [hrest, List.head?_append]
      exact (congrArg (·.or behind.head?) hc).trans rfl
    · rw [trim, List.append_assoc, ← hrest, ← hs]
  · rintro ⟨⟨hhead, hlast⟩, before, behind, hbefore, hbehind, rfl⟩
    cases core with
    | nil =>
      have hall : trimStart (before ++ [] ++ behind) = [] :=
        trimStart_eq_nil (by rw [List.append_nil, List.all_append, hbefore, hbehind]; rfl)
      rw [trim, hall]
      rfl
    | cons c core =>
      obtain ⟨last, hend⟩ : ∃ last, (c :: core).getLast? = some last :=
        ⟨_, List.getLast?_eq_some_getLast (List.cons_ne_nil c core)⟩
      rw [trim, List.append_assoc, List.cons_append, trimStart_append hbefore (hhead c rfl),
        ← List.cons_append, trimEnd_append hbehind hend (hlast last hend)]

/-- A text has an empty core exactly if all of it are blanks. -/
theorem trim_eq_nil_iff {s : Text} : trim s = [] ↔ s.all isBlank = true := by
  rw [trim_eq_iff]
  constructor
  · rintro ⟨-, before, behind, hbefore, hbehind, rfl⟩
    rw [List.append_nil, List.all_append, hbefore, hbehind]
    rfl
  · exact fun hs => ⟨⟨by simp, by simp⟩, s, [], hs, rfl, by simp⟩

/-- Blanks around a text do not change its core. -/
theorem IsCoreOf.between {core s : Text} (h : core.IsCoreOf s) {before behind : Text}
    (hbefore : before.all isBlank = true) (hbehind : behind.all isBlank = true) :
    core.IsCoreOf (before ++ s ++ behind) := by
  obtain ⟨htrimmed, b, e, hb, he, rfl⟩ := h
  refine ⟨htrimmed, before ++ b, e ++ behind, ?_, ?_, by simp⟩
  · rw [List.all_append, hbefore, hb]
    rfl
  · rw [List.all_append, he, hbehind]
    rfl

end EmbeddedGo.Text
