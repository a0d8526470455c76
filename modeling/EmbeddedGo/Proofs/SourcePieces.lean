/-
EmbeddedGo.Proofs.SourcePieces — a source offers what its pieces offer.

A marker looks at the line behind it and on to the first opening brace, however far away that is. Where
a source is cut behind a line end, the first piece may have a marker that looks across the cut: its last
line, or one whose declaration has no brace before the cut. If it has none (`IsClosed`), the source
offers what the first piece offers and then what the second does (`exported_append`), whatever stands in
the second. So a declaration that is refused can stand between two pieces, and those offer what they
offer without it.

  §1 pieces
  §2 what a marker looks at
  §3 pieces put together
-/
import EmbeddedGo.Proofs.Unsupported

namespace EmbeddedGo.Go

open Text

/-! ## §1 Pieces -/

/-- A text that is empty or ends with a line feed. -/
def IsWhole (a : Text) : Prop := a = [] ∨ a.getLast? = some '\n'

/-- A text in which no marker looks at what comes behind it: no marker stands in the last line, and
where a declaration follows a marker its brace does too. -/
structure IsClosed (a : Text) : Prop where
  whole : IsWhole a
  last : ∀ line, (lines a).getLast? = some line → markerName? line = none
  braces : ∀ before line next rest, lines a = before ++ line :: next :: rest →
    (markerName? line).isSome = true → startsFunction next = true → ∃ l ∈ next :: rest, '{' ∈ l

/-- Whole lines are cut for themselves, also in front of another line feed. -/
theorem IsWhole.lines_append {a : Text} (h : IsWhole a) (b : Text) :
    lines (a ++ b) = lines a ++ lines b := by
  rcases h with rfl | hlast
  · rfl
  · obtain ⟨s, rfl⟩ := List.getLast?_eq_some_iff.1 hlast
    exact Text.lines_append (.one (by decide)) (by simp)

/-! ## §2 Markers -/

/-- What is written behind the brace does not belong to the declaration. -/
theorem declaration_append {ls : List Text} (h : ∃ l ∈ ls, '{' ∈ l) (more : List Text) :
    declaration (ls ++ more) = declaration ls := by
  suffices upToBrace (ls ++ more) = upToBrace ls by rw [declaration, this, declaration]
  induction ls with
  | nil =>
    obtain ⟨l, hl, -⟩ := h
    cases hl
  | cons line ls ih =>
    by_cases hline : '{' ∈ line
    · simp [upToBrace, hline]
    · obtain ⟨l, hl, hbrace⟩ := h
      have hrest : l ∈ ls := (List.mem_cons.1 hl).resolve_left (by rintro rfl; exact hline hbrace)
      simp [upToBrace, hline, ih ⟨l, hrest, hbrace⟩]

/-- A line looks at nothing behind the lines `rest`. -/
def StopsIn (line : Text) (rest : List Text) : Prop :=
  (markerName? line).isSome = true →
    ∃ next others, rest = next :: others ∧ (startsFunction next = true → ∃ l ∈ rest, '{' ∈ l)

theorem StopsIn.offered?_append {line : Text} {rest : List Text} (h : StopsIn line rest)
    (more : List Text) : offered? line (rest ++ more) = offered? line rest := by
  cases hmarker : markerName? line with
  | none => simp [offered?, hmarker]
  | some name =>
    obtain ⟨next, others, rfl, hbrace⟩ := h (by rw [hmarker]; rfl)
    simp only [offered?, hmarker, List.cons_append]
    split
    · next hstart => rw [← List.cons_append, declaration_append (hbrace hstart)]
    · rfl

/-- Lines that look at nothing behind them offer the same whatever comes there. -/
theorem offersOf_congr {ls : List Text}
    (h : ∀ before line rest, ls = before ++ line :: rest → StopsIn line rest)
    (more : List Text) : offersOf ls more = offersOf ls [] := by
  induction ls with
  | nil => rfl
  | cons line ls ih =>
    have hline : StopsIn line ls := h [] line ls rfl
    have hrest := ih fun before l rest hls => h (line :: before) l rest (by rw [hls]; rfl)
    rw [offersOf, offersOf, hline.offered?_append, hrest, List.append_nil]

theorem IsClosed.stopsIn {a : Text} (h : IsClosed a) {before rest : List Text} {line : Text}
    (hlines : lines a = before ++ line :: rest) : StopsIn line rest := by
  intro hmarker
  cases rest with
  | nil =>
    have hnone := h.last line (by rw [hlines]; simp)
    rw [hnone] at hmarker
    cases hmarker
  | cons next others =>
    exact ⟨next, others, rfl, h.braces before line next others hlines hmarker⟩

/-- A marker in front of a declaration that is refused offers nothing. -/
theorem offered?_of_refused {ls : List Text} (h : ∀ f, Signature.parse (declaration ls) ≠ .ok f)
    (line : Text) : offered? line ls = none := by
  unfold offered?
  split
  · split
    · split
      · next f hparse => exact absurd hparse (h f)
      · rfl
    · rfl
  · rfl

/-! ## §3 Sources -/

/-- A source is cut behind a closed piece. -/
theorem IsClosed.exported_append_eq {a : Text} (h : IsClosed a) (b : Text) :
    exported (a ++ b) = exported a ++ exported b := by
  have hcongr := offersOf_congr (fun _ _ _ => h.stopsIn) (lines b)
  have ha := exportedIn_lines (lines a) []
  rw [List.append_nil, exportedIn, List.append_nil] at ha
  rw [exported, h.whole.lines_append, exportedIn_lines, hcongr, ← ha, exported, exported]

/-- Behind a closed piece a source offers what is offered there for itself. In particular a marker whose
declaration is refused might as well not be there, and the same holds of the declaration if there is no
other marker in it: every other marker offers what it offers without them. -/
theorem exported_append {a : Text} (h : IsClosed a) (b : Text) :
    exported (a ++ b) = exported a ++ exported b ∧
      ∀ marker s, (∀ c ∈ marker, isLineEnd c = false) → IsWhole s →
        (∀ f, Signature.parse (declaration (lines (s ++ b))) ≠ .ok f) →
        exported (a ++ (marker ++ '\n' :: s) ++ b) = exported a ++ exported (s ++ b) ∧
          ((∀ line ∈ lines s, markerName? line = none) →
            exported (a ++ (marker ++ '\n' :: s) ++ b) = exported (a ++ b)) := by
  refine ⟨h.exported_append_eq b, fun marker s hmarker hs hrefused => ?_⟩
  have hlines : lines (marker ++ '\n' :: (s ++ b)) = marker :: lines (s ++ b) := by
    have hline := lines_line (t := s ++ b) hmarker (.one (c := '\n') (by decide)) (by simp)
    simpa using hline
  have hunmarked : exported (a ++ (marker ++ '\n' :: s) ++ b) = exported a ++ exported (s ++ b) := by
    have hcut := h.exported_append_eq (marker ++ '\n' :: (s ++ b))
    have hbehind : exported (marker ++ '\n' :: (s ++ b)) = exported (s ++ b) := by
      rw [exported, hlines, exportedIn, offered?_of_refused hrefused, exported]
      rfl
    rw [hbehind] at hcut
    simpa using hcut
  refine ⟨hunmarked, fun hnone => ?_⟩
  have hplain : exported (s ++ b) = exported b := by
    rw [exported, hs.lines_append, exportedIn_append hnone, exported]
  rw [hunmarked, hplain, h.exported_append_eq b]

/-- A piece with a function, a declaration with a pointer, and a function in a text that ends in it. -/
theorem exported_append_pointer :
    IsClosed "//export add\nfunc add(a, b int) int \x7b\n\x7d\n" ∧
      IsWhole "func bad(x *int) \x7b\n\x7d\n" ∧
      exported ("//export add\nfunc add(a, b int) int \x7b\n\x7d\n" ++
          ("//export bad" ++ '\n' :: "func bad(x *int) \x7b\n\x7d\n") ++
          "//export tick\nfunc tick() \x7b\x7d") =
        exported ("//export add\nfunc add(a, b int) int \x7b\n\x7d\n" ++
          "//export tick\nfunc tick() \x7b\x7d") := by
  have hclosed : IsClosed "//export add\nfunc add(a, b int) int \x7b\n\x7d\n" :=
    { whole := .inr (by decide)
      last := by decide +kernel
      braces := by
        have hlines : lines "//export add\nfunc add(a, b int) int \x7b\n\x7d\n" =
            [("//export add" : Text), "func add(a, b int) int \x7b", "\x7d"] := by decide +kernel
        intro before line next rest heq _ hstart
        rw [hlines] at heq
        match before, heq with
        | [], heq =>
          obtain ⟨-, rfl, rfl⟩ := heq
          exact ⟨_, List.mem_cons_self, by decide⟩
        | [_], heq =>
          obtain ⟨-, -, rfl, -⟩ := heq
          revert hstart
          decide +kernel
        | _ :: _ :: before, heq => cases before <;> simp at heq }
  have hwhole : IsWhole "func bad(x *int) \x7b\n\x7d\n" := .inr (by decide)
  have hrefused : ∀ f, Signature.parse (declaration (lines
      ("func bad(x *int) \x7b\n\x7d\n" ++ "//export tick\nfunc tick() \x7b\x7d"))) ≠ .ok f := by
    intro f hf
    have hnone : (Signature.parse (declaration (lines
        ("func bad(x *int) \x7b\n\x7d\n" ++ "//export tick\nfunc tick() \x7b\x7d")))).toOption =
      none := by
      decide +kernel
    rw [hf] at hnone
    cases hnone
  have hmarker : ∀ c ∈ "//export bad".toList, isLineEnd c = false := by
    have hall : ("//export bad".toList.all fun c => !isLineEnd c) = true := by decide
    simpa using hall
  exact ⟨hclosed, hwhole,
    ((exported_append hclosed "//export tick\nfunc tick() \x7b\x7d").2 "//export bad"
      "func bad(x *int) \x7b\n\x7d\n" hmarker hwhole hrefused).2 (by decide +kernel)⟩

end EmbeddedGo.Go
