/-
EmbeddedGo.Proofs.Escaped — what is escaped can be shown, whatever it says.

A line about a failure quotes the words of others, a compiler's perhaps, or a path. They are escaped,
and then shown between the tags of a style. Every bracket that would open a tag has an odd number of
backslashes in front of it then, and so a scan finds nothing in the words but tags that are texts
(`scan_escapeTags`). Only the tag behind the words can be spoiled: backslashes at their end join it, and
if they are odd in number it is a text as well. That leaves the style open, which is no fault
(`render_escaped`).

  §1 brackets in other surroundings
  §2 escaping and scanning
  §3 lines
-/
import EmbeddedGo.Proofs.Lines

namespace EmbeddedGo.Markup

open Text

/-! ## §1 Brackets -/

/-- What is read as a tag is written as one. -/
theorem isInside_of_bracketed {s inside rest : Text} (h : bracketed? s = some (inside, rest)) :
    IsInside inside ∧ s = '[' :: inside ++ ']' :: rest := by
  cases s with
  | nil => cases h
  | cons b u =>
    by_cases hb : b = '['
    rotate_left
    · rw [bracketed?_of_ne hb] at h
      cases h
    subst hb
    cases u with
    | nil => cases h
    | cons c u =>
      rw [bracketed?_cons] at h
      split at h
      · next hc =>
        split at h
        · next hdrop =>
          cases h
          have hsplit := List.takeWhile_append_dropWhile (p := isBracketless) (l := u)
          rw [hdrop] at hsplit
          have hin : isBracketless c = true := by
            rcases Bool.eq_false_or_eq_true (isBracketless c) with hin | hout
            · exact hin
            · simp only [isBracketless, decide_eq_false_iff_not, not_and_or, not_not] at hout
              rcases hout with rfl | rfl
              · exact absurd hc (by decide)
              · exact absurd hc (by decide)
          refine ⟨⟨by simpa using hc, ?_⟩, ?_⟩
          · rw [List.all_cons, hin, Bool.true_and]
            exact List.all_takeWhile
          · rw [List.cons_append, List.cons_append, hsplit]
        · cases h
      · cases h

/-- A tag with its backslashes is what a text begins with. -/
theorem eq_of_tag {s rest : Text} {t : Tag} (h : tag? s = some (t, rest)) :
    IsInside t.inside ∧ s = backslashes t.slashes ++ (t.text ++ rest) := by
  rw [tag?, Option.map_eq_some_iff] at h
  obtain ⟨⟨inside, rest'⟩, hbracketed, hpair⟩ := h
  cases hpair
  obtain ⟨hinside, hdrop⟩ := isInside_of_bracketed hbracketed
  refine ⟨hinside, ?_⟩
  have htake : s.takeWhile (· = '\\') = backslashes (s.takeWhile (· = '\\')).length :=
    List.eq_replicate_iff.2 ⟨rfl, fun c hc => by simpa using List.mem_takeWhile_imp hc⟩
  have hsplit : s.takeWhile (· = '\\') ++ s.dropWhile (· = '\\') = s :=
    List.takeWhile_append_dropWhile
  show s = backslashes (s.takeWhile (· = '\\')).length ++ ('[' :: inside ++ [']'] ++ rest')
  rw [← htake, List.append_assoc, List.singleton_append, ← hdrop, hsplit]

/-! ## §2 Escaping -/

/-- A text with a backslash more in front of what would be a tag, before its end is looked after. -/
def escapeTags (s : Text) : Text := (scan tag? s).flatMap escapePiece

theorem escapeTags_plain {c : Char} {s : Text} (h : tag? (c :: s) = none) :
    escapeTags (c :: s) = c :: escapeTags s := by
  rw [escapeTags, scan_none h]
  rfl

theorem escapeTags_tag {c : Char} {s rest : Text} {t : Tag} (h : tag? (c :: s) = some (t, rest)) :
    rest.length ≤ s.length ∧
      escapeTags (c :: s) = backslashes (2 * t.slashes + 1) ++ (t.text ++ escapeTags rest) := by
  have hlength : rest.length ≤ s.length := by
    have := congrArg List.length (eq_of_tag h).2
    simp [Tag.text] at this
    omega
  refine ⟨hlength, ?_⟩
  rw [escapeTags, scan_found h hlength]
  simp [escapePiece, escapeTags]

variable {inside : Text}

/-- A tag that comes behind escaped words. -/
def behindWords (j : Nat) (inside : Text) : Text := backslashes j ++ ('[' :: inside ++ [']'])

theorem dropWhile_backslashes (n : Nat) (s : Text) :
    ((backslashes n ++ s).dropWhile isBracketless) = s.dropWhile isBracketless := by
  rw [List.dropWhile_append_of_pos fun c hc => ?_]
  rw [List.eq_of_mem_replicate hc]
  decide

/-- Where the next bracket of words does not close a tag, it does not when they are escaped. -/
theorem opens_escapeTags (j : Nat) (inside : Text) {s : Text}
    (hs : (s.dropWhile isBracketless).head? ≠ some ']') :
    ((escapeTags s ++ behindWords j inside).dropWhile isBracketless).head? = some '[' := by
  induction s with
  | nil =>
    rw [escapeTags, scan, List.flatMap_nil, List.nil_append, behindWords,
      dropWhile_backslashes]
    rfl
  | cons c s ih =>
    rcases htag : tag? (c :: s) with _ | ⟨t, rest⟩
    · rw [escapeTags_plain htag, List.cons_append]
      by_cases hc : isBracketless c = true
      · rw [List.dropWhile_cons_of_pos hc] at hs ⊢
        exact ih hs
      · rw [List.dropWhile_cons_of_neg hc] at hs ⊢
        have hbracket : c = '[' ∨ c = ']' := by
          simpa only [isBracketless, decide_eq_true_eq, not_and_or, not_not] using hc
        rcases hbracket with rfl | rfl
        · rfl
        · exact absurd rfl hs
    · rw [(escapeTags_tag htag).2, List.append_assoc, dropWhile_backslashes]
      rfl

/-- A bracket that opens no tag opens none when what follows is escaped. -/
theorem bracketed?_escapeTags (j : Nat) (inside : Text) {c : Char} {s : Text}
    (h : bracketed? (c :: s) = none) :
    bracketed? (c :: (escapeTags s ++ behindWords j inside)) = none := by
  by_cases hc : c = '['
  rotate_left
  · exact bracketed?_of_ne hc _
  subst hc
  have hnot : ∀ (d : Char) (u : Text), isTagStart d = false → bracketed? ('[' :: d :: u) = none :=
    fun d u hd => by rw [bracketed?_cons, if_neg (by simp [hd])]
  cases s with
  | nil =>
    rw [escapeTags, scan, List.flatMap_nil, List.nil_append]
    cases j with
    | zero => exact hnot '[' _ (by decide)
    | succ j => exact hnot '\\' _ (by decide)
  | cons d s =>
    rcases htag : tag? (d :: s) with _ | ⟨t, rest⟩
    · rw [escapeTags_plain htag, List.cons_append, bracketed?_cons]
      rw [bracketed?_cons] at h
      by_cases hd : isTagStart d = true
      · rw [if_pos hd] at h ⊢
        have hopen := opens_escapeTags j inside (s := s) fun hclose => by
          obtain ⟨rest, hrest⟩ : ∃ rest, s.dropWhile isBracketless = ']' :: rest := by
            cases hdrop : s.dropWhile isBracketless with
            | nil => simp [hdrop] at hclose
            | cons b rest => 
              rw [hdrop, List.head?_cons, Option.some_inj] at hclose
              exact ⟨rest, by rw [hclose]⟩
          rw [hrest] at h
          cases h
        split
        · next hdrop =>
          rw [hdrop] at hopen
          cases hopen
        · rfl
      · rw [if_neg hd]
    · rw [(escapeTags_tag htag).2]
      exact hnot '\\' _ (by decide)

/-- A piece that is shown as a text. -/
def IsQuoted : Piece Tag → Prop
  | .plain _ => True
  | .found t => t.slashes % 2 = 1

/-- A text behind its backslashes. -/
theorem exists_backslashes (s : Text) : ∃ n u, s = backslashes n ++ u ∧ u.head? ≠ some '\\' := by
  induction s with
  | nil => exact ⟨0, [], rfl, by simp⟩
  | cons c s ih =>
    by_cases hc : c = '\\'
    · obtain ⟨n, u, rfl, hu⟩ := ih
      exact ⟨n + 1, u, by rw [hc]; rfl, hu⟩
    · exact ⟨0, c :: s, rfl, by simpa using hc⟩

/-- What opens no tag is passed by, with the backslashes in front of it. -/
theorem scan_untagged (n : Nat) {c : Char} {s : Text} (hc : c ≠ '\\')
    (h : bracketed? (c :: s) = none) :
    scan tag? (backslashes n ++ c :: s) =
      (backslashes n ++ [c]).map Piece.plain ++ scan tag? s := by
  have hnone : ∀ k, tag? (backslashes k ++ c :: s) = none := fun k => by
    rw [tag?_backslashes k (by simpa using hc), h]
    rfl
  induction n with
  | zero => exact scan_none (hnone 0)
  | succ n ih =>
    have hfirst : scan tag? ('\\' :: (backslashes n ++ c :: s)) =
        .plain '\\' :: scan tag? (backslashes n ++ c :: s) := scan_none (hnone (n + 1))
    rw [ih] at hfirst
    exact hfirst

theorem scan_backslashes (n : Nat) : scan tag? (backslashes n) = (backslashes n).map Piece.plain := by
  induction n with
  | zero => rw [backslashes, List.replicate_zero, scan, List.map_nil]
  | succ n ih =>
    have hnone : tag? (backslashes (n + 1)) = none := by
      have h := tag?_backslashes (n + 1) (s := []) (by simp)
      rw [List.append_nil] at h
      rw [h]
      rfl
    have hfirst : scan tag? ('\\' :: backslashes n) = .plain '\\' :: scan tag? (backslashes n) :=
      scan_none hnone
    rw [ih] at hfirst
    exact hfirst

theorem flatMap_escape_plain (s : Text) : (s.map Piece.plain).flatMap escapePiece = s := by
  induction s with
  | nil => rfl
  | cons c s ih => rw [List.map_cons, List.flatMap_cons, ih, escapePiece, List.singleton_append]

/-- Escaped words hold no tag. The one behind them takes the backslashes that stand at their end. -/
theorem scan_escapeTags (j : Nat) (hinside : IsInside inside) (s : Text) :
    ∃ quoted k, (∀ piece ∈ quoted, IsQuoted piece) ∧
      scan tag? (escapeTags s ++ behindWords j inside) = quoted ++ [.found ⟨k, inside⟩] := by
  have hplain : ∀ u : Text, ∀ piece ∈ u.map Piece.plain, IsQuoted piece := by
    intro u piece hpiece
    obtain ⟨c, -, rfl⟩ := List.mem_map.1 hpiece
    trivial
  induction h : s.length using Nat.strongRecOn generalizing s with
  | ind m ih =>
    obtain ⟨n, u, rfl, hu⟩ := exists_backslashes s
    cases u with
    | nil =>
      -- the backslashes join the tag behind them
      refine ⟨[], n + j, by simp, ?_⟩
      rw [List.append_nil, escapeTags, scan_backslashes, flatMap_escape_plain, behindWords,
        ← List.append_assoc, backslashes, backslashes, List.replicate_append_replicate]
      exact (scan_tag (n + j) hinside []).trans (by rw [scan, List.nil_append])
    | cons c u =>
      have hc : c ≠ '\\' := by simpa using hu
      rcases hbracketed : bracketed? (c :: u) with _ | ⟨inside', rest⟩
      · obtain ⟨quoted, k, hquoted, hscan⟩ := ih u.length (by rw [← h]; simp; omega) u rfl
        refine ⟨(backslashes n ++ [c]).map Piece.plain ++ quoted, k, ?_, ?_⟩
        · rintro piece hpiece
          exact (List.mem_append.1 hpiece).elim (hplain _ piece) (hquoted piece)
        · rw [escapeTags, scan_untagged n hc hbracketed, List.flatMap_append, flatMap_escape_plain,
            List.append_assoc, List.append_assoc, List.append_assoc, ← hscan]
          exact scan_untagged n hc (bracketed?_escapeTags j inside hbracketed)
      · obtain ⟨hinside', hsplit⟩ := isInside_of_bracketed hbracketed
        rw [hsplit] at h ⊢
        obtain ⟨quoted, k, hquoted, hscan⟩ := ih rest.length (by rw [← h]; simp; omega) rest rfl
        refine ⟨.found ⟨2 * n + 1, inside'⟩ :: quoted, k, ?_, ?_⟩
        · refine List.forall_mem_cons.2 ⟨?_, hquoted⟩
          show (2 * n + 1) % 2 = 1
          omega
        · rw [escapeTags, scan_tag n hinside' rest, List.flatMap_cons, List.cons_append, ← hscan,
            ← scan_tag (2 * n + 1) hinside' (escapeTags rest ++ behindWords j inside)]
          simp [escapePiece, Tag.text, escapeTags]

/-- The same of words whose last backslash was looked after. -/
theorem scan_escape (hinside : IsInside inside) (s : Text) :
    ∃ quoted k, (∀ piece ∈ quoted, IsQuoted piece) ∧
      scan tag? (escape s ++ ('[' :: inside ++ [']'])) = quoted ++ [.found ⟨k, inside⟩] := by
  have hlast : escape s = escapeTags s ∨ escape s = escapeTags s ++ backslashes 1 := by
    show doubleLast (escapeTags s) = _ ∨ doubleLast (escapeTags s) = _
    unfold doubleLast
    split
    · exact .inl rfl
    · exact .inr rfl
    · exact .inl rfl
  rcases hlast with hsame | hmore
  · rw [hsame]
    exact scan_escapeTags 0 hinside s
  · rw [hmore, List.append_assoc]
    exact scan_escapeTags 1 hinside s

/-! ## §3 Lines -/

/-- Parts that are texts. -/
def AreTexts (found : List Part) : Prop := ∀ part ∈ found, ∃ s, part = .text s

theorem areTexts_textPart (s : Text) : AreTexts (textPart s) := by
  unfold textPart
  split
  · simp [AreTexts]
  · intro part hpart
    exact ⟨s, List.mem_singleton.1 hpart⟩

theorem AreTexts.append {found found' : List Part} (h : AreTexts found) (h' : AreTexts found') :
    AreTexts (found ++ found') :=
  fun part hpart => (List.mem_append.1 hpart).elim (h part) (h' part)

theorem AreTexts.all_isShown {found : List Part} (h : AreTexts found) :
    found.all Part.isShown = true := by
  refine List.all_eq_true.2 fun part hpart => ?_
  obtain ⟨s, rfl⟩ := h part hpart
  rfl

/-- Quoted pieces are shown as texts. -/
theorem partsBehind_quoted {quoted : List (Piece Tag)} (h : ∀ piece ∈ quoted, IsQuoted piece)
    (done : Text) (rest : List (Piece Tag)) :
    ∃ texts done', AreTexts texts ∧
      partsBehind done (quoted ++ rest) = texts ++ partsBehind done' rest := by
  induction quoted generalizing done with
  | nil => exact ⟨[], done, by simp [AreTexts], rfl⟩
  | cons piece quoted ih =>
    have hrest := ih fun piece hpiece => h piece (List.mem_cons_of_mem _ hpiece)
    cases piece with
    | plain c => exact hrest (c :: done)
    | found t =>
      obtain ⟨texts, done', htexts, hparts⟩ := hrest []
      have hodd : t.slashes % 2 = 1 := h (.found t) (List.mem_cons_self ..)
      have htag : AreTexts (tagParts t) := by
        rw [tagParts, if_pos hodd]
        refine (areTexts_textPart _).append fun part hpart => ?_
        exact ⟨t.text, List.mem_singleton.1 hpart⟩
      refine ⟨textPart done.reverse ++ tagParts t ++ texts, done',
        ((areTexts_textPart _).append htag).append htexts, ?_⟩
      rw [List.cons_append, partsBehind, hparts]
      simp

theorem renderParts_texts {texts : List Part} (h : AreTexts texts) {openTags : List OpenTag}
    {rest : List Part} (hrest : ∃ s, renderParts openTags rest = .ok s) :
    ∃ s, renderParts openTags (texts ++ rest) = .ok s := by
  induction texts with
  | nil => exact hrest
  | cons part texts ih =>
    obtain ⟨s, rfl⟩ := h part (List.mem_cons_self ..)
    obtain ⟨s', hs'⟩ := ih fun part hpart => h part (List.mem_cons_of_mem _ hpart)
    refine ⟨Emoji.replace (unescape s) ++ s', ?_⟩
    rw [List.cons_append, renderParts, hs']
    rfl

/-- Whatever escaped words say, they can be shown in a style, behind a beginning without tags. -/
theorem render_escaped {style start : Text} (hstyle : IsLineStyle style) (hopen : '[' ∉ start)
    (hback : '\\' ∉ start) (s : Text) :
    ∃ shown, render (Command.styled style (start ++ escape s)) = .ok shown := by
  have hclose : IsInside ('/' :: style) := ⟨rfl, hstyle.inside.noBracket⟩
  obtain ⟨normalStyle, hnormal⟩ := normal_tame hstyle.tame
  obtain ⟨quoted, k, hquoted, hscan⟩ := scan_escape hclose s
  have htext : Command.styled style (start ++ escape s) =
      backslashes 0 ++ ('[' :: style ++ ']' ::
        (start ++ (escape s ++ ('[' :: ('/' :: style) ++ [']'])))) := by
    simp [Command.styled, backslashes]
  have hpieces : scan tag? (Command.styled style (start ++ escape s)) =
      .found ⟨0, style⟩ :: ((start.map Piece.plain ++ quoted) ++ [.found ⟨k, '/' :: style⟩]) := by
    rw [htext, scan_tag 0 hstyle.inside, scan_plainly hopen hback, hscan, List.append_assoc]
  have hall : ∀ piece ∈ start.map Piece.plain ++ quoted, IsQuoted piece := by
    intro piece hpiece
    rcases List.mem_append.1 hpiece with hplain | hin
    · obtain ⟨c, -, rfl⟩ := List.mem_map.1 hplain
      trivial
    · exact hquoted piece hin
  obtain ⟨texts, done, htexts, hparts⟩ := partsBehind_quoted hall [] [.found ⟨k, '/' :: style⟩]
  -- the tag behind the words closes the style, or is one more text
  have hrest : ∃ ends : List Part, AreTexts ends ∧
      (partsBehind done [.found ⟨k, '/' :: style⟩] = ends ++ [.tag ⟨k, '/' :: style⟩] ∨
        partsBehind done [.found ⟨k, '/' :: style⟩] = ends) := by
    have hends := (areTexts_textPart done.reverse).append (areTexts_textPart (backslashes (k / 2)))
    by_cases hk : k % 2 = 1
    · refine ⟨_ ++ [.text (Tag.text ⟨k, '/' :: style⟩)], hends.append fun part hpart => ?_, .inr ?_⟩
      · exact ⟨_, List.mem_singleton.1 hpart⟩
      · simp [partsBehind, tagParts, hk, textPart]
    · refine ⟨_, hends, .inl ?_⟩
      simp [partsBehind, tagParts, hk, textPart]
  obtain ⟨ends, hends, hlast⟩ := hrest
  have hfound : parts (Command.styled style (start ++ escape s)) =
      .tag ⟨0, style⟩ :: (texts ++ partsBehind done [.found ⟨k, '/' :: style⟩]) := by
    rw [parts, hpieces, partsBehind_tag, hparts]
    rfl
  refine render_ok hfound ?_ ?_
  · rw [renderParts_open hstyle hnormal]
    refine renderParts_texts htexts ?_
    rcases hlast with hclosed | hopened
    · rw [hclosed]
      refine renderParts_texts hends ⟨[], ?_⟩
      rw [renderParts, follow_close hstyle hnormal]
      rfl
    · rw [hopened, ← List.append_nil ends]
      exact renderParts_texts hends ⟨[], rfl⟩
  · rw [List.all_cons, isShown_tag hstyle.noValue hstyle.tameOpened, Bool.true_and, List.all_append,
      htexts.all_isShown, Bool.true_and]
    rcases hlast with hclosed | hopened
    · rw [hclosed, List.all_append, hends.all_isShown, Bool.true_and]
      simp [isShown_tag hstyle.closing hstyle.tameClosed]
    · rw [hopened, hends.all_isShown]

end EmbeddedGo.Markup
