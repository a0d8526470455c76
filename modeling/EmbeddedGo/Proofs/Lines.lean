/-
EmbeddedGo.Proofs.Lines — lines that can be shown.

Showing a markup can fail, and a command that cannot show a line ends there. A text that holds neither
an opening bracket nor a backslash is shown, alone or in a style (`shown_plain`, `shown_styled`). What
matters of the style is that it is written as a tag and that none of its words is a colour of three
parts, which is all that can go wrong with one. Whether a word is the name of a colour does not matter.

  §1 definitions of styles
  §2 tags between plain texts
  §3 lines
-/
import Mathlib.Data.List.TakeWhile
import EmbeddedGo.Console.Screen
import EmbeddedGo.Proofs.Doing
import EmbeddedGo.Proofs.Reference

namespace EmbeddedGo

/-! ## §1 Definitions -/

namespace Console

open Text

/-- No word is a colour of three parts. -/
def isTame (definition : Text) : Bool :=
  (fields definition).all fun word => (argument? "rgb" (lower word)).isNone

theorem argument_of_checkColour {s : Text} (h : checkColour s = .error .noNumber) :
    (argument? "rgb" s).isSome := by
  unfold checkColour at h
  split at h
  · cases h
  · split at h
    · split at h <;> cases h
    · split at h <;> cases h
    · next hrgb _ => exact hrgb ▸ rfl
    · cases h

theorem bind_readColour {α : Type} {word : Text} {f : Text → Except StyleFlaw α}
    (hword : checkColour (lower word) ≠ .error .noNumber) (hf : ∀ s, f s ≠ .error .noNumber) :
    (readColour word >>= f) ≠ .error .noNumber := by
  rw [readColour]
  cases hcheck : checkColour (lower word) with
  | ok u => exact hf _
  | error e =>
    rw [hcheck] at hword
    exact fun h => hword (Except.error.inj h ▸ rfl)

theorem Style.readWords_tame {words : List Text}
    (h : ∀ word ∈ words, checkColour (lower word) ≠ .error .noNumber) (style : Style) :
    readWords style words ≠ .error .noNumber := by
  fun_induction readWords style words with
  | case1 | case2 | case4 | case6 | case7 => simp
  | case3 style word _ colour rest ih =>
    exact bind_readColour (h colour (by simp)) fun _ => ih _ fun w hw => h w (by simp [hw])
  | case10 style word rest _ _ _ _ ih =>
    exact bind_readColour (h word (by simp)) fun _ => ih _ fun w hw => h w (by simp [hw])
  | case5 _ _ _ _ _ _ _ _ ih | case8 _ _ _ _ _ _ _ ih | case9 _ _ _ _ _ _ _ _ ih =>
    exact ih fun w hw => h w (by simp [hw])

theorem Style.read_tame {definition : Text} (h : isTame definition = true) :
    Style.read definition ≠ .error .noNumber := by
  rw [Style.read]
  split
  · simp
  · refine readWords_tame (fun word hword hcheck => ?_) _
    have hnone := List.all_eq_true.1 h word hword
    have hsome := argument_of_checkColour hcheck
    rw [Option.isNone_iff_eq_none.1 hnone] at hsome
    cases hsome

end Console

/-! ## §2 Tags -/

namespace Markup

open Text

theorem normal_tame {definition : Text} (h : Console.isTame definition = true) :
    ∃ style, normal definition = .ok style := by
  have hread := Console.Style.read_tame h
  rw [normal, Console.Style.normal]
  split
  · next s hs => exact ⟨s, rfl⟩
  · next e hs =>
    split at hs
    · cases hs
    · cases hs
    · next hno => exact absurd hno hread

theorem scan_plainly {s : Text} (hopen : '[' ∉ s) (hback : '\\' ∉ s) (rest : Text) :
    scan tag? (s ++ rest) = s.map Piece.plain ++ scan tag? rest := by
  induction s with
  | nil => rfl
  | cons c s ih =>
    have hc : c ≠ '[' := fun e => hopen (e ▸ List.mem_cons_self ..)
    have hb : c ≠ '\\' := fun e => hback (e ▸ List.mem_cons_self ..)
    have hnone : tag? (c :: (s ++ rest)) = none := by
      simp [tag?, hb, bracketed?, hc]
    rw [List.cons_append, scan_none hnone,
      ih (fun h => hopen (List.mem_cons_of_mem _ h)) fun h => hback (List.mem_cons_of_mem _ h)]
    rfl

/-- What stands inside a tag and in front of the next one. -/
def isBracketless (c : Char) : Bool := c ≠ '[' ∧ c ≠ ']'

/-- What is written as a tag. -/
structure IsInside (inside : Text) : Prop where
  start : inside.head?.any isTagStart = true
  noBracket : inside.all isBracketless = true

theorem bracketed?_cons (c : Char) (s : Text) :
    bracketed? ('[' :: c :: s) =
      if isTagStart c then
        match s.dropWhile isBracketless with
        | ']' :: rest => some (c :: s.takeWhile isBracketless, rest)
        | _ => none
      else none := rfl

theorem bracketed?_of_ne {c : Char} (hc : c ≠ '[') (s : Text) : bracketed? (c :: s) = none := by
  unfold bracketed?
  split
  · next heq => exact absurd (List.cons.inj heq).1 hc
  · rfl

theorem bracketed?_inside {inside : Text} (h : IsInside inside) (rest : Text) :
    bracketed? ('[' :: inside ++ ']' :: rest) = some (inside, rest) := by
  obtain ⟨hstart, hall⟩ := h
  cases inside with
  | nil => cases hstart
  | cons c s =>
    have hc : isTagStart c = true := by simpa using hstart
    have hall' : ∀ a ∈ s, isBracketless a = true :=
      fun a ha => List.all_eq_true.1 hall a (List.mem_cons_of_mem _ ha)
    have hdrop : (s ++ ']' :: rest).dropWhile isBracketless = ']' :: rest := by
      rw [List.dropWhile_append_of_pos hall']
      rfl
    have htake : (s ++ ']' :: rest).takeWhile isBracketless = s := by
      rw [List.takeWhile_append_of_pos hall', List.takeWhile_cons_of_neg (by decide),
        List.append_nil]
    show bracketed? ('[' :: c :: (s ++ ']' :: rest)) = _
    rw [bracketed?_cons, if_pos hc, hdrop, htake]
    rfl

/-- Backslashes belong to what comes behind them. -/
theorem tag?_backslashes (n : Nat) {s : Text} (hs : s.head? ≠ some '\\') :
    tag? (backslashes n ++ s) = (bracketed? s).map fun r => (⟨n, r.1⟩, r.2) := by
  have hall : ∀ c ∈ backslashes n, decide (c = '\\') = true :=
    fun c hc => by simpa using List.eq_of_mem_replicate hc
  have hhead : s.dropWhile (· = '\\') = s ∧ s.takeWhile (· = '\\') = [] := by
    cases s with
    | nil => exact ⟨rfl, rfl⟩
    | cons c s =>
      have hc : ¬ decide (c = '\\') = true := by simpa using hs
      exact ⟨List.dropWhile_cons_of_neg hc, List.takeWhile_cons_of_neg hc⟩
  rw [tag?, List.dropWhile_append_of_pos hall, List.takeWhile_append_of_pos hall, hhead.1, hhead.2,
    List.append_nil]
  simp [backslashes]

theorem scan_tag (n : Nat) {inside : Text} (h : IsInside inside) (rest : Text) :
    scan tag? (backslashes n ++ ('[' :: inside ++ ']' :: rest)) =
      .found ⟨n, inside⟩ :: scan tag? rest := by
  have hfound : tag? (backslashes n ++ ('[' :: inside ++ ']' :: rest)) =
      some (⟨n, inside⟩, rest) := by
    rw [tag?_backslashes n (by simp), bracketed?_inside h]
    rfl
  obtain ⟨c, s, hs⟩ : ∃ c s, backslashes n ++ ('[' :: inside ++ ']' :: rest) = c :: s := by
    cases n with
    | zero => exact ⟨_, _, rfl⟩
    | succ n => exact ⟨'\\', backslashes n ++ ('[' :: inside ++ ']' :: rest), rfl⟩
  have hlength : rest.length ≤ s.length := by
    have := congrArg List.length hs
    simp at this
    omega
  rw [hs] at hfound ⊢
  exact scan_found hfound hlength

theorem partsBehind_plain (done s : Text) (rest : List (Piece Tag)) :
    partsBehind done (s.map Piece.plain ++ rest) = partsBehind (s.reverse ++ done) rest := by
  induction s generalizing done with
  | nil => rfl
  | cons c s ih =>
    rw [List.map_cons, List.cons_append, partsBehind, ih]
    simp

theorem partsBehind_tag (done inside : Text) (rest : List (Piece Tag)) :
    partsBehind done (.found ⟨0, inside⟩ :: rest) =
      textPart done.reverse ++ .tag ⟨0, inside⟩ :: partsBehind [] rest := by
  rw [partsBehind]
  simp [tagParts, textPart, backslashes]

theorem parts_plain {s : Text} (hopen : '[' ∉ s) (hback : '\\' ∉ s) : parts s = textPart s := by
  have h := scan_plainly hopen hback []
  rw [List.append_nil, scan, List.append_nil] at h
  rw [parts, h, ← List.append_nil (s.map _), partsBehind_plain]
  simp [partsBehind]

/-! ## §3 Lines -/

/-- A style that a line can be shown in. -/
structure IsLineStyle (style : Text) : Prop where
  inside : IsInside style
  opens : style.head? ≠ some '/'
  noValue : '=' ∉ style
  trimmed : trim style = style
  tame : Console.isTame style = true
  /-- As a part of a line it is read with a blank behind it. -/
  tameOpened : Console.isTame (style ++ " ") = true
  tameClosed : Console.isTame ('/' :: style ++ " ") = true

theorem IsLineStyle.closing {style : Text} (h : IsLineStyle style) : '=' ∉ '/' :: style := by
  simpa using h.noValue

theorem parts_styled {style s : Text} (hstyle : IsLineStyle style) (hopen : '[' ∉ s)
    (hback : '\\' ∉ s) :
    parts (Command.styled style s) = .tag ⟨0, style⟩ :: textPart s ++ [.tag ⟨0, '/' :: style⟩] := by
  have hclose : IsInside ('/' :: style) :=
    ⟨rfl, hstyle.inside.noBracket⟩
  have htext : Command.styled style s =
      '[' :: style ++ ']' :: (s ++ ('[' :: ('/' :: style) ++ ']' :: [])) := by
    simp [Command.styled]
  have hfirst := scan_tag 0 hstyle.inside (s ++ ('[' :: ('/' :: style) ++ ']' :: []))
  have hlast := scan_tag 0 hclose []
  rw [backslashes, List.replicate_zero, List.nil_append] at hfirst hlast
  rw [parts, htext, hfirst, scan_plainly hopen hback, hlast, partsBehind_tag, partsBehind_plain,
    partsBehind_tag]
  simp [partsBehind, textPart, scan]

theorem parts_opened {style s : Text} (hstyle : IsLineStyle style) (hopen : '[' ∉ s)
    (hback : '\\' ∉ s) :
    parts ("[" ++ style ++ "]" ++ s) = .tag ⟨0, style⟩ :: textPart s := by
  have htext : ("[" ++ style ++ "]" ++ s : Text) = '[' :: style ++ ']' :: (s ++ []) := by simp
  have hfirst := scan_tag 0 hstyle.inside (s ++ [])
  rw [backslashes, List.replicate_zero, List.nil_append] at hfirst
  rw [parts, htext, hfirst, scan_plainly hopen hback, partsBehind_tag, partsBehind_plain]
  simp [partsBehind, textPart, scan]

theorem renderParts_textPart (s : Text) (openTags : List OpenTag) (rest : List Part) :
    renderParts openTags (textPart s ++ rest) =
      (renderParts openTags rest).map (Emoji.replace (unescape s) ++ ·) := by
  cases s with
  | nil =>
    show renderParts openTags rest = _
    rw [show Emoji.replace (unescape []) = [] by simp [unescape, Emoji.replace, scan]]
    cases renderParts openTags rest <;> rfl
  | cons c s =>
    show (do return _ ++ (← renderParts openTags rest)) = _
    cases renderParts openTags rest <;> rfl

theorem Tag.definition_of_not_mem (slashes : Nat) {inside : Text} (h : '=' ∉ inside) :
    Tag.definition ⟨slashes, inside⟩ = inside :=
  List.takeWhile_eq_self_iff.2 fun c hc => by simpa using fun e : c = '=' => h (e ▸ hc)

theorem Tag.parameter_of_not_mem (slashes : Nat) {inside : Text} (h : '=' ∉ inside) :
    Tag.parameter ⟨slashes, inside⟩ = [] := by
  rw [Tag.parameter, List.dropWhile_eq_nil_iff.2 fun c hc => by
    simpa using fun e : c = '=' => h (e ▸ hc)]
  rfl

theorem renderParts_open {style normalStyle : Text} (hstyle : IsLineStyle style)
    (hnormal : normal style = .ok normalStyle) (rest : List Part) :
    renderParts [] (.tag ⟨0, style⟩ :: rest) = renderParts [⟨normalStyle, []⟩] rest := by
  have hfollow : follow [] ⟨0, style⟩ = .ok [⟨normalStyle, []⟩] := by
    rw [follow, Tag.definition_of_not_mem 0 hstyle.noValue,
      Tag.parameter_of_not_mem 0 hstyle.noValue]
    split
    · exact absurd rfl hstyle.opens
    · rw [hnormal]
      rfl
  rw [renderParts, hfollow]
  rfl

theorem follow_close {style normalStyle : Text} (hstyle : IsLineStyle style)
    (hnormal : normal style = .ok normalStyle) (openTags : List OpenTag) {slashes : Nat} :
    follow (⟨normalStyle, []⟩ :: openTags) ⟨slashes, '/' :: style⟩ = .ok openTags := by
  have hne : style.isEmpty = false := by
    cases style with
    | nil => cases hstyle.inside.start
    | cons => rfl
  rw [follow, Tag.definition_of_not_mem slashes hstyle.closing]
  show close (trim style) _ = _
  rw [hstyle.trimmed, close, hnormal]
  simp [bind, Except.bind, hne, take?, OpenTag.isInOrder, isCall]
  rfl

theorem isShown_tag {inside : Text} (hvalue : '=' ∉ inside)
    (htame : Console.isTame (inside ++ " ") = true) {slashes : Nat} :
    Part.isShown (.tag ⟨slashes, inside⟩) = true := by
  have hread := Console.Style.read_tame htame
  rw [Part.isShown, Tag.definition_of_not_mem slashes hvalue,
    Tag.parameter_of_not_mem slashes hvalue]
  split
  · next h =>
    rw [List.append_nil] at h
    exact absurd h hread
  · rfl

theorem isShown_textPart (s : Text) : (textPart s).all Part.isShown = true := by
  cases s <;> rfl

theorem render_ok {markup : Text} {found : List Part} (hparts : parts markup = found)
    (hs : ∃ s, renderParts [] found = .ok s) (hall : found.all Part.isShown = true) :
    ∃ s, render markup = .ok s := by
  obtain ⟨s, hs⟩ := hs
  refine ⟨s, ?_⟩
  rw [render, hparts, hs]
  exact if_pos hall

theorem render_plain {s : Text} (hopen : '[' ∉ s) (hback : '\\' ∉ s) :
    ∃ shown, render s = .ok shown := by
  have hs := renderParts_textPart s [] []
  rw [List.append_nil] at hs
  exact render_ok (parts_plain hopen hback) ⟨_, hs⟩ (isShown_textPart s)

/-- A line in a style. -/
theorem render_styled {style s : Text} (hstyle : IsLineStyle style) (hopen : '[' ∉ s)
    (hback : '\\' ∉ s) : ∃ shown, render (Command.styled style s) = .ok shown := by
  obtain ⟨normalStyle, hnormal⟩ := normal_tame hstyle.tame
  have hs := renderParts_textPart s [⟨normalStyle, []⟩] [.tag ⟨0, '/' :: style⟩]
  rw [renderParts, follow_close hstyle hnormal] at hs
  refine render_ok (parts_styled hstyle hopen hback)
    ⟨_, (renderParts_open hstyle hnormal _).trans hs⟩ ?_
  simp [isShown_tag hstyle.noValue hstyle.tameOpened, isShown_textPart,
    isShown_tag hstyle.closing hstyle.tameClosed]

/-- A style that is open to the end of a line. -/
theorem render_opened {style s : Text} (hstyle : IsLineStyle style) (hopen : '[' ∉ s)
    (hback : '\\' ∉ s) : ∃ shown, render ("[" ++ style ++ "]" ++ s) = .ok shown := by
  obtain ⟨normalStyle, hnormal⟩ := normal_tame hstyle.tame
  have hs := renderParts_textPart s [⟨normalStyle, []⟩] []
  rw [List.append_nil] at hs
  refine render_ok (parts_opened hstyle hopen hback)
    ⟨_, (renderParts_open hstyle hnormal _).trans hs⟩ ?_
  simp [isShown_tag hstyle.noValue hstyle.tameOpened, isShown_textPart]

end Markup

/-! ## §4 Saying them -/

namespace Command

theorem isLineStyle_boldBlue : Markup.IsLineStyle "bold blue" :=
  ⟨⟨by decide, by decide⟩, by decide, by decide, by decide, by decide, by decide, by decide⟩

theorem isLineStyle_boldGreen : Markup.IsLineStyle "bold green" :=
  ⟨⟨by decide, by decide⟩, by decide, by decide, by decide, by decide, by decide, by decide⟩

theorem isLineStyle_boldRed : Markup.IsLineStyle "bold red" :=
  ⟨⟨by decide, by decide⟩, by decide, by decide, by decide, by decide, by decide, by decide⟩

theorem isLineStyle_red : Markup.IsLineStyle "red" :=
  ⟨⟨by decide, by decide⟩, by decide, by decide, by decide, by decide, by decide, by decide⟩

theorem isLineStyle_task : Markup.IsLineStyle "progress.description" :=
  ⟨⟨by decide, by decide⟩, by decide, by decide, by decide, by decide, by decide, by decide⟩

theorem isLineStyle_green : Markup.IsLineStyle "green" :=
  ⟨⟨by decide, by decide⟩, by decide, by decide, by decide, by decide, by decide, by decide⟩

theorem run_rendered {markup : Text} (h : ∃ s, Markup.render markup = .ok s) (d : Progress) :
    ∃ t, (rendered markup).run.run d = (.ok t, d) := by
  obtain ⟨s, hs⟩ := h
  refine ⟨Console.expandTabs (s.filter (!Console.isDropped ·)), ?_⟩
  rw [rendered, Console.shown, hs]
  rfl

/-- What can be rendered is said, and nothing else is done. -/
theorem run_say {markup : Text} (h : ∃ s, Markup.render markup = .ok s) (d : Progress) :
    ∃ shown, (say markup).run.run d = (.ok (), { d with shown }) := by
  obtain ⟨t, ht⟩ := run_rendered h d
  refine ⟨d.shown ++ [.text t], ?_⟩
  rw [say, run_bind, ht]
  rfl

theorem run_bind_say {α : Type} {markup : Text} (h : ∃ s, Markup.render markup = .ok s)
    (f : Unit → Doing α) (d : Progress) :
    ∃ shown, (say markup >>= f).run.run d = (f ()).run.run { d with shown } := by
  obtain ⟨shown, hsay⟩ := run_say h d
  exact ⟨shown, by rw [run_bind, hsay]⟩

end Command
end EmbeddedGo
