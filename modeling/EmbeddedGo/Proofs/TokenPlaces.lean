/-
EmbeddedGo.Proofs.TokenPlaces — where the tokens of a text stand in it.

Reading tokens loses nothing but blanks: the characters of the tokens, one behind the other, are the text
without its blanks (`flatMap_text_ofText`). Every token has its place in the text. What stands in front
of the place is read as the tokens before it, and what stands behind it as those behind it; and the token
fits there (`exists_place`): a word goes as far as it can, and dots that can be taken three at a time are.

So it does not matter which blanks stand between two parts of a declaration, if there are any.

  §1 tokens in front of a text
  §2 nothing is lost
  §3 places
  §4 blanks
-/
import EmbeddedGo.Proofs.TokenLayout

namespace EmbeddedGo.Go

open Text

namespace Token

variable {tokens before behind : List Token} {t : Token} {s left right : Text}

/-! ## §1 Tokens -/

/-- Whether a token can be read in front of a text. A word begins with an ASCII letter or an underscore
and does not go on in the text; dots are a mark each only where no three of them stand; a mark is one
character. -/
def Fits : Token → Text → Prop
  | word name, right => isIdentifier name = true ∧ wordEnds right = true
  | dots, _ => True
  | mark c, right => isMark c = true ∧ ¬ dots.text <+: c :: right

theorem dots_prefix_cons {c : Char} : dots.text <+: c :: s ↔ c = '.' ∧ ['.', '.'] <+: s := by
  change ['.', '.', '.'] <+: c :: s ↔ _
  rw [List.cons_prefix_cons, eq_comm]

/-- Where a token fits that begins with three dots, it is these. -/
theorem Fits.eq_dots (h : t.Fits right) (hdots : dots.text <+: t.text ++ right) : t = dots := by
  cases t with
  | word name =>
    obtain ⟨hname, -⟩ := h
    cases name with
    | nil => cases hname
    | cons c name =>
      simp only [isIdentifier, Bool.and_eq_true] at hname
      obtain ⟨rfl, -⟩ := dots_prefix_cons.1 hdots
      exact absurd hname.1 (by decide)
  | dots => rfl
  | mark c => exact absurd hdots h.2

/-- A token that fits holds no blanks. -/
theorem Fits.isBlank_of_mem (h : t.Fits right) {c : Char} (hc : c ∈ t.text) : isBlank c = false := by
  cases t with
  | word name => exact isBlank_of_isWord (isWord_of_mem_identifier h.1 hc)
  | dots =>
    have hdots : dots.text.all (!isBlank ·) = true := by decide
    simpa using List.all_eq_true.1 hdots c hc
  | mark d =>
    obtain ⟨hmark, -⟩ := h
    simp only [isMark, Bool.and_eq_true, Bool.not_eq_true'] at hmark
    rw [List.mem_singleton.1 hc]
    exact hmark.1

/-- What fits in front of a text fits in front of each of its beginnings. -/
theorem Fits.inFrontOf (h : t.Fits s) (hleft : left <+: s) : t.Fits left := by
  cases t with
  | word name =>
    obtain ⟨right, rfl⟩ := hleft
    refine ⟨h.1, ?_⟩
    cases left with
    | nil => rfl
    | cons c left => exact h.2
  | dots => trivial
  | mark c => exact ⟨h.1, fun hdots => h.2 (hdots.trans (List.cons_prefix_cons.2 ⟨rfl, hleft⟩))⟩

theorem Laid.token (ht : t.Fits s) (h : Laid tokens s) : Laid (t :: tokens) (t.text ++ s) := by
  cases t with
  | word name => exact .word ht.1 ht.2 h
  | dots => exact .dots h
  | mark c => exact .mark ht.1 (fun hdots => ht.2 (dots_prefix_cons.2 hdots)) h

/-- Layouts are made of blanks and of tokens that fit in front of what comes behind them. -/
theorem Laid.rec_fits {motive : ∀ tokens s, Laid tokens s → Prop} (nil : motive [] [] .nil)
    (blank : ∀ {tokens s c} (hc : isBlank c = true) (h : Laid tokens s), motive tokens s h →
      motive tokens (c :: s) (.blank hc h))
    (token : ∀ {t tokens s} (ht : t.Fits s) (h : Laid tokens s), motive tokens s h →
      motive (t :: tokens) (t.text ++ s) (.token ht h))
    {tokens : List Token} {s : Text} (h : Laid tokens s) : motive tokens s h := by
  induction h with
  | nil => exact nil
  | blank hc h ih => exact blank hc h ih
  | @word tokens name s hname hs h ih => exact @token (.word name) _ _ ⟨hname, hs⟩ h ih
  | dots h ih => exact @token .dots _ _ trivial h ih
  | @mark tokens s c hc hs h ih =>
    exact @token (.mark c) _ _ ⟨hc, fun hdots => hs (dots_prefix_cons.1 hdots)⟩ h ih

/-! ## §2 Characters -/

/-- What is laid out are the characters of the tokens, and blanks. -/
theorem Laid.flatMap_text (h : Laid tokens s) : tokens.flatMap text = s.filter (!isBlank ·) := by
  induction h using Laid.rec_fits with
  | nil => rfl
  | blank hc h ih => simp [hc, ih]
  | @token t tokens s ht h ih =>
    have hkept : t.text.filter (!isBlank ·) = t.text := by
      rw [List.filter_eq_self]
      intro c hc
      simp [ht.isBlank_of_mem hc]
    rw [List.flatMap_cons, ih, List.filter_append, hkept]

theorem flatMap_text_ofText (s : Text) : (ofText s).flatMap text = s.filter (!isBlank ·) :=
  (laid_ofText s).flatMap_text

/-! ## §3 Places -/

/-- A layout can be cut in front of a token and behind it. -/
theorem Laid.cut (h : Laid tokens s) (htokens : tokens = before ++ t :: behind) :
    ∃ left right, s = left ++ (t.text ++ right) ∧ Laid before left ∧ Laid behind right ∧
      t.Fits right := by
  induction h using Laid.rec_fits generalizing before with
  | nil => cases before <;> cases htokens
  | @blank tokens s c hc h ih =>
    obtain ⟨left, right, rfl, hleft, hright, hfits⟩ := ih htokens
    exact ⟨c :: left, right, rfl, .blank hc hleft, hright, hfits⟩
  | @token u tokens s hu h ih =>
    cases before with
    | nil =>
      cases htokens
      exact ⟨[], s, rfl, .nil, h, hu⟩
    | cons v before =>
      obtain ⟨rfl, hrest⟩ := List.cons.inj htokens
      obtain ⟨left, right, rfl, hleft, hright, hfits⟩ := ih hrest
      have hu : u.Fits left := hu.inFrontOf (List.prefix_append left _)
      exact ⟨u.text ++ left, right, by simp, .token hu hleft, hright, hfits⟩

/-- Every token of a text stands in it between what the tokens before it are read from and what those
behind it are read from. -/
theorem exists_place (h : ofText s = before ++ t :: behind) :
    ∃ left right, s = left ++ (t.text ++ right) ∧ ofText left = before ∧ ofText right = behind ∧
      t.Fits right := by
  obtain ⟨left, right, hs, hleft, hright, hfits⟩ := (laid_ofText s).cut h
  exact ⟨left, right, hs, ofText_eq_iff.2 hleft, ofText_eq_iff.2 hright, hfits⟩

/-! ## §4 Blanks -/

theorem Respaced.refl (s : Text) : Respaced s s := by
  induction s with
  | nil => exact .trailing rfl rfl
  | cons c s ih => exact .char c ih

/-- Blanks in the middle of a text can be exchanged for others. -/
theorem Respaced.between {g g' : Text} (hne : g ≠ []) (hg : g.all isBlank = true) (hne' : g' ≠ [])
    (hg' : g'.all isBlank = true) (left right : Text) :
    Respaced (left ++ (g ++ right)) (left ++ (g' ++ right)) := by
  induction left with
  | nil =>
    obtain ⟨b, g, rfl⟩ := List.exists_cons_of_ne_nil hne
    obtain ⟨b', g', rfl⟩ := List.exists_cons_of_ne_nil hne'
    simp only [List.all_cons, Bool.and_eq_true] at hg hg'
    exact .blanks hg.1 hg.2 hg'.1 hg'.2 (.refl right)
  | cons c left ih => exact .char c ih

end Token

open Token

/-- The tokens of a text are its characters without the blanks, in order. Each stands at a place of its
own, where it fits, and three dots at the place of a token are one token. So a declaration is read, or
refused, in the same way with any blanks in place of others. -/
theorem ofText_places (s : Text) :
    (ofText s).flatMap text = s.filter (!isBlank ·) ∧
      (∀ before t behind, ofText s = before ++ t :: behind →
        ∃ left right, s = left ++ (t.text ++ right) ∧ ofText left = before ∧
          ofText right = behind ∧ t.Fits right ∧ (dots.text <+: t.text ++ right → t = dots)) ∧
      ∀ left g g' right, s = left ++ (g ++ right) → g ≠ [] → g.all isBlank = true → g' ≠ [] →
        g'.all isBlank = true → Signature.parse (left ++ (g' ++ right)) = Signature.parse s := by
  refine ⟨flatMap_text_ofText s, ?_, ?_⟩
  · intro before t behind h
    obtain ⟨left, right, hs, hleft, hright, hfits⟩ := exists_place h
    exact ⟨left, right, hs, hleft, hright, hfits, hfits.eq_dots⟩
  · rintro left g g' right rfl hne hg hne' hg'
    rw [Signature.parse, Signature.parse, ofText_respaced (.between hne hg hne' hg' left right)]

/-- Four dots and a tab in front of a word, and the same with a line end in place of the tab. -/
theorem ofText_places_dots :
    ofText "f(....\tint)" = [word "f", mark '(', dots, mark '.'] ++ word "int" :: [mark ')'] ∧
      (∃ left right : Text, "f(....\tint)".toList = left ++ ((word "int").text ++ right) ∧
        ofText left = [word "f", mark '(', dots, mark '.'] ∧ ofText right = [mark ')'] ∧
        (word "int").Fits right) ∧
      Signature.parse ("f(....".toList ++ ("\r\n ".toList ++ "int)".toList)) =
        Signature.parse "f(....\tint)" := by
  have htokens : ofText "f(....\tint)" =
      [word "f", mark '(', dots, mark '.'] ++ word "int" :: [mark ')'] := by decide +kernel
  obtain ⟨-, hplaces, hblanks⟩ := ofText_places "f(....\tint)"
  obtain ⟨left, right, hs, hleft, hright, hfits, -⟩ := hplaces _ _ _ htokens
  exact ⟨htokens, ⟨left, right, hs, hleft, hright, hfits⟩, hblanks _ "\t" _ _ (by decide)
    (by decide) (by decide) (by decide) (by decide)⟩

end EmbeddedGo.Go
