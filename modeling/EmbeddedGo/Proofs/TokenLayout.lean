/-
EmbeddedGo.Proofs.TokenLayout — how tokens can be laid out in a text.

A list of tokens can be written with blanks and line ends in front of every token and behind the last.
Only where a word would go on into what follows do they have to be there. That is said without the
reader (`Laid`), and what the reader takes from a text is the one list that the text lays out
(`ofText_eq_iff`). So blanks can be exchanged for others (`ofText_respaced`), and a declaration reads the
same whether it is looked at line by line or as one text (`parse_declaration`).

  §1 words and blanks
  §2 the layouts of tokens
  §3 exchanging blanks
  §4 the lines of a declaration
-/
import EmbeddedGo.Go.Exports
import EmbeddedGo.Proofs.LineEnds

namespace EmbeddedGo

/-! ## §1 Words and blanks -/

namespace Text

/-- Whether a text is a word as a whole. -/
def isIdentifier : Text → Bool
  | [] => false
  | c :: s => isWordStart c && s.all isWord

/-- The code points of all blanks. -/
def blankCodes : List Nat := [9, 10, 11, 12, 13, 28, 29, 30, 31, 32, 0x85, 0xA0, 0x1680, 0x2000, 0x2001,
  0x2002, 0x2003, 0x2004, 0x2005, 0x2006, 0x2007, 0x2008, 0x2009, 0x200A, 0x2028, 0x2029, 0x202F, 0x205F,
  0x3000]

theorem toNat_mem_blankCodes {c : Char} (h : isBlank c = true) : c.toNat ∈ blankCodes := by
  simp only [isBlank, Bool.or_eq_true, Bool.and_eq_true, decide_eq_true_eq, beq_iff_eq] at h
  simp only [blankCodes, List.mem_cons, List.not_mem_nil, or_false]
  omega

/-- No blank is a part of a word. -/
theorem isWord_of_isBlank {c : Char} (h : isBlank c = true) : isWord c = false := by
  have hmem := toNat_mem_blankCodes h
  by_cases hlt : c.toNat < 128
  · have hall : ∀ n ∈ blankCodes, n < 128 → isWord (Char.ofNat n) = false := by decide
    rw [← Char.ofNat_toNat c]
    exact hall _ hmem hlt
  · have hall : ∀ n ∈ blankCodes, (inRanges wordRanges1 n || inRanges wordRanges2 n ||
        inRanges wordRanges3 n || inRanges wordRanges4 n) = false := by decide +kernel
    rw [isWord, if_neg hlt]
    exact hall _ hmem

theorem isBlank_of_isWord {c : Char} (h : isWord c = true) : isBlank c = false := by
  rw [← Bool.not_eq_true]
  intro hb
  rw [isWord_of_isBlank hb] at h
  cases h

/-- A word can go on with ASCII letters and digits. -/
theorem isWord_of_isAlphanum {c : Char} (h : c.isAlphanum = true) : isWord c = true := by
  rw [isWord, if_pos (lt_of_isAlphanum h), h]
  rfl

/-- What a word can begin with it can go on with. -/
theorem isWord_of_isWordStart {c : Char} (h : isWordStart c = true) : isWord c = true := by
  rcases (by simpa [isWordStart] using h : c.isAlpha = true ∨ c = '_') with ha | rfl
  · exact isWord_of_isAlphanum (by rw [Char.isAlphanum, ha, Bool.true_or])
  · decide

theorem isWord_of_mem_identifier {name : Text} (h : isIdentifier name = true) {c : Char}
    (hc : c ∈ name) : isWord c = true := by
  cases name with
  | nil => cases hc
  | cons d s =>
    simp only [isIdentifier, Bool.and_eq_true, List.all_eq_true] at h
    rcases List.mem_cons.1 hc with rfl | hc
    · exact isWord_of_isWordStart h.1
    · exact h.2 c hc

/-- A word ends where no character of a word follows. -/
theorem span_of_wordEnds {name s : Text} (hname : ∀ c ∈ name, isWord c = true)
    (hs : wordEnds s = true) :
    (name ++ s).takeWhile isWord = name ∧ (name ++ s).dropWhile isWord = s := by
  rw [List.takeWhile_append_of_pos hname, List.dropWhile_append_of_pos hname]
  cases s with
  | nil => simp
  | cons c s =>
    have hc : isWord c = false := by simpa [wordEnds] using hs
    simp [hc]

theorem wordEnds_dropWhile (s : Text) : wordEnds (s.dropWhile isWord) = true := by
  induction s with
  | nil => rfl
  | cons c s ih =>
    by_cases hc : isWord c = true
    · rwa [List.dropWhile_cons_of_pos hc]
    · rw [List.dropWhile_cons_of_neg hc]
      simpa [wordEnds] using hc

end Text

namespace Go

open Text

/-! ## §2 Layouts -/

namespace Token

variable {tokens : List Token} {s : Text} {c : Char}

/-- Whether a character is a mark by itself. -/
def isMark (c : Char) : Bool := !isBlank c && !isWordStart c

/-- The texts that tokens can be written as. A word is written whole, and three dots are never three
marks. -/
inductive Laid : List Token → Text → Prop where
  | nil : Laid [] []
  | blank {tokens : List Token} {s : Text} {c : Char} (hc : isBlank c = true) (h : Laid tokens s) :
    Laid tokens (c :: s)
  | word {tokens : List Token} {name s : Text} (hname : isIdentifier name = true)
    (hs : wordEnds s = true) (h : Laid tokens s) : Laid (word name :: tokens) (name ++ s)
  | dots {tokens : List Token} {s : Text} (h : Laid tokens s) :
    Laid (dots :: tokens) ('.' :: '.' :: '.' :: s)
  | mark {tokens : List Token} {s : Text} {c : Char} (hc : isMark c = true)
    (hs : ¬ (c = '.' ∧ ['.', '.'] <+: s)) (h : Laid tokens s) : Laid (mark c :: tokens) (c :: s)

theorem ofText_blank (hc : isBlank c = true) (s : Text) : ofText (c :: s) = ofText s := by
  rw [ofText.eq_def]
  split
  · next h => cases h
  · next h =>
    cases h
    cases hc
  · next h =>
    cases h
    rw [if_pos hc]

theorem ofText_word (hc : isWordStart c = true) (s : Text) :
    ofText (c :: s) = word (c :: s.takeWhile isWord) :: ofText (s.dropWhile isWord) := by
  have hb : isBlank c = false := isBlank_of_isWord (isWord_of_isWordStart hc)
  rw [ofText.eq_def]
  split
  · next h => cases h
  · next h =>
    cases h
    cases hc
  · next h =>
    cases h
    rw [if_neg (by simp [hb]), if_pos hc]

theorem ofText_mark (hc : isMark c = true) (hs : ¬ (c = '.' ∧ ['.', '.'] <+: s)) :
    ofText (c :: s) = mark c :: ofText s := by
  simp only [isMark, Bool.and_eq_true, Bool.not_eq_true'] at hc
  rw [ofText.eq_def]
  split
  · next h => cases h
  · next s' h =>
    cases h
    exact absurd ⟨rfl, s', rfl⟩ hs
  · next h =>
    cases h
    rw [if_neg (by simp [hc.1]), if_neg (by simp [hc.2])]

/-- A text lays out what is read from it. -/
theorem laid_ofText (s : Text) : Laid (ofText s) s := by
  fun_induction ofText s with
  | case1 => exact .nil
  | case2 s ih => exact .dots ih
  | case3 c s _ hc ih => exact .blank hc ih
  | case4 c s _ _ hc ih =>
    have hname : isIdentifier (c :: s.takeWhile isWord) = true := by
      rw [isIdentifier, hc, List.all_takeWhile]
      rfl
    have hlaid := Laid.word hname (wordEnds_dropWhile s) ih
    rwa [List.cons_append, List.takeWhile_append_dropWhile] at hlaid
  | case5 c s hdots hb hc ih =>
    refine .mark (by simp [isMark, hb, hc]) ?_ ih
    rintro ⟨rfl, s', rfl⟩
    exact hdots s' rfl rfl

/-- What is read from a text is what it lays out. -/
theorem ofText_eq_iff : ofText s = tokens ↔ Laid tokens s := by
  constructor
  · rintro rfl
    exact laid_ofText s
  · intro h
    induction h with
    | nil => rw [ofText.eq_def]
    | blank hc h ih => rw [ofText_blank hc, ih]
    | @word tokens name s hname hs h ih =>
      cases name with
      | nil => cases hname
      | cons c name =>
        simp only [isIdentifier, Bool.and_eq_true, List.all_eq_true] at hname
        obtain ⟨htake, hdrop⟩ := span_of_wordEnds hname.2 hs
        rw [List.cons_append, ofText_word hname.1, htake, hdrop, ih]
    | dots h ih =>
      rw [ofText.eq_def]
      exact congrArg _ ih
    | mark hc hs h ih => rw [ofText_mark hc hs, ih]

/-! ## §3 Blanks -/

/-- The texts have the same characters, but other blanks where the first has some; at the end there
may be none. -/
inductive Respaced : Text → Text → Prop where
  | trailing {g g' : Text} (hg : g.all isBlank = true) (hg' : g'.all isBlank = true) : Respaced g g'
  | char (c : Char) {s s' : Text} (h : Respaced s s') : Respaced (c :: s) (c :: s')
  | blanks {b b' : Char} {g g' s s' : Text} (hb : isBlank b = true) (hg : g.all isBlank = true)
    (hb' : isBlank b' = true) (hg' : g'.all isBlank = true) (h : Respaced s s') :
    Respaced (b :: g ++ s) (b' :: g' ++ s')

theorem laid_of_all_isBlank (hs : s.all isBlank = true) : Laid tokens s ↔ tokens = [] := by
  have hnil : Laid [] s := by
    induction s with
    | nil => exact .nil
    | cons c s ih =>
      simp only [List.all_cons, Bool.and_eq_true] at hs
      exact .blank hs.1 (ih hs.2)
  rw [← ofText_eq_iff] at hnil ⊢
  rw [hnil, eq_comm]

theorem Laid.blanks {g : Text} (hg : g.all isBlank = true) (h : Laid tokens s) :
    Laid tokens (g ++ s) := by
  induction g with
  | nil => exact h
  | cons c g ih =>
    simp only [List.all_cons, Bool.and_eq_true] at hg
    exact .blank hg.1 (ih hg.2)

/-- Words are no blanks, so they stay when blanks are exchanged. -/
theorem Respaced.of_append {name s t : Text} (hname : ∀ c ∈ name, isBlank c = false)
    (h : Respaced (name ++ s) t) : ∃ s', t = name ++ s' ∧ Respaced s s' := by
  induction name generalizing t with
  | nil => exact ⟨t, rfl, h⟩
  | cons c name ih =>
    have hc := hname c (by simp)
    have ih := fun t' h' => @ih t' (fun d hd => hname d (by simp [hd])) h'
    generalize htext : c :: name ++ s = text at h
    cases h with
    | trailing hg hg' =>
      subst htext
      simp [hc] at hg
    | char d h =>
      cases htext
      obtain ⟨s', rfl, hs'⟩ := ih _ h
      exact ⟨s', rfl, hs'⟩
    | blanks hb hg hb' hg' h =>
      obtain ⟨rfl, -⟩ := List.cons.inj htext
      rw [hc] at hb
      cases hb

theorem Respaced.wordEnds {s s' : Text} (h : Respaced s s') (hs : wordEnds s = true) :
    wordEnds s' = true := by
  have hblank : ∀ {b : Char}, isBlank b = true → Text.wordEnds (b :: []) = true := fun hb => by
    simp [Text.wordEnds, isWord_of_isBlank hb]
  cases h with
  | trailing hg hg' =>
    cases s' with
    | nil => rfl
    | cons b s' =>
      simp only [List.all_cons, Bool.and_eq_true] at hg'
      exact hblank hg'.1
  | char c h => exact hs
  | blanks hb hg hb' hg' h => exact hblank hb'

theorem Respaced.not_dots {s s' : Text} (h : Respaced s s') (hs : ¬ ['.', '.'] <+: s) :
    ¬ ['.', '.'] <+: s' := by
  have hdot : isBlank '.' = false := by decide
  -- a text that begins with a dot was respaced from one that does
  have hhead : ∀ {s t : Text}, Respaced s ('.' :: t) → ∃ s₁, s = '.' :: s₁ ∧ Respaced s₁ t := by
    intro s t h
    generalize htext : '.' :: t = text at h
    cases h with
    | trailing hg hg' =>
      subst htext
      simp [hdot] at hg'
    | char c h =>
      cases htext
      exact ⟨_, rfl, h⟩
    | blanks hb hg hb' hg' h =>
      obtain ⟨rfl, -⟩ := List.cons.inj htext
      rw [hdot] at hb'
      cases hb'
  rintro ⟨t, rfl⟩
  obtain ⟨s₁, rfl, h₁⟩ := hhead h
  obtain ⟨s₂, rfl, -⟩ := hhead h₁
  exact hs ⟨s₂, rfl⟩

/-- What is laid out stays laid out when blanks are exchanged. -/
theorem Laid.respaced {t : Text} (h : Laid tokens s) (hst : Respaced s t) : Laid tokens t := by
  induction h generalizing t with
  | nil =>
    cases hst with
    | trailing hg hg' => exact (laid_of_all_isBlank hg').2 rfl
  | @blank tokens s c hc h ih =>
    generalize htext : c :: s = text at hst
    cases hst with
    | @trailing g g' hg hg' =>
      subst htext
      simp only [List.all_cons, Bool.and_eq_true] at hg
      rw [laid_of_all_isBlank hg']
      exact (laid_of_all_isBlank hg.2).1 h
    | char d hst =>
      cases htext
      exact .blank hc (ih hst)
    | @blanks b b' g g' s₀ s₀' hb hg hb' hg' hst =>
      cases htext
      cases g with
      | nil => exact (ih hst).blanks (by simp [hb', hg'])
      | cons d g =>
        simp only [List.all_cons, Bool.and_eq_true] at hg
        exact ih (.blanks hg.1 hg.2 hb' hg' hst)
  | word hname hs h ih =>
    obtain ⟨s', rfl, htail⟩ := hst.of_append fun c hc =>
      isBlank_of_isWord (isWord_of_mem_identifier hname hc)
    exact .word hname (htail.wordEnds hs) (ih htail)
  | @dots tokens s h ih =>
    have hdots : ∀ c ∈ ['.', '.', '.'], isBlank c = false := by
      intro c hc
      rw [show c = '.' by simpa using hc]
      decide
    obtain ⟨s', rfl, htail⟩ := Respaced.of_append hdots hst
    exact .dots (ih htail)
  | @mark tokens s c hc hs h ih =>
    have hb : isBlank c = false := by
      simp only [isMark, Bool.and_eq_true, Bool.not_eq_true'] at hc
      exact hc.1
    have hmark : ∀ d ∈ [c], isBlank d = false := by simpa using hb
    obtain ⟨s', rfl, htail⟩ := Respaced.of_append hmark hst
    refine .mark hc ?_ (ih htail)
    rintro ⟨hdot, hpre⟩
    exact htail.not_dots (fun h => hs ⟨hdot, h⟩) hpre

/-- Tokens are the same with other blanks. -/
theorem ofText_respaced {s s' : Text} (h : Respaced s s') : ofText s = ofText s' :=
  (ofText_eq_iff.2 ((laid_ofText s).respaced h)).symm

end Token

/-! ## §4 Lines -/

open Token

/-- A text up to its first opening brace, which is kept. -/
def throughBrace : Text → Text
  | [] => []
  | c :: s => if c = '{' then ['{'] else c :: throughBrace s

theorem upToBrace_consLine {c : Char} (hc : c ≠ '{') (rest : List Text) :
    upToBrace (consLine c rest) = consLine c (upToBrace rest) := by
  cases rest with
  | nil => simp [consLine, upToBrace, hc.symm]
  | cons line rest =>
    by_cases hline : '{' ∈ line
    · simp [consLine, upToBrace, hc, hline]
    · simp [consLine, upToBrace, hc.symm, hline]

theorem upToBrace_eq_nil {rest : List Text} : upToBrace rest = [] ↔ rest = [] := by
  cases rest with
  | nil => simp [upToBrace]
  | cons line rest =>
    rw [upToBrace]
    split <;> simp

/-- A declaration behind a line end follows a blank. -/
theorem declaration_nil_cons (rest : List Text) :
    declaration ([] :: rest) = if rest = [] then [] else ' ' :: declaration rest := by
  simp only [declaration, upToBrace, List.contains_nil, Bool.false_eq_true, if_false]
  split
  · next h =>
    subst h
    rfl
  · next h =>
    obtain ⟨line, rest', hrest⟩ := List.exists_cons_of_ne_nil (mt upToBrace_eq_nil.1 h)
    rw [hrest, Text.join_cons_cons]
    rfl

/-- The lines up to the brace hold the text up to it, but for the kind of its blanks. -/
theorem respaced_declaration (s : Text) : Respaced (throughBrace s) (declaration (lines s)) := by
  -- a line end becomes a blank, or nothing at the end of the text
  have hend : ∀ (b : Char) (g s : Text), isBlank b = true → g.all isBlank = true →
      Respaced (throughBrace s) (declaration (lines s)) →
      Respaced (b :: g ++ throughBrace s) (declaration ([] :: lines s)) := by
    intro b g s hb hg ih
    rw [declaration_nil_cons]
    split
    · next h =>
      rw [lines_eq_nil] at h
      subst h
      exact .trailing (by simp [throughBrace, hb, hg]) rfl
    · have hspace : isBlank ' ' = true := by decide
      have hnone : ([] : Text).all isBlank = true := rfl
      exact .blanks hb hg hspace hnone ih
  fun_induction lines s with
  | case1 => exact .trailing rfl rfl
  | case2 s ih => exact hend '\r' ['\n'] s (by decide) (by decide) ih
  | case3 c s _ hc ih =>
    have hbrace : c ≠ '{' := by
      rintro rfl
      exact absurd hc (by decide)
    rw [throughBrace, if_neg hbrace]
    exact hend c [] s (isBlank_of_isLineEnd hc) rfl ih
  | case4 c s _ hc ih =>
    by_cases hbrace : c = '{'
    · subst hbrace
      have hlast : declaration (consLine '{' (lines s)) = ['{'] := by
        cases lines s <;> simp [consLine, declaration, upToBrace, Text.join]
      rw [throughBrace, if_pos rfl, hlast]
      exact .char _ (.trailing rfl rfl)
    · rw [throughBrace, if_neg hbrace, declaration, upToBrace_consLine hbrace, join_consLine]
      exact .char c ih

/-- Reading the lines of a declaration is reading its text up to the brace. -/
theorem parse_declaration (s : Text) :
    Signature.parse (declaration (lines s)) = Signature.parse (throughBrace s) := by
  rw [Signature.parse, Signature.parse, ofText_respaced (respaced_declaration s)]

end Go
end EmbeddedGo
