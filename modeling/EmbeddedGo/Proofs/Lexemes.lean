/-
EmbeddedGo.Proofs.Lexemes — what is code in a Go text, and what only stands in it.

A text is read from left to right into comments, literals, words and marks (`lex`), and nothing of it is
lost (`texts_lex`). So each place of a text is either between two lexemes or inside one (`cut_lex`). A
text can be cut between two lexemes: what comes behind is read as it would be by itself
(`lex_texts_of_append`). A comment or a literal that goes on behind a line feed ends with a character
that is neither a blank nor a part of a word, or the text ends in it (`last_of_lineFeed`).

  §1 readers
  §2 lexemes
  §3 what is read of words and blanks
  §4 the places of a text
-/
import EmbeddedGo.Proofs.TokenLayout

namespace EmbeddedGo.Go

open Text

/-! ## §1 Readers -/

/-- A comment in asterisks to its end, and what comes behind it. One that is not closed takes all. -/
def throughBlock : Text → Text × Text
  | [] => ([], [])
  | '*' :: '/' :: s => (['*', '/'], s)
  | c :: s => (c :: (throughBlock s).1, (throughBlock s).2)

/-- A raw string to its end, and what comes behind it. One that is not closed takes all. -/
def throughRaw : Text → Text × Text
  | [] => ([], [])
  | c :: s => if c = '\x60' then ([c], s) else (c :: (throughRaw s).1, (throughRaw s).2)

/-- A string or a rune to the quote that ends it, and what comes behind it. A backslash takes the
character behind it along. One that is not closed ends with its line. -/
def throughQuote (quote : Char) : Text → Text × Text
  | [] => ([], [])
  | '\n' :: s => ([], '\n' :: s)
  | '\\' :: '\n' :: s => (['\\'], '\n' :: s)
  | '\\' :: c :: s => ('\\' :: c :: (throughQuote quote s).1, (throughQuote quote s).2)
  | c :: s =>
    if c = quote then ([c], s) else (c :: (throughQuote quote s).1, (throughQuote quote s).2)

/-- Whether a character is no line feed. -/
def isInLine (c : Char) : Bool := c != '\n'

theorem throughBlock_append (s : Text) : (throughBlock s).1 ++ (throughBlock s).2 = s := by
  fun_induction throughBlock s with
  | case1 => rfl
  | case2 s => rfl
  | case3 c s _ ih => rw [List.cons_append, ih]

theorem throughRaw_append (s : Text) : (throughRaw s).1 ++ (throughRaw s).2 = s := by
  fun_induction throughRaw s with
  | case1 => rfl
  | case2 s => rfl
  | case3 c s _ ih => rw [List.cons_append, ih]

theorem throughQuote_append (quote : Char) (s : Text) :
    (throughQuote quote s).1 ++ (throughQuote quote s).2 = s := by
  fun_induction throughQuote quote s with
  | case1 => rfl
  | case2 s => rfl
  | case3 s => rfl
  | case4 c s _ ih => rw [List.cons_append, List.cons_append, ih]
  | case5 s => rfl
  | case6 c s _ _ _ _ ih => rw [List.cons_append, ih]

theorem last_throughBlock (s : Text) :
    (throughBlock s).2 = [] ∨ (throughBlock s).1.getLast? = some '/' := by
  fun_induction throughBlock s with
  | case1 => exact .inl rfl
  | case2 s => exact .inr rfl
  | case3 c s _ ih => exact ih.imp_right fun h => by simp [List.getLast?_cons, h]

theorem last_throughRaw (s : Text) :
    (throughRaw s).2 = [] ∨ (throughRaw s).1.getLast? = some '\x60' := by
  fun_induction throughRaw s with
  | case1 => exact .inl rfl
  | case2 s => exact .inr rfl
  | case3 c s _ ih => exact ih.imp_right fun h => by simp [List.getLast?_cons, h]

theorem not_mem_throughQuote {quote : Char} (s : Text) : '\n' ∉ (throughQuote quote s).1 := by
  fun_induction throughQuote quote s <;> simp_all [eq_comm]

/-! ## §2 Lexemes -/

/-- What a Go text is made of. Blanks, operators and brackets are marks, each character by itself; the
numerals are words, as far as letters and numerals make them up. -/
inductive Lexeme where
  | comment (text : Text)
  | literal (text : Text)
  | word (text : Text)
  | mark (c : Char)
  deriving DecidableEq

namespace Lexeme

/-- The characters of a lexeme. -/
def text : Lexeme → Text
  | comment s => s
  | literal s => s
  | word s => s
  | mark c => [c]

/-- The characters of lexemes that follow each other. -/
def texts (l : List Lexeme) : Text := (l.map text).flatten

@[simp] theorem texts_nil : texts [] = [] := rfl

@[simp] theorem texts_cons (x : Lexeme) (l : List Lexeme) : texts (x :: l) = x.text ++ texts l := rfl

@[simp] theorem texts_append (l m : List Lexeme) : texts (l ++ m) = texts l ++ texts m := by
  simp [texts]

@[simp] theorem texts_marks (g : Text) : texts (g.map mark) = g := by
  induction g with
  | nil => rfl
  | cons c g ih => rw [List.map_cons, texts_cons, ih]; rfl

/-- The first lexeme of a text that begins with `c`, and what comes behind it. -/
def first (c : Char) (s : Text) : Lexeme × Text :=
  if isWord c then (word (c :: s.takeWhile isWord), s.dropWhile isWord)
  else if c = '\x60' then (literal (c :: (throughRaw s).1), (throughRaw s).2)
  else if c = '"' ∨ c = '\'' then (literal (c :: (throughQuote c s).1), (throughQuote c s).2)
  else if c = '/' ∧ s.head? = some '/' then (comment (c :: s.takeWhile isInLine), s.dropWhile isInLine)
  else if c = '/' ∧ s.head? = some '*' then
    (comment (c :: '*' :: (throughBlock s.tail).1), (throughBlock s.tail).2)
  else (mark c, s)

/-- The first lexeme and the rest are the text. -/
theorem text_first (c : Char) (s : Text) : (first c s).1.text ++ (first c s).2 = c :: s := by
  fun_cases first c s with
  | case1 => exact congrArg (c :: ·) List.takeWhile_append_dropWhile
  | case2 => exact congrArg (c :: ·) (throughRaw_append s)
  | case3 => exact congrArg (c :: ·) (throughQuote_append c s)
  | case4 => exact congrArg (c :: ·) List.takeWhile_append_dropWhile
  | case5 _ _ _ _ h =>
    obtain ⟨t, rfl⟩ := List.head?_eq_some_iff.1 h.2
    exact congrArg (c :: '*' :: ·) (throughBlock_append t)
  | case6 => rfl

theorem text_first_ne_nil (c : Char) (s : Text) : (first c s).1.text ≠ [] := by
  fun_cases first c s <;> exact List.cons_ne_nil _ _

theorem length_first (c : Char) (s : Text) : (first c s).2.length ≤ s.length := by
  have hlength := congrArg List.length (text_first c s)
  have hpos := List.length_pos_iff.2 (text_first_ne_nil c s)
  rw [List.length_append, List.length_cons] at hlength
  omega

end Lexeme

open Lexeme

/-- The lexemes of a text. -/
def lex : Text → List Lexeme
  | [] => []
  | c :: s => (first c s).1 :: lex (first c s).2
  termination_by s => s.length
  decreasing_by exact Nat.lt_succ_of_le (length_first c s)

theorem lex_nil : lex [] = [] := by rw [lex]

theorem lex_cons (c : Char) (s : Text) : lex (c :: s) = (first c s).1 :: lex (first c s).2 := by
  rw [lex]

/-- Reading loses nothing. -/
@[simp] theorem texts_lex (s : Text) : texts (lex s) = s := by
  fun_induction lex s with
  | case1 => rfl
  | case2 c s ih => rw [texts_cons, ih, text_first]

/-! ## §3 Words and blanks -/

theorem first_blank {c : Char} (hc : isBlank c = true) (s : Text) : first c s = (mark c, s) := by
  have hother : ∀ d, isBlank d = false → c ≠ d := by
    rintro d hd rfl
    rw [hc] at hd
    cases hd
  rw [first, if_neg (by simp [isWord_of_isBlank hc]), if_neg (hother _ (by decide)),
    if_neg (not_or.2 ⟨hother _ (by decide), hother _ (by decide)⟩),
    if_neg fun h => hother _ (by decide) h.1, if_neg fun h => hother _ (by decide) h.1]

theorem lex_blanks {g : Text} (hg : g.all isBlank = true) (s : Text) :
    lex (g ++ s) = g.map mark ++ lex s := by
  induction g with
  | nil => rfl
  | cons c g ih =>
    rw [List.all_cons, Bool.and_eq_true] at hg
    rw [List.cons_append, lex_cons, first_blank hg.1, ih hg.2]
    rfl

theorem lex_word {w s : Text} (hne : w ≠ []) (hw : w.all isWord = true) (hs : wordEnds s = true) :
    lex (w ++ s) = word w :: lex s := by
  obtain ⟨c, w, rfl⟩ := List.exists_cons_of_ne_nil hne
  rw [List.all_cons, Bool.and_eq_true] at hw
  obtain ⟨htake, hdrop⟩ := span_of_wordEnds (List.all_eq_true.1 hw.2) hs
  rw [List.cons_append, lex_cons, first, if_pos hw.1, htake, hdrop]

/-- A word goes as far as it can. -/
theorem wordEnds_first {c : Char} {s w : Text} (h : (first c s).1 = word w) :
    wordEnds (first c s).2 = true := by
  revert h
  fun_cases first c s with
  | case1 => exact fun _ => wordEnds_dropWhile s
  | case2 | case3 | case4 | case5 | case6 => exact fun h => by cases h

/-- A lexeme with a line feed in it is that mark, or the text ends in it, or it ends with a character
that is neither a blank nor a part of a word. -/
theorem last_first {c : Char} {s : Text} :
    '\n' ∈ (first c s).1.text →
      (first c s).1 = mark '\n' ∨ (first c s).2 = [] ∨ ∃ stop, (first c s).1.text.getLast? = some stop ∧
        isBlank stop = false ∧ isWord stop = false := by
  have hlast : ∀ {t : Text} {stop : Char}, t.getLast? = some stop → (c :: t).getLast? = some stop :=
    fun ht => by rw [List.getLast?_cons, ht]; rfl
  fun_cases first c s with
  | case1 hword =>
    intro h
    have hall : (c :: s.takeWhile isWord).all isWord = true := by
      rw [List.all_cons, hword, List.all_takeWhile]
      rfl
    exact absurd (List.all_eq_true.1 hall _ h) (by decide)
  | case2 =>
    exact fun _ => .inr ((last_throughRaw s).imp_right fun ht => ⟨_, hlast ht, by decide, by decide⟩)
  | case3 _ _ hquote =>
    intro h
    rcases List.mem_cons.1 h with rfl | h
    · exact absurd hquote (by decide)
    · exact absurd h (not_mem_throughQuote s)
  | case4 _ _ _ hline =>
    intro h
    rcases List.mem_cons.1 h with rfl | h
    · exact absurd hline.1 (by decide)
    · exact absurd (List.all_eq_true.1 (List.all_takeWhile (p := isInLine)) _ h) (by decide)
  | case5 =>
    refine fun _ => .inr ((last_throughBlock s.tail).imp_right fun ht =>
      ⟨'/', hlast ?_, by decide, by decide⟩)
    rw [List.getLast?_cons, ht]
    rfl
  | case6 => exact fun h => .inl (congrArg mark (List.mem_singleton.1 h).symm)

/-! ## §4 Places -/

/-- What comes behind some of the lexemes is read as it would be by itself. -/
theorem lex_texts_of_append {s : Text} {l m : List Lexeme} (h : lex s = l ++ m) : lex (texts m) = m := by
  fun_induction lex s generalizing l with
  | case1 =>
    obtain ⟨rfl, rfl⟩ := List.nil_eq_append_iff.1 h
    exact lex_nil
  | case2 c s ih =>
    cases l with
    | nil => rw [List.nil_append, ← lex_cons] at h; rw [← h, texts_lex]
    | cons x l => exact ih (List.cons.inj h).2

/-- A lexeme is the first one of a text, with the lexemes behind it in the rest. -/
theorem exists_first {s : Text} {l m : List Lexeme} {x : Lexeme} (h : lex s = l ++ x :: m) :
    ∃ c t, x = (first c t).1 ∧ m = lex (first c t).2 := by
  have hlex := lex_texts_of_append h
  obtain ⟨c, t, htexts⟩ : ∃ c t, texts (x :: m) = c :: t := by
    refine List.exists_cons_of_ne_nil fun hnil => ?_
    rw [hnil, lex_nil] at hlex
    cases hlex
  rw [htexts, lex_cons] at hlex
  exact ⟨c, t, (List.cons.inj hlex).1.symm, (List.cons.inj hlex).2.symm⟩

/-- What stands behind a word does not go on with it. -/
theorem wordEnds_texts {s w : Text} {l m : List Lexeme} (h : lex s = l ++ word w :: m) :
    wordEnds (texts m) = true := by
  obtain ⟨c, t, hx, rfl⟩ := exists_first h
  rw [texts_lex]
  exact wordEnds_first hx.symm

theorem last_of_lineFeed {s : Text} {l m : List Lexeme} {x : Lexeme} (h : lex s = l ++ x :: m)
    (hfeed : '\n' ∈ x.text) :
    x = mark '\n' ∨ texts m = [] ∨ ∃ stop, x.text.getLast? = some stop ∧ isBlank stop = false ∧
      isWord stop = false := by
  obtain ⟨c, t, rfl, rfl⟩ := exists_first h
  rw [texts_lex]
  exact last_first hfeed

/-- Each place of a text is between two lexemes or inside one of them. -/
theorem cut_lex {s a b : Text} (h : s = a ++ b) :
    (∃ l m, lex s = l ++ m ∧ texts l = a ∧ texts m = b) ∨
      ∃ l x m u v, lex s = l ++ x :: m ∧ x.text = u ++ v ∧ u ≠ [] ∧ v ≠ [] ∧
        a = texts l ++ u ∧ b = v ++ texts m := by
  have hcut : ((lex s).map text).flatten = a ++ b := (texts_lex s).trans h
  rcases List.flatten_eq_append_iff.1 hcut with
    ⟨as, bs, hmap, rfl, rfl⟩ | ⟨as, u, d, v, bs, hmap, rfl, rfl⟩
  · obtain ⟨l, m, hlex, rfl, rfl⟩ := List.map_eq_append_iff.1 hmap
    exact .inl ⟨l, m, hlex, rfl, rfl⟩
  · obtain ⟨l, xm, hlex, rfl, hxm⟩ := List.map_eq_append_iff.1 hmap
    obtain ⟨x, m, rfl, hx, rfl⟩ := List.map_eq_cons_iff.1 hxm
    cases u with
    | nil => exact .inl ⟨l, x :: m, hlex, by simp [texts], by simp [texts, hx]⟩
    | cons e u => exact .inr ⟨l, x, m, e :: u, d :: v, hlex, hx, by simp, by simp, rfl, rfl⟩

end EmbeddedGo.Go
