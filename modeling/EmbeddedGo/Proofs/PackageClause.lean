/-
EmbeddedGo.Proofs.PackageClause — the package clauses of a unit and of the main package made of it.

Whether a clause is added is decided on the lines of the text. What its clauses are is a matter of its
lexemes: those behind the keyword in the code, and none of those in comments and literals. The two agree
on every text that has a clause of the main package as a line by itself, and on those that have none and
no line in a comment or a literal that looks like one (`IsPlain`, `hasClause_iff`). There the clauses of a
unit are kept, and the one that is added if there was none of the main package is the first
(`wrap_clauses`). A clause of another package is kept too: it is not the clause of the main package, and
nothing is taken out of a unit.

  §1 the clauses of a text
  §2 lines that begin with the clause
  §3 lines and lexemes
  §4 the main package
-/
import EmbeddedGo.Go.Source
import EmbeddedGo.Proofs.Lexemes
import EmbeddedGo.Proofs.SourcePieces
import EmbeddedGo.Proofs.Trimming
import Mathlib.Data.List.Basic

namespace EmbeddedGo.Go

open Text Lexeme

/-! ## §1 Clauses -/

/-- The blanks of Go. -/
def isGoSpace (c : Char) : Bool := c == ' ' || c == '\t' || c == '\r' || c == '\n'

/-- The words that are no names. -/
def keywords : List Text := ["break", "case", "chan", "const", "continue", "default", "defer", "else",
  "fallthrough", "for", "func", "go", "goto", "if", "import", "interface", "map", "package", "range",
  "return", "select", "struct", "switch", "type", "var"]

/-- Whether a word is a name. -/
def isName (w : Text) : Bool := !keywords.contains w && w.head?.all fun c => !c.isDigit

/-- The name that comes next, comments and blanks aside. -/
def name? : List Lexeme → Option Text
  | comment _ :: l => name? l
  | mark c :: l => if isGoSpace c then name? l else none
  | word w :: _ => if isName w then some w else none
  | _ => none

/-- The names behind the keyword of the package clause. -/
def clausesIn : List Lexeme → List Text
  | [] => []
  | x :: l => if x = word "package" then (name? l).toList ++ clausesIn l else clausesIn l

/-- The packages that a text has a clause for. -/
def clauses (code : Text) : List Text := clausesIn (lex code)

theorem mem_clausesIn {name : Text} {l : List Lexeme} :
    name ∈ clausesIn l ↔
      ∃ before behind, l = before ++ word "package" :: behind ∧ name? behind = some name := by
  induction l with
  | nil => simp [clausesIn]
  | cons x l ih =>
    constructor
    · intro h
      rw [clausesIn] at h
      split at h
      · next hx =>
        subst hx
        rcases List.mem_append.1 h with h | h
        · exact ⟨[], l, rfl, Option.mem_toList.1 h⟩
        · obtain ⟨before, behind, rfl, hname⟩ := ih.1 h
          exact ⟨_ :: before, behind, rfl, hname⟩
      · obtain ⟨before, behind, rfl, hname⟩ := ih.1 h
        exact ⟨x :: before, behind, rfl, hname⟩
    · rintro ⟨before, behind, hl, hname⟩
      rw [clausesIn]
      rcases List.cons_eq_append_iff.1 hl with ⟨rfl, hbehind⟩ | ⟨before, rfl, rfl⟩
      · obtain ⟨rfl, rfl⟩ := List.cons.inj hbehind
        rw [if_pos rfl, hname]
        exact List.mem_append_left _ (List.mem_singleton.2 rfl)
      · have hmem := ih.2 ⟨before, behind, rfl, hname⟩
        split
        · exact List.mem_append_right _ hmem
        · exact hmem

theorem name?_marks (g : Text) (l : List Lexeme) :
    name? (g.map mark ++ l) = if g.all isGoSpace then name? l else none := by
  induction g with
  | nil => rfl
  | cons c g ih =>
    rw [List.map_cons, List.cons_append, name?, ih, List.all_cons]
    cases isGoSpace c <;> rfl

/-! ## §2 Lines with the clause -/

/-- The texts that begin, blanks aside, with the clause of the main package. -/
inductive BeginsWithClause : Text → Prop where
  | clause {before gap rest : Text} (hbefore : before.all isBlank = true) (hgap : gap.all isBlank = true)
    (hne : gap ≠ []) (hrest : wordEnds rest = true) :
    BeginsWithClause (before ++ ("package".toList ++ (gap ++ ("main".toList ++ rest))))

theorem afterKeyword?_eq_some_iff {keyword s rest : Text} :
    afterKeyword? keyword s = some rest ↔
      ∃ c t, isBlank c = true ∧ s = keyword ++ c :: t ∧ rest = trimStart t := by
  constructor
  · intro h
    unfold afterKeyword? at h
    split at h
    · next c t hafter =>
      split at h
      · next hc => exact ⟨c, t, hc, after?_eq_some_iff.1 hafter, (Option.some.inj h).symm⟩
      · cases h
    · cases h
  · rintro ⟨c, t, hc, rfl, rfl⟩
    rw [afterKeyword?, after?_append]
    exact if_pos hc

theorem startsWithClause_iff {s : Text} : startsWithClause s = true ↔ BeginsWithClause s := by
  constructor
  · intro h
    unfold startsWithClause at h
    split at h
    · next rest hbind =>
      obtain ⟨t, hkeyword, hmain⟩ := Option.bind_eq_some_iff.1 hbind
      obtain ⟨c, t, hc, hs, rfl⟩ := afterKeyword?_eq_some_iff.1 hkeyword
      obtain ⟨before, hbefore, hbegin⟩ := exists_trimStart s
      obtain ⟨gap, hgap, hrest⟩ := exists_trimStart t
      rw [after?_eq_some_iff.1 hmain] at hrest
      rw [hbegin, hs, hrest, ← List.cons_append]
      exact .clause hbefore (by rw [List.all_cons, hc, hgap]; rfl) (List.cons_ne_nil c gap) h
    · cases h
  · rintro @⟨before, gap, rest, hbefore, hgap, hne, hrest⟩
    obtain ⟨c, gap, rfl⟩ := List.exists_cons_of_ne_nil hne
    rw [List.all_cons, Bool.and_eq_true] at hgap
    have hkeyword : afterKeyword? "package"
        (trimStart (before ++ ("package".toList ++ (c :: gap ++ ("main".toList ++ rest))))) =
        some ("main".toList ++ rest) := by
      refine afterKeyword?_eq_some_iff.2 ⟨c, gap ++ ("main".toList ++ rest), hgap.1, ?_, ?_⟩
      · exact trimStart_append hbefore (by decide) _
      · exact (trimStart_append hgap.2 (by decide) _).symm
    rw [startsWithClause, hkeyword, Option.bind_some, after?_append]
    exact hrest

theorem mem_laterLines {s b : Text} : b ∈ laterLines s ↔ ∃ a, s = a ++ '\n' :: b := by
  induction s with
  | nil => simp [laterLines]
  | cons c s ih =>
    rw [laterLines]
    constructor
    · intro h
      split at h
      · next hc =>
        subst hc
        rcases List.mem_cons.1 h with rfl | h
        · exact ⟨[], rfl⟩
        · obtain ⟨a, rfl⟩ := ih.1 h
          exact ⟨_ :: a, rfl⟩
      · obtain ⟨a, rfl⟩ := ih.1 h
        exact ⟨c :: a, rfl⟩
    · rintro ⟨a, ha⟩
      rcases List.cons_eq_append_iff.1 ha with ⟨rfl, hb⟩ | ⟨a, rfl, rfl⟩
      · obtain ⟨rfl, rfl⟩ := List.cons.inj hb
        rw [if_pos rfl]
        exact List.mem_cons_self
      · have hmem := ih.2 ⟨a, rfl⟩
        split
        · exact List.mem_cons_of_mem _ hmem
        · exact hmem

/-- A text has the clause if what comes behind some of its lines, or all of it, begins with it. -/
theorem hasClause_iff_begins {code : Text} :
    hasClause code = true ↔ ∃ a b, code = a ++ b ∧ IsWhole a ∧ BeginsWithClause b := by
  rw [hasClause, List.any_eq_true]
  constructor
  · rintro ⟨b, hmem, hb⟩
    rcases List.mem_cons.1 hmem with rfl | hmem
    · exact ⟨[], b, rfl, .inl rfl, startsWithClause_iff.1 hb⟩
    · obtain ⟨a, rfl⟩ := mem_laterLines.1 hmem
      exact ⟨a ++ ['\n'], b, by simp, .inr (by simp), startsWithClause_iff.1 hb⟩
  · rintro ⟨a, b, rfl, rfl | hlast, hb⟩
    · exact ⟨b, List.mem_cons_self, startsWithClause_iff.2 hb⟩
    · obtain ⟨a, rfl⟩ := List.getLast?_eq_some_iff.1 hlast
      refine ⟨b, List.mem_cons_of_mem _ (mem_laterLines.2 ⟨a, ?_⟩), startsWithClause_iff.2 hb⟩
      rw [List.append_assoc]
      rfl

theorem isWord_package : "package".toList.all isWord = true := by decide

theorem isWord_main : "main".toList.all isWord = true := by decide

/-- The clause does not go beyond a character that is neither a blank nor a part of a word. -/
theorem BeginsWithClause.of_append {v t : Text} (h : BeginsWithClause (v ++ t)) {stop : Char}
    (hlast : v.getLast? = some stop) (hblank : isBlank stop = false) (hword : isWord stop = false) :
    BeginsWithClause v := by
  generalize hs : v ++ t = s at h
  obtain @⟨before, gap, rest, hbefore, hgap, hne, hrest⟩ := h
  have hs' : v ++ t = (before ++ "package".toList ++ gap ++ "main".toList) ++ rest := by
    rw [hs]
    simp only [List.append_assoc]
  rcases List.append_eq_append_iff.1 hs' with ⟨t', hclause, -⟩ | ⟨v', rfl, rfl⟩
  · -- The character would stand in the clause, which is made of blanks and words.
    have hmem : stop ∈ before ++ "package".toList ++ gap ++ "main".toList := by
      rw [hclause]
      exact List.mem_append_left _ (List.mem_of_getLast? hlast)
    simp only [List.mem_append] at hmem
    rcases hmem with ((h | h) | h) | h
    · rw [List.all_eq_true.1 hbefore _ h] at hblank
      cases hblank
    · rw [List.all_eq_true.1 isWord_package _ h] at hword
      cases hword
    · rw [List.all_eq_true.1 hgap _ h] at hblank
      cases hblank
    · rw [List.all_eq_true.1 isWord_main _ h] at hword
      cases hword
  · simp only [List.append_assoc]
    refine .clause hbefore hgap hne ?_
    cases v' with
    | nil => rfl
    | cons c v' => exact hrest

/-! ## §3 Lines and lexemes -/

/-- Whether lexemes end a line, blanks in front of the next one aside. -/
def EndsLine (before : List Lexeme) : Prop :=
  ∃ (l : List Lexeme) (g : Text), before = l ++ g.map mark ∧ g.all isBlank = true ∧
    (l = [] ∨ l.getLast? = some (mark '\n'))

/-- A clause of the main package that begins a line and has nothing but blanks in it. -/
inductive StandsAlone : List Lexeme → Prop where
  | clause {before rest : List Lexeme} {gap : Text} (hbefore : EndsLine before)
    (hgap : gap.all isGoSpace = true) :
    StandsAlone (before ++ word "package" :: (gap.map mark ++ word "main" :: rest))

/-- The texts whose lines tell whether they have a clause of the main package. In the code there are no
other blanks than Go's. If it has such clauses, one of them stands alone, and if it has none, then no
comment or literal has a line that begins like one. -/
structure IsPlain (code : Text) : Prop where
  spaces : ∀ c, mark c ∈ lex code → isBlank c = true → isGoSpace c = true
  alone : "main".toList ∈ clauses code → StandsAlone (lex code)
  hidden : "main".toList ∉ clauses code →
    ∀ x ∈ lex code, ∀ u v, x.text = u ++ '\n' :: v → ¬ BeginsWithClause v

theorem isBlank_of_isGoSpace {c : Char} (h : isGoSpace c = true) : isBlank c = true := by
  simp only [isGoSpace, Bool.or_eq_true, beq_iff_eq] at h
  rcases h with ((rfl | rfl) | rfl) | rfl <;> decide

theorem wordEnds_blanks {g : Text} (hg : g.all isBlank = true) (hne : g ≠ []) (s : Text) :
    wordEnds (g ++ s) = true := by
  obtain ⟨c, g, rfl⟩ := List.exists_cons_of_ne_nil hne
  rw [List.all_cons, Bool.and_eq_true] at hg
  rw [List.cons_append, wordEnds, isWord_of_isBlank hg.1]
  rfl

/-- The clause that a text begins with is one of its clauses. -/
theorem BeginsWithClause.mem_clauses {b : Text} (h : BeginsWithClause b)
    (hspaces : ∀ c, mark c ∈ lex b → isBlank c = true → isGoSpace c = true) :
    "main".toList ∈ clauses b := by
  obtain @⟨before, gap, rest, hbefore, hgap, hne, hrest⟩ := h
  have hlex : lex (before ++ ("package".toList ++ (gap ++ ("main".toList ++ rest)))) =
      before.map mark ++ word "package" :: (gap.map mark ++ word "main" :: lex rest) := by
    rw [lex_blanks hbefore, lex_word (by decide) isWord_package (wordEnds_blanks hgap hne _),
      lex_blanks hgap, lex_word (by decide) isWord_main hrest]
  have hgo : gap.all isGoSpace = true := by
    rw [List.all_eq_true] at hgap ⊢
    refine fun c hc => hspaces c ?_ (hgap c hc)
    rw [hlex]
    simp [hc]
  refine mem_clausesIn.2 ⟨_, _, hlex, ?_⟩
  rw [name?_marks, if_pos hgo, name?, if_pos (by decide)]

theorem eq_nil_of_text_mark {c : Char} {u v : Text} (h : (mark c).text = u ++ '\n' :: v) : v = [] := by
  rcases List.singleton_eq_append_iff.1 h with ⟨-, hv⟩ | ⟨-, hv⟩
  · exact (List.cons.inj hv).2
  · cases hv

/-- A line with the clause has it in the code. -/
theorem IsPlain.mem_clauses {code : Text} (h : IsPlain code) (hclause : hasClause code = true) :
    "main".toList ∈ clauses code := by
  by_contra hnone
  obtain ⟨a, b, hcode, hwhole, hb⟩ := hasClause_iff_begins.1 hclause
  rcases cut_lex hcode with ⟨l, m, hlex, -, rfl⟩ | ⟨l, x, m, u, v, hlex, hx, hu, hv, rfl, rfl⟩
  · have hm := lex_texts_of_append hlex
    have hmem := hb.mem_clauses fun c hc =>
      h.spaces c (by rw [hlex, ← hm]; exact List.mem_append_right _ hc)
    rw [clauses, hm] at hmem
    obtain ⟨before, behind, rfl, hname⟩ := mem_clausesIn.1 hmem
    exact hnone (mem_clausesIn.2 ⟨l ++ before, behind, by rw [hlex, List.append_assoc], hname⟩)
  · -- The line begins inside a comment or a literal, so all of the clause stands in it.
    obtain ⟨u, rfl⟩ : ∃ u', u = u' ++ ['\n'] := by
      rcases hwhole with hnil | hlast
      · exact absurd (List.append_eq_nil_iff.1 hnil).2 hu
      · rw [List.getLast?_append_of_ne_nil _ hu] at hlast
        exact List.getLast?_eq_some_iff.1 hlast
    have hfeed : x.text = u ++ '\n' :: v := by rw [hx, List.append_assoc]; rfl
    refine h.hidden hnone x (by simp [hlex]) u v hfeed ?_
    rcases last_of_lineFeed hlex (by simp [hfeed]) with rfl | hend | ⟨stop, hlast, hblank, hword⟩
    · exact absurd (eq_nil_of_text_mark hfeed) hv
    · rwa [hend, List.append_nil] at hb
    · rw [hx, List.getLast?_append_of_ne_nil _ hv] at hlast
      exact hb.of_append hlast hblank hword

/-- A clause that stands alone is on a line. -/
theorem hasClause_of_standsAlone {code : Text} (h : StandsAlone (lex code)) : hasClause code = true := by
  generalize hlex : lex code = lexemes at h
  obtain @⟨_, rest, gap, ⟨l, g, rfl, hg, hl⟩, hgap⟩ := h
  have hblank : gap.all isBlank = true := by
    rw [List.all_eq_true] at hgap ⊢
    exact fun c hc => isBlank_of_isGoSpace (hgap c hc)
  have hne : gap ≠ [] := by
    rintro rfl
    have hends : wordEnds ("main".toList ++ texts rest) = true := wordEnds_texts hlex
    exact Bool.false_ne_true hends
  have hrest : wordEnds (texts rest) = true := by
    have hsplit : lex code =
        l ++ g.map mark ++ word "package" :: gap.map mark ++ word "main" :: rest := by
      rw [hlex]
      simp only [List.append_assoc, List.cons_append]
    exact wordEnds_texts hsplit
  refine hasClause_iff_begins.2 ⟨texts l, _, ?_, ?_, .clause hg hblank hne hrest⟩
  · rw [← texts_lex code, hlex]
    simp [text]
  · rcases hl with rfl | hlast
    · exact .inl rfl
    · obtain ⟨l, rfl⟩ := List.getLast?_eq_some_iff.1 hlast
      exact .inr (by simp [text])

/-- What is code tells the same as the lines do. -/
theorem IsPlain.hasClause_iff {code : Text} (h : IsPlain code) :
    hasClause code = true ↔ "main".toList ∈ clauses code :=
  ⟨h.mem_clauses, fun hmem => hasClause_of_standsAlone (h.alone hmem)⟩

/-! ## §4 The main package -/

/-- The clause that is put in front of a unit begins it. -/
theorem begins_clause (code : Text) : BeginsWithClause ("package main\n\n".toList ++ code) := by
  change BeginsWithClause
    ([] ++ ("package".toList ++ ([' '] ++ ("main".toList ++ '\n' :: '\n' :: code))))
  exact .clause rfl rfl (List.cons_ne_nil _ _) rfl

/-- A clause that is put in front of a unit is the first, and the others stay. -/
theorem clauses_clause (code : Text) :
    clauses ("package main\n\n".toList ++ code) = "main".toList :: clauses code := by
  have hlex : lex ("package".toList ++ ([' '] ++ ("main".toList ++ (['\n', '\n'] ++ code)))) =
      word "package" :: mark ' ' :: word "main" :: mark '\n' :: mark '\n' :: lex code := by
    rw [lex_word (by decide) isWord_package rfl, lex_blanks rfl, lex_word (by decide) isWord_main rfl,
      lex_blanks rfl]
    rfl
  have hname : ∀ l, name? (mark ' ' :: word "main" :: l) = some "main".toList := fun _ => by
    rw [name?, if_pos (by decide), name?, if_pos (by decide)]
  change clausesIn
    (lex ("package".toList ++ ([' '] ++ ("main".toList ++ (['\n', '\n'] ++ code))))) = _
  rw [hlex, clausesIn, if_pos rfl, hname]
  simp [clausesIn, clauses]

/-- Wrapping again does nothing. -/
theorem wrap_wrap (code : Text) : wrap (wrap code) = wrap code := by
  by_cases h : hasClause code = true
  · rw [wrap, wrap, if_pos h, if_pos h]
  · have hclause : hasClause ("package main\n\n".toList ++ code) = true :=
      hasClause_iff_begins.2 ⟨[], _, rfl, .inl rfl, begins_clause code⟩
    rw [wrap, wrap, if_neg h, if_pos hclause]

/-- A unit is made a main package once, and again nothing happens. If its lines tell which clauses of the
main package it has, then all its clauses are kept, and the clause of the main package is put in front of
them if it was none of them. So in the end that is the only clause exactly if the unit had no clause, or
that one and no other. -/
theorem wrap_clauses (code : Text) :
    wrap (wrap code) = wrap code ∧
      (IsPlain code →
        clauses (wrap code) =
            (if "main".toList ∈ clauses code then clauses code else "main".toList :: clauses code) ∧
          (clauses (wrap code) = ["main".toList] ↔
            clauses code = [] ∨ clauses code = ["main".toList])) := by
  refine ⟨wrap_wrap code, fun h => ?_⟩
  have hkept : clauses (wrap code) =
      if "main".toList ∈ clauses code then clauses code else "main".toList :: clauses code := by
    rw [wrap]
    split
    · next hclause => rw [if_pos (h.hasClause_iff.1 hclause)]
    · next hclause => rw [if_neg fun hmem => hclause (h.hasClause_iff.2 hmem), clauses_clause]
  refine ⟨hkept, ?_⟩
  rw [hkept]
  by_cases hmem : "main".toList ∈ clauses code
  · rw [if_pos hmem]
    exact ⟨.inr, fun honly => honly.resolve_left fun hnil => by simp [hnil] at hmem⟩
  · rw [if_neg hmem, List.cons_eq_cons]
    exact ⟨fun honly => .inl honly.2,
      fun honly => ⟨rfl, honly.resolve_right fun hmain => hmem (by simp [hmain])⟩⟩

/-- A unit without a clause, in which a comment and a literal of two lines hold the words of one. -/
def quoting : Text := "// package main\nvar s = \x60a\nb package main\x60\n"

theorem lex_quoting : lex quoting = [comment "// package main", mark '\n', word "var", mark ' ', word "s",
    mark ' ', mark '=', mark ' ', literal "\x60a\nb package main\x60", mark '\n'] := by decide +kernel

theorem clauses_quoting : clauses quoting = [] := by decide +kernel

theorem isPlain_quoting : IsPlain quoting where
  spaces c hc hblank := by
    have hall : ∀ x ∈ lex quoting, (x.text.all fun d => !isBlank d || isGoSpace d) = true := by
      rw [lex_quoting]
      decide
    simpa [text, hblank] using hall _ hc
  alone hmem := by
    rw [clauses_quoting] at hmem
    cases hmem
  hidden _ x hx u v hfeed hbegins := by
    have hlines : ∀ x ∈ lex quoting, ∀ v ∈ laterLines x.text, startsWithClause v = false := by
      rw [lex_quoting]
      decide
    have hv := hlines x hx v (mem_laterLines.2 ⟨u, hfeed⟩)
    rw [startsWithClause_iff.2 hbegins] at hv
    cases hv

/-- It gets its clause, and no other. -/
theorem wrap_clauses_quoting : IsPlain quoting ∧ clauses quoting = [] ∧
    wrap (wrap quoting) = wrap quoting ∧ clauses (wrap quoting) = ["main".toList] := by
  obtain ⟨hagain, hplain⟩ := wrap_clauses quoting
  obtain ⟨-, honly⟩ := hplain isPlain_quoting
  exact ⟨isPlain_quoting, clauses_quoting, hagain, honly.2 (.inl clauses_quoting)⟩

/-- A clause of another package is kept behind the one that is added. -/
theorem wrap_clauses_mainly : clauses (wrap "package mainly\n") = ["main".toList, "mainly".toList] := by
  decide +kernel

end EmbeddedGo.Go
