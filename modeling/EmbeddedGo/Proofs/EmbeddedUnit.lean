/-
EmbeddedGo.Proofs.EmbeddedUnit — which modules hold Go, and which Go they hold.

The reader of a directive drops a semicolon and the blanks on the directive's line, and then trims what
is left. The text as a whole says the same in a simpler way: a module opens with the literal (`Opens`),
a semicolon directly behind it belongs to it and nothing else does (`Holds`), and the unit is the core of
the rest. `extract_embedded` is the agreement of the two on every text. So what stands on the line of a
directive cannot be told from the unit, and a unit that is put behind any such line is found again.

  §1 modules that open with the directive
  §2 the unit of a module
  §3 lines with a directive
-/
import EmbeddedGo.Directive
import EmbeddedGo.Proofs.Trimming

namespace EmbeddedGo.Directive

open Text

/-! ## §1 Modules -/

/-- The texts that begin, blanks aside, with the literal, in front of `rest`. -/
inductive Opens (rest : Text) : Text → Prop where
  | literal {before : Text} {opening closing : Char} (hbefore : before.all isBlank = true)
    (hopening : isQuote opening = true) (hclosing : isQuote closing = true) :
    Opens rest (before ++ opening :: (words ++ closing :: rest))

/-- What a module holds behind the directive. A semicolon directly behind the literal belongs to it. -/
inductive Holds (code body : Text) : Prop where
  | bare (hopens : Opens body code) (hbody : body.head? ≠ some ';')
  | ended (hopens : Opens (';' :: body) code)

theorem isBlank_of_isQuote {c : Char} (h : isQuote c = true) : isBlank c = false := by
  rcases (by simpa [isQuote] using h : c = '"' ∨ c = '\'') with rfl | rfl
  · decide
  · decide

theorem isBlank_of_isSpace {c : Char} (h : isSpace c = true) : isBlank c = true := by
  rcases (by simpa [isSpace] using h : c = ' ' ∨ c = '\t') with rfl | rfl
  · decide
  · decide

theorem afterQuote?_eq_some_iff {s rest : Text} :
    afterQuote? s = some rest ↔ ∃ c, isQuote c = true ∧ s = c :: rest := by
  constructor
  · intro h
    cases s with
    | nil => cases h
    | cons c s =>
      rw [afterQuote?] at h
      split at h
      · next hc =>
        cases h
        exact ⟨c, hc, rfl⟩
      · cases h
  · rintro ⟨c, hc, rfl⟩
    exact if_pos hc

theorem afterLiteral?_eq_some_iff {s rest : Text} :
    afterLiteral? s = some rest ↔ ∃ opening closing, isQuote opening = true ∧
      isQuote closing = true ∧ s = opening :: (words ++ closing :: rest) := by
  simp only [afterLiteral?, Option.bind_eq_bind, Option.bind_eq_some_iff, afterQuote?_eq_some_iff,
    after?_eq_some_iff]
  constructor
  · rintro ⟨_, ⟨opening, hopening, rfl⟩, _, rfl, closing, hclosing, rfl⟩
    exact ⟨opening, closing, hopening, hclosing, rfl⟩
  · rintro ⟨opening, closing, hopening, hclosing, rfl⟩
    exact ⟨_, ⟨opening, hopening, rfl⟩, _, rfl, closing, hclosing, rfl⟩

theorem afterLiteral?_trimStart {code rest : Text} :
    afterLiteral? (trimStart code) = some rest ↔ Opens rest code := by
  rw [afterLiteral?_eq_some_iff]
  constructor
  · rintro ⟨opening, closing, hopening, hclosing, htrim⟩
    obtain ⟨before, hbefore, hcode⟩ := exists_trimStart code
    rw [htrim] at hcode
    exact hcode ▸ .literal hbefore hopening hclosing
  · rintro @⟨before, opening, closing, hbefore, hopening, hclosing⟩
    exact ⟨opening, closing, hopening, hclosing,
      trimStart_append hbefore (isBlank_of_isQuote hopening) _⟩

theorem dropSemicolon_of_head {s : Text} (h : s.head? ≠ some ';') : dropSemicolon s = s := by
  unfold dropSemicolon
  split
  · exact absurd rfl h
  · rfl

theorem holds_iff {code body : Text} :
    Holds code body ↔ ∃ rest, Opens rest code ∧ body = dropSemicolon rest := by
  constructor
  · rintro (⟨hopens, hbody⟩ | ⟨hopens⟩)
    · exact ⟨body, hopens, (dropSemicolon_of_head hbody).symm⟩
    · exact ⟨_, hopens, rfl⟩
  · rintro ⟨rest, hopens, rfl⟩
    by_cases hrest : rest.head? = some ';'
    · obtain ⟨more, rfl⟩ := List.head?_eq_some_iff.1 hrest
      exact .ended hopens
    · rw [dropSemicolon_of_head hrest]
      exact .bare hopens hrest

theorem isPresent_iff {code : Text} : isPresent code = true ↔ ∃ rest, Opens rest code := by
  simp only [isPresent, body?, Option.isSome_map, Option.isSome_iff_exists, afterLiteral?_trimStart]

/-! ## §2 Units -/

/-- The blanks on the line of the directive do not belong to the core of what follows. -/
theorem trim_dropWhile_isSpace (s : Text) : trim (s.dropWhile isSpace) = trim s := by
  have hcore : (trim (s.dropWhile isSpace)).IsCoreOf
      (s.takeWhile isSpace ++ s.dropWhile isSpace ++ []) := by
    refine (trim_eq_iff.1 rfl).between ?_ rfl
    have hspaces : (s.takeWhile isSpace).all isSpace = true := List.all_takeWhile
    rw [List.all_eq_true] at hspaces ⊢
    exact fun c hc => isBlank_of_isSpace (hspaces c hc)
  rw [List.append_nil, List.takeWhile_append_dropWhile] at hcore
  exact (trim_eq_iff.2 hcore).symm

/-- What is read from a module that holds something behind its directive. -/
theorem extract_of_holds {code body : Text} (h : Holds code body) :
    extract code = if body.all isBlank = true then .error .emptyGuestCode else .ok (trim body) := by
  obtain ⟨rest, hopens, rfl⟩ := holds_iff.1 h
  have hbody : body? code = some ((dropSemicolon rest).dropWhile isSpace) := by
    rw [body?, afterLiteral?_trimStart.2 hopens]
    rfl
  simp only [extract, hbody, trim_dropWhile_isSpace, List.isEmpty_iff, trim_eq_nil_iff]

theorem extract_of_absent {code : Text} (h : isPresent code = false) :
    extract code = .error .directiveNotFound := by
  rw [isPresent, Option.isSome_eq_false_iff, Option.isNone_iff_eq_none] at h
  rw [extract, h]

/-- Every module has no directive, or holds one text behind it. -/
theorem absent_or_holds (code : Text) : isPresent code = false ∨ ∃ body, Holds code body := by
  cases hpresent : isPresent code with
  | false => exact .inl rfl
  | true =>
    obtain ⟨rest, hopens⟩ := isPresent_iff.1 hpresent
    exact .inr ⟨_, holds_iff.2 ⟨rest, hopens, rfl⟩⟩

theorem extract_eq_absent_iff {code : Text} :
    extract code = .error .directiveNotFound ↔ isPresent code = false := by
  refine ⟨fun h => ?_, extract_of_absent⟩
  rcases absent_or_holds code with habsent | ⟨body, hholds⟩
  · exact habsent
  · rw [extract_of_holds hholds] at h
    split at h
    · cases h
    · cases h

theorem extract_eq_empty_iff {code : Text} :
    extract code = .error .emptyGuestCode ↔
      ∃ body : Text, Holds code body ∧ body.all isBlank = true := by
  constructor
  · intro h
    rcases absent_or_holds code with habsent | ⟨body, hholds⟩
    · rw [extract_of_absent habsent] at h
      cases h
    · rw [extract_of_holds hholds] at h
      split at h
      · next hblank => exact ⟨body, hholds, hblank⟩
      · cases h
  · rintro ⟨body, hholds, hblank⟩
    rw [extract_of_holds hholds, if_pos hblank]

/-- A text is the unit exactly if it is the core of what stands behind the directive, and not empty. -/
theorem extract_eq_ok_iff {code unit : Text} :
    extract code = .ok unit ↔ unit ≠ [] ∧ ∃ body, Holds code body ∧ unit.IsCoreOf body := by
  constructor
  · intro h
    rcases absent_or_holds code with habsent | ⟨body, hholds⟩
    · rw [extract_of_absent habsent] at h
      cases h
    · rw [extract_of_holds hholds] at h
      split at h
      · cases h
      · next hblank =>
        cases h
        exact ⟨mt trim_eq_nil_iff.1 hblank, body, hholds, trim_eq_iff.1 rfl⟩
  · rintro ⟨hne, body, hholds, hcore⟩
    obtain rfl := trim_eq_iff.2 hcore
    rw [extract_of_holds hholds, if_neg (mt trim_eq_nil_iff.2 hne)]

/-! ## §3 Lines -/

/-- A line that opens a module: the literal between blanks, and a semicolon or none. -/
structure Line where
  before : Text := []
  opening : Char := '"'
  closing : Char := '"'
  semicolon : Bool := false
  behind : Text := []
  isBlank_before : before.all isBlank = true := by decide
  isQuote_opening : isQuote opening = true := by decide
  isQuote_closing : isQuote closing = true := by decide
  isBlank_behind : behind.all isBlank = true := by decide

/-- A line as it is written. -/
def Line.text (l : Line) : Text :=
  l.before ++ l.opening :: (words ++ l.closing :: ((if l.semicolon then [';'] else []) ++ l.behind))

/-- Behind a line with a directive a module holds the blanks of that line, its end and the rest. -/
theorem Line.holds (l : Line) (body : Text) :
    Holds (l.text ++ '\n' :: body) (l.behind ++ '\n' :: body) := by
  have htext : l.text ++ '\n' :: body = l.before ++ l.opening :: (words ++ l.closing ::
      ((if l.semicolon then [';'] else []) ++ (l.behind ++ '\n' :: body))) := by
    simp [Line.text]
  rw [htext]
  cases l.semicolon with
  | true => exact .ended (.literal l.isBlank_before l.isQuote_opening l.isQuote_closing)
  | false =>
    refine .bare (.literal l.isBlank_before l.isQuote_opening l.isQuote_closing) fun hhead => ?_
    -- only a blank can come directly behind the literal
    have hblank := l.isBlank_behind
    cases hbehind : l.behind with
    | nil => simp [hbehind] at hhead
    | cons c rest =>
      rw [hbehind] at hhead hblank
      cases hhead
      simp [isBlank] at hblank

/-- The unit behind a line with a directive is the core of what stands there. -/
theorem Line.extract_eq (l : Line) {body unit : Text} (hunit : unit ≠ [])
    (hcore : unit.IsCoreOf body) : extract (l.text ++ '\n' :: body) = .ok unit := by
  refine extract_eq_ok_iff.2 ⟨hunit, _, l.holds body, ?_⟩
  have hbefore : (l.behind ++ ['\n']).all isBlank = true := by
    rw [List.all_append, l.isBlank_behind]
    rfl
  simpa using hcore.between hbefore List.all_nil

/-- A module holds Go exactly if it opens with the literal. What is read from it is a failure or the core
of what stands behind the directive, which is a failure exactly if there are only blanks; and behind
whatever line with a directive a text is put, what is read from there is the core of that text, which for
a unit is itself. -/
theorem extract_embedded (code : Text) :
    (isPresent code = true ↔ ∃ rest, Opens rest code) ∧
      (extract code = .error .directiveNotFound ↔ isPresent code = false) ∧
      (extract code = .error .emptyGuestCode ↔
        ∃ body : Text, Holds code body ∧ body.all isBlank = true) ∧
      (extract code = .error .directiveNotFound ∨ extract code = .error .emptyGuestCode ∨
        ∃ unit body, extract code = .ok unit ∧ unit ≠ [] ∧ unit.IsTrimmed ∧
          Holds code body ∧ unit.IsCoreOf body) ∧
      (∀ (line : Line) (body : Text), body.all isBlank = false →
        ∃ unit, unit.IsCoreOf body ∧ extract (line.text ++ '\n' :: body) = .ok unit) ∧
      ∀ (line : Line) (unit : Text), extract code = .ok unit →
        extract (line.text ++ '\n' :: unit) = .ok unit := by
  refine ⟨isPresent_iff, extract_eq_absent_iff, extract_eq_empty_iff, ?_, ?_, ?_⟩
  · match hextract : extract code with
    | .ok unit =>
      obtain ⟨hne, body, hholds, hcore⟩ := extract_eq_ok_iff.1 hextract
      exact .inr (.inr ⟨unit, body, rfl, hne, hcore.1, hholds, hcore⟩)
    | .error e =>
      rcases absent_or_holds code with habsent | ⟨body, hholds⟩
      · rw [extract_of_absent habsent] at hextract
        exact .inl hextract.symm
      · rw [extract_of_holds hholds] at hextract
        split at hextract
        · exact .inr (.inl hextract.symm)
        · cases hextract
  · intro line body hbody
    have hne : trim body ≠ [] := by simp [trim_eq_nil_iff, hbody]
    exact ⟨trim body, trim_eq_iff.1 rfl, line.extract_eq hne (trim_eq_iff.1 rfl)⟩
  · intro line unit hunit
    obtain ⟨hne, body, -, hcore⟩ := extract_eq_ok_iff.1 hunit
    exact line.extract_eq hne ⟨hcore.1, [], [], rfl, rfl, by simp⟩

/-- A unit that begins with a semicolon, behind a line that has one and a line that has none. -/
theorem extract_embedded_semicolons :
    (";\ta \n" : Text).all isBlank = false ∧ extract "'use golang\";;a \n" = .ok ";a" ∧
      (∃ unit : Text, unit.IsCoreOf ";\ta \n" ∧
        extract (Line.text { before := "\n ", semicolon := true, behind := " \t" } ++
          '\n' :: ";\ta \n") = .ok unit) ∧
      extract (Line.text { closing := '\'' } ++ '\n' :: ";a") = .ok ";a" := by
  have hbody : (";\ta \n" : Text).all isBlank = false := by decide
  have hunit : extract "'use golang\";;a \n" = .ok ";a" := by cbv
  obtain ⟨-, -, -, -, hlines, hagain⟩ := extract_embedded "'use golang\";;a \n"
  exact ⟨hbody, hunit, hlines _ _ hbody, hagain _ _ hunit⟩

end EmbeddedGo.Directive
