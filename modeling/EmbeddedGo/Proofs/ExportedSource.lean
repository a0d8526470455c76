/-
EmbeddedGo.Proofs.ExportedSource — what is written as exported functions is read as these.

A source that offers functions has for each of them a marker's line and a declaration behind it. How the
declaration is laid out is free (`Source`): neighbouring parameters of one type can share it, a comma can
follow the last parameter, the result can stand in brackets, and blanks and line ends of every kind can
stand between the tokens. The functions that such a source offers are those that it was written for, in
order (`exported_of_source`).

  §1 the sources
  §2 tokens up to the brace
  §3 lines
  §4 markers
  §5 what a source offers
-/
import EmbeddedGo.Proofs.SignatureGrammar
import EmbeddedGo.Proofs.TokenLayout

namespace EmbeddedGo.Go

open Text Token Signature

/-! ## §1 Sources -/

/-- The line that offers the next function under a name. -/
def markerLine (name : Text) : Text := "//export " ++ name

/-- The tokens of a declaration in front of its body. -/
def signatureTokens (own : Text) (listed returned : List Token) : List Token :=
  .word "func" :: .word own :: .mark '(' :: (listed ++ .mark ')' :: returned)

/-- A declaration with the parameters and the result of a function, and an empty body. The function may
have another name of its own. -/
inductive Declaration (f : Function) : Text → Prop where
  | written (own : Text) {gs : List Group} {listed returned : List Token} {s : Text}
    (hparams : Named gs f.params) (hlisted : Lists gs listed) (hresult : Returns f.result returned)
    (hlaid : Laid (signatureTokens own listed returned ++ [.mark '{', .mark '}']) s)
    (hstart : startsWith s "func" = true) : Declaration f s

/-- A source that offers functions. Behind the last declaration no line end is needed. -/
inductive Source : List Function → Text → Prop where
  | nil : Source [] []
  | last {f : Function} {lineEnd declaration : Text} (hname : isIdentifier f.name = true)
    (hend : IsBreak lineEnd) (h : Declaration f declaration) :
    Source [f] (markerLine f.name ++ lineEnd ++ declaration)
  | cons {f : Function} {fs : List Function} {lineEnd declaration lineEnd' rest : Text}
    (hname : isIdentifier f.name = true) (hend : IsBreak lineEnd) (h : Declaration f declaration)
    (hend' : IsBreak lineEnd') (hrest : Source fs rest) :
    Source (f :: fs) (markerLine f.name ++ lineEnd ++ declaration ++ lineEnd' ++ rest)

/-! ## §2 Tokens -/

/-- Tokens up to the first opening brace, which is kept. -/
def throughBraceMark : List Token → List Token
  | [] => []
  | t :: ts => if t = .mark '{' then [.mark '{'] else t :: throughBraceMark ts

theorem throughBrace_append {x : Text} (hx : '{' ∉ x) (s : Text) :
    throughBrace (x ++ s) = x ++ throughBrace s := by
  induction x with
  | nil => rfl
  | cons c x ih =>
    rw [List.mem_cons, not_or] at hx
    simp [throughBrace, Ne.symm hx.1, ih hx.2]

/-- What follows the brace does not matter. -/
theorem throughBrace_append_of_mem {s : Text} (hs : '{' ∈ s) (rest : Text) :
    throughBrace (s ++ rest) = throughBrace s := by
  induction s with
  | nil => cases hs
  | cons c s ih =>
    by_cases hc : c = '{'
    · simp [throughBrace, hc]
    · have hs : '{' ∈ s := by simpa [Ne.symm hc] using hs
      simp [throughBrace, hc, ih hs]

theorem isPrefix_throughBrace (s : Text) : throughBrace s <+: s := by
  induction s with
  | nil => exact List.prefix_rfl
  | cons c s ih =>
    rw [throughBrace]
    split
    · next h =>
      subst h
      exact ⟨s, rfl⟩
    · exact (List.prefix_cons_inj c).2 ih

theorem wordEnds_throughBrace {s : Text} (h : wordEnds s = true) :
    wordEnds (throughBrace s) = true := by
  cases s with
  | nil => rfl
  | cons c s =>
    rw [throughBrace]
    split
    · decide
    · exact h

theorem throughBraceMark_append {before : List Token} (h : .mark '{' ∉ before) (rest : List Token) :
    throughBraceMark (before ++ .mark '{' :: rest) = before ++ [.mark '{'] := by
  induction before with
  | nil => rfl
  | cons t before ih =>
    rw [List.mem_cons, not_or] at h
    simp [throughBraceMark, Ne.symm h.1, ih h.2]

section Laid

variable {tokens : List Token} {s : Text}

/-- A text up to the brace lays out the tokens up to it. -/
theorem laid_throughBrace (h : Laid tokens s) :
    Laid (throughBraceMark tokens) (throughBrace s) := by
  induction h with
  | nil => exact .nil
  | @blank tokens s c hc h ih =>
    have hbrace : c ≠ '{' := by
      rintro rfl
      cases hc
    rw [throughBrace, if_neg hbrace]
    exact .blank hc ih
  | @word tokens name s hname hs h ih =>
    have hbrace : '{' ∉ name := fun hmem =>
      absurd (isWord_of_mem_identifier hname hmem) (by decide)
    rw [throughBrace_append hbrace, throughBraceMark, if_neg (by simp)]
    exact .word hname (wordEnds_throughBrace hs) ih
  | dots h ih =>
    rw [throughBraceMark, if_neg (by simp)]
    exact .dots ih
  | @mark tokens s c hc hs h ih =>
    by_cases hbrace : c = '{'
    · subst hbrace
      exact .mark (by decide) (by simp) .nil
    · rw [throughBrace, if_neg hbrace, throughBraceMark, if_neg (by simpa using hbrace)]
      exact .mark hc (fun hdots => hs ⟨hdots.1, hdots.2.trans (isPrefix_throughBrace s)⟩) ih

theorem mem_of_mark_mem {c : Char} (h : Laid tokens s) (hc : .mark c ∈ tokens) : c ∈ s := by
  induction h with
  | nil => cases hc
  | blank _ _ ih => exact List.mem_cons_of_mem _ (ih hc)
  | word _ _ _ ih =>
    rcases List.mem_cons.1 hc with heq | hc
    · cases heq
    · exact List.mem_append_right _ (ih hc)
  | dots _ ih =>
    rcases List.mem_cons.1 hc with heq | hc
    · cases heq
    · exact List.mem_append_right ['.', '.', '.'] (ih hc)
  | mark _ _ _ ih =>
    rcases List.mem_cons.1 hc with heq | hc
    · cases heq
      exact List.mem_cons_self
    · exact List.mem_cons_of_mem _ (ih hc)

/-- What stands in a layout is a blank, or it stands in one of the tokens. -/
theorem mem_of_laid {c : Char} (h : Laid tokens s) (hc : c ∈ s) :
    isBlank c = true ∨ isWord c = true ∨ ∃ t ∈ tokens, c ∈ t.text ∧ ∀ name, t ≠ .word name := by
  induction h with
  | nil => cases hc
  | blank hb _ ih =>
    rcases List.mem_cons.1 hc with rfl | hc
    · exact .inl hb
    · exact ih hc
  | word hname _ _ ih =>
    rcases List.mem_append.1 hc with hc | hc
    · exact .inr (.inl (isWord_of_mem_identifier hname hc))
    · exact (ih hc).imp_right (.imp_right fun ⟨t, ht, h⟩ => ⟨t, List.mem_cons_of_mem _ ht, h⟩)
  | @dots tokens s _ ih =>
    rcases List.mem_append.1 (show c ∈ ['.', '.', '.'] ++ s from hc) with hc | hc
    · exact .inr (.inr ⟨.dots, List.mem_cons_self, hc, by simp⟩)
    · exact (ih hc).imp_right (.imp_right fun ⟨t, ht, h⟩ => ⟨t, List.mem_cons_of_mem _ ht, h⟩)
  | @mark tokens s d _ _ _ ih =>
    rcases List.mem_cons.1 hc with rfl | hc
    · exact .inr (.inr ⟨.mark c, List.mem_cons_self, List.mem_singleton_self c, by simp⟩)
    · exact (ih hc).imp_right (.imp_right fun ⟨t, ht, h⟩ => ⟨t, List.mem_cons_of_mem _ ht, h⟩)

end Laid

/-- The tokens of groups are words and commas. -/
theorem mem_separated {gs : List Group} {t : Token} (h : t ∈ separated gs) :
    (∃ name, t = .word name) ∨ t = .mark ',' := by
  induction gs with
  | nil => simp at h
  | cons g gs ih =>
    have hgroup : t ∈ g.tokens → ∃ name, t = .word name := by
      cases g <;> simp only [Group.tokens, List.mem_cons, List.not_mem_nil, or_false]
      · exact fun h => ⟨_, h⟩
      · rintro (h | h) <;> exact ⟨_, h⟩
    by_cases hnil : gs = []
    · subst hnil
      rw [separated_singleton] at h
      exact .inl (hgroup h)
    · rw [separated_cons hnil, List.mem_append, List.mem_cons] at h
      rcases h with h | rfl | h
      · exact .inl (hgroup h)
      · exact .inr rfl
      · exact ih h

theorem mem_of_lists {gs : List Group} {listed : List Token} (h : Lists gs listed) {t : Token}
    (ht : t ∈ listed) : (∃ name, t = .word name) ∨ t = .mark ',' := by
  cases h with
  | plain => exact mem_separated ht
  | trailing hne =>
    rcases List.mem_append.1 ht with ht | ht
    · exact mem_separated ht
    · exact .inr (List.mem_singleton.1 ht)

theorem mem_of_returns {type : Option Text} {returned : List Token} (h : Returns type returned)
    {t : Token} (ht : t ∈ returned) : (∃ name, t = .word name) ∨ t = .mark '(' ∨ t = .mark ')' := by
  cases h with
  | nothing => cases ht
  | bare type => exact .inl ⟨type, List.mem_singleton.1 ht⟩
  | bracketed type =>
    simp only [List.mem_cons, List.not_mem_nil, or_false] at ht
    rcases ht with rfl | rfl | rfl
    · exact .inr (.inl rfl)
    · exact .inl ⟨type, rfl⟩
    · exact .inr (.inr rfl)

/-- The tokens in front of the body are words, brackets and commas. -/
theorem mem_signature {gs : List Group} {own : Text} {result : Option Text}
    {listed returned : List Token} (hlisted : Lists gs listed) (hresult : Returns result returned)
    {t : Token} (ht : t ∈ signatureTokens own listed returned) :
    (∃ name, t = .word name) ∨ t = .mark ',' ∨ t = .mark '(' ∨ t = .mark ')' := by
  simp only [signatureTokens, List.mem_cons, List.mem_append] at ht
  rcases ht with rfl | rfl | rfl | ht | rfl | ht
  · exact .inl ⟨_, rfl⟩
  · exact .inl ⟨_, rfl⟩
  · exact .inr (.inr (.inl rfl))
  · exact (mem_of_lists hlisted ht).imp_right .inl
  · exact .inr (.inr (.inr rfl))
  · exact (mem_of_returns hresult ht).imp_right .inr

theorem declares_of_named {gs : List Group} {params : List Parameter} (h : Named gs params) :
    Declares gs params := by
  by_cases hsingle : AllSingle gs
  · -- without a type of its own no group is named
    cases h with
    | nil => exact .types hsingle
    | @cons g gs type params htype h =>
      obtain ⟨g', hg', htype'⟩ := List.exists_of_findSome?_eq_some htype
      rw [hsingle g' hg'] at htype'
      cases htype'
  · exact .names hsingle h

variable {f : Function} {declaration : Text}

/-- A declaration is read as the function that it was written for, whatever stands behind it. -/
theorem parse_of_declaration (h : Declaration f declaration) (rest : Text) :
    ∃ own, Signature.parse (throughBrace (declaration ++ rest)) = .ok { f with name := own } := by
  obtain ⟨own, hparams, hlisted, hresult, hlaid, -⟩ := h
  have hbrace : .mark '{' ∉ signatureTokens own _ _ := fun hmem => by
    simpa using mem_signature hlisted hresult hmem
  have htokens := laid_throughBrace hlaid
  rw [throughBraceMark_append hbrace, ← ofText_eq_iff] at htokens
  refine ⟨own, ?_⟩
  rw [throughBrace_append_of_mem (mem_of_mark_mem hlaid (by simp)), Signature.parse, htokens,
    ofTokens_eq_ok_iff]
  refine ⟨_, ?_, declares_of_named hparams⟩
  simpa [signatureTokens] using Spells.declaration own hlisted hresult (IsRest.body [])

/-! ## §3 Lines -/

theorem slash_not_mem_declaration (h : Declaration f declaration) : '/' ∉ declaration := by
  obtain ⟨own, hparams, hlisted, hresult, hlaid, -⟩ := h
  intro hmem
  rcases mem_of_laid hlaid hmem with hb | hw | ⟨t, ht, hmem, hword⟩
  · exact absurd hb (by decide)
  · exact absurd hw (by decide)
  · rcases List.mem_append.1 ht with ht | ht
    · rcases mem_signature hlisted hresult ht with ⟨name, rfl⟩ | rfl | rfl | rfl
      · exact hword name rfl
      all_goals simp [Token.text] at hmem
    · simp only [List.mem_cons, List.not_mem_nil, or_false] at ht
      rcases ht with rfl | rfl <;> simp [Token.text] at hmem

theorem startsFunction_of_startsWith {s : Text} (h : startsWith s "func" = true) :
    ∃ next rest, lines s = next :: rest ∧ startsFunction next = true := by
  obtain ⟨s', rfl⟩ := startsWith_iff.1 h
  have hlines : lines ("func".toList ++ s') =
      consLine 'f' (consLine 'u' (consLine 'n' (consLine 'c' (lines s')))) := rfl
  rw [hlines]
  cases lines s' with
  | nil => exact ⟨_, _, rfl, rfl⟩
  | cons line rest => exact ⟨_, _, rfl, rfl⟩

/-! ## §4 Markers -/

theorem markerName_markerLine {name : Text} (h : isIdentifier name = true) :
    markerName? (markerLine name) = some name := by
  cases name with
  | nil => cases h
  | cons c s =>
    simp only [isIdentifier, Bool.and_eq_true, List.all_eq_true] at h
    have hblank : isBlank c = false := isBlank_of_isWord (isWord_of_isWordStart h.1)
    have hafter : after? "//export" (trimStart (markerLine (c :: s))) = some (' ' :: c :: s) := rfl
    have htrim : trimStart (c :: s) = c :: s := by simp [trimStart, hblank]
    obtain ⟨htake, hdrop⟩ := span_of_wordEnds (s := []) h.2 rfl
    rw [List.append_nil] at htake hdrop
    have hspace : isBlank ' ' = true := by decide
    unfold markerName?
    rw [hafter]
    dsimp only
    rw [if_pos hspace, htrim]
    dsimp only
    rw [htake, hdrop, h.1]
    rfl

/-- A line without slashes is no marker's. -/
theorem markerName_of_not_mem {line : Text} (h : '/' ∉ line) : markerName? line = none := by
  have hafter : after? "//export" (trimStart line) = none := by
    cases hrest : after? "//export" (trimStart line) with
    | none => rfl
    | some rest =>
      have htext := after?_eq_some_iff.1 hrest
      have hmem : '/' ∈ trimStart line := by simp [htext]
      exact absurd ((List.dropWhile_sublist isBlank).mem hmem) h
  unfold markerName?
  rw [hafter]

/-- Lines that are no markers offer nothing. -/
theorem exportedIn_append {before : List Text} (h : ∀ line ∈ before, markerName? line = none)
    (rest : List Text) : exportedIn (before ++ rest) = exportedIn rest := by
  induction before with
  | nil => rfl
  | cons line before ih =>
    have hline : ∀ rest, offered? line rest = none := fun rest => by
      simp [offered?, h line (by simp)]
    rw [List.cons_append, exportedIn, hline, ih fun l hl => h l (by simp [hl])]
    rfl

/-! ## §5 What a source offers -/

/-- A marker in front of a declaration offers its function, and the rest is looked at behind them. -/
theorem exported_step {lineEnd : Text} (hname : isIdentifier f.name = true) (hend : IsBreak lineEnd)
    (h : Declaration f declaration) (rest : Text) :
    exported (markerLine f.name ++ lineEnd ++ (declaration ++ rest)) =
      f :: exportedIn (lines (declaration ++ rest)) := by
  obtain ⟨own, hparse⟩ := parse_of_declaration h rest
  obtain ⟨-, -, -, -, -, hstart⟩ := id h
  obtain ⟨tail, htail⟩ := startsWith_iff.1 hstart
  have hstart' : startsWith (declaration ++ rest) "func" = true :=
    startsWith_iff.2 ⟨tail ++ rest, by rw [← List.append_assoc, htail]⟩
  obtain ⟨next, others, hlines, hnext⟩ := startsFunction_of_startsWith hstart'
  have hmarker : ∀ c ∈ markerLine f.name, isLineEnd c = false := by
    intro c hc
    rcases List.mem_append.1 hc with hc | hc
    · have hall : ("//export ".toList.all fun c => !isLineEnd c) = true := by decide
      simpa using List.all_eq_true.1 hall c hc
    · rw [← Bool.not_eq_true]
      intro hlineEnd
      have := isBlank_of_isWord (isWord_of_mem_identifier hname hc)
      rw [isBlank_of_isLineEnd hlineEnd] at this
      cases this
  have hhead : (declaration ++ rest).head? ≠ some '\n' := by
    rw [← htail]
    show some 'f' ≠ some '\n'
    decide
  have hoffered : offered? (markerLine f.name) (lines (declaration ++ rest)) = some f := by
    unfold offered?
    rw [markerName_markerLine hname, hlines]
    dsimp only
    rw [if_pos hnext, ← hlines, parse_declaration, hparse]
  rw [exported, lines_line hmarker hend fun _ => hhead, exportedIn, hoffered]
  rfl

theorem exportedIn_declaration (h : Declaration f declaration) {lineEnd rest : Text}
    (hend : IsBreak lineEnd) (hrest : rest.head? ≠ some '\n') :
    exportedIn (lines (declaration ++ lineEnd ++ rest)) = exported rest := by
  rw [lines_append hend fun _ => hrest]
  refine exportedIn_append (fun line hl => markerName_of_not_mem fun hmem => ?_) _
  rcases List.mem_append.1 (mem_of_mem_line hl hmem) with hmem | hmem
  · exact slash_not_mem_declaration h hmem
  · cases hend with
    | one hc =>
      rw [List.mem_singleton] at hmem
      subst hmem
      exact absurd hc (by decide)
    | two => simp at hmem

theorem Source.head? {fs : List Function} {source : Text} (h : Source fs source) :
    source.head? ≠ some '\n' := by
  have hmarker : some '/' ≠ some '\n' := by decide
  cases h with
  | nil => simp
  | last hname hend h => exact hmarker
  | cons hname hend h hend' hrest => exact hmarker

/-- The functions that a source offers are those that it was written for, in order. -/
theorem exported_of_source {fs : List Function} {source : Text} (h : Source fs source) :
    exported source = fs := by
  induction h with
  | nil => rfl
  | @last f lineEnd declaration hname hend h =>
    have hnone : exportedIn (lines declaration) = [] := by
      rw [← List.append_nil (lines declaration)]
      exact exportedIn_append (fun line hl => markerName_of_not_mem fun hmem =>
        slash_not_mem_declaration h (mem_of_mem_line hl hmem)) []
    have hstep := exported_step hname hend h []
    rwa [List.append_nil, hnone] at hstep
  | @cons f fs lineEnd declaration lineEnd' rest hname hend h hend' hrest ih =>
    have hstep := exported_step hname hend h (lineEnd' ++ rest)
    have hrest := exportedIn_declaration h hend' hrest.head?
    rw [List.append_assoc] at hrest
    rw [List.append_assoc, List.append_assoc, hstep, hrest, ih]

/-- Two functions: one with a type that its parameters share, and one without parameters. -/
def twoFunctions : List Function :=
  [⟨"add", [⟨"a", "int"⟩, ⟨"b", "int"⟩], some "int".toList⟩, ⟨"tick", [], none⟩]

/-- A source for them, with a comma behind the last parameter, a result in brackets, and line ends of
five kinds. -/
def twoFunctionsSource : Text :=
  markerLine "add" ++ ['\n'] ++ "func sum(a, b\u2028int,)\r\n(int)\x7b\x7d" ++ ['\u0085'] ++
    (markerLine "tick" ++ ['\u000B'] ++ "func tock ( ) \x7b\n\x7d")

theorem exported_of_source_layouts :
    Source twoFunctions twoFunctionsSource ∧ exported twoFunctionsSource = twoFunctions := by
  have hsum : Laid (signatureTokens "sum" [.word "a", .mark ',', .word "b", .word "int", .mark ',']
      [.mark '(', .word "int", .mark ')'] ++ [.mark '{', .mark '}'])
      "func sum(a, b\u2028int,)\r\n(int)\x7b\x7d" := by
    refine .word (by decide) (by decide) (.blank (by decide) ?_)
    refine .word (by decide) (by decide) (.mark (by decide) (by decide) ?_)
    refine .word (by decide) (by decide) (.mark (by decide) (by decide) (.blank (by decide) ?_))
    refine .word (by decide) (by decide) (.blank (by decide) ?_)
    refine .word (by decide) (by decide) (.mark (by decide) (by decide) ?_)
    refine .mark (by decide) (by decide) (.blank (by decide) (.blank (by decide) ?_))
    refine .mark (by decide) (by decide) (.word (by decide) (by decide) ?_)
    exact .mark (by decide) (by decide) (.mark (by decide) (by decide)
      (.mark (by decide) (by decide) .nil))
  have htock : Laid (signatureTokens "tock" [] [] ++ [.mark '{', .mark '}'])
      "func tock ( ) \x7b\n\x7d" := by
    refine .word (by decide) (by decide) (.blank (by decide) ?_)
    refine .word (by decide) (by decide) (.blank (by decide) ?_)
    refine .mark (by decide) (by decide) (.blank (by decide) ?_)
    refine .mark (by decide) (by decide) (.blank (by decide) ?_)
    exact .mark (by decide) (by decide) (.blank (by decide) (.mark (by decide) (by decide) .nil))
  have hshared : Lists [.one "a", .two "b" "int"]
      [.word "a", .mark ',', .word "b", .word "int", .mark ','] := .trailing (by simp)
  have hsource : Source twoFunctions twoFunctionsSource :=
    .cons (by decide) (.one (by decide))
      (.written "sum" (.cons rfl (.cons rfl .nil)) hshared (.bracketed "int") hsum (by decide))
      (.one (by decide))
      (.last (by decide) (.one (by decide))
        (.written "tock" .nil (.plain []) .nothing htock (by decide)))
  exact ⟨hsource, exported_of_source hsource⟩

end EmbeddedGo.Go
