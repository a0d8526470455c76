/-
EmbeddedGo.Proofs.YamlTokens — what the tokens of a YAML text have to do with it.

The scanner moves through its text and only ever forgets the beginning of what is left (`Within`). So
the characters of a plain scalar are those of the text, but for the white space that line breaks fold
to. And where the scanner cannot go on there is a place in the text to be named; only one kind of
trouble is not of that kind, an escape for a code point that no character has (`tokens_isOf`).

  §1 cursors
  §2 problems of a text
  §3 quoted scalars
  §4 plain scalars
  §5 one token
  §6 all tokens
-/
import Mathlib.Algebra.Group.Nat.Defs
import EmbeddedGo.Data.Yaml.Token
import EmbeddedGo.Proofs.Endings

namespace EmbeddedGo.Yaml

open Text

variable {α β : Type} {s : Text} {cur cur' : Cursor} {P : α → Prop} {Q : β → Prop}

/-! ## §1 Cursors -/

namespace Cursor

theorem next_suffix (cur : Cursor) : cur.next.rest <:+ cur.rest := by
  unfold next
  split
  · exact List.suffix_rfl
  · next c rest hrest =>
    rw [hrest]
    exact List.suffix_cons c rest

theorem skip_suffix (n : Nat) (cur : Cursor) : (cur.skip n).rest <:+ cur.rest := by
  induction n generalizing cur with
  | zero => exact List.suffix_rfl
  | succ n ih => exact (ih cur.next).trans (next_suffix cur)

theorem skipWhile_suffix (cur : Cursor) (holds : Char → Bool) :
    (cur.skipWhile holds).rest <:+ cur.rest := skip_suffix _ cur

theorem next_rest {c : Char} {rest : Text} (h : cur.rest = c :: rest) : cur.next.rest = rest := by
  unfold next
  rw [h]

theorem lineBreak?_eq_some {c : Char} (h : cur.lineBreak? = some (c, cur')) :
    isBreak c = true ∧ cur'.rest <:+ cur.rest := by
  have hnext := next_suffix cur
  unfold lineBreak? at h
  split at h
  · next d rest hrest =>
    split at h
    · next hd =>
      cases h
      exact ⟨by rcases hd with rfl | rfl <;> decide, hnext⟩
    · split at h
      · cases h
        exact ⟨by decide, hnext⟩
      · cases h
  · cases h

end Cursor

open Cursor

/-! ## §2 Problems -/

/-- A text has an escape for a code point that no character has. -/
def HasVoidEscape (s : Text) : Prop :=
  ∃ digits n, '\\' :: 'U' :: digits <:+: s ∧ digits.length = 8 ∧ natInBase? 16 digits = some n ∧
    0x10FFFF < n

/-- A problem that a text can have: one of the grammar, with its place, or such an escape. -/
def Problem.IsOf (s : Text) : Problem → Prop
  | .marked .. | .unacceptable .. => True
  | .noValue _ | .tooLarge _ => HasVoidEscape s
  | .tooDeep => False

/-- A step of the scanner ends well, or with a problem that the text has. -/
def Scans (s : Text) (P : α → Prop) : Except Problem α → Prop := Ends (Problem.IsOf s) P

/-! ## §3 Quoted scalars -/

theorem quotedBreaks_scans (start : Mark) (fuel : Nat) (hcur : cur.rest <:+ s) :
    Scans s (fun r => r.2.rest <:+ s) (quotedBreaks start fuel cur) := by
  induction fuel generalizing cur with
  | zero => exact hcur
  | succ fuel ih =>
    have hskip := (skipWhile_suffix cur isSpaceOrTab).trans hcur
    unfold quotedBreaks
    split
    · trivial
    · dsimp only
      split
      · exact hskip
      · next c cur' hbreak =>
        exact (ih ((lineBreak?_eq_some hbreak).2.trans hskip)).map fun r hr => hr

theorem quotedSpaces_scans (start : Mark) (hcur : cur.rest <:+ s) :
    Scans s (fun r => r.2.rest <:+ s) (quotedSpaces start cur) := by
  have hskip := (skipWhile_suffix cur isSpaceOrTab).trans hcur
  unfold quotedSpaces
  dsimp only
  split
  · trivial
  · next c cur' hbreak _ =>
    exact (quotedBreaks_scans start _ ((lineBreak?_eq_some hbreak).2.trans hskip)).map
      fun r hr => hr
  · exact hskip

theorem lt_of_foldlM {digits : Text} {base n k : Nat}
    (h : digits.foldlM (fun n c => do
      let d ← hexDigit? c
      if d < base then some (n * base + d) else none) k = some n) :
    n < (k + 1) * base ^ digits.length := by
  induction digits generalizing k with
  | nil =>
    cases h
    simp
  | cons c digits ih =>
    rw [List.foldlM_cons] at h
    obtain ⟨m, hm, hrest⟩ := Option.bind_eq_some_iff.1 h
    obtain ⟨d, hd, hbase⟩ := Option.bind_eq_some_iff.1 hm
    split at hbase
    · next hlt =>
      cases hbase
      calc n < (k * base + d + 1) * base ^ digits.length := ih hrest
        _ ≤ ((k + 1) * base) * base ^ digits.length :=
          Nat.mul_le_mul_right _ (by rw [Nat.add_mul]; omega)
        _ = (k + 1) * base ^ (c :: digits).length := by
          rw [List.length_cons, Nat.pow_succ, Nat.mul_assoc, Nat.mul_comm base]
    · cases hbase

theorem natInBase?_lt {digits : Text} {base n : Nat} (h : natInBase? base digits = some n) :
    n < base ^ digits.length := by
  unfold natInBase? at h
  split at h
  · cases h
  · simpa using lt_of_foldlM h

/-- The digits of an escape are not enough, or they stand for a code point; or there are eight, and
they stand for none. -/
theorem codePoint_scans (start : Mark) {c : Char} {length : Nat}
    (hlength : codeLength? c = some length) (hcur : '\\' :: c :: cur.rest <:+ s) :
    Scans s (fun r => r.2.rest <:+ s) (codePoint start length cur) := by
  have hrest : cur.rest <:+ s :=
    ((List.suffix_cons _ _).trans (List.suffix_cons _ _)).trans hcur
  unfold codePoint
  dsimp only
  split
  · next n _ hvalue =>
    split
    · trivial
    · next henough =>
      have hvoid : 0x10FFFF < n → HasVoidEscape s := by
        intro hlarge
        have hlt := natInBase?_lt hvalue
        have htake : (cur.rest.take length).length = length := by
          have := List.length_take_le length cur.rest
          omega
        rw [htake] at hlt
        unfold codeLength? at hlength
        split at hlength <;> cases hlength
        · omega
        · omega
        · refine ⟨_, n, ?_, htake, hvalue, hlarge⟩
          have hhead : '\\' :: 'U' :: cur.rest.take 8 <+: '\\' :: 'U' :: cur.rest :=
            List.prefix_append_right_inj ['\\', 'U'] |>.2 (List.take_prefix 8 cur.rest)
          exact hhead.isInfix.trans hcur.isInfix
      split
      · next hlarge => exact hvoid (by omega)
      · split
        · next hlarge => exact hvoid hlarge
        · exact (skip_suffix _ _).trans hrest
  · trivial

theorem escape_scans (start : Mark) (hcur : '\\' :: cur.rest <:+ s) :
    Scans s (fun r => r.2.rest <:+ s) (escape start cur) := by
  have hrest : cur.rest <:+ s := (List.suffix_cons _ _).trans hcur
  unfold escape
  split
  · trivial
  · next c rest hcons =>
    split
    · exact (next_suffix cur).trans hrest
    · next length _ hlength =>
      exact codePoint_scans start hlength (by rwa [next_rest hcons, ← hcons])
    · next cur' _ hbreak =>
      exact (quotedBreaks_scans start _ ((lineBreak?_eq_some hbreak).2.trans hrest)).map
        fun r hr => hr
    · trivial

theorem quotedBody_scans (double : Bool) (start : Mark) (fuel : Nat) (done : List (List Nat))
    (cur : Cursor) (hcur : cur.rest <:+ s) :
    Scans s (fun r => r.2.rest <:+ s) (quotedBody double start fuel done cur) := by
  induction fuel generalizing done cur with
  | zero => trivial
  | succ fuel ih =>
    have hnext := (next_suffix cur).trans hcur
    have hskip := (skip_suffix 2 cur).trans hcur
    unfold quotedBody
    split
    · split
      · exact ih _ _ hnext
      · exact ih _ _ hskip
    · split
      · exact ih _ _ hnext
      · exact hnext
    · split
      · exact hnext
      · exact ih _ _ hnext
    · next rest hcons =>
      split
      · have hescape : '\\' :: cur.next.rest <:+ s := by rwa [next_rest hcons, ← hcons]
        exact (escape_scans start hescape).bind fun r hr => ih _ _ hr
      · exact ih _ _ hnext
    · split
      · exact (quotedSpaces_scans start hcur).bind fun r hr => ih _ _ hr
      · exact ih _ _ hnext

theorem quotedScalar_scans (double : Bool) (hcur : cur.rest <:+ s) :
    Scans s (fun r => r.2.rest <:+ s) (quotedScalar double cur) :=
  quotedBody_scans double _ _ _ _ ((next_suffix cur).trans hcur)

/-! ## §4 Plain scalars -/

/-- A text is made of characters of another one, and of white space. -/
def IsFrom (s t : Text) : Prop := ∀ c ∈ t, c ∈ s ∨ endsWord (some c) = true

theorem endsWord_of_isBreak {c : Char} (h : isBreak c = true) : endsWord (some c) = true := by
  simp [endsWord, h]

theorem isFrom_of_blanks {t : Text} (h : ∀ c ∈ t, c = ' ') : IsFrom s t := by
  intro c hc
  rw [h c hc]
  exact .inr (by decide)

theorem IsFrom.append {t u : Text} (ht : IsFrom s t) (hu : IsFrom s u) : IsFrom s (t ++ u) := by
  intro c hc
  rcases List.mem_append.1 hc with h | h
  · exact ht c h
  · exact hu c h

theorem isPrefix_plainRun (inFlow : Bool) (s : Text) : plainRun inFlow s <+: s := by
  induction s with
  | nil => exact List.prefix_rfl
  | cons c s ih =>
    unfold plainRun
    split
    · exact List.nil_prefix
    · exact (List.prefix_cons_inj c).2 ih

theorem plainRun_isFrom (inFlow : Bool) (hcur : cur.rest <:+ s) :
    IsFrom s (plainRun inFlow cur.rest) := fun _ hc =>
  .inl (hcur.subset ((isPrefix_plainRun inFlow cur.rest).subset hc))

/-- Line breaks and where they lead: white space, if no document ends there, and a place behind. -/
theorem plainBreaks_isFrom (fuel : Nat) (hcur : cur.rest <:+ s) :
    (∀ t ∈ (plainBreaks fuel cur).1, IsFrom s t) ∧ (plainBreaks fuel cur).2.rest <:+ s := by
  induction fuel generalizing cur with
  | zero => exact ⟨by simp [plainBreaks, IsFrom], hcur⟩
  | succ fuel ih =>
    have hskip := (skipWhile_suffix cur (· == ' ')).trans hcur
    unfold plainBreaks
    split
    · exact ⟨by simp, hcur⟩
    · dsimp only
      split
      · exact ⟨by simp [IsFrom], hskip⟩
      · next c cur' hbreak =>
        obtain ⟨hc, hcur'⟩ := lineBreak?_eq_some hbreak
        obtain ⟨hlater, hrest⟩ := ih (hcur'.trans hskip)
        refine ⟨fun t ht => ?_, hrest⟩
        obtain ⟨later, hmem, rfl⟩ := Option.map_eq_some_iff.1 ht
        intro d hd
        rcases List.mem_cons.1 hd with rfl | hd
        · exact .inr (endsWord_of_isBreak hc)
        · exact hlater later hmem d hd

theorem folded_isFrom {c : Char} {t : Text} (hc : isBreak c = true) (ht : IsFrom s t) :
    IsFrom s (folded c t) := by
  unfold folded
  split
  · intro d hd
    rcases List.mem_cons.1 hd with rfl | hd
    · exact .inr (endsWord_of_isBreak hc)
    · exact ht d hd
  · split
    · exact isFrom_of_blanks (by simp)
    · exact ht

theorem plainSpaces_isFrom (hcur : cur.rest <:+ s) :
    (∀ t ∈ (plainSpaces cur).1, IsFrom s t) ∧ (plainSpaces cur).2.1.rest <:+ s := by
  have hskip := (skipWhile_suffix cur (· == ' ')).trans hcur
  unfold plainSpaces
  dsimp only
  split
  · refine ⟨fun t ht => ?_, hskip⟩
    split at ht
    · cases ht
    · cases ht
      have hblank := List.all_eq_true.1 (List.all_takeWhile (p := (· == ' ')) (l := cur.rest))
      exact isFrom_of_blanks fun c hc => by simpa using hblank c hc
  · next c cur' hbreak =>
    obtain ⟨hc, hcur'⟩ := lineBreak?_eq_some hbreak
    obtain ⟨hlater, hrest⟩ := plainBreaks_isFrom (cur'.rest.length + 1) (hcur'.trans hskip)
    refine ⟨fun t ht => ?_, hrest⟩
    obtain ⟨later, hmem, rfl⟩ := Option.map_eq_some_iff.1 ht
    exact folded_isFrom hc (hlater later hmem)

theorem plainBody_isFrom (inFlow : Bool) (indent : Int) (fuel : Nat) {done : List Text}
    {spaces : Text} (lineEnded : Bool) (hdone : IsFrom s done.reverse.flatten)
    (hspaces : IsFrom s spaces) (hcur : cur.rest <:+ s) :
    IsFrom s (plainBody inFlow indent fuel done spaces cur lineEnded).1 ∧
      (plainBody inFlow indent fuel done spaces cur lineEnded).2.1.rest <:+ s := by
  induction fuel generalizing done spaces cur lineEnded with
  | zero => exact ⟨hdone, hcur⟩
  | succ fuel ih =>
    have hrun : IsFrom s (if cur.peek 0 = some '#' then [] else plainRun inFlow cur.rest) := by
      split
      · exact fun c hc => nomatch hc
      · exact plainRun_isFrom inFlow hcur
    unfold plainBody
    generalize (if cur.peek 0 = some '#' then [] else plainRun inFlow cur.rest) = run at hrun
    dsimp only
    split
    · exact ⟨hdone, hcur⟩
    · obtain ⟨hblank, hrest⟩ := plainSpaces_isFrom ((skip_suffix run.length cur).trans hcur)
      have hmore : IsFrom s (run :: spaces :: done).reverse.flatten := by
        simpa [List.append_assoc] using (hdone.append hspaces).append hrun
      split
      · next hend =>
        rw [hend] at hrest
        exact ⟨hmore, hrest⟩
      · next spaces' _ _ hend =>
        rw [hend] at hrest hblank
        split
        · exact ⟨hmore, hrest⟩
        · exact ih _ hmore (hblank spaces' rfl) hrest

theorem plainScalar_isFrom (inFlow : Bool) (indent : Int) (hcur : cur.rest <:+ s) :
    IsFrom s (plainScalar inFlow indent cur).1 ∧ (plainScalar inFlow indent cur).2.1.rest <:+ s :=
  plainBody_isFrom inFlow indent _ false (fun _ h => nomatch h) (fun _ h => nomatch h) hcur

/-! ## §5 One token -/

/-- What a token has to do with its text. -/
def Token.IsOf (s : Text) : Token → Prop
  | .plain t => IsFrom s t
  | .trouble cause => cause.IsOf s
  | _ => True

namespace Scanner

variable {sc : Scanner}

/-- A scanner is in a text, and its tokens are of that text. What else it remembers is of no
concern. -/
abbrev Within (s : Text) (sc : Scanner) : Prop :=
  sc.cursor.rest <:+ s ∧ ∀ l ∈ sc.tokens, l.token.IsOf s

theorem Within.rest (h : Within s sc) : sc.cursor.rest <:+ s := h.1

theorem Within.tokens (h : Within s sc) : ∀ l ∈ sc.tokens, l.token.IsOf s := h.2

theorem Within.push (h : Within s sc) (token : Token) (htoken : token.IsOf s) (mark : Mark) :
    Within s (sc.push token mark) := by
  refine ⟨h.rest, fun l hl => ?_⟩
  rcases Array.mem_push.1 hl with hl | rfl
  · exact h.tokens l hl
  · exact htoken

theorem Within.mark (h : Within s sc) (token : Token) (htoken : token.IsOf s) (length : Nat) :
    Within s (sc.mark token length) :=
  ⟨(skip_suffix length _).trans h.rest, (h.push token htoken _).tokens⟩

theorem Within.insertBefore (h : Within s sc) (token : Token) (htoken : token.IsOf s)
    (c : Candidate) : Within s (sc.insertBefore c token) := by
  refine ⟨h.rest, fun l hl => ?_⟩
  unfold Scanner.insertBefore at hl
  dsimp only at hl
  rw [Array.insertIdxIfInBounds] at hl
  split at hl
  · rcases Array.mem_insertIdx.1 hl with rfl | hl
    · exact htoken
    · exact h.tokens l hl
  · exact h.tokens l hl

theorem Within.indented (h : Within s sc) {sc' : Scanner} {column : Int}
    (hindent : sc.indentTo column = some sc') : Within s sc' := by
  unfold indentTo at hindent
  split at hindent <;> cases hindent
  exact h

theorem Within.unwindFrom (h : Within s sc) (column : Int) (outer : List Int) :
    Within s (unwindFrom column outer sc) := by
  induction outer generalizing sc with
  | nil => exact h
  | cons i outer ih =>
    unfold Scanner.unwindFrom
    split
    · have hsame : Within s { sc with indent := i, outer } := h
      exact ih (hsame.push .blockEnd trivial _)
    · exact h

theorem Within.unwind (h : Within s sc) (column : Int) : Within s (sc.unwind column) := by
  unfold Scanner.unwind
  split
  · exact h.unwindFrom column _
  · exact h

theorem Within.beginBlock (h : Within s sc) (token : Token) (htoken : token.IsOf s) :
    Within s (sc.beginBlock token) := by
  unfold Scanner.beginBlock
  split
  · next hindent => exact (h.indented hindent).push token htoken _
  · exact h

theorem Within.toNextToken (h : Within s sc) (fuel : Nat) : Within s (toNextToken fuel sc) := by
  induction fuel generalizing sc with
  | zero => exact h
  | succ fuel ih =>
    have hblank := (skipWhile_suffix sc.cursor (· == ' ')).trans h.rest
    unfold Scanner.toNextToken
    extract_lets blank cur
    have hcur : cur.rest <:+ s := by
      unfold cur
      split
      · exact (skipWhile_suffix _ _).trans hblank
      · exact hblank
    split
    · next hbreak => exact ih ⟨(lineBreak?_eq_some hbreak).2.trans hcur, h.tokens⟩
    · exact ⟨hcur, h.tokens⟩

theorem giveUp_scans (h : Within s sc) (gone : Candidate → Bool) :
    Scans s (Within s) (sc.giveUp gone) := by
  unfold giveUp
  split
  · trivial
  · exact h

theorem dropCandidate_scans (h : Within s sc) : Scans s (Within s) sc.dropCandidate :=
  giveUp_scans h _

theorem remember_scans (h : Within s sc) : Scans s (Within s) sc.remember := by
  unfold remember
  split
  · exact (dropCandidate_scans h).bind fun _ h' => h'
  · exact h

theorem finish_scans (h : Within s sc) : Scans s (Within s) sc.finish :=
  (dropCandidate_scans (h.unwind _)).bind fun _ h' => .pure (h'.push .streamEnd trivial _)

theorem documentMark_scans (h : Within s sc) (token : Token) (htoken : token.IsOf s) :
    Scans s (Within s) (sc.documentMark token) :=
  (dropCandidate_scans (h.unwind _)).bind fun _ h' =>
    .pure (Within.mark h' token htoken 3)

theorem versionNumber_scans (hcur : cur.rest <:+ s) :
    Scans s (fun r => r.2.rest <:+ s) (sc.versionNumber cur) := by
  unfold versionNumber
  split
  · trivial
  · exact (skip_suffix _ _).trans hcur

theorem version_scans (hcur : cur.rest <:+ s) :
    Scans s (fun r => r.2.rest <:+ s) (sc.version cur) := by
  unfold version
  refine (versionNumber_scans ((skipWhile_suffix _ _).trans hcur)).bind fun ⟨major, cur⟩ hmajor => ?_
  refine ends_ite trivial ?_
  refine (versionNumber_scans ((next_suffix _).trans hmajor)).bind fun ⟨minor, cur⟩ hminor => ?_
  exact ends_ite hminor trivial

theorem directiveEnd_scans (hcur : cur.rest <:+ s) :
    Scans s (fun cur' => cur'.rest <:+ s) (sc.directiveEnd cur) := by
  have hblank := (skipWhile_suffix cur (· == ' ')).trans hcur
  unfold directiveEnd
  extract_lets blank cur'
  have hcur' : cur'.rest <:+ s := by
    unfold cur'
    split
    · exact (skipWhile_suffix _ _).trans hblank
    · exact hblank
  split
  · exact hcur'
  · trivial

theorem directive_scans (h : Within s sc) : Scans s (Within s) sc.directive := by
  unfold directive
  refine (dropCandidate_scans (h.unwind _)).bind fun sc' h' => ?_
  have hnext := (next_suffix sc'.cursor).trans h'.rest
  extract_lets cur name behind behindName
  have hbehind : behind.rest <:+ s := (skip_suffix _ _).trans hnext
  split
  · trivial
  · have hend : ∀ r : Option (Nat × Nat) × Cursor, r.2.rest <:+ s →
        Scans s (Within s) (behindName r) := by
      intro r hr
      refine (directiveEnd_scans hr).bind fun cur' hcur' => ?_
      exact ⟨hcur', (h'.push (.directive r.1) trivial sc'.cursor.mark).tokens⟩
    split
    · have hversion : Scans s (fun r : Option (Nat × Nat) × Cursor => r.2.rest <:+ s)
          ((sc'.version behind).map fun r => (some r.1, r.2)) :=
        (version_scans hbehind).map fun _ hr => hr
      exact hversion.bind hend
    · have hnone : Scans s (fun r : Option (Nat × Nat) × Cursor => r.2.rest <:+ s)
          (.ok (none, behind.skipWhile fun c => !isBreak c)) :=
        (skipWhile_suffix behind _).trans hbehind
      exact hnone.bind hend

theorem opening_scans (h : Within s sc) (token : Token) (htoken : token.IsOf s) :
    Scans s (Within s) (sc.opening token) :=
  (remember_scans h).bind fun _ h' => .pure (Within.mark h' token htoken 1)

theorem closing_scans (h : Within s sc) (token : Token) (htoken : token.IsOf s) :
    Scans s (Within s) (sc.closing token) :=
  (dropCandidate_scans h).bind fun _ h' => .pure (Within.mark h' token htoken 1)

theorem comma_scans (h : Within s sc) : Scans s (Within s) sc.comma := by
  have hsame : Within s { sc with keyAllowed := true } := h
  exact (dropCandidate_scans hsame).bind fun _ h' => .pure (h'.mark .separator trivial 1)

/-- A mark that can begin a block, behind the end of a key that was waited for. -/
theorem blockMark_scans (h : Within s sc) (block token : Token) (hblock : block.IsOf s)
    (htoken : token.IsOf s) (inBlock : Prop) [Decidable inBlock] (keyAllowed : Bool) :
    Scans s (Within s) (do
      let sc := if inBlock then sc.beginBlock block else sc
      let sc ← { sc with keyAllowed }.dropCandidate
      return sc.mark token 1) := by
  extract_lets begun
  have hbegun : Within s begun := by
    unfold begun
    split
    · exact h.beginBlock block hblock
    · exact h
  have hsame : Within s { begun with keyAllowed } := hbegun
  exact (dropCandidate_scans hsame).bind fun _ h' => .pure (h'.mark token htoken 1)

theorem dash_scans (h : Within s sc) : Scans s (Within s) sc.dash := by
  unfold dash
  split
  · trivial
  · exact blockMark_scans h .blockSequence .entry trivial trivial _ _

theorem question_scans (h : Within s sc) : Scans s (Within s) sc.question := by
  unfold question
  split
  · trivial
  · exact blockMark_scans h .blockMapping .key trivial trivial _ _

theorem colon_scans (h : Within s sc) : Scans s (Within s) sc.colon := by
  unfold colon
  split
  · next c _ =>
    extract_lets fewer keyed blocked
    have hfewer : Within s fewer := h
    have hkeyed : Within s keyed := hfewer.insertBefore .key trivial c
    have hblocked : Within s blocked := by
      unfold blocked
      split
      · split
        · next hindent => exact (hkeyed.indented hindent).insertBefore .blockMapping trivial c
        · exact hkeyed
      · exact hkeyed
    exact .pure (Within.mark hblocked .colon trivial 1)
  · split
    · trivial
    · exact blockMark_scans h .blockMapping .colon trivial trivial _ _

theorem quotedToken_scans (h : Within s sc) (double : Bool) :
    Scans s (Within s) (sc.quotedToken double) := by
  refine (remember_scans h).bind fun sc' h' => ?_
  refine (quotedScalar_scans double h'.rest).bind fun r hr => ?_
  have hpush := h'.push (.quoted r.1) trivial sc'.cursor.mark
  exact ⟨hr, hpush.tokens⟩

theorem plainToken_scans (h : Within s sc) : Scans s (Within s) sc.plainToken := by
  refine (remember_scans h).bind fun sc' h' => ?_
  obtain ⟨htext, hrest⟩ := plainScalar_isFrom (sc'.depth != 0) (sc'.indent + 1) h'.rest
  have hpush := h'.push (.plain _) htext sc'.cursor.mark
  exact ⟨hrest, hpush.tokens⟩

/-- What each character makes of a scanner. -/
theorem token_scans (h : Within s sc) (c : Char) : Scans s (Within s) (sc.token c) := by
  unfold token
  exact ends_ite (directive_scans h) <| ends_ite (documentMark_scans h _ trivial) <|
    ends_ite (documentMark_scans h _ trivial) <| ends_ite (opening_scans h _ trivial) <|
    ends_ite (opening_scans h _ trivial) <| ends_ite (closing_scans h _ trivial) <|
    ends_ite (closing_scans h _ trivial) <| ends_ite (comma_scans h) <|
    ends_ite (dash_scans h) <| ends_ite (question_scans h) <| ends_ite (colon_scans h) <|
    ends_ite (quotedToken_scans h false) <| ends_ite (quotedToken_scans h true) <|
    ends_ite (plainToken_scans h) trivial

/-! ## §6 All tokens -/

theorem step_scans (h : Within s sc) (fuel : Nat) :
    Scans s (fun r => Within s r.1) (sc.step fuel) := by
  refine (giveUp_scans (h.toNextToken fuel) _).bind fun sc' h' => ?_
  have hunwound := h'.unwind sc'.column
  dsimp only
  split
  · exact (finish_scans hunwound).bind fun _ h'' => h''
  · exact (token_scans hunwound _).bind fun _ h'' => h''

theorem mem_of_mem_settled {l : Located} (hl : l ∈ sc.settled) : l ∈ sc.tokens :=
  Array.mem_toList_iff.1 (List.mem_of_mem_take hl)

theorem run_isOf (h : Within s sc) (fuel : Nat) : ∀ l ∈ run fuel sc, l.token.IsOf s := by
  induction fuel generalizing sc with
  | zero => exact fun l hl => h.tokens l (Array.mem_toList_iff.1 hl)
  | succ fuel ih =>
    have hstep := step_scans h (fuel + 1)
    intro l hl
    unfold run at hl
    split at hl
    · next cause hcause =>
      rw [hcause] at hstep
      rcases List.mem_append.1 hl with hl | hl
      · exact h.tokens l (mem_of_mem_settled hl)
      · rw [List.mem_singleton.1 hl]
        exact hstep
    · next sc' hsc' =>
      rw [hsc'] at hstep
      exact Within.tokens hstep l (Array.mem_toList_iff.1 hl)
    · next sc' hsc' =>
      rw [hsc'] at hstep
      exact ih hstep l hl

end Scanner

/-- The tokens of a text are of that text. -/
theorem tokens_isOf (s : Text) : ∀ l ∈ tokens s, l.token.IsOf s := by
  unfold tokens
  split
  · intro l hl
    rw [List.mem_singleton.1 hl]
    trivial
  · have hcursor : (Cursor.ofText s).rest <:+ s := by
      unfold Cursor.ofText
      extract_lets cur
      split
      · exact next_suffix cur
      · exact List.suffix_rfl
    exact Scanner.run_isOf ⟨hcursor, fun l hl => by simp at hl⟩ _

end EmbeddedGo.Yaml
