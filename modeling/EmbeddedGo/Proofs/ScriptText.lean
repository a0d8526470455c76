/-
EmbeddedGo.Proofs.ScriptText — comments and string literals as a JavaScript engine reads them.

A string stands for units of sixteen bits. A literal goes up to the next quote of its kind that no
backslash precedes, and cannot go over a line feed or a carriage return; the other two line terminators
end a comment but no literal. A JSON literal is a literal of the same text whatever the text holds
(`body_literal`). A text that is only put between quotes is one if it can stand there as it is, and only
then: each escape takes more than it gives (`body_verbatim_iff`).

The reader takes a script apart into comments, literals and single characters. It knows no templates, no
regular expressions and no comments over several lines, so it refuses a script that could have some.

  §1 line terminators
  §2 the inside of a literal
  §3 texts put between quotes
  §4 JSON literals
  §5 scripts
-/
import Mathlib.Algebra.Ring.Nat
import EmbeddedGo.Proofs.Reference

namespace EmbeddedGo.Script

open Text

/-! ## §1 Lines -/

/-- The characters that end a line, and a comment with it. -/
def isLineTerminator (c : Char) : Bool := c == '\n' || c == '\r' || c == '\u2028' || c == '\u2029'

/-- A text that stays on its line. -/
def IsOneLine (s : Text) : Prop := ∀ c ∈ s, isLineTerminator c = false

instance (s : Text) : Decidable (IsOneLine s) :=
  decidable_of_iff ((s.all fun c => !isLineTerminator c) = true) (by simp [IsOneLine])

/-- A text up to its first line terminator. -/
def firstLine (s : Text) : Text := s.takeWhile fun c => !isLineTerminator c

theorem isLineTerminator_of_isAlphanum {c : Char} (h : c.isAlphanum = true) :
    isLineTerminator c = false := by
  simp only [isLineTerminator, Bool.or_eq_false_iff, beq_eq_false_iff_ne]
  refine ⟨⟨⟨?_, ?_⟩, ?_⟩, ?_⟩
  all_goals
    rintro rfl
    exact absurd h (by decide)

theorem firstLine_append {s : Text} (h : IsOneLine s) (rest : Text) :
    firstLine (s ++ rest) = s ++ firstLine rest :=
  List.takeWhile_append_of_pos fun c hc => by rw [h c hc]; rfl

theorem firstLine_break {s : Text} (h : IsOneLine s) {c : Char} (hc : isLineTerminator c = true)
    (rest : Text) : firstLine (s ++ c :: rest) = s := by
  rw [firstLine_append h, firstLine, List.takeWhile_cons_of_neg (by simp [hc]), List.append_nil]

theorem isOneLine_firstLine (s : Text) : IsOneLine (firstLine s) := by
  intro c hc
  simpa using List.all_eq_true.1 List.all_takeWhile c hc

theorem isOneLine_append {s t : Text} : IsOneLine (s ++ t) ↔ IsOneLine s ∧ IsOneLine t :=
  List.forall_mem_append

/-! ## §2 Literals -/

/-- The units that a text stands for. -/
def unitsOf (s : Text) : List Nat := s.flatMap Json.units

/-- The units of a code point. -/
def pointUnits (n : Nat) : List Nat :=
  if n < 0x10000 then [n] else [0xD800 + (n - 0x10000) / 0x400, 0xDC00 + (n - 0x10000) % 0x400]

/-- The unit that a letter behind a backslash stands for. -/
def letterEscape? : Char → Option Nat
  | 'b' => some 8
  | 't' => some 9
  | 'n' => some 10
  | 'v' => some 11
  | 'f' => some 12
  | 'r' => some 13
  | _ => none

/-- The code point between braces at the head of a text. -/
def bracedPoint (s : Text) : Option (List Nat × Text) :=
  match upTo? '\x7d' s with
  | none => none
  | some (digits, rest) =>
    match natInBase? 16 digits with
    | none => none
    | some n => if n ≤ 0x10FFFF then some (pointUnits n, rest) else none

/-- The units that a backslash in front of a text makes, and what follows. Nothing is made at the end of
a line. A digit behind the backslash can only be a zero with no other behind it. -/
def escape : Text → Option (List Nat × Text)
  | [] => none
  | 'x' :: a :: b :: s => (natInBase? 16 [a, b]).map fun n => ([n], s)
  | 'x' :: _ => none
  | 'u' :: '\x7b' :: s => bracedPoint s
  | 'u' :: a :: b :: c :: d :: s => (natInBase? 16 [a, b, c, d]).map fun n => ([n], s)
  | 'u' :: _ => none
  | '\r' :: '\n' :: s => some ([], s)
  | c :: s =>
    if isLineTerminator c then some ([], s)
    else if c.isDigit then
      if c = '0' ∧ (s.head?.any Char.isDigit) = false then some ([0], s) else none
    else some (match letterEscape? c with | some n => [n] | none => Json.units c, s)

/-- The units of a literal from behind its quote, and what comes behind the quote that ends it. -/
def body (quote : Char) : Text → Option (List Nat × Text)
  | [] => none
  | c :: s =>
    if c = quote then some ([], s)
    else if c = '\\' then
      match escape s with
      | none => none
      | some (made, rest) =>
        if _ : rest.length ≤ s.length then (body quote rest).map fun r => (made ++ r.1, r.2)
        else none
    else if c = '\n' ∨ c = '\r' then none
    else (body quote s).map fun r => (Json.units c ++ r.1, r.2)
  termination_by s => s.length

theorem length_units (c : Char) : 1 ≤ (Json.units c).length ∧ (Json.units c).length ≤ 2 := by
  unfold Json.units
  dsimp only
  split <;> simp

theorem units_of_lt {c : Char} (h : c.toNat < 0x10000) : Json.units c = [c.toNat] := if_pos h

theorem length_le_unitsOf (s : Text) : s.length ≤ (unitsOf s).length := by
  induction s with
  | nil => simp
  | cons c s ih =>
    have hc := (length_units c).1
    rw [unitsOf, List.flatMap_cons, List.length_append, List.length_cons]
    rw [unitsOf] at ih
    omega

theorem unitsOf_append (s t : Text) : unitsOf (s ++ t) = unitsOf s ++ unitsOf t :=
  List.flatMap_append

theorem length_pointUnits (n : Nat) : (pointUnits n).length ≤ 2 := by
  unfold pointUnits
  split <;> simp

theorem bracedPoint_eq_some {s rest : Text} {made : List Nat} (h : bracedPoint s = some (made, rest)) :
    ∃ used, s = used ++ rest ∧ made.length ≤ 2 := by
  unfold bracedPoint at h
  split at h
  · cases h
  · next digits behind hupTo =>
    obtain ⟨rfl, -⟩ := upTo?_eq_some_iff.1 hupTo
    split at h
    · cases h
    · split at h
      · cases h
        exact ⟨digits ++ ['\x7d'], by simp, length_pointUnits _⟩
      · cases h

/-- An escape takes what it reads off its text, and makes no more units than that has. -/
theorem escape_eq_some {s rest : Text} {made : List Nat} (h : escape s = some (made, rest)) :
    ∃ used, s = used ++ rest ∧ made.length ≤ (unitsOf used).length := by
  have hlength : ∀ {used : Text} {n : Nat}, n ≤ used.length → n ≤ (unitsOf used).length :=
    fun hn => Nat.le_trans hn (length_le_unitsOf _)
  unfold escape at h
  split at h
  · cases h
  · next a b s =>
    obtain ⟨n, -, hn⟩ := Option.map_eq_some_iff.1 h
    cases hn
    exact ⟨['x', a, b], rfl, hlength (by simp)⟩
  · cases h
  · next s =>
    obtain ⟨used, rfl, hmade⟩ := bracedPoint_eq_some h
    exact ⟨'u' :: '\x7b' :: used, rfl, hlength (Nat.le_trans hmade (by simp))⟩
  · next a b c d s _ =>
    obtain ⟨n, -, hn⟩ := Option.map_eq_some_iff.1 h
    cases hn
    exact ⟨['u', a, b, c, d], rfl, hlength (by simp)⟩
  · cases h
  · cases h
    exact ⟨['\r', '\n'], rfl, by simp⟩
  · next c s _ _ _ _ _ _ =>
    split at h
    · cases h
      exact ⟨[c], rfl, by simp⟩
    · split at h
      · split at h
        · cases h
          exact ⟨[c], rfl, hlength (by simp)⟩
        · cases h
      · cases h
        refine ⟨[c], rfl, ?_⟩
        split
        · exact hlength (by simp)
        · simp [unitsOf]

/-! ## §3 Between quotes -/

/-- A text that stands between quotes as it is. -/
def IsVerbatim (quote : Char) (s : Text) : Prop :=
  ∀ c ∈ s, c ≠ quote ∧ c ≠ '\\' ∧ c ≠ '\n' ∧ c ≠ '\r'

instance (quote : Char) (s : Text) : Decidable (IsVerbatim quote s) :=
  decidable_of_iff ((s.all fun c => decide (c ≠ quote ∧ c ≠ '\\' ∧ c ≠ '\n' ∧ c ≠ '\r')) = true)
    (by simp [IsVerbatim])

theorem isVerbatim_append {quote : Char} {s t : Text} :
    IsVerbatim quote (s ++ t) ↔ IsVerbatim quote s ∧ IsVerbatim quote t := List.forall_mem_append

/-- Characters of a kind that a double quote, a backslash and line breaks are not of. -/
theorem isVerbatim_of_all {p : Char → Bool} {s : Text} (hs : ∀ c ∈ s, p c = true)
    (hp : p '"' = false ∧ p '\\' = false ∧ p '\n' = false ∧ p '\r' = false) : IsVerbatim '"' s := by
  obtain ⟨hquote, hslash, hfeed, hreturn⟩ := hp
  intro c hc
  have hc := hs c hc
  refine ⟨?_, ?_, ?_, ?_⟩ <;> rintro rfl <;> simp_all

theorem body_verbatim {quote : Char} {s : Text} (h : IsVerbatim quote s) (rest : Text) :
    body quote (s ++ quote :: rest) = some (unitsOf s, rest) := by
  induction s with
  | nil => rw [List.nil_append, body, if_pos rfl]; rfl
  | cons c s ih =>
    obtain ⟨hquote, hslash, hfeed, hreturn⟩ := h c List.mem_cons_self
    have hs : IsVerbatim quote s := fun d hd => h d (List.mem_cons_of_mem _ hd)
    rw [List.cons_append, body, if_neg hquote, if_neg hslash, if_neg (by simp [hfeed, hreturn]), ih hs]
    rfl

/-- A literal ends with its quote. It has as many units as its inside if that is verbatim, and else
fewer. -/
theorem body_eq_some {quote : Char} {s rest : Text} {made : List Nat}
    (h : body quote s = some (made, rest)) :
    ∃ inside, s = inside ++ quote :: rest ∧ made.length ≤ (unitsOf inside).length ∧
      (IsVerbatim quote inside ∨ made.length < (unitsOf inside).length) := by
  fun_induction body quote s generalizing made rest with
  | case1 => cases h
  | case2 s =>
    cases h
    exact ⟨[], rfl, by simp, .inl (by simp [IsVerbatim])⟩
  | case3 s hquote hescape => cases h
  | case4 s escaped behind hescape hle hquote ih =>
    obtain ⟨⟨made', rest'⟩, hbody, hmade⟩ := Option.map_eq_some_iff.1 h
    cases hmade
    obtain ⟨inside, rfl, hlength, -⟩ := ih hbody
    obtain ⟨used, rfl, hused⟩ := escape_eq_some hescape
    have hunits : (unitsOf ('\\' :: (used ++ inside))).length =
        1 + ((unitsOf used).length + (unitsOf inside).length) := by
      rw [← List.singleton_append, unitsOf_append, unitsOf_append, List.length_append,
        List.length_append]
      rfl
    have hlt : (escaped ++ made').length < (unitsOf ('\\' :: (used ++ inside))).length := by
      rw [hunits, List.length_append]
      omega
    exact ⟨'\\' :: (used ++ inside), by simp, Nat.le_of_lt hlt, .inr hlt⟩
  | case5 s hquote escaped behind hescape hle => cases h
  | case6 c s hquote hslash hbreak => cases h
  | case7 c s hquote hslash hbreak ih =>
    obtain ⟨⟨made', rest'⟩, hbody, hmade⟩ := Option.map_eq_some_iff.1 h
    cases hmade
    obtain ⟨inside, rfl, hlength, hcases⟩ := ih hbody
    have hunits : (unitsOf (c :: inside)).length =
        (Json.units c).length + (unitsOf inside).length := by
      rw [← List.singleton_append, unitsOf_append, List.length_append]
      simp [unitsOf]
    refine ⟨c :: inside, rfl, ?_, hcases.imp (fun hinside => ?_) fun hlt => ?_⟩
    · rw [hunits, List.length_append]
      exact Nat.add_le_add_left hlength _
    · rw [not_or] at hbreak
      intro d hd
      rcases List.mem_cons.1 hd with rfl | hd
      · exact ⟨hquote, hslash, hbreak.1, hbreak.2⟩
      · exact hinside d hd
    · rw [hunits, List.length_append]
      exact Nat.add_lt_add_left hlt _

/-- A text between quotes is a literal of that text if it stands there as it is, and only then. -/
theorem body_verbatim_iff {quote : Char} {s rest : Text} :
    body quote (s ++ quote :: rest) = some (unitsOf s, rest) ↔ IsVerbatim quote s := by
  refine ⟨fun h => ?_, fun h => body_verbatim h rest⟩
  obtain ⟨inside, hinside, -, hcases⟩ := body_eq_some h
  obtain rfl := List.append_cancel_right hinside
  exact hcases.resolve_right (Nat.lt_irrefl _)

/-! ## §4 JSON literals -/

/-- The value of digits with one digit more. -/
def hexStep (n : Nat) (c : Char) : Option Nat := do
  let d ← hexDigit? c
  if d < 16 then some (n * 16 + d) else none

theorem natInBase?_eq {digits : Text} (h : digits ≠ []) :
    natInBase? 16 digits = digits.foldlM hexStep 0 := by
  rw [natInBase?, if_neg (by simpa using h)]
  rfl

theorem hexStep_digitChar (m : Nat) {d : Nat} (h : d < 16) :
    hexStep m (Nat.digitChar d) = some (m * 16 + d) := by
  have hall : ∀ k : Fin 16, hexDigit? (Nat.digitChar k.val) = some k.val := by decide
  rw [hexStep, hall ⟨d, h⟩]
  exact if_pos h

theorem foldlM_hexStep_toDigits (n : Nat) : (Nat.toDigits 16 n).foldlM hexStep 0 = some n := by
  induction n using Nat.strongRecOn with
  | ind n ih =>
    rw [Nat.toDigits_eq_if (by decide)]
    split
    · next hn =>
      rw [List.foldlM_cons, hexStep_digitChar 0 hn, Nat.zero_mul, Nat.zero_add]
      rfl
    · next hn =>
      have hmod : n % 16 < 16 := Nat.mod_lt n (by decide)
      rw [List.foldlM_append, ih (n / 16) (by omega)]
      show (([Nat.digitChar (n % 16)] : Text).foldlM hexStep (n / 16)) = some n
      rw [List.foldlM_cons, hexStep_digitChar _ hmod, Nat.div_add_mod']
      rfl

theorem natInBase?_hexPadded (width n : Nat) : natInBase? 16 (hexPadded width n) = some n := by
  have hzeros : ∀ k, (List.replicate k '0').foldlM hexStep 0 = some 0 := by
    intro k
    induction k with
    | zero => rfl
    | succ k ih =>
      rw [List.replicate_succ, List.foldlM_cons]
      exact ih
  have hne : hexPadded width n ≠ [] := by
    intro h
    rw [hexPadded, List.append_eq_nil_iff] at h
    rw [Nat.toDigits_eq_if (by decide)] at h
    have hnil := h.2
    split at hnil <;> simp at hnil
  rw [natInBase?_eq hne, hexPadded, List.foldlM_append, hzeros]
  exact foldlM_hexStep_toDigits n

theorem length_hexPadded {width n : Nat} (hw : 0 < width) (h : n < 16 ^ width) :
    (hexPadded width n).length = width := by
  have hdigits := (Nat.length_toDigits_le_iff (b := 16) (by decide) hw).2 h
  rw [hexPadded, List.length_append, List.length_replicate]
  omega

theorem escape_unitEscape {n : Nat} (h : n < 0x10000) (rest : Text) :
    escape ('u' :: (hexPadded 4 n ++ rest)) = some ([n], rest) := by
  have hlength : (hexPadded 4 n).length = 4 := length_hexPadded (by decide) h
  have hvalue := natInBase?_hexPadded 4 n
  match hdigits : hexPadded 4 n, hlength with
  | [a, b, c, d], _ =>
    have ha : a ≠ '\x7b' := by
      have hmem : a ∈ hexPadded 4 n := by simp [hdigits]
      rintro rfl
      exact absurd (isAlphanum_of_mem_hexPadded 4 n _ hmem) (by decide)
    rw [hdigits] at hvalue
    simp only [List.cons_append, List.nil_append]
    rw [escape]
    · rw [hvalue]
      rfl
    · exact ha

theorem lt_of_mem_units {c : Char} {n : Nat} (h : n ∈ Json.units c) : n < 0x10000 := by
  have hc : c.toNat < 0x110000 := c.valid.elim (fun h => Nat.lt_trans h (by decide)) And.right
  unfold Json.units at h
  dsimp only at h
  split at h
  · next hlt => exact List.mem_singleton.1 h ▸ hlt
  · rcases List.mem_cons.1 h with rfl | h
    · omega
    · rw [List.mem_singleton.1 h]
      omega

/-- The units of an escape stand in front of those that come behind it. -/
theorem body_escape {s rest : Text} {made : List Nat} (h : escape s = some (made, rest)) :
    body '"' ('\\' :: s) = (body '"' rest).map fun r => (made ++ r.1, r.2) := by
  obtain ⟨used, rfl, -⟩ := escape_eq_some h
  rw [body, if_neg (by decide), if_pos rfl, h]
  dsimp only
  rw [dif_pos (by simp)]

theorem body_unitEscapes {units : List Nat} (h : ∀ n ∈ units, n < 0x10000) (rest : Text) :
    body '"' (units.flatMap Json.unitEscape ++ rest) =
      (body '"' rest).map fun r => (units ++ r.1, r.2) := by
  induction units with
  | nil => simp
  | cons n units ih =>
    have hn : Json.unitEscape n = '\\' :: 'u' :: hexPadded 4 n := rfl
    rw [List.flatMap_cons, hn, List.append_assoc, List.cons_append, List.cons_append,
      body_escape (escape_unitEscape (h n List.mem_cons_self) _),
      ih fun m hm => h m (List.mem_cons_of_mem _ hm), Option.map_map]
    rfl

/-- Each character of a JSON literal is read as itself. -/
theorem body_literalChar (c : Char) (rest : Text) :
    body '"' (Json.literalChar true c ++ rest) =
      (body '"' rest).map fun r => (Json.units c ++ r.1, r.2) := by
  unfold Json.literalChar
  split
  · next h =>
    rcases h with rfl | rfl
    · exact body_escape rfl
    · exact body_escape rfl
  · next hplain =>
    rw [not_or] at hplain
    split
    · next h => exact h ▸ body_escape rfl
    · next hfeed =>
      split
      · next h => exact h ▸ body_escape rfl
      · next hreturn =>
        split
        · next h => exact h ▸ body_escape rfl
        · split
          · next h =>
            rw [units_of_lt (by omega), h]
            exact body_escape rfl
          · split
            · next h =>
              rw [units_of_lt (by omega), h]
              exact body_escape rfl
            · split
              · next h =>
                have hsmall : ∀ n ∈ [c.toNat], n < 0x10000 := by
                  simp only [List.mem_singleton, forall_eq]
                  omega
                have hunit := body_unitEscapes hsmall rest
                rw [List.flatMap_singleton] at hunit
                rw [hunit, units_of_lt (by omega)]
              · split
                · exact body_unitEscapes (fun _ => lt_of_mem_units) rest
                · rw [List.singleton_append, body, if_neg hplain.1, if_neg hplain.2,
                    if_neg (by simp [hfeed, hreturn])]

/-- A JSON literal is read as its text, whatever that holds. -/
theorem body_literal (s rest : Text) :
    body '"' (s.flatMap (Json.literalChar true) ++ '"' :: rest) = some (unitsOf s, rest) := by
  induction s with
  | nil => exact body_verbatim (s := []) (by simp [IsVerbatim]) rest
  | cons c s ih =>
    rw [List.flatMap_cons, List.append_assoc, body_literalChar, ih]
    rfl

/-! ## §5 Scripts -/

/-- A comment without the two slashes before it, or a literal by its units. -/
inductive Lexeme where
  | comment (text : Text)
  | string (units : List Nat)
  deriving DecidableEq

/-- A comment or a literal at the head of a text, and what comes behind it. -/
def lexeme? : Text → Option (Lexeme × Text)
  | '/' :: '/' :: s => some (.comment (firstLine s), s.dropWhile fun c => !isLineTerminator c)
  | quote :: s =>
    if quote = '"' ∨ quote = '\'' then (body quote s).map fun r => (.string r.1, r.2) else none
  | [] => none

/-- A character that begins no comment, no literal, no template and no regular expression. -/
def isInert (c : Char) : Bool := !(c == '/' || c == '"' || c == '\'' || c == '\x60')

theorem lexeme?_of_isInert {c : Char} (h : isInert c = true) (s : Text) : lexeme? (c :: s) = none := by
  simp only [isInert, Bool.not_eq_true', Bool.or_eq_false_iff, beq_eq_false_iff_ne] at h
  unfold lexeme?
  split
  · next heq => exact absurd (List.cons.inj heq).1 h.1.1.1
  · next heq =>
    cases heq
    rw [if_neg (not_or.2 ⟨h.1.1.2, h.1.2⟩)]
  · rfl

theorem lexeme?_of_quote {quote : Char} (h : quote = '"' ∨ quote = '\'') (s : Text) :
    lexeme? (quote :: s) = (body quote s).map fun r => (.string r.1, r.2) := by
  rcases h with rfl | rfl
  · rfl
  · rfl

/-- A script as comments, literals and single characters. -/
def read? (s : Text) : Option (List (Piece Lexeme)) :=
  if (scan lexeme? s).all (fun piece => match piece with | .plain c => isInert c | .found _ => true)
  then some (scan lexeme? s) else none

/-- Characters that are read as they are. -/
def code (s : Text) : List (Piece Lexeme) := s.map .plain

/-- A literal of a text. -/
def quoted (s : Text) : List (Piece Lexeme) := [.found (.string (unitsOf s))]

/-- A text is read as these pieces, whatever comes behind it. -/
structure Reads (s : Text) (pieces : List (Piece Lexeme)) : Prop where
  scanned : ∀ rest, scan lexeme? (s ++ rest) = pieces ++ scan lexeme? rest
  inert : ∀ c, .plain c ∈ pieces → isInert c = true

variable {s t : Text} {pieces more : List (Piece Lexeme)}

theorem Reads.append (h : Reads s pieces) (h' : Reads t more) : Reads (s ++ t) (pieces ++ more) where
  scanned := fun rest => by rw [List.append_assoc, h.scanned, h'.scanned, List.append_assoc]
  inert := fun c hc => (List.mem_append.1 hc).elim (h.inert c) (h'.inert c)

theorem reads_code (h : ∀ c ∈ s, isInert c = true) : Reads s (code s) := by
  refine ⟨fun rest => ?_, fun c hc => ?_⟩
  · induction s with
    | nil => rfl
    | cons c s ih =>
      have hc := h c List.mem_cons_self
      have hnone : lexeme? (c :: (s ++ rest)) = none := lexeme?_of_isInert hc _
      rw [List.cons_append, scan_none hnone, ih fun d hd => h d (List.mem_cons_of_mem _ hd)]
      rfl
  · obtain ⟨d, hd, hpiece⟩ := List.mem_map.1 hc
    cases hpiece
    exact h c hd

/-- A literal is read for itself. -/
theorem reads_quoted {inside : Text} {units : List Nat} {quote : Char}
    (hquote : quote = '"' ∨ quote = '\'')
    (h : ∀ rest, body quote (inside ++ quote :: rest) = some (units, rest)) :
    Reads (quote :: (inside ++ [quote])) [.found (.string units)] := by
  refine ⟨fun rest => ?_, by simp⟩
  have hread : lexeme? (quote :: (inside ++ quote :: rest)) = some (.string units, rest) := by
    rw [lexeme?_of_quote hquote, h]
    rfl
  have heq : quote :: (inside ++ [quote]) ++ rest = quote :: (inside ++ quote :: rest) := by simp
  rw [heq, scan_found hread (by simp; omega)]
  rfl

theorem reads_literal (s : Text) : Reads (Json.literal true s) (quoted s) :=
  reads_quoted (.inl rfl) (body_literal s)

theorem reads_verbatim (h : IsVerbatim '"' s) : Reads ('"' :: (s ++ ['"'])) (quoted s) :=
  reads_quoted (.inl rfl) (body_verbatim h)

theorem Reads.read?_eq (h : Reads s pieces) : read? s = some pieces := by
  have hscan := h.scanned []
  rw [List.append_nil, scan, List.append_nil] at hscan
  rw [read?, hscan, if_pos]
  rw [List.all_eq_true]
  intro piece hpiece
  cases piece with
  | plain c => exact h.inert c hpiece
  | found _ => rfl

/-- A comment goes up to the end of its line, and what is behind that is read for itself. -/
theorem Reads.comment {shown : Text} (h : Reads s pieces) (hshown : IsOneLine shown) :
    Reads ('/' :: '/' :: (shown ++ '\n' :: s))
      (.found (.comment shown) :: .plain '\n' :: pieces) := by
  refine ⟨fun rest => ?_, fun c hc => ?_⟩
  · have hline : lexeme? ('/' :: '/' :: (shown ++ '\n' :: (s ++ rest))) =
        some (.comment shown, '\n' :: (s ++ rest)) := by
      rw [lexeme?, firstLine_break hshown (by decide), List.dropWhile_append_of_pos fun c hc => by
        rw [hshown c hc]
        rfl]
      rfl
    have heq : '/' :: '/' :: (shown ++ '\n' :: s) ++ rest =
        '/' :: '/' :: (shown ++ '\n' :: (s ++ rest)) := by simp
    rw [heq, scan_found hline (by simp; omega), scan_none (lexeme?_of_isInert (by decide) _),
      h.scanned]
    rfl
  · rcases List.mem_cons.1 hc with hc | hc
    · cases hc
    · rcases List.mem_cons.1 hc with hc | hc
      · cases hc
        decide
      · exact h.inert c hc

/-- The comment that a script begins with is its first line. -/
theorem comment_of_read? {comment : Text}
    (h : read? ('/' :: '/' :: s) = some (.found (.comment comment) :: pieces)) :
    comment = firstLine s := by
  unfold read? at h
  split at h
  · have hscan := Option.some.inj h
    rw [scan_found (a := .comment (firstLine s)) rfl (by
      have := (List.dropWhile_suffix (p := fun c => !isLineTerminator c) (l := s)).length_le
      simp only [List.length_cons]
      omega)] at hscan
    exact ((Lexeme.comment.inj (Piece.found.inj (List.cons.inj hscan).1))).symm
  · cases h

end EmbeddedGo.Script
