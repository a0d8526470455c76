/-
EmbeddedGo.Text.Scan — looking for something at every place of a text.

A reader looks at the head of a text and says what it finds there and what comes behind it. `scan`
tries it from left to right: where it finds nothing one character passes by, and after a finding the
search goes on behind it, so findings never overlap.
-/
import EmbeddedGo.Text.Basic

namespace EmbeddedGo.Text

/-- A part of a scanned text: a character that passed by, or a finding. -/
inductive Piece (α : Type) where
  | plain (c : Char)
  | found (a : α)
  deriving DecidableEq

/-- The finding of a piece. -/
def Piece.found? {α : Type} : Piece α → Option α
  | .plain _ => none
  | .found a => some a

/-- The text cut into characters and findings. A finding that leaves more than the text it was made
in is none. -/
def scan {α : Type} (read : Text → Option (α × Text)) : Text → List (Piece α)
  | [] => []
  | c :: s =>
    match read (c :: s) with
    | none => .plain c :: scan read s
    | some (a, rest) =>
      if _ : rest.length ≤ s.length then .found a :: scan read rest
      else .plain c :: scan read s
  termination_by s => s.length
  decreasing_by
    · exact Nat.lt_succ_self _
    · exact Nat.lt_succ_of_le (by assumption)
    · exact Nat.lt_succ_self _

/-- The findings in a text, from left to right. -/
def findAll {α : Type} (read : Text → Option (α × Text)) (s : Text) : List α :=
  (scan read s).filterMap Piece.found?

/-- What stands between the head of a text and the first `stop`, and what comes behind that. -/
def upTo? (stop : Char) : Text → Option (Text × Text)
  | [] => none
  | c :: s => if c = stop then some ([], s) else (upTo? stop s).map fun r => (c :: r.1, r.2)

/-- The text of a piece, if `write` gives that of a finding. -/
def Piece.text {α : Type} (write : α → Text) : Piece α → Text
  | .plain c => [c]
  | .found a => write a

/-- The pieces of a scan are the text, if the reader's findings are what it takes from its head. -/
theorem flatMap_text_scan {α : Type} {read : Text → Option (α × Text)} {write : α → Text}
    (h : ∀ s a rest, read s = some (a, rest) → s = write a ++ rest) (s : Text) :
    (scan read s).flatMap (Piece.text write) = s := by
  fun_induction scan read s with
  | case1 => rfl
  | case2 c s _ ih => simp [Piece.text, ih]
  | case3 c s a rest hr _ ih => simp [Piece.text, ih, ← h _ _ _ hr]
  | case4 c s _ _ _ _ ih => simp [Piece.text, ih]

theorem upTo?_eq_some_iff {stop : Char} {s before rest : Text} :
    upTo? stop s = some (before, rest) ↔ s = before ++ stop :: rest ∧ stop ∉ before := by
  induction s generalizing before with
  | nil => simp [upTo?]
  | cons c s ih =>
    by_cases hc : c = stop
    · subst hc
      cases before with
      | nil => simp [upTo?, eq_comm]
      | cons b before => simp [upTo?]; grind
    · cases before with
      | nil => simp [upTo?, hc]
      | cons b before =>
        simp only [upTo?, if_neg hc, Option.map_eq_some_iff, Prod.mk.injEq, List.cons.injEq]
        constructor
        · rintro ⟨⟨x, y⟩, h, ⟨rfl, rfl⟩, rfl⟩
          have := ih.1 h
          simp [this.1, this.2, Ne.symm hc]
        · rintro ⟨h, hn⟩
          simp only [List.cons_append, List.cons.injEq] at h
          simp only [List.mem_cons, not_or] at hn
          exact ⟨(before, rest), ih.2 ⟨h.2, hn.2⟩, ⟨h.1, rfl⟩, rfl⟩

end EmbeddedGo.Text
