/-
EmbeddedGo.Text.Lines — cutting a text into lines.

  §1 the characters that end a line
  §2 `lines`: the lines without their ends; a text that ends a line has no empty line after it
  §3 `unifyBreaks`: every way to end a line in a file, written as a line feed
  §4 laws
-/
import EmbeddedGo.Text.Basic

namespace EmbeddedGo.Text

/-! ## §1 Line ends -/

/-- The characters that end a line: line feed, carriage return, vertical tab, form feed, three of
the information separators, NEL and the two separators of Unicode. -/
def isLineEnd (c : Char) : Bool :=
  let n := c.toNat
  (10 ≤ n && n ≤ 13) || (28 ≤ n && n ≤ 30) || n == 0x85 || n == 0x2028 || n == 0x2029

/-! ## §2 Lines -/

/-- A character put in front of the first line. -/
def consLine (c : Char) : List Text → List Text
  | [] => [[c]]
  | line :: rest => (c :: line) :: rest

/-- The lines of a text, without their ends. A carriage return and a line feed are one end. -/
def lines : Text → List Text
  | [] => []
  | '\r' :: '\n' :: s => [] :: lines s
  | c :: s => if isLineEnd c then [] :: lines s else consLine c (lines s)

/-! ## §3 One kind of line end -/

/-- The text with a carriage return, or one and a line feed, written as a line feed. -/
def unifyBreaks : Text → Text
  | [] => []
  | '\r' :: '\n' :: s => '\n' :: unifyBreaks s
  | c :: s => (if c = '\r' then '\n' else c) :: unifyBreaks s

/-! ## §4 Laws -/

/-- No line holds a character that ends lines. -/
theorem isLineEnd_of_mem_lines {s line : Text} {c : Char} (hl : line ∈ lines s) (hc : c ∈ line) :
    isLineEnd c = false := by
  fun_induction lines s generalizing line with
  | case1 => simp at hl
  | case2 s ih =>
    rcases List.mem_cons.1 hl with rfl | hl
    · simp at hc
    · exact ih hl hc
  | case3 d s _ hd ih =>
    rcases List.mem_cons.1 hl with rfl | hl
    · simp at hc
    · exact ih hl hc
  | case4 d s _ hd ih =>
    match h : lines s with
    | [] =>
      simp only [h, consLine, List.mem_singleton] at hl
      subst hl
      rw [List.mem_singleton] at hc
      simpa [hc] using hd
    | first :: rest =>
      simp only [h, consLine, List.mem_cons] at hl
      rcases hl with rfl | hl
      · rcases List.mem_cons.1 hc with rfl | hc
        · simpa using hd
        · exact ih (h ▸ List.mem_cons_self ..) hc
      · exact ih (h ▸ List.mem_cons_of_mem _ hl) hc

theorem not_mem_unifyBreaks (s : Text) : '\r' ∉ unifyBreaks s := by
  fun_induction unifyBreaks s with
  | case1 => simp
  | case2 s ih => simpa using ih
  | case3 c s _ ih =>
    by_cases hc : c = '\r'
    · simpa [hc] using ih
    · simpa [hc, eq_comm] using ih

/-- A text without carriage returns stays as it is. -/
theorem unifyBreaks_of_not_mem {s : Text} (h : '\r' ∉ s) : unifyBreaks s = s := by
  fun_induction unifyBreaks s with
  | case1 => rfl
  | case2 s => simp at h
  | case3 c s _ ih =>
    rw [List.mem_cons, not_or] at h
    rw [if_neg (Ne.symm h.1), ih h.2]

end EmbeddedGo.Text
