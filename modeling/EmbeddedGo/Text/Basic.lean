/-
EmbeddedGo.Text.Basic — texts as lists of characters.

Everything the library reads or writes is scanned character by character, so a text is the list of
its characters and every scanner is a recursion on that list.

  §1 the type and the literals that stand for it
  §2 cutting at blanks
  §3 cutting at a separator, and taking a known beginning off
  §4 laws: letters and digits, taking off and putting back, cutting and joining
-/
namespace EmbeddedGo

/-! ## §1 Texts -/

/-- A text is the list of its characters. These are Unicode scalar values, so no text holds one half of
a surrogate pair, and every text can be written in UTF-8. -/
abbrev Text := List Char

instance : Coe String Text := ⟨String.toList⟩

namespace Text

/-- The text as a string, for output. -/
def toString (s : Text) : String := String.ofList s

/-! ## §2 Blanks -/

/-- The characters that separate words: the ASCII blanks, the four information separators, NEL and
the spaces of Unicode. The zero width space is none of them. -/
def isBlank (c : Char) : Bool :=
  let n := c.toNat
  (9 ≤ n && n ≤ 13) || (28 ≤ n && n ≤ 32) || n == 0x85 || n == 0xA0 || n == 0x1680 ||
    (0x2000 ≤ n && n ≤ 0x200A) || n == 0x2028 || n == 0x2029 || n == 0x202F || n == 0x205F ||
    n == 0x3000

/-- The text from its first character that is no blank. -/
def trimStart (s : Text) : Text := s.dropWhile isBlank

/-- The text up to its last character that is no blank. -/
def trimEnd (s : Text) : Text := (s.reverse.dropWhile isBlank).reverse

/-- The text without the blanks at either end. -/
def trim (s : Text) : Text := trimEnd (trimStart s)

/-! ## §3 Pieces -/

/-- What follows `start` in a text that begins with it. -/
def after? : (start s : Text) → Option Text
  | [], s => some s
  | _ :: _, [] => none
  | a :: start, c :: s => if a = c then after? start s else none

/-- Whether the text begins with `start`. -/
def startsWith (s start : Text) : Bool := (after? start s).isSome

/-- Whether the text ends with `tail`. -/
def endsWith (s tail : Text) : Bool := startsWith s.reverse tail.reverse

/-- The pieces between the occurrences of a separator: one more piece than separators. -/
def splitOn (sep : Char) : Text → List Text
  | [] => [[]]
  | c :: s =>
    if c = sep then [] :: splitOn sep s
    else match splitOn sep s with
      | [] => [[c]]
      | piece :: rest => (c :: piece) :: rest

/-- The pieces of a text between its blanks. -/
def fields (s : Text) : List Text :=
  (splitOn ' ' (s.map fun c => if isBlank c then ' ' else c)).filter (!·.isEmpty)

/-- The pieces with a separator between neighbours. -/
def join (sep : Text) (pieces : List Text) : Text := List.intercalate sep pieces

/-- Texts in the order of their code points: the first difference decides, and the beginning of a
text comes before it. -/
def le : Text → Text → Bool
  | [], _ => true
  | _ :: _, [] => false
  | a :: s, b :: t => if a = b then le s t else decide (a.toNat < b.toNat)

/-- ASCII capitals become small letters; nothing else changes. -/
def lowerAscii (s : Text) : Text := s.map Char.toLower

/-- The decimal digits of a number. -/
def ofNat (n : Nat) : Text := Nat.toDigits 10 n

/-- The decimal digits of a number, after a minus sign if it is negative. -/
def ofInt (i : Int) : Text := if i < 0 then '-' :: ofNat i.natAbs else ofNat i.natAbs

/-- The number written by a run of decimal digits. -/
def natValue (digits : Text) : Nat :=
  digits.foldl (fun n c => n * 10 + (c.toNat - '0'.toNat)) 0

/-- The value of one hexadecimal digit. -/
def hexDigit? (c : Char) : Option Nat :=
  if '0' ≤ c ∧ c ≤ '9' then some (c.toNat - '0'.toNat)
  else if 'a' ≤ c ∧ c ≤ 'f' then some (c.toNat - 'a'.toNat + 10)
  else if 'A' ≤ c ∧ c ≤ 'F' then some (c.toNat - 'A'.toNat + 10)
  else none

/-- The number written in a base by digits that all have a value below it; the empty run is none. -/
def natInBase? (base : Nat) (digits : Text) : Option Nat :=
  if digits.isEmpty then none
  else digits.foldlM (fun n c => do
    let d ← hexDigit? c
    if d < base then some (n * base + d) else none) 0

/-- The hexadecimal digit of a number below sixteen. -/
def hexChar (capitals : Bool) (n : Nat) : Char :=
  let c := Nat.digitChar n
  if capitals then c.toUpper else c

/-- A number in hexadecimal, padded with zeros to a width. -/
def hexPadded (width n : Nat) : Text :=
  let digits := Nat.toDigits 16 n
  List.replicate (width - digits.length) '0' ++ digits

/-! ## §4 Laws -/

/-- Letters and digits of ASCII are among the first code points. -/
theorem lt_of_isAlphanum {c : Char} (h : c.isAlphanum = true) : c.toNat < 128 := by
  delta Char.isAlphanum Char.isAlpha Char.isUpper Char.isLower Char.isDigit at h
  simp only [Bool.or_eq_true, Bool.and_eq_true, decide_eq_true_eq, UInt32.le_iff_toNat_le,
    ge_iff_le] at h
  have hc : c.toNat = c.val.toNat := rfl
  have hcapital : 'Z'.val.toNat = 90 := rfl
  have hsmall : 'z'.val.toNat = 122 := rfl
  have hdigit : '9'.val.toNat = 57 := rfl
  omega

theorem after?_append (start s : Text) : after? start (start ++ s) = some s := by
  induction start with
  | nil => rfl
  | cons a start ih => simp [after?, ih]

/-- What follows a beginning is what has to be put behind it. -/
theorem after?_eq_some_iff {start s rest : Text} :
    after? start s = some rest ↔ s = start ++ rest := by
  constructor
  · intro h
    fun_induction after? start s with
    | case1 s => simpa using h
    | case2 => simp at h
    | case3 a start s ih => simp [ih h]
    | case4 => simp at h
  · rintro rfl
    exact after?_append start rest

/-- A text begins with another exactly if that is a part of it at its head. -/
theorem startsWith_iff {s start : Text} : startsWith s start = true ↔ start <+: s := by
  simp only [startsWith, Option.isSome_iff_exists, after?_eq_some_iff]
  exact ⟨fun ⟨r, h⟩ => ⟨r, h.symm⟩, fun ⟨r, h⟩ => ⟨r, h.symm⟩⟩

theorem endsWith_iff {s tail : Text} : endsWith s tail = true ↔ tail <:+ s := by
  rw [endsWith, startsWith_iff, List.reverse_prefix]

theorem splitOn_ne_nil (sep : Char) (s : Text) : splitOn sep s ≠ [] := by
  fun_cases splitOn sep s <;> simp

theorem join_cons_cons (sep a b : Text) (rest : List Text) :
    join sep (a :: b :: rest) = a ++ sep ++ join sep (b :: rest) := by
  simp [join, List.intercalate, List.intersperse]

/-- Cutting loses nothing. -/
theorem join_splitOn (sep : Char) (s : Text) : join [sep] (splitOn sep s) = s := by
  fun_induction splitOn sep s with
  | case1 => rfl
  | case2 s ih =>
    match h : splitOn sep s with
    | [] => exact absurd h (splitOn_ne_nil sep s)
    | piece :: rest => rw [h] at ih; simp [join_cons_cons, ih]
  | case3 c s _ h => exact absurd h (splitOn_ne_nil sep s)
  | case4 c s _ piece rest h ih =>
    rw [h] at ih
    cases rest with
    | nil => simpa [join] using ih
    | cons b rest => simpa [join_cons_cons] using ih

/-- No piece holds the separator. -/
theorem not_mem_of_mem_splitOn {sep : Char} {s piece : Text} (h : piece ∈ splitOn sep s) :
    sep ∉ piece := by
  fun_induction splitOn sep s generalizing piece with
  | case1 => simp_all
  | case2 s ih =>
    rcases List.mem_cons.1 h with rfl | h
    · simp
    · exact ih h
  | case3 c s _ h' => exact absurd h' (splitOn_ne_nil sep s)
  | case4 c s hc first rest h' ih =>
    rw [h'] at ih
    rcases List.mem_cons.1 h with rfl | h
    · have := ih (List.mem_cons_self ..)
      simp [Ne.symm hc, this]
    · exact ih (List.mem_cons_of_mem _ h)

theorem splitOn_of_not_mem {sep : Char} {s : Text} (h : sep ∉ s) : splitOn sep s = [s] := by
  induction s with
  | nil => rfl
  | cons c s ih =>
    rw [List.mem_cons, not_or] at h
    simp [splitOn, Ne.symm h.1, ih h.2]

theorem splitOn_append_cons {sep : Char} {s : Text} (h : sep ∉ s) (rest : Text) :
    splitOn sep (s ++ sep :: rest) = s :: splitOn sep rest := by
  induction s with
  | nil => simp [splitOn]
  | cons c s ih =>
    rw [List.mem_cons, not_or] at h
    simp [splitOn, Ne.symm h.1, ih h.2]

end Text
end EmbeddedGo
