/-
EmbeddedGo.Proofs.ShellLine — what a POSIX shell reads from a line of words.

A shell cuts a line where blanks stand outside of quotes. Outside of quotes a backslash takes the
meaning from the character behind it. Between single quotes every character stands for itself; between
double quotes a backslash takes the meaning from four characters only. Pieces of a word may stand
between different quotes next to each other, and quotes with nothing between them are a word as well.

`words?` reads a line character by character in this way. It gives no words where more than quoting is
at work: where a quote stays open, or a character that a shell has a use for, an operator, an expansion,
a pattern, a comment or a line end, stands where nothing takes its meaning from it. What `join` writes
is read back as the words it was written for, whatever characters these hold (`words?_join`). So the
line for a compiler is one command, with the arguments that the compiler is run with.

  §1 reading a line
  §2 reading one word back
  §3 reading all words back
-/
import EmbeddedGo.Compiler

namespace EmbeddedGo

namespace ShellWords

/-! ## §1 Reading -/

/-- How the character that comes next is taken. -/
inductive Quoting where
  | bare
  /-- Behind a backslash outside of quotes. -/
  | escaped
  | single
  | double
  /-- Behind a backslash between double quotes. -/
  | doubleEscaped
  deriving DecidableEq

/-- What has been read from the beginning of a line. -/
structure Reading where
  /-- The words that are over. -/
  words : List Text := []
  /-- What there is of the word that is not. -/
  word : Option Text := none
  quoting : Quoting := .bare
  deriving DecidableEq

/-- The characters that separate words. -/
def separators : List Char := [' ', '\t']

/-- The characters that begin quotes, and the one that takes the meaning from the next. -/
def quoters : List Char := ['\'', '"', '\\']

/-- The characters that a shell has a use for where they stand outside of quotes: operators, expansions,
patterns, comments, home directories, groups, history and the line end. -/
def active : List Char :=
  ['|', '&', ';', '<', '>', '(', ')', '$', '\x60', '*', '?', '[', ']', '#', '~', '\x7b', '\x7d', '!', '^',
    '\n']

/-- The characters that are replaced between double quotes. -/
def expanding : List Char := ['$', '\x60']

/-- The characters between double quotes that a backslash takes the meaning from. -/
def escapable : List Char := ['$', '\x60', '"', '\\']

namespace Reading

variable {r : Reading}

/-- More of a word; it may be the beginning of one. -/
def add (r : Reading) (s : Text) : Reading := { r with word := some (r.word.getD [] ++ s) }

/-- The end of a word, if there is one. -/
def close (r : Reading) : Reading := { r with words := r.words ++ r.word.toList, word := none }

/-- The same, with the next character taken in another way. -/
def become (r : Reading) (q : Quoting) : Reading := { r with quoting := q }

/-- What has been read with one more character. -/
def step (r : Reading) (c : Char) : Option Reading :=
  match r.quoting with
  | .bare =>
    if separators.contains c then some r.close
    else if c = '\'' then some ((r.add []).become .single)
    else if c = '"' then some ((r.add []).become .double)
    else if c = '\\' then some (r.become .escaped)
    else if active.contains c then none
    else some (r.add [c])
  | .escaped =>
    if c = '\n' then some (r.become .bare) else some ((r.add [c]).become .bare)
  | .single =>
    if c = '\'' then some (r.become .bare) else some (r.add [c])
  | .double =>
    if c = '"' then some (r.become .bare)
    else if c = '\\' then some (r.become .doubleEscaped)
    else if expanding.contains c then none
    else some (r.add [c])
  | .doubleEscaped =>
    if c = '\n' then some (r.become .double)
    else if escapable.contains c then some ((r.add [c]).become .double)
    else some ((r.add ['\\', c]).become .double)

/-- What has been read with more characters. -/
def run (r : Reading) (s : Text) : Option Reading := s.foldlM step r

/-- The words of a line that is over, unless something is still open in it. -/
def finish (r : Reading) : Option (List Text) :=
  if r.quoting = .bare then some (r.words ++ r.word.toList) else none

end Reading

/-- The words of a line. -/
def words? (line : Text) : Option (List Text) := do (← Reading.run {} line).finish

/-! ## §2 One word -/

namespace Reading

variable {r r' : Reading} {s t : Text} {c : Char}

@[simp] theorem add_quoting (r : Reading) (s : Text) : (r.add s).quoting = r.quoting := rfl

@[simp] theorem add_words (r : Reading) (s : Text) : (r.add s).words = r.words := rfl

@[simp] theorem add_word (r : Reading) (s : Text) : (r.add s).word = some (r.word.getD [] ++ s) := rfl

@[simp] theorem become_quoting (r : Reading) (q : Quoting) : (r.become q).quoting = q := rfl

@[simp] theorem become_become (r : Reading) (q q' : Quoting) :
    (r.become q).become q' = r.become q' := rfl

@[simp] theorem become_add (r : Reading) (q : Quoting) (s : Text) :
    (r.become q).add s = (r.add s).become q := rfl

theorem become_self {q : Quoting} (h : r.quoting = q) : r.become q = r := by
  subst h
  rfl

@[simp] theorem add_add (r : Reading) (s t : Text) : (r.add s).add t = r.add (s ++ t) := by
  simp [add]

@[simp] theorem run_nil (r : Reading) : r.run [] = some r := rfl

theorem run_cons (h : r.step c = some r') (s : Text) : r.run (c :: s) = r'.run s := by
  rw [run, List.foldlM_cons, h]
  rfl

theorem run_append (h : r.run s = some r') (t : Text) : r.run (s ++ t) = r'.run t := by
  rw [run] at h
  rw [run, List.foldlM_append, h]
  rfl

/-- No character that a shell has a use for is safe. -/
theorem isSafe_eq_false (h : c ∈ separators ++ quoters ++ active) : isSafe c = false := by
  have hall : (separators ++ quoters ++ active).all (!isSafe ·) = true := by decide
  simpa using List.all_eq_true.1 hall c h

/-- A safe character stands for itself. -/
theorem step_safe (hr : r.quoting = .bare) (hc : isSafe c = true) : r.step c = some (r.add [c]) := by
  have hne : ∀ d ∈ separators ++ quoters ++ active, c ≠ d := by
    rintro d hd rfl
    rw [isSafe_eq_false hd] at hc
    cases hc
  have hout : ∀ l : List Char, l ⊆ separators ++ quoters ++ active → l.contains c = false := by
    intro l hl
    rw [← Bool.not_eq_true, List.contains_iff_mem]
    exact fun hmem => hne c (hl hmem) rfl
  simp only [step, hr]
  rw [hout separators (by simp), hout active (by simp), if_neg (hne '\'' (by decide)),
    if_neg (hne '"' (by decide)), if_neg (hne '\\' (by decide))]
  rfl

/-- Safe characters stand for themselves. -/
theorem run_safe (hr : r.quoting = .bare) (hs : (c :: s).all isSafe = true) :
    r.run (c :: s) = some (r.add (c :: s)) := by
  induction s generalizing r c with
  | nil =>
    rw [List.all_cons, Bool.and_eq_true] at hs
    rw [run_cons (step_safe hr hs.1), run_nil]
  | cons d s ih =>
    rw [List.all_cons, Bool.and_eq_true] at hs
    rw [run_cons (step_safe hr hs.1), ih (r := r.add [c]) hr hs.2, add_add, List.singleton_append]

/-- Between single quotes every character is read as itself, the single quote by way of double ones. -/
theorem run_quotedChar (hr : r.quoting = .single) (c : Char) :
    r.run (quotedChar c) = some (r.add [c]) := by
  by_cases hc : c = '\''
  · subst hc
    have hclosed : r.step '\'' = some (r.become .bare) := by simp [step, hr]
    have hdouble : (r.become .bare).step '"' = some ((r.add []).become .double) := by
      simp [step, separators]
    have hquote : ((r.add []).become .double).step '\'' = some ((r.add ['\'']).become .double) := by
      simp [step, expanding]
    have hback : ((r.add ['\'']).become .double).step '"' = some ((r.add ['\'']).become .bare) := by
      simp [step]
    have hsingle : ((r.add ['\'']).become .bare).step '\'' =
        some ((r.add ['\'']).become .single) := by
      simp [step, separators]
    change r.run ['\'', '"', '\'', '"', '\''] = _
    rw [run_cons hclosed, run_cons hdouble, run_cons hquote, run_cons hback, run_cons hsingle, run_nil,
      become_self (by rw [add_quoting, hr])]
  · have hstep : r.step c = some (r.add [c]) := by simp [step, hr, hc]
    rw [quotedChar, if_neg hc, run_cons hstep, run_nil]

/-- So is every text between single quotes; that they have begun makes it a part of a word, even if it is
empty. -/
theorem run_flatMap_quotedChar (hr : r.quoting = .single) (s : Text) :
    (r.add []).run (s.flatMap quotedChar) = some (r.add s) := by
  induction s generalizing r with
  | nil => rfl
  | cons c s ih =>
    have hchar : (r.add []).run (quotedChar c) = some ((r.add [c]).add []) := by
      rw [run_quotedChar (r := r.add []) hr, add_add, add_add, List.nil_append, List.append_nil]
    rw [List.flatMap_cons, run_append hchar, ih (r := r.add [c]) hr, add_add, List.singleton_append]

/-- A quoted word is read as the word, behind whatever there is of one. -/
theorem run_quote (hr : r.quoting = .bare) (word : Text) : r.run (quote word) = some (r.add word) := by
  have hopen : r.step '\'' = some ((r.become .single).add []) := by simp [step, hr, separators]
  have hclose : ∀ s, ((r.become .single).add s).step '\'' = some (r.add s) := by
    intro s
    have hback : (r.add s).become .bare = r.add s := become_self hr
    simp [step, hback]
  cases word with
  | nil =>
    change r.run ['\'', '\''] = _
    rw [run_cons hopen, run_cons (hclose []), run_nil]
  | cons c s =>
    by_cases hsafe : (c :: s).all isSafe = true
    · rw [quote, List.isEmpty_cons, if_neg Bool.false_ne_true, if_pos hsafe, run_safe hr hsafe]
    · rw [quote, List.isEmpty_cons, if_neg Bool.false_ne_true, if_neg hsafe, List.cons_append,
        run_cons hopen, run_append (run_flatMap_quotedChar rfl _), run_cons (hclose _), run_nil]

/-! ## §3 All words -/

/-- Behind words that are over, the words of a line are read as they were written. -/
theorem run_join (hr : r.quoting = .bare) (hnone : r.word = none) (words : List Text) :
    (do (← r.run (join words)).finish) = some (r.words ++ words) := by
  induction words generalizing r with
  | nil =>
    change r.finish = _
    simp [finish, hr, hnone]
  | cons word words ih =>
    cases words with
    | nil =>
      have hjoin : join [word] = quote word := by simp [join, Text.join]
      rw [hjoin, run_quote hr]
      simp [finish, hr, hnone]
    | cons next rest =>
      have hjoin : join (word :: next :: rest) = quote word ++ ' ' :: join (next :: rest) := by
        rw [join, List.map_cons, List.map_cons, Text.join_cons_cons]
        simp [join]
      have hspace : (r.add word).step ' ' = some (r.add word).close := by
        simp [step, hr, separators]
      rw [hjoin, run_append (run_quote hr word), run_cons hspace, ih (r := (r.add word).close) hr rfl]
      simp [close, hnone]

end Reading

/-- What is written for words is read back as these words, and it holds nothing else for a shell. -/
theorem words?_join (words : List Text) : words? (join words) = some words :=
  Reading.run_join rfl rfl words

example : words? "echo  a\\ b'c\"d'\"e\\\"f\" ''" =
    some [("echo" : Text), "a bc\"de\"f", ""] := by decide

end ShellWords

/-- A shell reads the line for a compiler as the command and the arguments that build the binary,
whatever characters the command and the paths hold. -/
theorem Compiler.commandLine_splits (c : Compiler) (goFile wasmFile : Text) :
    ShellWords.words? (c.commandLine goFile wasmFile) = some (c.buildArgs goFile wasmFile) :=
  ShellWords.words?_join _

end EmbeddedGo
