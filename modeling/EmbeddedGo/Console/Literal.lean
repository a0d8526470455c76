/-
EmbeddedGo.Console.Literal — the values that a tag hands to an action.

A value is a number, a text, some bytes, a truth value, nothing, or a collection of values. Only
whether a text writes a value is of interest, and for that of what kind its parts are: a sign stands
in front of numbers only, and what can change is neither in a set nor a key.

  §1 kinds
  §2 blanks
  §3 numbers
  §4 texts and bytes
  §5 `isLiteral`
-/
import EmbeddedGo.Text.Words

namespace EmbeddedGo.Literal

open Text

/-! ## §1 Kinds -/

/-- The kinds of values. -/
inductive Kind where
  /-- A number without a sign, real or not. -/
  | number (imaginary : Bool)
  /-- A number with a sign. -/
  | signed (imaginary : Bool)
  | text
  | bytes
  /-- Anything else that cannot change. -/
  | constant
  /-- A collection that can change, or holds one that can. -/
  | changing
  deriving DecidableEq

/-- Whether a number can be added to what stands in front of it. -/
def isReal : Kind → Bool
  | .number false | .signed false => true
  | _ => false

/-- The kind of a row of values. -/
def rowKind (kinds : List Kind) : Kind := if kinds.contains .changing then .changing else .constant

/-! ## §2 Blanks -/

/-- A text from its next character on. Lines end only inside brackets; a comment ends with its
line. -/
def skip (inside : Bool) : Text → Text
  | [] => []
  | c :: s =>
    if c = ' ' ∨ c = '\t' ∨ c = '\x0c' ∨ (inside ∧ (c = '\n' ∨ c = '\r')) then skip inside s
    else if c = '#' then
      match s.dropWhile (· ≠ '\n') with
      | [] => []
      | rest => if inside then rest.dropWhile (fun d => d = ' ' ∨ d = '\n' ∨ d = '\t') else rest
    else c :: s

/-! ## §3 Numbers -/

/-- The most digits of a whole number in base ten. -/
def digitLimit : Nat := 4300

/-- Digits with single underscores between them, without these, and what follows. -/
def digits? (isDigit : Char → Bool) (s : Text) : Option (Text × Text) :=
  let run := s.takeWhile fun c => isDigit c || c == '_'
  if (splitOn '_' run).all (!·.isEmpty) then
    some (run.filter (· ≠ '_'), s.drop run.length)
  else none

/-- A whole number behind the letter of its base. -/
def inBase? (letter : Char) (s : Text) : Option (Kind × Text) :=
  let isDigit : Char → Bool := fun c =>
    match hexDigit? c with
    | some n => n < (if letter = 'x' then 16 else if letter = 'o' then 8 else 2)
    | none => false
  let s := match s with
    | '_' :: rest => rest
    | s => s
  (digits? isDigit s).map fun r => (.number false, r.2)

/-- The exponent at the head of a text, if there is one, and what follows. -/
def exponent (s : Text) : Bool × Text :=
  match s with
  | e :: rest =>
    if e = 'e' ∨ e = 'E' then
      let rest := match rest with
        | '+' :: rest => rest
        | '-' :: rest => rest
        | rest => rest
      match digits? Char.isDigit rest with
      | some (_, rest) => (true, rest)
      | none => (false, s)
    else (false, s)
  | [] => (false, [])

/-- The fraction at the head of a text, if there is one, and what follows. A point alone is one only
behind digits. -/
def fraction (hasDigits : Bool) (s : Text) : Bool × Text :=
  match s with
  | '.' :: rest =>
    match digits? Char.isDigit rest with
    | some (_, rest) => (true, rest)
    | none => if hasDigits then (true, rest) else (false, s)
  | s => (false, s)

/-- A number in base ten. -/
def decimal? (s : Text) : Option (Kind × Text) :=
  let (whole, rest) := (digits? Char.isDigit s).getD ([], s)
  let (hasFraction, rest) := fraction (!whole.isEmpty) rest
  if whole.isEmpty && !hasFraction then none
  else
    let (hasExponent, rest) := exponent rest
    match rest with
    | 'j' :: rest | 'J' :: rest => some (.number true, rest)
    | rest =>
      let isWhole := !hasFraction && !hasExponent
      let isZero := whole.all (· == '0')
      if isWhole && (digitLimit < whole.length || (whole.head? == some '0' && !isZero)) then none
      else some (.number false, rest)

/-- A number, which no letter may follow. -/
def number? (s : Text) : Option (Kind × Text) :=
  let read := match s with
    | '0' :: c :: rest =>
      let letter := c.toLower
      if letter = 'x' ∨ letter = 'o' ∨ letter = 'b' then inBase? letter rest else decimal? s
    | s => decimal? s
  match read with
  | some (kind, rest) =>
    if (rest.head?.map fun c => isWord c || c == '.').getD false then none else some (kind, rest)
  | none => none

/-! ## §4 Texts and bytes -/

/-- How many digits in base sixteen follow the letter of an escape. -/
def escapeDigits (isBytes : Bool) (c : Char) : Nat :=
  if c = 'x' then 2 else if isBytes then 0 else if c = 'u' then 4 else if c = 'U' then 8 else 0

/-- Whether the digits of an escape are there, and write a code point. -/
def isEscape (isBytes : Bool) (c : Char) (s : Text) : Bool :=
  let wanted := escapeDigits isBytes c
  match natInBase? 16 (s.take wanted) with
  | some n => n < 0x110000 && wanted ≤ s.length
  | none => wanted == 0 && (isBytes || c ≠ 'N')

/-- What stands behind the closing quotes of a text. -/
def closed? (isRaw isBytes : Bool) (quotes : Text) : Text → Option Text
  | [] => none
  | c :: s =>
    match after? quotes (c :: s) with
    | some rest => some rest
    | none =>
      if c = '\n' ∧ quotes.length = 1 then none
      else if isBytes ∧ 128 ≤ c.toNat then none
      else if c = '\\' then
        match s with
        | [] => none
        | e :: rest =>
          if isBytes ∧ 128 ≤ e.toNat then none
          else if isRaw || isEscape isBytes e rest then closed? isRaw isBytes quotes rest else none
      else closed? isRaw isBytes quotes s

/-- The letters that can stand in front of a quote. -/
def marks : List Text := ["br", "rb", "b", "r", "u", ""]

/-- A text or some bytes, with the letters in front of the quote. -/
def quoted? (s : Text) : Option (Kind × Text) :=
  let mark := s.takeWhile (·.isAlpha)
  let letters := mark.map Char.toLower
  let rest := s.drop mark.length
  let quotes := ["'''", "\"\"\"", "'", "\""].find? fun q => startsWith rest q.toList
  match quotes with
  | some q =>
    if marks.contains letters then
      let isBytes := letters.contains 'b'
      (closed? (letters.contains 'r') isBytes q.toList (rest.drop q.length)).map fun rest =>
        (if isBytes then .bytes else .text, rest)
    else none
  | none => none

/-- Texts that stand side by side are one; they are all texts or all bytes. -/
def quotedRow? (inside : Bool) : (fuel : Nat) → Text → Option (Kind × Text)
  | 0, _ => none
  | fuel + 1, s => do
    let (kind, rest) ← quoted? s
    match quotedRow? inside fuel (skip inside rest) with
    | some (next, rest) => if next = kind then some (kind, rest) else none
    | none => some (kind, rest)

/-! ## §5 Values -/

/-- The words that are values. -/
def words : List Text := ["True", "False", "None"]

mutual

/-- A value at the head of a text, and what follows: at most two numbers, the second of which is
imaginary, or anything else. -/
def sum? (inside : Bool) : (fuel : Nat) → Text → Option (Kind × Text)
  | 0, _ => none
  | fuel + 1, s => do
    let (first, rest) ← term? inside fuel (skip inside s)
    match skip inside rest with
    | c :: behind =>
      if c = '+' ∨ c = '-' then
        let (second, rest) ← term? inside fuel (skip inside behind)
        if isReal first && second = .number true then some (.constant, skip inside rest) else none
      else some (first, c :: behind)
    | [] => some (first, [])

/-- A value that is no sum. -/
def term? (inside : Bool) : (fuel : Nat) → Text → Option (Kind × Text)
  | 0, _ => none
  | fuel + 1, s =>
    match s with
    | '(' :: s => do
      let (kinds, isRow, rest) ← items? true fuel ')' (skip true s)
      match kinds, isRow with
      | [kind], false => some (kind, rest)
      | kinds, _ => some (rowKind kinds, rest)
    | '[' :: s => (items? true fuel ']' (skip true s)).map fun r => (.changing, r.2.2)
    | '\x7b' :: s =>
      match skip true s with
      | '\x7d' :: rest => some (.changing, rest)
      | s => (members? fuel s).map (.changing, ·)
    | '.' :: '.' :: '.' :: rest => some (.constant, rest)
    | c :: rest =>
      if c = '-' ∨ c = '+' then
        match term? inside fuel (skip inside rest) with
        | some (.number imaginary, rest) => some (.signed imaginary, rest)
        | _ => none
      else
        match quotedRow? inside (s.length + 1) s with
        | some r => some r
        | none =>
          let word := s.takeWhile isWord
          if words.contains word then some (.constant, s.drop word.length)
          else if word = "set".toList then
            match skip inside (s.drop word.length) with
            | '(' :: rest =>
              match skip true rest with
              | ')' :: rest => some (.changing, rest)
              | _ => none
            | _ => none
          else number? s
    | [] => none

/-- Values with commas between them up to a bracket: their kinds, whether there is a comma or no
value at all, and what follows. -/
def items? (inside : Bool) : (fuel : Nat) → (close : Char) → Text →
    Option (List Kind × Bool × Text)
  | 0, _, _ => none
  | fuel + 1, close, s =>
    if s.head? = some close then some ([], true, s.drop 1)
    else do
      let (kind, rest) ← sum? inside fuel s
      match rest with
      | ',' :: rest =>
        let (kinds, _, rest) ← items? inside fuel close (skip inside rest)
        some (kind :: kinds, true, rest)
      | c :: rest => if c = close then some ([kind], false, rest) else none
      | [] => none

/-- The members of a set, or keys with their values, up to a bracket: what follows. None of them can
change. -/
def members? : (fuel : Nat) → Text → Option Text
  | 0, _ => none
  | fuel + 1, s => do
    let (key, rest) ← sum? true fuel s
    if key = .changing then none
    else
      match rest with
      | ':' :: rest => do
        let (_, rest) ← sum? true fuel (skip true rest)
        entries? fuel rest
      | rest => elements? fuel rest

/-- What follows an entry, up to the bracket. -/
def entries? : (fuel : Nat) → Text → Option Text
  | 0, _ => none
  | fuel + 1, s =>
    match s with
    | '\x7d' :: rest => some rest
    | ',' :: rest =>
      match skip true rest with
      | '\x7d' :: rest => some rest
      | rest => do
        let (key, rest) ← sum? true fuel rest
        match rest with
        | ':' :: rest =>
          let (_, rest) ← sum? true fuel (skip true rest)
          if key = .changing then none else entries? fuel rest
        | _ => none
    | _ => none

/-- What follows an element of a set, up to the bracket. -/
def elements? : (fuel : Nat) → Text → Option Text
  | 0, _ => none
  | fuel + 1, s =>
    match s with
    | '\x7d' :: rest => some rest
    | ',' :: rest =>
      match skip true rest with
      | '\x7d' :: rest => some rest
      | rest => do
        let (kind, rest) ← sum? true fuel rest
        if kind = .changing then none else elements? fuel rest
    | _ => none

end

/-- Whether values with commas between them are all that is left. -/
def endsWithValues : (fuel : Nat) → Text → Bool
  | 0, _ => false
  | fuel + 1, s =>
    match sum? false fuel s with
    | some (_, []) => true
    | some (_, ',' :: rest) =>
      let rest := skip false rest
      rest.isEmpty || endsWithValues fuel rest
    | _ => false

/-- Whether a text writes a value. -/
def isLiteral (s : Text) : Bool :=
  !s.contains '\x00' &&
    endsWithValues (4 * s.length + 4) (s.dropWhile fun c => c == ' ' || c == '\t')

end EmbeddedGo.Literal
