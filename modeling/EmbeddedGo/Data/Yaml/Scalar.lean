/-
EmbeddedGo.Data.Yaml.Scalar — reading scalars from a YAML text.

  §1 white space inside scalars: a single line break folds to a space, further ones stay
  §2 escapes between double quotes
  §3 quoted scalars
  §4 plain scalars, which reach over lines as long as these are indented
-/
import EmbeddedGo.Data.Yaml.Problem

namespace EmbeddedGo.Yaml

open Text

/-! ## §1 White space -/

/-- A space or a tab. -/
def isSpaceOrTab (c : Char) : Bool := c == ' ' || c == '\t'

/-- A line break and those after it as they stand in the scalar. -/
def folded (first : Char) (later : Text) : Text :=
  if first ≠ '\n' then first :: later else if later.isEmpty then [' '] else later

/-- The problem of a document that ends inside a quoted scalar. -/
def separatorInside (start : Mark) (cur : Cursor) : Problem :=
  .marked (some ("while scanning a quoted scalar", start)) "found unexpected document separator"
    cur.mark

/-- The line breaks in a quoted scalar, with the blanks at the beginning of each line. -/
def quotedBreaks (start : Mark) : (fuel : Nat) → Cursor → Except Problem (Text × Cursor)
  | 0, cur => .ok ([], cur)
  | fuel + 1, cur =>
    if cur.atSeparator then .error (separatorInside start cur)
    else
      let cur := cur.skipWhile isSpaceOrTab
      match cur.lineBreak? with
      | none => .ok ([], cur)
      | some (c, cur) => (quotedBreaks start fuel cur).map fun r => (c :: r.1, r.2)

/-! ## §2 Escapes -/

/-- The characters that one letter stands for behind a backslash. -/
def escapes : List (Char × Char) := [
  ('0', '\x00'), ('a', '\x07'), ('b', '\x08'), ('t', '\t'), ('\t', '\t'), ('n', '\n'),
  ('v', '\x0b'), ('f', '\x0c'), ('r', '\r'), ('e', '\x1b'), (' ', ' '), ('"', '"'), ('\\', '\\'),
  ('/', '/'), ('N', '\x85'), ('_', '\xa0'), ('L', '\u2028'), ('P', '\u2029')]

/-- How many digits follow the letters that introduce a code point. -/
def codeLength? : Char → Option Nat
  | 'x' => some 2
  | 'u' => some 4
  | 'U' => some 8
  | _ => none

/-- A character in a message; the end of the text shows as NUL. -/
def charShown (c : Option Char) : Text := quoted [c.getD '\x00']

/-- The code point of `length` digits at the cursor, and the cursor behind them. -/
def codePoint (start : Mark) (length : Nat) (cur : Cursor) : Except Problem (List Nat × Cursor) :=
  let digits := cur.rest.take length
  match digits.find? (fun c => (hexDigit? c).isNone), natInBase? 16 digits with
  | none, some n =>
    if digits.length < length then missing none
    else if 0x7FFFFFFF < n then .error (.tooLarge "Python int too large to convert to C int")
    else if 0x10FFFF < n then .error (.noValue "chr() arg not in range(0x110000)")
    else .ok ([n], cur.skip length)
  | c, _ => missing c
where
  /-- The problem of a digit that is something else. -/
  missing (met : Option Char) : Except Problem (List Nat × Cursor) :=
    .error (.marked (some ("while scanning a double-quoted scalar", start))
      ("expected escape sequence of " ++ ofNat length ++ " hexadecimal numbers, but found " ++
        charShown met) cur.mark)

/-- The code points of a text. -/
def points (s : Text) : List Nat := s.map Char.toNat

/-- What stands for the escape behind a backslash, and the cursor behind it. -/
def escape (start : Mark) (cur : Cursor) : Except Problem (List Nat × Cursor) :=
  match cur.rest with
  | [] => unknown none
  | c :: _ =>
    match escapes.lookup c, codeLength? c, cur.lineBreak? with
    | some meaning, _, _ => .ok ([meaning.toNat], cur.next)
    | none, some length, _ => codePoint start length cur.next
    | none, none, some (_, cur) =>
      (quotedBreaks start (cur.rest.length + 1) cur).map fun r => (points r.1, r.2)
    | none, none, none => unknown (some c)
where
  /-- The problem of a letter that introduces nothing. -/
  unknown (met : Option Char) : Except Problem (List Nat × Cursor) :=
    .error (.marked (some ("while scanning a double-quoted scalar", start))
      ("found unknown escape character " ++ charShown met) cur.mark)

/-! ## §3 Quoted scalars -/

/-- The blanks at the cursor and the line breaks after them. -/
def quotedSpaces (start : Mark) (cur : Cursor) : Except Problem (Text × Cursor) :=
  let blanks := cur.rest.takeWhile isSpaceOrTab
  let cur := cur.skipWhile isSpaceOrTab
  match cur.rest, cur.lineBreak? with
  | [], _ =>
    .error (.marked (some ("while scanning a quoted scalar", start)) "found unexpected end of stream"
      cur.mark)
  | _, some (c, cur) =>
    (quotedBreaks start (cur.rest.length + 1) cur).map fun r => (folded c r.1, r.2)
  | _, none => .ok (blanks, cur)

/-- The rest of a quoted scalar by its code points, and the cursor behind its closing quote. -/
def quotedBody (double : Bool) (start : Mark) : (fuel : Nat) → (done : List (List Nat)) → Cursor →
    Except Problem (List Nat × Cursor)
  | 0, _, cur => .error (.marked none "found unexpected end of stream" cur.mark)
  | fuel + 1, done, cur =>
    match cur.rest with
    | '\'' :: '\'' :: _ =>
      if double then quotedBody double start fuel (points ['\''] :: done) cur.next
      else quotedBody double start fuel (points ['\''] :: done) (cur.skip 2)
    | '\'' :: _ =>
      if double then quotedBody double start fuel (points ['\''] :: done) cur.next
      else .ok (done.reverse.flatten, cur.next)
    | '"' :: _ =>
      if double then .ok (done.reverse.flatten, cur.next)
      else quotedBody double start fuel (points ['"'] :: done) cur.next
    | '\\' :: _ =>
      if double then do
        let (s, cur) ← escape start cur.next
        quotedBody double start fuel (s :: done) cur
      else quotedBody double start fuel (points ['\\'] :: done) cur.next
    | rest =>
      if endsWord rest.head? then do
        let (s, cur) ← quotedSpaces start cur
        quotedBody double start fuel (points s :: done) cur
      else quotedBody double start fuel (points (rest.take 1) :: done) cur.next

/-- A quoted scalar with the cursor at its opening quote. -/
def quotedScalar (double : Bool) (cur : Cursor) : Except Problem (List Nat × Cursor) :=
  quotedBody double cur.mark (cur.rest.length + 1) [] cur.next

/-! ## §4 Plain scalars -/

/-- The characters that end a plain scalar between brackets. -/
def isFlowMark (c : Char) : Bool :=
  c == ',' || c == '?' || c == '[' || c == ']' || c == '\x7b' || c == '\x7d'

/-- Whether a plain scalar ends in front of a text. -/
def plainEnds (inFlow : Bool) : Text → Bool
  | [] => true
  | c :: s =>
    endsWord (some c) ||
    (c == ':' &&
      (endsWord s.head? || (inFlow && isFlowMark (s.head?.getD ' ') && s.head? != some '?'))) ||
    (inFlow && isFlowMark c)

/-- The part of a plain scalar without white space at the head of a text. -/
def plainRun (inFlow : Bool) : Text → Text
  | [] => []
  | c :: s => if plainEnds inFlow (c :: s) then [] else c :: plainRun inFlow s

/-- The lines without words behind a line break, and the blanks in front of the next word; none if
a document ends there. -/
def plainBreaks : (fuel : Nat) → Cursor → Option Text × Cursor
  | 0, cur => (some [], cur)
  | fuel + 1, cur =>
    if cur.atSeparator then (none, cur)
    else
      let cur := cur.skipWhile (· == ' ')
      match cur.lineBreak? with
      | none => (some [], cur)
      | some (c, cur) =>
        let (later, cur) := plainBreaks fuel cur
        (later.map (c :: ·), cur)

/-- The white space behind a word of a plain scalar: what it comes to, none if the scalar ends with
it, the cursor behind it, and whether a line ended in it. -/
def plainSpaces (cur : Cursor) : Option Text × Cursor × Bool :=
  let blanks := cur.rest.takeWhile (· == ' ')
  let cur := cur.skipWhile (· == ' ')
  match cur.lineBreak? with
  | none => (if blanks.isEmpty then none else some blanks, cur, false)
  | some (c, cur) =>
    let (later, cur) := plainBreaks (cur.rest.length + 1) cur
    (later.map (folded c), cur, true)

/-- A plain scalar, the cursor behind it, and whether a line ended behind its last word. Lines have
to be indented by `indent`, except between brackets. -/
def plainBody (inFlow : Bool) (indent : Int) : (fuel : Nat) → (done : List Text) →
    (spaces : Text) → Cursor → (lineEnded : Bool) → Text × Cursor × Bool
  | 0, done, _, cur, ended => (done.reverse.flatten, cur, ended)
  | fuel + 1, done, spaces, cur, ended =>
    let run := if cur.peek 0 = some '#' then [] else plainRun inFlow cur.rest
    if run.isEmpty then (done.reverse.flatten, cur, ended)
    else
      let done := run :: spaces :: done
      match plainSpaces (cur.skip run.length) with
      | (none, cur, ended) => (done.reverse.flatten, cur, ended)
      | (some spaces, cur, ended) =>
        if cur.peek 0 = some '#' ∨ (!inFlow ∧ (cur.mark.column : Int) < indent) then
          (done.reverse.flatten, cur, ended)
        else plainBody inFlow indent fuel done spaces cur ended

/-- A plain scalar with the cursor at its first character. -/
def plainScalar (inFlow : Bool) (indent : Int) (cur : Cursor) : Text × Cursor × Bool :=
  plainBody inFlow indent (cur.rest.length + 1) [] [] cur false

end EmbeddedGo.Yaml
