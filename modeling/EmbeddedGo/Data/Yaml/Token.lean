/-
EmbeddedGo.Data.Yaml.Token — the tokens of a YAML text.

Indentation is made explicit: a block begins where a dash or a key stands further right than the
blocks around it, and ends where a token stands further left. A key is only known as one when the
colon behind it is met, so each token that could be a key is remembered as a candidate, and its marks
are put in front of it later.

Where the text cannot be read any further, its tokens end with the trouble. Tokens that were still
waiting for a colon are lost with it.

Anchors, aliases, tags and block scalars are not read: their marks begin no token.

  §1 tokens
  §2 the scanner, its blocks and its candidates
  §3 one token after the other
  §4 `tokens`: all of them
-/
import EmbeddedGo.Data.Yaml.Scalar

namespace EmbeddedGo.Yaml

open Text

/-! ## §1 Tokens -/

/-- A token. -/
inductive Token where
  | streamEnd
  /-- A directive, which gives the version of the language or something of no concern. -/
  | directive (version : Option (Nat × Nat))
  | documentStart
  | documentEnd
  | blockSequence
  | blockMapping
  | blockEnd
  | flowSequence
  | flowSequenceEnd
  | flowMapping
  | flowMappingEnd
  | entry
  | separator
  | key
  | colon
  | plain (s : Text)
  /-- A scalar between quotes, by its code points. -/
  | quoted (points : List Nat)
  /-- What keeps the text from being read any further. -/
  | trouble (cause : Problem)
  deriving DecidableEq, Inhabited

/-- A token as messages name it. -/
def Token.name : Token → Text
  | streamEnd => "<stream end>"
  | directive .. => "<directive>"
  | documentStart => "<document start>"
  | documentEnd => "<document end>"
  | blockSequence => "<block sequence start>"
  | blockMapping => "<block mapping start>"
  | blockEnd => "<block end>"
  | flowSequence => "["
  | flowSequenceEnd => "]"
  | flowMapping => "\x7b"
  | flowMappingEnd => "\x7d"
  | entry => "-"
  | separator => ","
  | key => "?"
  | colon => ":"
  | plain _ | quoted _ => "<scalar>"
  | trouble _ => "<trouble>"

/-- A token and where it begins. -/
structure Located where
  token : Token
  mark : Mark
  deriving DecidableEq, Inhabited

/-! ## §2 The scanner -/

/-- A token that could be a key: how many tokens stand in front of it, how deep in brackets it is,
where it is, and whether it has to be one. -/
structure Candidate where
  position : Nat
  depth : Nat
  index : Nat
  mark : Mark
  required : Bool

/-- What has been read, and what is remembered of it. -/
structure Scanner where
  cursor : Cursor
  tokens : Array Located := #[]
  /-- How many brackets are open. -/
  depth : Nat := 0
  /-- The column of the innermost block, and those of the blocks around it. -/
  indent : Int := -1
  outer : List Int := []
  /-- Whether a key or a dash can stand here. -/
  keyAllowed : Bool := true
  candidates : List Candidate := []

namespace Scanner

/-- The column of the cursor. -/
def column (s : Scanner) : Int := s.cursor.mark.column

/-- The scanner with one more token. -/
def push (s : Scanner) (token : Token) (mark : Mark) : Scanner :=
  { s with tokens := s.tokens.push ⟨token, mark⟩ }

/-- Ends the blocks that begin further right than a column. -/
def unwindFrom (column : Int) : List Int → Scanner → Scanner
  | [], s => s
  | i :: outer, s =>
    if column < s.indent then
      unwindFrom column outer ({ s with indent := i, outer }.push .blockEnd s.cursor.mark)
    else s

/-- Ends the blocks that begin further right than a column; between brackets there are none. -/
def unwind (column : Int) (s : Scanner) : Scanner :=
  if s.depth = 0 then unwindFrom column s.outer s else s

/-- Begins a block at a column, if it is further right than the one around it. -/
def indentTo (column : Int) (s : Scanner) : Option Scanner :=
  if s.indent < column then some { s with indent := column, outer := s.indent :: s.outer } else none

/-- The problem of a key without a colon. -/
def missingColon (s : Scanner) (c : Candidate) : Problem :=
  .marked (some ("while scanning a simple key", c.mark)) "could not find expected ':'" s.cursor.mark

/-- Gives up the candidates that satisfy a condition. -/
def giveUp (gone : Candidate → Bool) (s : Scanner) : Except Problem Scanner :=
  match s.candidates.find? fun c => gone c && c.required with
  | some c => .error (s.missingColon c)
  | none => .ok { s with candidates := s.candidates.filter fun c => !gone c }

/-- Gives up the candidate at the present depth. -/
def dropCandidate (s : Scanner) : Except Problem Scanner := s.giveUp (·.depth == s.depth)

/-- How far behind a candidate its colon can stand. -/
def keyReach : Nat := 1024

/-- Whether a candidate is on another line or too far back. -/
def isStale (s : Scanner) (c : Candidate) : Bool :=
  c.mark.line != s.cursor.mark.line || keyReach < s.cursor.index - c.index

/-- Gives up the candidates that are on another line or too far back. -/
def dropStale (s : Scanner) : Except Problem Scanner := s.giveUp s.isStale

/-- Remembers the token that is about to be read as a possible key. -/
def remember (s : Scanner) : Except Problem Scanner :=
  if s.keyAllowed then do
    let required := s.depth == 0 && s.indent == s.column
    let s ← s.dropCandidate
    let c : Candidate :=
      ⟨s.tokens.size, s.depth, s.cursor.index, s.cursor.mark, required⟩
    return { s with candidates := s.candidates ++ [c] }
  else .ok s

/-- Skips blanks, comments and line ends. -/
def toNextToken : (fuel : Nat) → Scanner → Scanner
  | 0, s => s
  | fuel + 1, s =>
    let cur := s.cursor.skipWhile (· == ' ')
    let cur := if cur.peek 0 = some '#' then cur.skipWhile (fun c => !isBreak c) else cur
    match cur.lineBreak? with
    | some (_, cur) =>
      toNextToken fuel { s with cursor := cur, keyAllowed := s.depth == 0 || s.keyAllowed }
    | none => { s with cursor := cur }

/-! ## §3 Tokens one by one -/

/-- A problem at the cursor without a context. -/
def problem {α : Type} (s : Scanner) (words : Text) : Except Problem α :=
  .error (.marked none words s.cursor.mark)

/-- The scanner behind a mark of `length` characters. -/
def mark (s : Scanner) (token : Token) (length : Nat) : Scanner :=
  { s.push token s.cursor.mark with cursor := s.cursor.skip length }

/-- The end of the text. -/
def finish (s : Scanner) : Except Problem Scanner := do
  let s ← (s.unwind (-1)).dropCandidate
  return s.push .streamEnd s.cursor.mark

/-- A line that begins or ends a document. -/
def documentMark (s : Scanner) (token : Token) : Except Problem Scanner := do
  let s ← (s.unwind (-1)).dropCandidate
  return { s with keyAllowed := false }.mark token 3

/-- The problem of a directive that does not go on as it should. -/
def directiveProblem {α : Type} (s : Scanner) (expected : Text) (cur : Cursor) : Except Problem α :=
  .error (.marked (some ("while scanning a directive", s.cursor.mark))
    ("expected " ++ expected ++ ", but found " ++ charShown (cur.peek 0)) cur.mark)

/-- Whether a part of a directive can end in front of a character: at a space, or with its line. -/
def endsPart (c : Option Char) : Bool := c == some ' ' || endsLine c

/-- The digits of a number in a version, and the cursor behind them. -/
def versionNumber (s : Scanner) (cur : Cursor) : Except Problem (Nat × Cursor) :=
  match cur.rest.takeWhile Char.isDigit with
  | [] => s.directiveProblem "a digit" cur
  | digits => .ok (natValue digits, cur.skip digits.length)

/-- The two numbers of a version, which a point separates, and the cursor behind them. -/
def version (s : Scanner) (cur : Cursor) : Except Problem ((Nat × Nat) × Cursor) := do
  let (major, cur) ← s.versionNumber (cur.skipWhile (· == ' '))
  if cur.peek 0 ≠ some '.' then s.directiveProblem "a digit or '.'" cur
  else
    let (minor, cur) ← s.versionNumber cur.next
    if endsPart (cur.peek 0) then return ((major, minor), cur)
    else s.directiveProblem "a digit or ' '" cur

/-- Checks that nothing but a comment is left of the line of a directive; the cursor at its end. -/
def directiveEnd (s : Scanner) (cur : Cursor) : Except Problem Cursor :=
  let cur := cur.skipWhile (· == ' ')
  let cur := if cur.peek 0 = some '#' then cur.skipWhile (fun c => !isBreak c) else cur
  if endsLine (cur.peek 0) then .ok cur
  else s.directiveProblem "a comment or a line break" cur

/-- A line that begins with a percent sign and a name. Only the line that gives a version is looked
at any further. -/
def directive (s : Scanner) : Except Problem Scanner := do
  let s ← (s.unwind (-1)).dropCandidate
  let cur := s.cursor.next
  let name := cur.rest.takeWhile fun c => c.isAlphanum || c == '-' || c == '_'
  let behind := cur.skip name.length
  if name.isEmpty ∨ !endsPart (behind.peek 0) then
    s.directiveProblem "alphabetic or numeric character" behind
  else
    let (version, behind) ← if name = "YAML".toList then
        (s.version behind).map fun r => (some r.1, r.2)
      else .ok (none, behind.skipWhile (fun c => !isBreak c))
    let behind ← s.directiveEnd behind
    return { s.push (.directive version) s.cursor.mark with cursor := behind, keyAllowed := false }

/-- An opening bracket. -/
def opening (s : Scanner) (token : Token) : Except Problem Scanner := do
  let s ← s.remember
  return { s with depth := s.depth + 1, keyAllowed := true }.mark token 1

/-- A closing bracket. -/
def closing (s : Scanner) (token : Token) : Except Problem Scanner := do
  let s ← s.dropCandidate
  return { s with depth := s.depth - 1, keyAllowed := false }.mark token 1

/-- A comma between brackets. -/
def comma (s : Scanner) : Except Problem Scanner := do
  let s ← { s with keyAllowed := true }.dropCandidate
  return s.mark .separator 1

/-- The scanner with a new block at the cursor, if one begins there. -/
def beginBlock (s : Scanner) (token : Token) : Scanner :=
  match s.indentTo s.column with
  | some s => s.push token s.cursor.mark
  | none => s

/-- A dash. -/
def dash (s : Scanner) : Except Problem Scanner := do
  if s.depth = 0 ∧ !s.keyAllowed then s.problem "sequence entries are not allowed here"
  else
    let s := if s.depth = 0 then s.beginBlock .blockSequence else s
    let s ← { s with keyAllowed := true }.dropCandidate
    return s.mark .entry 1

/-- A question mark. -/
def question (s : Scanner) : Except Problem Scanner := do
  if s.depth = 0 ∧ !s.keyAllowed then s.problem "mapping keys are not allowed here"
  else
    let s := if s.depth = 0 then s.beginBlock .blockMapping else s
    let s ← { s with keyAllowed := s.depth == 0 }.dropCandidate
    return s.mark .key 1

/-- The scanner with tokens put in front of a candidate. -/
def insertBefore (s : Scanner) (c : Candidate) (token : Token) : Scanner :=
  { s with tokens := s.tokens.insertIdxIfInBounds c.position ⟨token, c.mark⟩ }

/-- A colon: behind a candidate, which becomes a key, or by itself. -/
def colon (s : Scanner) : Except Problem Scanner := do
  match s.candidates.find? (·.depth == s.depth) with
  | some c =>
    let s := { s with candidates := s.candidates.filter (·.depth != s.depth) }
    let s := s.insertBefore c .key
    let s := if s.depth = 0 then
        match s.indentTo c.mark.column with
        | some s => s.insertBefore c .blockMapping
        | none => s
      else s
    return { s with keyAllowed := false }.mark .colon 1
  | none =>
    if s.depth = 0 ∧ !s.keyAllowed then s.problem "mapping values are not allowed here"
    else
      let s := if s.depth = 0 then s.beginBlock .blockMapping else s
      let s ← { s with keyAllowed := s.depth == 0 }.dropCandidate
      return s.mark .colon 1

/-- A quoted scalar. -/
def quotedToken (s : Scanner) (double : Bool) : Except Problem Scanner := do
  let s ← s.remember
  let (points, cursor) ← quotedScalar double s.cursor
  return { s.push (.quoted points) s.cursor.mark with cursor, keyAllowed := false }

/-- A plain scalar. -/
def plainToken (s : Scanner) : Except Problem Scanner := do
  let s ← s.remember
  let (text, cursor, lineEnded) := plainScalar (s.depth != 0) (s.indent + 1) s.cursor
  return { s.push (.plain text) s.cursor.mark with cursor, keyAllowed := lineEnded }

/-- The characters that begin no plain scalar by themselves. -/
def isIndicator (c : Char) : Bool := ("-?:,[]\x7b\x7d#&*!|>'\"%@`" : Text).contains c

/-- Whether a plain scalar begins at the cursor. -/
def plainBegins (s : Scanner) (c : Char) : Bool :=
  !(endsWord (some c) || isIndicator c) ||
    (!endsWord (s.cursor.peek 1) && (c == '-' || (s.depth == 0 && (c == '?' || c == ':'))))

/-- The token that begins with a character. -/
def token (s : Scanner) (c : Char) : Except Problem Scanner :=
  let wordEnds := endsWord (s.cursor.peek 1)
  if c = '%' ∧ s.column = 0 then s.directive
  else if s.column = 0 ∧ s.cursor.atTriple '-' then s.documentMark .documentStart
  else if s.column = 0 ∧ s.cursor.atTriple '.' then s.documentMark .documentEnd
  else if c = '[' then s.opening .flowSequence
  else if c = '\x7b' then s.opening .flowMapping
  else if c = ']' then s.closing .flowSequenceEnd
  else if c = '\x7d' then s.closing .flowMappingEnd
  else if c = ',' then s.comma
  else if c = '-' ∧ wordEnds then s.dash
  else if c = '?' ∧ (s.depth ≠ 0 ∨ wordEnds) then s.question
  else if c = ':' ∧ (s.depth ≠ 0 ∨ wordEnds) then s.colon
  else if c = '\'' then s.quotedToken false
  else if c = '"' then s.quotedToken true
  else if s.plainBegins c then s.plainToken
  else
    .error (.marked (some ("while scanning for the next token", s.cursor.mark))
      ("found character " ++ charShown (some c) ++ " that cannot start any token") s.cursor.mark)

/-! ## §4 All tokens -/

/-- The scanner behind one more token, and whether the text has ended. -/
def step (fuel : Nat) (s : Scanner) : Except Problem (Scanner × Bool) := do
  let s ← (s.toNextToken fuel).dropStale
  let s := s.unwind s.column
  match s.cursor.rest with
  | [] => return (← s.finish, true)
  | c :: _ => return (← s.token c, false)

/-- The tokens that no mark is put in front of any more: those before the first candidate that can
still be a key. -/
def settled (s : Scanner) : List Located :=
  let waiting := s.candidates.filter fun c => c.required || !s.isStale c
  s.tokens.toList.take (waiting.foldl (fun n c => min n c.position) s.tokens.size)

/-- The tokens up to the end of the text, or up to the trouble. -/
def run : (fuel : Nat) → Scanner → List Located
  | 0, s => s.tokens.toList
  | fuel + 1, s =>
    match s.step (fuel + 1) with
    | .error cause => s.settled ++ [⟨.trouble cause, s.cursor.mark⟩]
    | .ok (s, true) => s.tokens.toList
    | .ok (s, false) => run fuel s

end Scanner

/-- Whether a document may hold a character. -/
def isAcceptable (c : Char) : Bool :=
  let n := c.toNat
  n == 9 || n == 10 || n == 13 || (32 ≤ n && n ≤ 126) || n == 0x85 || (0xA0 ≤ n && n ≤ 0xD7FF) ||
    (0xE000 ≤ n && n ≤ 0xFFFD) || 0x10000 ≤ n

/-- A cursor at the start of a text, behind the mark for the order of its bytes. -/
def Cursor.ofText (s : Text) : Cursor :=
  let cur : Cursor := { rest := s }
  if cur.peek 0 = some '\uFEFF' then cur.next else cur

/-- The tokens of a text. Every step but the last one takes a character, so the fuel is enough. -/
def tokens (s : Text) : List Located :=
  match s.findIdx? (fun c => !isAcceptable c) with
  | some i => [⟨.trouble (.unacceptable (s[i]?.getD ' ') i), {}⟩]
  | none => Scanner.run (s.length + 1) { cursor := Cursor.ofText s }

end EmbeddedGo.Yaml
