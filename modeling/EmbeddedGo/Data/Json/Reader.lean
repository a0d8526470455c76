/-
EmbeddedGo.Data.Json.Reader — JSON texts as values.

The grammar is that of JSON with three more numbers, `NaN`, `Infinity` and `-Infinity`. Whole numbers
are kept apart from those with a fraction or an exponent. Of equal names in an object the last one
counts. A fault says what was expected, and where, counted from the start of the text.

  §1 faults
  §2 strings
  §3 numbers
  §4 values; the fuel is the length of the text
-/
import EmbeddedGo.Data.Value

namespace EmbeddedGo.Json

open Text

/-! ## §1 Faults -/

/-- Why a text is no JSON, and how many characters are left from the place of the fault. -/
inductive Fault where
  | malformed (words : Text) (left : Nat)
  /-- A whole number has more digits than are read. -/
  | numberTooLong (digits : Nat)
  /-- Lists and objects are nested too deeply; `what` is the innermost. -/
  | tooDeep (what : Text)
  deriving DecidableEq

/-- The most digits of a whole number. -/
def digitLimit : Nat := 4300

/-- How deeply lists and objects can be nested. -/
def nestingLimit : Nat := 988

/-- Whether a number has more digits than are written. -/
def digitsExceed (i : Int) : Bool := Nat.pow 10 digitLimit ≤ i.natAbs

/-- The words for a number with too many digits to be written. -/
def unwritableMessage : Text :=
  "Exceeds the limit (" ++ ofNat digitLimit ++
    " digits) for integer string conversion; use sys.set_int_max_str_digits() to increase the limit"

/-- The words for a number with too many digits. -/
def tooLongMessage (digits : Nat) : Text :=
  "Exceeds the limit (" ++ ofNat digitLimit ++
    " digits) for integer string conversion: value has " ++ ofNat digits ++
    " digits; use sys.set_int_max_str_digits() to increase the limit"

/-- The words for lists and objects that are nested too deeply. -/
def tooDeepMessage (what : Text) : Text :=
  "maximum recursion depth exceeded while decoding a JSON " ++ what ++ " from a unicode string"

/-- The words of a fault in a text, with its line, its column and its place. -/
def Fault.message (whole : Text) : Fault → Text
  | .malformed words left =>
    let before := whole.take (whole.length - left)
    let column := (before.reverse.takeWhile (· ≠ '\n')).length + 1
    words ++ ": line " ++ ofNat (before.count '\n' + 1) ++ " column " ++ ofNat column ++
      " (char " ++ ofNat before.length ++ ")"
  | .numberTooLong digits => tooLongMessage digits
  | .tooDeep what => tooDeepMessage what

/-- A fault at the head of what is left. -/
def fail {α : Type} (words : Text) (left : Text) : Except Fault α :=
  .error (.malformed words left.length)

/-- The characters between tokens. -/
def isSpace (c : Char) : Bool := c == ' ' || c == '\t' || c == '\n' || c == '\r'

/-- The text from its next token on. -/
def skipSpace (s : Text) : Text := s.dropWhile isSpace

/-! ## §2 Strings -/

/-- The unit of sixteen bits written by four digits, and what follows. Something has to follow. -/
def unit? : Text → Option (Nat × Text)
  | a :: b :: c :: d :: next :: s => (natInBase? 16 [a, b, c, d]).map (·, next :: s)
  | _ => none

/-- The code point of a unit, or of it and the escape that follows it. Half of a pair without the
other half is one by itself. -/
def unitPoint (unit : Nat) (s : Text) : Nat × Text :=
  if 0xD800 ≤ unit ∧ unit ≤ 0xDBFF then
    match (after? "\\u" s).bind unit? with
    | some (low, rest) =>
      if 0xDC00 ≤ low ∧ low ≤ 0xDFFF then
        (0x10000 + (unit - 0xD800) * 0x400 + (low - 0xDC00), rest)
      else (unit, s)
    | none => (unit, s)
  else (unit, s)

/-- The characters with a short escape. -/
def shortEscape? (c : Char) : Option Char :=
  match c with
  | '"' => some '"'
  | '\\' => some '\\'
  | '/' => some '/'
  | 'b' => some '\x08'
  | 'f' => some '\x0c'
  | 'n' => some '\n'
  | 'r' => some '\r'
  | 't' => some '\t'
  | _ => none

/-- The code points of a string from behind its opening quote, which `left` characters follow
counting from itself. -/
def stringBody (left : Nat) :
    (fuel : Nat) → (done : List Nat) → Text → Except Fault (List Nat × Text)
  | 0, _, _ | _, _, [] => .error (.malformed "Unterminated string starting at" left)
  | fuel + 1, done, c :: s =>
    if c = '"' then .ok (done.reverse, s)
    else if c = '\\' then
      match s with
      | [] => .error (.malformed "Unterminated string starting at" left)
      | 'u' :: s =>
        match unit? s with
        | none => fail "Invalid \\uXXXX escape" ('u' :: s)
        | some (unit, rest) =>
          let (point, rest) := unitPoint unit rest
          stringBody left fuel (point :: done) rest
      | e :: s' =>
        match shortEscape? e with
        | some c => stringBody left fuel (c.toNat :: done) s'
        | none => fail "Invalid \\escape" (c :: s)
    else if c.toNat < 32 then fail "Invalid control character at" (c :: s)
    else stringBody left fuel (c.toNat :: done) s

/-- A string from behind its opening quote. -/
def string (s : Text) : Except Fault (Value × Text) :=
  (stringBody (s.length + 1) (s.length + 1) [] s).map fun r => (Value.ofPoints r.1, r.2)

/-! ## §3 Numbers -/

/-- Whether a character is an ASCII digit. -/
def isDigit (c : Char) : Bool := c.isDigit

/-- The digits behind a point, if there are any, and what follows. -/
def fraction : Text → Text × Text
  | '.' :: s =>
    match s.takeWhile isDigit with
    | [] => ([], '.' :: s)
    | digits => (digits, s.dropWhile isDigit)
  | s => ([], s)

/-- The sign and the digits of an exponent, if there are any, and what follows. -/
def exponent : Text → Option Int × Text
  | e :: s =>
    if e = 'e' ∨ e = 'E' then
      let (negative, s') : Bool × Text := match s with
        | '-' :: s' => (true, s')
        | '+' :: s' => (false, s')
        | _ => (false, s)
      match s'.takeWhile isDigit with
      | [] => (none, e :: s)
      | digits =>
        let n : Int := natValue digits
        (some (if negative then -n else n), s'.dropWhile isDigit)
    else (none, e :: s)
  | [] => (none, [])

/-- The whole part of a number: a zero alone, or digits that do not begin with one. -/
def wholePart : Text → Text × Text
  | '0' :: s => (['0'], s)
  | s => (s.takeWhile isDigit, s.dropWhile isDigit)

/-- A number without its sign, and what follows; none if no digit is there. -/
def number? (negative : Bool) (s : Text) : Option (Except Fault Value × Text) :=
  match wholePart s with
  | ([], _) => none
  | (whole, rest) =>
    let (part, rest) := fraction rest
    let (power, rest) := exponent rest
    if part.isEmpty && power.isNone then
      if digitLimit < whole.length then some (.error (.numberTooLong whole.length), rest)
      else
        let n : Int := natValue whole
        some (.ok (.int (if negative then -n else n)), rest)
    else
      some (.ok (.real (Binary64.ofDecimal negative (natValue (whole ++ part))
        (power.getD 0 - part.length))), rest)

/-! ## §4 Values -/

/-- The words that are values, each with its value. -/
def words : List (Text × Value) := [
  ("null", .null), ("true", .bool true), ("false", .bool false),
  ("NaN", .real .notANumber), ("Infinity", .real (.infinite false)),
  ("-Infinity", .real (.infinite true))]

/-- A word at the head of a text. -/
def word? (s : Text) : Option (Value × Text) :=
  words.findSome? fun w => (after? w.1 s).map (w.2, ·)

/-- A value that is neither a string, a list nor an object. -/
def atom (s : Text) : Except Fault (Value × Text) :=
  match word? s with
  | some r => .ok r
  | none =>
    let read := match s with
      | '-' :: rest => number? true rest
      | _ => number? false s
    match read with
    | none => fail "Expecting value" s
    | some (v, rest) => v.map (·, rest)

mutual

/-- The value at the head of a text, inside of which lists and objects are nested at most `depth`
times. -/
def value : (depth fuel : Nat) → Text → Except Fault (Value × Text)
  | _, 0, s => fail "Expecting value" s
  | depth, fuel + 1, s =>
    match s, depth with
    | '"' :: rest, _ => string rest
    | '[' :: _, 0 => .error (.tooDeep "array")
    | '[' :: rest, depth + 1 =>
      match skipSpace rest with
      | ']' :: rest => .ok (.list [], rest)
      | rest => (items depth fuel rest).map fun r => (.list r.1, r.2)
    | '\x7b' :: _, 0 => .error (.tooDeep "object")
    | '\x7b' :: rest, depth + 1 =>
      match skipSpace rest with
      | '\x7d' :: rest => .ok (.map [], rest)
      | rest => (members depth fuel [] rest).map fun r => (.map r.1, r.2)
    | _, _ => atom s

/-- The items of a list up to its end. -/
def items : (depth fuel : Nat) → Text → Except Fault (List Value × Text)
  | _, 0, s => fail "Expecting value" s
  | depth, fuel + 1, s => do
    let (v, rest) ← value depth fuel s
    match skipSpace rest with
    | ']' :: rest => return ([v], rest)
    | ',' :: rest =>
      let (vs, rest) ← items depth fuel (skipSpace rest)
      return (v :: vs, rest)
    | rest => fail "Expecting ',' delimiter" rest

/-- The members of an object up to its end, after those read before. -/
def members : (depth fuel : Nat) → (done : List (Value × Value)) → Text →
    Except Fault (List (Value × Value) × Text)
  | _, 0, _, s => fail "Expecting property name enclosed in double quotes" s
  | depth, fuel + 1, done, s =>
    match s with
    | '"' :: rest => do
      let (name, rest) ← string rest
      match skipSpace rest with
      | ':' :: rest =>
        let (v, rest) ← value depth fuel (skipSpace rest)
        let done := Value.insert name v done
        match skipSpace rest with
        | '\x7d' :: rest => return (done, rest)
        | ',' :: rest => members depth fuel done (skipSpace rest)
        | rest => fail "Expecting ',' delimiter" rest
      | rest => fail "Expecting ':' delimiter" rest
    | _ => fail "Expecting property name enclosed in double quotes" s

end

/-- The value of a whole text, which begins with no mark for the order of its bytes, with lists and
objects nested at most `depth` times. -/
def readNested (depth : Nat) (s : Text) : Except Fault Value :=
  match s with
  | '\uFEFF' :: _ => fail "Unexpected UTF-8 BOM (decode using utf-8-sig)" s
  | _ => do
    let (v, rest) ← value depth (s.length + 1) (skipSpace s)
    match skipSpace rest with
    | [] => return v
    | rest => fail "Extra data" rest

/-- The value of a whole text. -/
def read (s : Text) : Except Fault Value := readNested nestingLimit s

end EmbeddedGo.Json
