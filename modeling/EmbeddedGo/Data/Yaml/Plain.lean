/-
EmbeddedGo.Data.Yaml.Plain — what a plain scalar means.

A scalar without quotes is a truth value, a number, a day, nothing, or one of two marks, if it has
the form of one; else it is a text. The forms are tried in that order.

  §1 truth values and nothing
  §2 numbers: whole ones in four bases or in sixties, and fractions, which need a point
  §3 days and times
  §4 `Plain.ofText`
-/
import EmbeddedGo.Data.Yaml.Problem
import EmbeddedGo.Data.Json.Reader

namespace EmbeddedGo.Yaml

open Text

/-! ## §1 Words -/

/-- A word as it can be written: in small letters, with a capital first, or in capitals. -/
def isSpelling (word s : Text) : Bool :=
  s == word || s == word.map Char.toUpper ||
    match word, s with
    | w :: ws, c :: cs => c == w.toUpper && cs == ws
    | _, _ => false

/-- The truth value of a word. -/
def truth? (s : Text) : Option Bool :=
  if (["yes", "true", "on"] : List Text).any (isSpelling · s) then some true
  else if (["no", "false", "off"] : List Text).any (isSpelling · s) then some false
  else none

/-- Whether a scalar stands for nothing. -/
def isNothing (s : Text) : Bool :=
  s.isEmpty || s == ['~'] || isSpelling "null" s

/-! ## §2 Numbers -/

/-- The sign of a number and what follows it. -/
def signed : Text → Bool × Text
  | '-' :: s => (true, s)
  | '+' :: s => (false, s)
  | s => (false, s)

/-- Whether a character is an ASCII digit. -/
def isDigit (c : Char) : Bool := c.isDigit

/-- Whether a character can stand in a number: a digit or an underscore. -/
def isDigitMark (c : Char) : Bool := c.isDigit || c == '_'

/-- A text without its underscores. -/
def withoutMarks (s : Text) : Text := s.filter (· ≠ '_')

/-- Whether a piece between colons is a number below sixty, of one or two digits. -/
def isSixtieth (s : Text) : Bool :=
  match s with
  | [a] => a.isDigit
  | [a, b] => a.isDigit && b.isDigit && a.toNat < '6'.toNat
  | _ => false

/-- The value of pieces between colons. -/
def inSixties (pieces : List Text) : Nat := pieces.foldl (fun n p => n * 60 + natValue p) 0

/-- A number in a base, whose digits a mark may have stood between. -/
def inBase (base : Nat) (s : Text) : Except Problem Nat :=
  let digits := withoutMarks s
  match natInBase? base digits with
  | some n => .ok n
  | none =>
    .error (.noValue
      ("invalid literal for int() with base " ++ ofNat base ++ ": " ++ quoted digits))

/-- A decimal number, which has at most so many digits as are read. -/
def inTen (s : Text) : Except Problem Nat :=
  let digits := withoutMarks s
  if Json.digitLimit < digits.length then .error (.noValue (Json.tooLongMessage digits.length))
  else .ok (natValue digits)

/-- A whole number without its sign, if the text has the form of one. -/
def whole? (s : Text) : Option (Except Problem Nat) :=
  match s with
  | ['0'] => some (.ok 0)
  | '0' :: 'b' :: digits =>
    if !digits.isEmpty && digits.all (fun c => c == '0' || c == '1' || c == '_') then
      some (inBase 2 digits)
    else none
  | '0' :: 'x' :: digits =>
    if !digits.isEmpty && digits.all (fun c => (hexDigit? c).isSome || c == '_') then
      some (inBase 16 digits)
    else none
  | '0' :: digits =>
    if digits.all (fun c => ('0' ≤ c && c ≤ '7') || c == '_') then some (inBase 8 s) else none
  | c :: _ =>
    if !c.isDigit then none
    else if s.all isDigitMark then some (inTen s)
    else
      match splitOn ':' s with
      | first :: rest =>
        if first.all isDigitMark && rest.all isSixtieth then
          some ((inTen first).map fun n => inSixties (ofNat n :: rest))
        else none
      | [] => none
  | [] => none

/-- A whole number, if the text has the form of one. -/
def int? (s : Text) : Option (Except Problem Value) :=
  let (negative, rest) := signed s
  (whole? rest).map fun r => r.map fun (n : Nat) => .int (if negative then -n else n)

/-- The exponent behind the digits of a fraction: its sign has to be written. -/
def power? : Text → Option Int
  | [] => some 0
  | e :: '-' :: digits =>
    if (e = 'e' ∨ e = 'E') ∧ !digits.isEmpty ∧ digits.all isDigit then
      some (-(natValue digits : Nat))
    else none
  | e :: '+' :: digits =>
    if (e = 'e' ∨ e = 'E') ∧ !digits.isEmpty ∧ digits.all isDigit then some (natValue digits)
    else none
  | _ => none

/-- A fraction from its digits around the point. -/
def fractionOf (negative : Bool) (before after : Text) (power : Int) : Value :=
  let part := withoutMarks after
  .real (Binary64.ofDecimal negative (natValue (withoutMarks before ++ part)) (power - part.length))

/-- The sum of numbers each of which counts sixty times as much as the one before, the first of them
`weight` times. Every step is rounded, and no weight may be beyond the reach of fractions. -/
def sumInSixties (sum : Binary64) (weight : Nat) : List Binary64 → Except Problem Binary64
  | [] => .ok sum
  | x :: xs =>
    match Binary64.ofInt weight with
    | .infinite _ => .error (.tooLarge Binary64.tooLargeMessage)
    | w => sumInSixties (sum.add (x.mul w)) (weight * 60) xs

/-- The value of pieces between colons, the last of which has a fraction. -/
def realInSixties (negative : Bool) (pieces : List Text) (part : Text) : Except Problem Value :=
  let part := withoutMarks part
  let numbers := match pieces.reverse with
    | [] => []
    | last :: rest =>
      Binary64.ofDecimal false (natValue (last ++ part)) (-(part.length : Nat)) ::
        rest.map fun p => Binary64.ofDecimal false (natValue p) 0
  (sumInSixties (Binary64.zero false) 1 numbers).map fun x =>
    .real (if negative then x.negate else x)

/-- A fraction without its sign, if the text has the form of one. A point in front is a form of its
own, which takes no sign. -/
def fraction? (isSigned negative : Bool) (s : Text) : Option (Except Problem Value) :=
  let before := s.takeWhile (fun c => isDigitMark c || c == ':')
  match s.dropWhile (fun c => isDigitMark c || c == ':') with
  | '.' :: rest =>
    let after := rest.takeWhile isDigitMark
    let tail := rest.dropWhile isDigitMark
    match before with
    | [] =>
      if isSigned then none
      else if (after.head?.map isDigit).getD false then
        (power? tail).map fun power => .ok (fractionOf negative [] after power)
      else none
    | c :: _ =>
      if !c.isDigit then none
      else
        match splitOn ':' before with
        | [_] => (power? tail).map fun power => .ok (fractionOf negative before after power)
        | first :: rest =>
          if rest.all isSixtieth && tail.isEmpty then
            some (realInSixties negative (withoutMarks first :: rest) after)
          else none
        | [] => none
  | _ => none

/-- A number with a point, an infinity, or none, if the text has the form of one. -/
def real? (s : Text) : Option (Except Problem Value) :=
  let (negative, rest) := signed s
  if rest == ".inf" || rest == ".Inf" || rest == ".INF" then some (.ok (.real (.infinite negative)))
  else if s == ".nan" || s == ".NaN" || s == ".NAN" then some (.ok (.real .notANumber))
  else fraction? (s.length != rest.length) negative rest

/-! ## §3 Days and times -/

/-- A number of `least` to `most` digits, and what follows. -/
def digits? (least most : Nat) (s : Text) : Option (Nat × Text) :=
  let digits := (s.take most).takeWhile isDigit
  if digits.length < least then none else some (natValue digits, s.drop digits.length)

/-- What follows a character. -/
def behind? (c : Char) : Text → Option Text
  | [] => none
  | d :: s => if c = d then some s else none

/-- The distance of a clock from universal time in minutes, and its sign. -/
def zone? (s : Text) : Option (Option Int) :=
  match s.dropWhile (fun c => c == ' ' || c == '\t') with
  | [] => if s.isEmpty then some none else none
  | ['Z'] => some (some 0)
  | c :: rest =>
    if c = '-' ∨ c = '+' then do
      let (hours, rest) ← digits? 1 2 rest
      let minutes ← match rest with
        | [] => some 0
        | ':' :: rest =>
          match digits? 2 2 rest with
          | some (m, []) => some m
          | _ => none
        | _ => none
      let n : Int := (hours * 60 + minutes : Nat)
      return some (if c = '-' then -n else n)
    else none

/-- The parts of a second, as so many millionths. -/
def micros (part : Text) : Nat :=
  natValue (part.take 6 ++ List.replicate (6 - part.length) '0')

/-- A time and a zone behind a day. -/
def time? (s : Text) : Option (TimeOfDay × Option Int) := do
  let s ← match s with
    | 'T' :: s | 't' :: s => some s
    | c :: s =>
      if c = ' ' ∨ c = '\t' then some (s.dropWhile (fun c => c == ' ' || c == '\t')) else none
    | [] => none
  let (hour, s) ← digits? 1 2 s
  let (minute, s) ← digits? 2 2 (← behind? ':' s)
  let (second, s) ← digits? 2 2 (← behind? ':' s)
  let (part, s) : Text × Text := match s with
    | '.' :: s => (s.takeWhile isDigit, s.dropWhile isDigit)
    | s => ([], s)
  let zone ← zone? s
  return (⟨hour, minute, second, micros part⟩, zone)

/-- A day alone, whose numbers all have their digits. -/
def day? (s : Text) : Option Moment := do
  let (year, s) ← digits? 4 4 s
  let (month, s) ← digits? 2 2 (← behind? '-' s)
  let (day, s) ← digits? 2 2 (← behind? '-' s)
  if s.isEmpty then some { year, month, day } else none

/-- A day and a time. -/
def dayAndTime? (s : Text) : Option Moment := do
  let (year, s) ← digits? 4 4 s
  let (month, s) ← digits? 1 2 (← behind? '-' s)
  let (day, s) ← digits? 1 2 (← behind? '-' s)
  let (time, offset) ← time? s
  return { year, month, day, time := some time, offset }

/-- Whether a year has a day more. -/
def isLeap (year : Nat) : Bool := year % 4 = 0 && (year % 100 != 0 || year % 400 = 0)

/-- How many days a month has. -/
def daysIn (year month : Nat) : Nat :=
  if month = 2 then (if isLeap year then 29 else 28)
  else if month = 4 ∨ month = 6 ∨ month = 9 ∨ month = 11 then 30
  else 31

/-- What is wrong with the numbers of a moment. -/
def flaw? (m : Moment) : Option Text :=
  if m.offset.any (fun o => 1440 ≤ o.natAbs) then
    some ("offset must be a timedelta strictly between -timedelta(hours=24) and " ++
      "timedelta(hours=24), not datetime.timedelta(" ++ delta (m.offset.getD 0) ++ ").")
  else if m.year = 0 then some "year 0 is out of range"
  else if m.month = 0 ∨ 12 < m.month then some "month must be in 1..12"
  else if m.day = 0 ∨ daysIn m.year m.month < m.day then some "day is out of range for month"
  else
    match m.time with
    | none => none
    | some t =>
      if 23 < t.hour then some "hour must be in 0..23"
      else if 59 < t.minute then some "minute must be in 0..59"
      else if 59 < t.second then some "second must be in 0..59"
      else none
where
  /-- A number of minutes as days and seconds. -/
  delta (minutes : Int) : Text :=
    let days := minutes / 1440
    let seconds := minutes % 1440 * 60
    join ", " ((if days = 0 then [] else ["days=" ++ ofInt days]) ++
      (if seconds = 0 then [] else ["seconds=" ++ ofInt seconds]))

/-- A day, or a day and a time, if the text has the form of one. -/
def moment? (s : Text) : Option (Except Problem Value) :=
  ((day? s).orElse fun _ => dayAndTime? s).map fun m =>
    match flaw? m with
    | some words => .error (.noValue words)
    | none => .ok (.moment m)

/-! ## §4 Plain scalars -/

/-- What a plain scalar is. -/
inductive Plain where
  | value (v : Except Problem Value)
  /-- The key under which mappings are merged into the one around them. -/
  | merge
  /-- The key for the default value of a mapping. -/
  | default

/-- What a plain scalar is, by its form. -/
def Plain.ofText (s : Text) : Plain :=
  match truth? s, real? s, int? s, moment? s with
  | some b, _, _, _ => .value (.ok (.bool b))
  | none, some r, _, _ => .value r
  | none, none, some r, _ => .value r
  | none, none, none, some r =>
    .value r
  | none, none, none, none =>
    if s == ['<', '<'] then .merge
    else if s == ['='] then .default
    else if isNothing s then .value (.ok .null)
    else .value (.ok (.text s))

end EmbeddedGo.Yaml
