/-
EmbeddedGo.Data.Value — the values that a configuration or a request can hold.

  §1 values, with whole numbers apart from binary fractions
  §2 mappings: a later pair replaces the value of an earlier one with an equal key, in its place
  §3 `Value.shown`: a value as error messages show it
  §4 `Value.anyPart`: whether a value holds something
-/
import EmbeddedGo.Data.Decimal
import EmbeddedGo.Text.Quoted

namespace EmbeddedGo

/-! ## §1 Values -/

/-- A time of day, with microseconds. -/
structure TimeOfDay where
  hour : Nat
  minute : Nat
  second : Nat
  micro : Nat
  deriving DecidableEq, Inhabited

/-- A day of the calendar, a time on it, and how many minutes its clock is ahead of universal
time. -/
structure Moment where
  year : Nat
  month : Nat
  day : Nat
  time : Option TimeOfDay := none
  offset : Option Int := none
  deriving DecidableEq, Inhabited

/-- A value of a document. -/
inductive Value where
  | null
  | bool (b : Bool)
  | int (i : Int)
  | real (x : Binary64)
  | text (s : Text)
  /-- A string that is no text, since half of a surrogate pair stands alone in it: its code points. -/
  | unpaired (points : List Nat)
  | moment (m : Moment)
  | list (items : List Value)
  | map (entries : List (Value × Value))
  deriving Inhabited

namespace Value

/-- Whether a number is one half of a surrogate pair. -/
def isSurrogate (n : Nat) : Bool := 0xD800 ≤ n && n ≤ 0xDFFF

/-- The string of some code points: a text, unless one of them stands for no character. -/
def ofPoints (points : List Nat) : Value :=
  if points.any isSurrogate then unpaired points else text (points.map Char.ofNat)

/-! ## §2 Mappings -/

/-- A value as a number: truth values count as one and zero. -/
def number? : Value → Option Binary64
  | bool b => some (Binary64.ofInt (if b then 1 else 0))
  | int i => some (Binary64.ofInt i)
  | real x => some x
  | _ => none

/-- Whether two values are the same key. -/
def sameKey : Value → Value → Bool
  | null, null => true
  | text a, text b => a == b
  | unpaired a, unpaired b => a == b
  | moment a, moment b => a == b
  | int a, int b => a == b
  | a, b =>
    match a.number?, b.number? with
    | some x, some y => x == y && x != .notANumber
    | _, _ => false

/-- The pairs with one more. -/
def insert (key value : Value) : List (Value × Value) → List (Value × Value)
  | [] => [(key, value)]
  | (k, v) :: rest => if sameKey k key then (k, value) :: rest else (k, v) :: insert key value rest

/-- The value under a text. -/
def lookup? (name : Text) : List (Value × Value) → Option Value
  | [] => none
  | (text k, v) :: rest => if k = name then some v else lookup? name rest
  | _ :: rest => lookup? name rest

/-! ## §3 Showing -/

/-- A clock's distance from universal time. -/
def offsetShown (minutes : Int) : Text :=
  if minutes = 0 then "datetime.timezone.utc"
  else
    let days := minutes / 1440
    let seconds := minutes % 1440 * 60
    let parts : List Text :=
      (if days = 0 then [] else ["days=" ++ Text.ofInt days]) ++
        (if seconds = 0 then [] else ["seconds=" ++ Text.ofInt seconds])
    "datetime.timezone(datetime.timedelta(" ++ Text.join ", " parts ++ "))"

/-- A moment by its numbers; seconds are left out if nothing but zeros would follow the minutes. -/
def momentShown (m : Moment) : Text :=
  let date := [m.year, m.month, m.day].map Text.ofNat
  match m.time with
  | none => "datetime.date(" ++ Text.join ", " date ++ ")"
  | some t =>
    let fine :=
      if t.micro = 0 then (if t.second = 0 then [] else [t.second]) else [t.second, t.micro]
    let zone := match m.offset with
      | none => []
      | some minutes => ["tzinfo=" ++ offsetShown minutes]
    "datetime.datetime(" ++
      Text.join ", " (date ++ ([t.hour, t.minute] ++ fine).map Text.ofNat ++ zone) ++ ")"

/-- Code points between quotes: each half of a surrogate pair by its number. -/
def pointsShown (points : List Nat) : Text :=
  let quote := Text.quoteFor ((points.filter (!isSurrogate ·)).map Char.ofNat)
  let shown := points.flatMap fun n =>
    if isSurrogate n then '\\' :: 'u' :: Text.hexPadded 4 n
    else Text.quotedChar quote (Char.ofNat n)
  quote :: shown ++ [quote]

mutual

/-- A value as messages show it. -/
def shown : Value → Text
  | null => "None"
  | bool b => if b then "True" else "False"
  | int i => Text.ofInt i
  | real x => x.text
  | text s => Text.quoted s
  | unpaired points => pointsShown points
  | moment m => momentShown m
  | list items => '[' :: Text.join ", " (shownItems items) ++ [']']
  | map entries => '\x7b' :: Text.join ", " (shownEntries entries) ++ ['\x7d']

/-- The items of a list as messages show them. -/
def shownItems : List Value → List Text
  | [] => []
  | v :: vs => shown v :: shownItems vs

/-- The pairs of a mapping as messages show them. -/
def shownEntries : List (Value × Value) → List Text
  | [] => []
  | (k, v) :: rest => (shown k ++ ": " ++ shown v) :: shownEntries rest

end

/-- A text as it is, anything else as messages show it. -/
def asText : Value → Text
  | text s => s
  | v => v.shown

/-- The name of the kind of a value in messages. -/
def kindName : Value → Text
  | null => "NoneType"
  | bool _ => "bool"
  | int _ => "int"
  | real _ => "float"
  | text _ | unpaired _ => "str"
  | moment m => if m.time.isSome then "datetime" else "date"
  | list _ => "list"
  | map _ => "dict"

/-- Whether a value is a string, be it a text or not. -/
def isString : Value → Bool
  | text _ | unpaired _ => true
  | _ => false

/-- Whether a value says something: not nothing, no zero, and not empty. -/
def isTruthy : Value → Bool
  | null => false
  | bool b => b
  | int i => i != 0
  | real (.finite _ m _) => m != 0
  | real _ | unpaired _ | moment _ => true
  | text s => !s.isEmpty
  | list items => !items.isEmpty
  | map entries => !entries.isEmpty

/-! ## §4 Searching -/

mutual

/-- Whether some part of a value satisfies a condition: the value itself, or a part of what it
holds. -/
def anyPart (p : Value → Bool) : Value → Bool
  | list items => p (list items) || anyItem p items
  | map entries => p (map entries) || anyEntry p entries
  | v => p v

/-- Whether some part of one of the items satisfies a condition. -/
def anyItem (p : Value → Bool) : List Value → Bool
  | [] => false
  | v :: vs => anyPart p v || anyItem p vs

/-- Whether some part of a key or of a value satisfies a condition. -/
def anyEntry (p : Value → Bool) : List (Value × Value) → Bool
  | [] => false
  | (k, v) :: rest => anyPart p k || anyPart p v || anyEntry p rest

end

end Value
end EmbeddedGo
