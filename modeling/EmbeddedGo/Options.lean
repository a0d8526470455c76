/-
EmbeddedGo.Options — what can be configured, and how the values of a document become options.

Values are taken as generously as their meaning is plain: a whole number names an optimization
level, several words and the numbers one and zero are truth values, and a count of days may be
written as a text or a fraction without a fractional part. Names that mean nothing here are ignored.

  §1 options
  §2 issues: what is wrong with a value, at most one for each name
  §3 whole numbers written as texts
  §4 one value
  §5 `Options.ofEntries`
-/
import EmbeddedGo.Data.Json.Reader
import EmbeddedGo.Optimization
import EmbeddedGo.Text.Numeral
import EmbeddedGo.Text.Utf8

namespace EmbeddedGo

/-! ## §1 Options -/

/-- The configuration of a build. -/
structure Options where
  /-- The compiler: a path, or a name to look up. -/
  tinygoPath : Text := "tinygo"
  /-- The directory of the build slots, seen from the project. -/
  buildDirectory : Text := ".use-golang"
  optimization : Optimization := .smallest
  /-- Whether a declaration file is written for each module. -/
  generateTypes : Bool := false
  /-- Whether the marked functions are the ones a module exports. -/
  validateExports : Bool := false
  /-- The age in days from which slots are cleaned up. -/
  cleanupDays : Option Nat := none
  /-- The beginning of the URLs of bundled assets, which ends in a slash. -/
  base : Text := "/"
  deriving DecidableEq, Inhabited

namespace Options

/-! ## §2 Issues -/

/-- What is wrong with a value. -/
inductive Flaw where
  | noString
  /-- A string that is no text. -/
  | noUnicode
  | noLevel
  /-- A number that would be a text of too many digits. -/
  | levelTooLong
  | noBoolText
  | noBool
  | noIntText
  | intTooLong
  | noInt
  | fractional
  | notFinite
  | negative
  deriving DecidableEq

/-- The name of a flaw. -/
def Flaw.name : Flaw → Text
  | noString => "string_type"
  | noUnicode => "string_unicode"
  | noLevel => "literal_error"
  | levelTooLong => "value_error"
  | noBoolText => "bool_parsing"
  | noBool => "bool_type"
  | noIntText => "int_parsing"
  | intTooLong => "int_parsing_size"
  | noInt => "int_type"
  | fractional => "int_from_float"
  | notFinite => "finite_number"
  | negative => "greater_than_equal"

/-- The words for a flaw. -/
def Flaw.words : Flaw → Text
  | noString => "Input should be a valid string"
  | noUnicode =>
    "Input should be a valid string, unable to parse raw data as a unicode string"
  | noLevel => "Input should be '0', '1', '2', 's' or 'z'"
  | levelTooLong => "Value error, " ++ Json.unwritableMessage
  | noBoolText => "Input should be a valid boolean, unable to interpret input"
  | noBool => "Input should be a valid boolean"
  | noIntText => "Input should be a valid integer, unable to parse string as an integer"
  | intTooLong =>
    "Unable to parse input string as an integer, exceeded maximum size"
  | noInt => "Input should be a valid integer"
  | fractional => "Input should be a valid integer, got a number with a fractional part"
  | notFinite => "Input should be a finite number"
  | negative => "Input should be greater than or equal to 0"

/-- A value that does not fit its name. -/
structure Issue where
  field : Text
  flaw : Flaw
  value : Value

/-- How many bytes of a value a message shows whole. -/
def shownLimit : Nat := 50

/-- The characters of a text whose bytes fit into a number of bytes. -/
def fitting : (bytes : Nat) → Text → Text
  | _, [] => []
  | bytes, c :: s =>
    if c.utf8Size ≤ bytes then c :: fitting (bytes - c.utf8Size) s else []

/-- A text with its middle left out if it is long. -/
def shortened (s : Text) : Text :=
  if (Utf8.encode s).length ≤ shownLimit then s
  else fitting 25 s ++ "..." ++ (fitting 24 s.reverse).reverse

/-- Whether a value is a number that would be a text of too many digits. -/
def isUnwritable : Value → Bool
  | .int i => Json.digitsExceed i
  | _ => false

/-- A value as a message shows it; one with a number of too many digits is not shown. -/
def valueShown (v : Value) : Text :=
  if v.anyPart isUnwritable then "<unprintable " ++ v.kindName ++ " object>"
  else shortened v.shown

/-- The lines of an issue. -/
def Issue.message (i : Issue) : Text :=
  i.field ++ "\n  " ++ i.flaw.words ++ " [type=" ++ i.flaw.name ++ ", input_value=" ++
    valueShown i.value ++ ", input_type=" ++ i.value.kindName ++ "]\n" ++
    "    For further information visit https://errors.pydantic.dev/2.14/v/" ++ i.flaw.name

/-- The words for all issues of a document. -/
def issuesMessage (issues : List Issue) : Text :=
  Text.ofNat issues.length ++ " validation error" ++
    (if issues.length = 1 then ([] : Text) else ['s']) ++ " for PluginOptions\n" ++
    Text.join "\n" (issues.map Issue.message)

/-! ## §3 Whole numbers as texts -/

/-- What stands behind the zeros that a number begins with, the last of which is `last`. Underscores
may stand between them, and a sign behind them; in front of a point the last one stays. -/
def behindZeros (last : Char) : Text → Option Text
  | [] => some [last]
  | c :: s =>
    if c = '0' ∨ c = '_' then behindZeros c s
    else if c = '-' ∨ c.isDigit then some (c :: s)
    else if c = '.' then some (last :: c :: s)
    else none

/-- A number without a plus sign and without the zeros it begins with. -/
def withoutZeros (s : Text) : Option Text :=
  let unsigned := match s with
    | '+' :: '-' :: _ => []
    | '+' :: rest => rest
    | rest => rest
  match unsigned with
  | '0' :: rest => behindZeros '0' rest
  | c :: rest => if c = '-' ∨ c.isDigit then some (c :: rest) else none
  | [] => none

/-- A number without a point and the zeros behind it. -/
def withoutZeroPart (s : Text) : Text :=
  match s.dropWhile (· ≠ '.') with
  | _ :: c :: zeros =>
    if (c :: zeros).all (· == '0') then s.takeWhile (· ≠ '.') else s
  | _ => s

/-- A number without its underscores, if these stand by themselves between other characters. -/
def withoutMarks (s : Text) : Text :=
  if (Text.splitOn '_' s).all (!·.isEmpty) then s.filter (· ≠ '_') else s

/-- A whole number in its plainest form: digits that begin with no zero, or one zero, behind a minus
sign or nothing. Of a number with too many digits the end is not looked at. -/
def plainInt (s : Text) : Except Flaw Int :=
  let (isNegative, digits) : Bool × Text := match s with
    | '-' :: rest => (true, rest)
    | rest => (false, rest)
  let run := digits.takeWhile Char.isDigit
  match digits with
  | ['0'] => .ok 0
  | c :: _ =>
    if c = '0' ∨ !c.isDigit then .error .noIntText
    else if Json.digitLimit < s.length - (digits.length - run.length) then .error .intTooLong
    else if run.length < digits.length then .error .noIntText
    else
      let n : Int := Text.natValue digits
      .ok (if isNegative then -n else n)
  | [] => .error .noIntText

/-- A whole number written as a text. -/
def intOfText (s : Text) : Except Flaw Int :=
  match withoutZeros (Numeral.trimmed s) with
  | some s => plainInt (withoutMarks (withoutZeroPart s))
  | none => .error .noIntText

/-! ## §4 One value -/

/-- A string. -/
def readString : Value → Except (Flaw × Value) Text
  | .text s => .ok s
  | .unpaired units => .error (.noUnicode, .unpaired units)
  | v => .error (.noString, v)

/-- A level of optimization by its name. -/
def readLevelName (v : Value) : Except (Flaw × Value) Optimization :=
  match v with
  | .text s =>
    match Optimization.ofText? s with
    | some level => .ok level
    | none => .error (.noLevel, v)
  | .unpaired _ => .error (.noUnicode, v)
  | v => .error (.noLevel, v)

/-- A level of optimization, by its name or by its number. -/
def readLevel (v : Value) : Except (Flaw × Value) Optimization :=
  match v with
  | .int i =>
    if isUnwritable v then .error (.levelTooLong, v) else readLevelName (.text (Text.ofInt i))
  | v => readLevelName v

/-- The words that are true, and those that are false. -/
def trueWords : List Text := ["1", "on", "t", "true", "y", "yes"]

/-- The words that are false. -/
def falseWords : List Text := ["0", "off", "f", "false", "n", "no"]

/-- Beyond this number a machine word of sixty-four bits ends. -/
def wordEnd : Int := 9223372036854775808

/-- Whether a whole number fits into a machine word. -/
def fitsWord (i : Int) : Bool := -wordEnd ≤ i && i < wordEnd

/-- The whole number that a number is. -/
def wholeOf (v : Value) : Except Flaw Int :=
  match v with
  | .int i => .ok i
  | .real x =>
    if !x.isFinite then .error .notFinite
    else
      match x.toInt? with
      | none => .error .fractional
      | some i => if -wordEnd < i ∧ i < wordEnd then .ok i else .error .intTooLong
  | _ => .error .noInt

/-- A truth value. -/
def readBool (v : Value) : Except (Flaw × Value) Bool :=
  match v with
  | .bool b => .ok b
  | .text s =>
    let word := Text.lowerAscii s
    if trueWords.contains word then .ok true
    else if falseWords.contains word then .ok false
    else .error (.noBoolText, v)
  | .unpaired _ => .error (.noUnicode, v)
  | v =>
    match wholeOf v with
    | .ok i =>
      if i = 0 then .ok false
      else if i = 1 then .ok true
      else if fitsWord i then .error (.noBoolText, v)
      else .error (.noBool, v)
    | .error _ => .error (.noBool, v)

/-- A whole number. -/
def readInt (v : Value) : Except (Flaw × Value) Int :=
  let r : Except Flaw Int := match v with
    | .bool b => .ok (if b then 1 else 0)
    | .text s => intOfText s
    | .unpaired _ => .error .noUnicode
    | v => wholeOf v
  r.mapError (·, v)

/-- A count of days, or none. -/
def readDays (v : Value) : Except (Flaw × Value) (Option Nat) :=
  match v with
  | .null => .ok none
  | v =>
    match readInt v with
    | .error e => .error e
    | .ok i => if i < 0 then .error (.negative, v) else .ok (some i.toNat)

/-- A base with a slash at its end. -/
def withSlash (s : Text) : Text := if Text.endsWith s "/" then s else s ++ "/"

/-! ## §5 All values -/

/-- The value under a name, or the default if the name does not occur, and the issue with it. -/
def field {α : Type} (entries : List (Value × Value)) (name : Text) (default : α)
    (read : Value → Except (Flaw × Value) α) : α × List Issue :=
  match Value.lookup? name entries with
  | none => (default, [])
  | some v =>
    match read v with
    | .ok a => (a, [])
    | .error (flaw, value) => (default, [⟨name, flaw, value⟩])

/-- The options that the entries of a document give, or the issues with them in the order of the
names. -/
def ofEntries (entries : List (Value × Value)) : Except (List Issue) Options :=
  let d : Options := {}
  let (tinygoPath, i1) := field entries "tinygo_path" d.tinygoPath readString
  let (buildDirectory, i2) := field entries "build_dir" d.buildDirectory readString
  let (optimization, i3) := field entries "optimization" d.optimization readLevel
  let (generateTypes, i4) := field entries "generate_types" d.generateTypes readBool
  let (validateExports, i5) := field entries "validate_exports" d.validateExports readBool
  let (cleanupDays, i6) := field entries "cleanup_days" d.cleanupDays readDays
  let (base, i7) := field entries "base" d.base readString
  match i1 ++ i2 ++ i3 ++ i4 ++ i5 ++ i6 ++ i7 with
  | [] =>
    .ok { tinygoPath, buildDirectory, optimization, generateTypes, validateExports, cleanupDays,
          base := withSlash base }
  | issues => .error issues

end Options
end EmbeddedGo
