/-
EmbeddedGo.Console.Markup — texts with tags for styles, as a terminal shows them.

A tag stands between square brackets and begins with a small letter, `#`, `/` or `@`. One that begins
with a slash closes the last open tag, or the last one with the same style, and it is an error if
there is none. What follows an equals sign inside a tag is its parameter; that of a tag with an `@`
is a call, which has to be in order when the tag is closed. A backslash in front of a tag makes a
text of it, and two of them stand for one. Between tags, names of pictures become pictures.

  §1 tags
  §2 `escape`: a text in which nothing is a tag
  §3 calls
  §4 open tags
  §5 `render`: what is left without the tags
-/
import EmbeddedGo.Console.Emoji
import EmbeddedGo.Console.Literal
import EmbeddedGo.Console.Style

namespace EmbeddedGo.Markup

open Text

/-! ## §1 Tags -/

/-- A tag and how many backslashes stand in front of it. -/
structure Tag where
  slashes : Nat
  inside : Text
  deriving DecidableEq

/-- Whether a tag can begin with a character. -/
def isTagStart (c : Char) : Bool :=
  ('a' ≤ c && c ≤ 'z') || c == '#' || c == '/' || c == '@'

/-- The inside of a tag and what follows it. -/
def bracketed? : Text → Option (Text × Text)
  | '[' :: c :: s =>
    if isTagStart c then
      match s.dropWhile (fun d => d ≠ '[' ∧ d ≠ ']') with
      | ']' :: rest => some (c :: s.takeWhile (fun d => d ≠ '[' ∧ d ≠ ']'), rest)
      | _ => none
    else none
  | _ => none

/-- A tag with its backslashes at the head of a text, and what follows it. -/
def tag? (s : Text) : Option (Tag × Text) :=
  (bracketed? (s.dropWhile (· = '\\'))).map fun r =>
    (⟨(s.takeWhile (· = '\\')).length, r.1⟩, r.2)

/-- A tag as it is written, without its backslashes. -/
def Tag.text (t : Tag) : Text := '[' :: t.inside ++ [']']

/-- What stands in front of the equals sign in a tag. -/
def Tag.definition (t : Tag) : Text := t.inside.takeWhile (· ≠ '=')

/-- What stands behind the equals sign in a tag; nothing if there is none. -/
def Tag.parameter (t : Tag) : Text := (t.inside.dropWhile (· ≠ '=')).drop 1

/-- So many backslashes. -/
def backslashes (n : Nat) : Text := List.replicate n '\\'

/-! ## §2 Escaping -/

/-- One piece of a text with a backslash more in front of what would be a tag. -/
def escapePiece : Piece Tag → Text
  | .plain c => [c]
  | .found t => backslashes (2 * t.slashes + 1) ++ t.text

/-- A text with a second backslash at its end if it ends in one. -/
def doubleLast (s : Text) : Text :=
  match s.reverse with
  | '\\' :: '\\' :: _ => s
  | '\\' :: _ => s ++ ['\\']
  | _ => s

/-- The text in which nothing is a tag. -/
def escape (s : Text) : Text := doubleLast ((scan tag? s).flatMap escapePiece)

/-! ## §3 Calls -/

/-- The values that a call hands over: what stands between brackets behind a name, or everything if
there is no name with brackets. A name alone hands over nothing. -/
def handedOver (parameter : Text) : Text :=
  let call := trim parameter
  match call.dropWhile fun c => isWord c || c == '.' with
  | [] => "()"
  | '(' :: inside => if inside.getLast? = some ')' ∧ '\n' ∉ inside then '(' :: inside else call
  | _ => call

/-- Whether a call is in order. -/
def isCall (parameter : Text) : Bool :=
  parameter.isEmpty || Literal.isLiteral (handedOver parameter)

/-! ## §4 Open tags -/

/-- Why a markup cannot be shown. -/
inductive Fault where
  /-- A tag closes what is not open, or a call is not in order. -/
  | disorder
  /-- A part of a colour is no number. -/
  | noNumber
  deriving DecidableEq

/-- The words for a fault. -/
def Fault.message : Fault → Text
  | disorder => "a tag closes what is not open, or its call is not in order"
  | noNumber => "a part of a colour is no number"

/-- An open tag: its style in normal form, and its parameter. -/
structure OpenTag where
  style : Text
  parameter : Text
  deriving DecidableEq

/-- The normal form of a definition. -/
def normal (definition : Text) : Except Fault Text :=
  match Console.Style.normal definition with
  | .ok s => .ok s
  | .error _ => .error .noNumber

/-- Takes away the last open tag of a style. -/
def take? (style : Text) : List OpenTag → Option (OpenTag × List OpenTag)
  | [] => none
  | t :: rest =>
    if t.style = style then some (t, rest) else (take? style rest).map fun r => (r.1, t :: r.2)

/-- Whether a tag can be closed. -/
def OpenTag.isInOrder (t : OpenTag) : Bool := !startsWith t.style "@" || isCall t.parameter

/-- The tags that stay open when a style is closed; without a name the last one is. -/
def close (name : Text) (openTags : List OpenTag) : Except Fault (List OpenTag) := do
  let style ← normal name
  let found := if name.isEmpty then openTags.head?.map (·, openTags.drop 1) else take? style openTags
  match found with
  | some (t, rest) => if t.isInOrder then return rest else throw .disorder
  | none => throw .disorder

/-- The tags that are open behind a tag. -/
def follow (openTags : List OpenTag) (t : Tag) : Except Fault (List OpenTag) :=
  match t.definition with
  | '/' :: name => close (trim name) openTags
  | definition => do return ⟨← normal definition, t.parameter⟩ :: openTags

/-! ## §5 Rendering -/

/-- A part of a markup: a text or a tag. -/
inductive Part where
  | text (s : Text)
  | tag (t : Tag)
  deriving DecidableEq

/-- A text as a part, if it is none that is empty. -/
def textPart (s : Text) : List Part := if s.isEmpty then [] else [.text s]

/-- The parts that a tag with its backslashes gives. -/
def tagParts (t : Tag) : List Part :=
  textPart (backslashes (t.slashes / 2)) ++
    [if t.slashes % 2 = 1 then .text t.text else .tag t]

/-- The parts of a scanned markup behind the characters of a text, the last of which comes first. -/
def partsBehind : (done : Text) → List (Piece Tag) → List Part
  | done, [] => textPart done.reverse
  | done, .plain c :: rest => partsBehind (c :: done) rest
  | done, .found t :: rest => textPart done.reverse ++ tagParts t ++ partsBehind [] rest

/-- The parts of a markup. -/
def parts (markup : Text) : List Part := partsBehind [] (scan tag? markup)

/-- A text without the backslashes in front of brackets that begin no tag. -/
def unescape : Text → Text
  | '\\' :: '[' :: s => '[' :: unescape s
  | c :: s => c :: unescape s
  | [] => []

/-- What is left of parts, while tags are open. -/
def renderParts : (openTags : List OpenTag) → List Part → Except Fault Text
  | _, [] => .ok []
  | openTags, .text s :: rest => do
    return Emoji.replace (unescape s) ++ (← renderParts openTags rest)
  | openTags, .tag t :: rest => do renderParts (← follow openTags t) rest

/-- Whether the style of a tag can be shown, of which its parameter is a part too. -/
def Part.isShown : Part → Bool
  | .text _ => true
  | .tag t =>
    match Console.Style.read (t.definition ++ " " ++ t.parameter) with
    | .error .noNumber => false
    | _ => true

/-- The text without its tags. -/
def render (markup : Text) : Except Fault Text := do
  let shown ← renderParts [] (parts markup)
  if (parts markup).all Part.isShown then return shown else throw .noNumber

end EmbeddedGo.Markup
