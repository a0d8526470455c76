/-
EmbeddedGo.Go.Signature — the function declarations that bindings can express.

    declaration := "func" word "(" [groups] ")" [result] ["{" anything]
    groups      := group { "," group } [","]
    group       := word [word]
    result      := word | "(" word ")"

If no group has two words, every group is a type and the parameters are numbered. Otherwise a group
of two is a name and its type, a group of one is a name whose type is that of the next group of two,
and the last group has two.

  §1 functions, and why a declaration is refused
  §2 reading the parts
  §3 `Signature.parse`
-/
import EmbeddedGo.Go.Token

namespace EmbeddedGo.Go

/-! ## §1 Functions -/

/-- A parameter and the name of its type. -/
structure Parameter where
  name : Text
  type : Text
  deriving DecidableEq, Inhabited

/-- A function as a caller sees it. -/
structure Function where
  name : Text
  params : List Parameter := []
  result : Option Text := none
  deriving DecidableEq, Inhabited

namespace Signature

/-- Why a declaration is refused. The token is the one that was met, none at the end. -/
inductive Refusal where
  | expected (what : Text) (met : Option Token)
  | unexpectedInParameters (met : Option Token)
  | unexpectedAfter (met : Token)
  | missingType (names : List Text)
  deriving DecidableEq

/-- A token as it is quoted in a message. -/
def shown : Option Token → Text
  | none => "end of input"
  | some t => t.text

/-- The words of a refusal. -/
def Refusal.message : Refusal → Text
  | .expected what met => "expected " ++ what ++ ", got " ++ shown met
  | .unexpectedInParameters met => "unexpected " ++ shown met ++ " in parameters"
  | .unexpectedAfter met => "unexpected " ++ met.text ++ " after signature"
  | .missingType names => "missing type for " ++ Text.join ", " names

/-! ## §2 Parts -/

/-- A word, and what follows it. -/
def word : List Token → Except Refusal (Text × List Token)
  | .word name :: rest => .ok (name, rest)
  | rest => .error (.expected "ident" rest.head?)

/-- What follows one particular token. -/
def after (wanted : Token) : List Token → Except Refusal (List Token)
  | [] => .error (.expected wanted.text none)
  | t :: rest => if t = wanted then .ok rest else .error (.expected wanted.text (some t))

/-- One or two words between commas. -/
inductive Group where
  | one (word : Text)
  | two (name type : Text)
  deriving DecidableEq

/-- A group in front of those read behind it. -/
def consGroup (g : Group) : Except Refusal (List Group × List Token) →
    Except Refusal (List Group × List Token)
  | .ok (gs, rest) => .ok (g :: gs, rest)
  | .error e => .error e

/-- The groups up to the closing bracket, which is left. -/
def groups : List Token → Except Refusal (List Group × List Token)
  | .mark ')' :: rest => .ok ([], .mark ')' :: rest)
  | .word a :: .word b :: .mark ',' :: rest => consGroup (.two a b) (groups rest)
  | .word a :: .word b :: .mark ')' :: rest => .ok ([.two a b], .mark ')' :: rest)
  | .word _ :: .word _ :: rest => .error (.unexpectedInParameters rest.head?)
  | .word a :: .mark ',' :: rest => consGroup (.one a) (groups rest)
  | .word a :: .mark ')' :: rest => .ok ([.one a], .mark ')' :: rest)
  | .word _ :: rest => .error (.unexpectedInParameters rest.head?)
  | rest => .error (.expected "ident" rest.head?)

/-- The words of the groups, if every group has one. -/
def allSingle? : List Group → Option (List Text)
  | [] => some []
  | .one a :: gs => (allSingle? gs).map (a :: ·)
  | .two _ _ :: _ => none

/-- The parameters that types alone declare, from number `i` on. -/
def numbered : (i : Nat) → List Text → List Parameter
  | _, [] => []
  | i, type :: rest => ⟨"arg" ++ Text.ofNat i, type⟩ :: numbered (i + 1) rest

/-- The parameters of groups with names, when `waiting` names have no type yet. -/
def named : (waiting : List Text) → List Group → Except Refusal (List Parameter)
  | [], [] => .ok []
  | waiting, [] => .error (.missingType waiting)
  | waiting, .one a :: gs => named (waiting ++ [a]) gs
  | waiting, .two a type :: gs =>
    match named [] gs with
    | .ok ps => .ok (waiting.map (⟨·, type⟩) ++ ⟨a, type⟩ :: ps)
    | .error e => .error e

/-- The parameters that the groups declare. -/
def parameters (gs : List Group) : Except Refusal (List Parameter) :=
  match allSingle? gs with
  | some types => .ok (numbered 0 types)
  | none => named [] gs

/-- The result type, if one follows, and what comes behind it. -/
def result : List Token → Except Refusal (Option Text × List Token)
  | .word type :: rest => .ok (some type, rest)
  | .mark '(' :: rest => do
    let (type, rest) ← word rest
    return (some type, ← after (.mark ')') rest)
  | rest => .ok (none, rest)

/-! ## §3 Declarations -/

/-- The function that the tokens declare. -/
def ofTokens (tokens : List Token) : Except Refusal Function := do
  let rest ← after (.word "func") tokens
  let (name, rest) ← word rest
  let rest ← after (.mark '(') rest
  let (gs, rest) ← groups rest
  let params ← parameters gs
  let rest ← after (.mark ')') rest
  let (type, rest) ← result rest
  match rest with
  | [] | .mark '{' :: _ => return { name, params, result := type }
  | t :: _ => throw (.unexpectedAfter t)

/-- The function that a text declares. -/
def parse (s : Text) : Except Refusal Function := ofTokens (Token.ofText s)

end Signature
end EmbeddedGo.Go
