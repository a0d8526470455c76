/-
EmbeddedGo.Command.Arguments — words of a command line as options and arguments.

An option is one letter behind a hyphen, or a name behind two. Its value follows as the next word,
behind an equals sign, or directly behind the letter. Letters can share a hyphen. Two hyphens alone
end the options.

  §1 what a command line can hold
  §2 reading it
-/
import EmbeddedGo.Text.Basic

namespace EmbeddedGo.Command

/-! ## §1 Descriptions -/

/-- An option: its name, its letter, and whether a value belongs to it. -/
structure OptionSpec where
  name : Text
  letter : Option Char := none
  takesValue : Bool := true

/-- What a command line holds: the options in order with their values, and the arguments. -/
structure Arguments where
  options : List (Text × Text) := []
  words : List Text := []
  deriving DecidableEq

namespace Arguments

/-- The value of an option; of several the last counts. -/
def value? (a : Arguments) (name : Text) : Option Text := a.options.reverse.lookup name

/-- Whether an option is given. -/
def has (a : Arguments) (name : Text) : Bool := (a.value? name).isSome

/-! ## §2 Reading -/

/-- The arguments with an option more. -/
def addOption (a : Arguments) (name value : Text) : Arguments :=
  { a with options := a.options ++ [(name, value)] }

/-- Reads letters that share a hyphen: the options so far, and the words that are left. -/
def letters (specs : List OptionSpec) :
    Text → Arguments → List Text → Option (Arguments × List Text)
  | [], a, rest => some (a, rest)
  | c :: cs, a, rest => do
    let spec ← specs.find? (·.letter == some c)
    if spec.takesValue then
      match cs, rest with
      | [], [] => none
      | [], value :: rest => some (a.addOption spec.name value, rest)
      | value, rest => some (a.addOption spec.name value, rest)
    else letters specs cs (a.addOption spec.name []) rest

/-- Reads a name behind two hyphens, and the value behind its equals sign or in the next word. -/
def named (specs : List OptionSpec) (word : Text) (a : Arguments) (rest : List Text) :
    Option (Arguments × List Text) := do
  let spec ← specs.find? (·.name == word.takeWhile (· ≠ '='))
  match spec.takesValue, word.dropWhile (· ≠ '='), rest with
  | true, _ :: value, rest => some (a.addOption spec.name value, rest)
  | true, [], value :: rest => some (a.addOption spec.name value, rest)
  | false, [], rest => some (a.addOption spec.name [], rest)
  | _, _, _ => none

/-- Reads words, at most `fuel` of them. Where options may not follow arguments, everything behind
the first argument is one. -/
def readFrom (specs : List OptionSpec) (interspersed : Bool) :
    (fuel : Nat) → Arguments → List Text → Option Arguments
  | 0, a, _ => some a
  | _ + 1, a, [] => some a
  | fuel + 1, a, word :: rest =>
    match word with
    | ['-', '-'] => some { a with words := a.words ++ rest }
    | '-' :: '-' :: name => do
      let (a, rest) ← named specs name a rest
      readFrom specs interspersed fuel a rest
    | '-' :: c :: cs => do
      let (a, rest) ← letters specs (c :: cs) a rest
      readFrom specs interspersed fuel a rest
    | _ =>
      if interspersed then
        readFrom specs interspersed fuel { a with words := a.words ++ [word] } rest
      else some { a with words := a.words ++ word :: rest }

/-- The options and arguments of a command line, if it fits the description. -/
def read (specs : List OptionSpec) (interspersed : Bool) (words : List Text) : Option Arguments :=
  readFrom specs interspersed (words.length + 1) {} words

end Arguments
end EmbeddedGo.Command
