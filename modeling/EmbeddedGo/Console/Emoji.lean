/-
EmbeddedGo.Console.Emoji — pictures that are written by their names.

A name stands between two colons and holds no blank. An ending asks for the plain form of the
picture or for the one in colour. What names no picture stays as it is, with its colons.

  §1 the table
  §2 codes
  §3 `replace`
-/
import EmbeddedGo.Console.Emoji.Names
import EmbeddedGo.Text.Case
import EmbeddedGo.Text.Scan

namespace EmbeddedGo.Emoji

open Text

/-! ## §1 The table -/

/-- The characters of a picture that the table writes by their numbers. -/
def characters (points : Text) : Text :=
  (splitOn '+' points).filterMap fun digits => (natInBase? 16 digits).map Char.ofNat

/-- Names and pictures from the words of the table. -/
def pairs : List Text → List (Text × Text)
  | name :: points :: rest => (name, characters points) :: pairs rest
  | _ => []

/-- All names with their pictures. -/
def table : List (Text × Text) :=
  [names1, names2, names3, names4].flatMap fun block => pairs (fields block.toList)

/-! ## §2 Codes -/

/-- What stands between two colons at the head of a text, and what follows. -/
def code? : Text → Option (Text × Text)
  | ':' :: s =>
    match upTo? ':' s with
    | some (code, rest) => if code.any isBlank then none else some (code, rest)
    | none => none
  | _ => none

/-- The endings that ask for a form of a picture, each with the mark of the form. -/
def forms : List (Text × Text) := [("-emoji", ['\uFE0F']), ("-text", ['\uFE0E'])]

/-- A name and the mark of the form that a code asks for. -/
def nameAndForm (code : Text) : Text × Text :=
  match forms.find? fun form => endsWith code form.1 with
  | some (ending, mark) => (code.take (code.length - ending.length), mark)
  | none => (code, [])

/-- What a code stands for. -/
def shown (code : Text) : Text :=
  let (name, mark) := nameAndForm code
  match table.lookup (lower name) with
  | some picture => picture ++ mark
  | none => ':' :: code ++ [':']

/-! ## §3 Replacing -/

/-- A text with pictures for their codes. -/
def replace (s : Text) : Text := (scan code? s).flatMap (Piece.text shown)

end EmbeddedGo.Emoji
