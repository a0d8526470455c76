/-
EmbeddedGo.Bundle.Reference — the quoted virtual ids in generated code.

A reference is a quote, an id without quotes, backslashes and blanks that has something behind its
prefix, and the same quote again.

  §1 reading one reference
  §2 `references`: those in a code, once each; `substitute`: the code with others in their places
-/
import EmbeddedGo.Text.Scan
import EmbeddedGo.VirtualId

namespace EmbeddedGo.Bundle

open Text

/-! ## §1 One reference -/

/-- An id and the quote around it. -/
structure Reference where
  quote : Char
  id : Text
  deriving DecidableEq

/-- The characters that can stand in a reference behind the prefix. -/
def isReferenceChar (c : Char) : Bool := !(c == '"' || c == '\'' || c == '\\' || isBlank c)

/-- A reference at the head of a text, and what comes behind it. -/
def reference? : Text → Option (Reference × Text)
  | [] => none
  | quote :: s =>
    if quote = '"' ∨ quote = '\'' then
      match after? VirtualId.start s with
      | none => none
      | some rest =>
        match rest.takeWhile isReferenceChar, rest.dropWhile isReferenceChar with
        | [], _ | _, [] => none
        | name, c :: rest =>
          if c = quote then some (⟨quote, VirtualId.start ++ name⟩, rest) else none
    else none

/-! ## §2 Whole codes -/

/-- The ids that a code refers to, each once, in order. -/
def references (code : Text) : List Text := ((findAll reference? code).map (·.id)).eraseDups

/-- One piece of a code with the URL of its reference. -/
def substitutePiece (url : Text → Text) : Piece Reference → Text
  | .plain c => [c]
  | .found r => r.quote :: url r.id ++ [r.quote]

/-- The code with a URL in the place of each reference. -/
def substitute (url : Text → Text) (code : Text) : Text :=
  (scan reference? code).flatMap (substitutePiece url)

end EmbeddedGo.Bundle
