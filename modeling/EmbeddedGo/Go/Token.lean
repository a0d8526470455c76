/-
EmbeddedGo.Go.Token — the words and marks of a Go declaration.

Blanks separate tokens and are otherwise nothing. A word begins with an ASCII letter or an
underscore and goes on as long as letters and numerals of any script follow. Three dots are one
mark; any other character is a mark by itself.
-/
import EmbeddedGo.Text.Words

namespace EmbeddedGo.Go

open Text

/-- A word or a mark. -/
inductive Token where
  | word (name : Text)
  | dots
  | mark (c : Char)
  deriving DecidableEq, Inhabited

namespace Token

/-- The characters of a token. -/
def text : Token → Text
  | word name => name
  | dots => "..."
  | mark c => [c]

/-- The tokens of a text. -/
def ofText : Text → List Token
  | [] => []
  | '.' :: '.' :: '.' :: s => dots :: ofText s
  | c :: s =>
    if isBlank c then ofText s
    else if isWordStart c then word (c :: s.takeWhile isWord) :: ofText (s.dropWhile isWord)
    else mark c :: ofText s
  termination_by s => s.length
  decreasing_by
    · exact Nat.lt_succ_of_lt (Nat.lt_succ_of_lt (Nat.lt_succ_self _))
    · exact Nat.lt_succ_self _
    · exact Nat.lt_succ_of_le (List.dropWhile_sublist _).length_le
    · exact Nat.lt_succ_self _

end Token
end EmbeddedGo.Go
