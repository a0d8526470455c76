/-
EmbeddedGo.Text.ShellWords — a list of words on one command line of a POSIX shell.

A word of safe characters is written as it is. Any other stands between single quotes, where a
single quote itself is written by leaving the quotes, writing it between double quotes and coming
back.
-/
import EmbeddedGo.Text.Basic

namespace EmbeddedGo.ShellWords

/-- The characters that no shell gives a meaning to. -/
def isSafe (c : Char) : Bool :=
  c.isAlphanum || ("_@%+=:,./-" : Text).contains c

/-- One character between single quotes. -/
def quotedChar (c : Char) : Text := if c = '\'' then "'\"'\"'" else [c]

/-- One word as a shell reads it back; the empty word is a pair of quotes. -/
def quote (word : Text) : Text :=
  if word.isEmpty then "''"
  else if word.all isSafe then word
  else '\'' :: word.flatMap quotedChar ++ ['\'']

/-- The words on one line, with a space between neighbours. -/
def join (words : List Text) : Text := Text.join " " (words.map quote)

end EmbeddedGo.ShellWords
