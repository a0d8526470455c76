/-
EmbeddedGo.Slot — the name of the directory that a module is built in.

The name is the path of the module, made safe for one directory name, and the beginning of a digest
of the path. The first half is for readers; the second tells paths apart that look alike without
their separators.
-/
import EmbeddedGo.Digest.Md5
import EmbeddedGo.Text.Utf8

namespace EmbeddedGo.Slot

/-- How many hexadecimal digits of the digest are kept. -/
def digestLength : Nat := 8

/-- The beginning of the digest of a path. -/
def digest (path : Text) : Text :=
  (Digest.hex (Digest.Md5.digest (Utf8.encode path))).take digestLength

/-- Whether a character separates the parts of a path. -/
def isSlash (c : Char) : Bool := c == '/' || c == '\\'

/-- A path without the one slash it may begin with. -/
def dropSlash : Text → Text
  | [] => []
  | c :: s => if isSlash c then s else c :: s

/-- A character as it stands in the name. -/
def safeChar (c : Char) : Char := if isSlash c || c == '.' then '_' else c

/-- A path with underscores for its separators and dots. -/
def sanitize (path : Text) : Text := (dropSlash path).map safeChar

/-- The name of the slot of a module. -/
def name (path : Text) : Text := sanitize path ++ "_" ++ digest path

theorem isSlash_safeChar (c : Char) : isSlash (safeChar c) = false ∧ safeChar c ≠ '.' := by
  unfold safeChar
  split
  · decide
  · simp_all

/-- A sanitized path has neither separators nor dots. -/
theorem isSlash_of_mem_sanitize {path : Text} {c : Char} (h : c ∈ sanitize path) :
    isSlash c = false ∧ c ≠ '.' := by
  obtain ⟨d, _, rfl⟩ := List.mem_map.1 h
  exact isSlash_safeChar d

end EmbeddedGo.Slot
