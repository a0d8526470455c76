/-
EmbeddedGo.Server.MediaType — the media type of a file, by its name.

  §1 the table
  §2 names: an ending that says how a file is compressed is looked through, and one that stands for
     two is written out; a name with a colon is read as an address first
-/
import EmbeddedGo.Server.MediaType.Table
import EmbeddedGo.Text.Case

namespace EmbeddedGo.MediaType

/-! ## §1 The table -/

/-- The endings of a list of types, each with its type. A word without a slash is an ending of the
type in front of it. -/
def endings : (type : Text) → List Text → List (Text × Text)
  | _, [] => []
  | type, word :: rest =>
    if word.contains '/' then endings word rest else (word, type) :: endings type rest

/-- All endings, without their dots, and their types. -/
def table : List (Text × Text) :=
  [programs1, programs2, sounds, others].flatMap fun block =>
    endings [] (Text.fields block.toList)

/-- The type of files about which nothing is known. -/
def unknown : Text := "application/octet-stream"

/-- Endings that stand for two. -/
def shortForms : List (Text × Text) := [
  (".svgz", ".svg.gz"), (".tgz", ".tar.gz"), (".taz", ".tar.gz"), (".tz", ".tar.gz"),
  (".tbz2", ".tar.bz2"), (".txz", ".tar.xz")]

/-- Endings that only say how a file is compressed. -/
def compressions : List Text := [".gz", ".Z", ".bz2", ".xz", ".br"]

/-! ## §2 Names -/

/-- A name cut before its last dot; the dots in front of it belong to the name. -/
def splitEnding (name : Text) : Text × Text :=
  let tail := name.reverse.takeWhile (· ≠ '.')
  let size := name.length - tail.length
  if size = 0 ∨ (name.take size).all (· == '.') then (name, [])
  else (name.take (size - 1), name.drop (size - 1))

/-- The name with a short form at its end written out. -/
def expanded (name : Text) : Text :=
  let (base, ending) := splitEnding name
  match shortForms.lookup (Text.lower ending) with
  | some long => base ++ long
  | none => name

/-- The type that the ending of a name tells, if it is known. -/
def ofEnding? (name : Text) : Option Text :=
  let (base, ending) := splitEnding (expanded name)
  let ending := if compressions.contains ending then (splitEnding base).2 else ending
  table.lookup ((Text.lower ending).drop 1)

/-- The type of an address that carries its contents, behind a comma. A plain text is what it is
unless it says so with a slash, and no name has one. -/
def ofContents? (rest : Text) : Option Text := if rest.contains ',' then some "text/plain" else none

/-- Whether a character can stand in the scheme of an address. -/
def isSchemeChar (c : Char) : Bool := c.isAlphanum || c == '+' || c == '-' || c == '.'

/-- The scheme of a name that can be read as an address, and what the address leads to. A letter
alone is no scheme. -/
def address? (name : Text) : Option (Text × Text) :=
  let address := (name.dropWhile (·.toNat ≤ 32)).filter fun c => c ≠ '\t' ∧ c ≠ '\n' ∧ c ≠ '\r'
  let scheme := address.takeWhile (· ≠ ':')
  let rest := (address.drop (scheme.length + 1)).takeWhile fun c => c ≠ '#' ∧ c ≠ '?'
  if address.contains ':' ∧ 1 < scheme.length ∧ (scheme.head?.any Char.isAlpha) ∧
      scheme.all isSchemeChar then some (Text.lower scheme, rest)
  else none

/-- The schemes of addresses that can end in parameters, behind a semicolon. -/
def schemesWithParameters : List Text := [
  "ftp", "hdl", "prospero", "http", "imap", "https", "shttp", "rtsp", "rtsps", "rtspu", "sip",
  "sips", "mms", "sftp", "tel"]

/-- The type of a name that is read as an address. -/
def ofAddress? (name : Text) : Option Text :=
  match address? name with
  | some (scheme, rest) =>
    if scheme = "data".toList then ofContents? rest
    else if schemesWithParameters.contains scheme then ofEnding? (rest.takeWhile (· ≠ ';'))
    else ofEnding? rest
  | none => none

/-- The type of a file, if anything is known about it. -/
def ofName? (name : Text) : Option Text := ofAddress? name <|> ofEnding? name

/-- The type of a file with the encoding that a text is in. -/
def ofName (name : Text) : Text :=
  let type := (ofName? name).getD unknown
  if Text.startsWith type "text/" then type ++ "; charset=utf-8" else type

end EmbeddedGo.MediaType
