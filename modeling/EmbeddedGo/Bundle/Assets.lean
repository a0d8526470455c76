/-
EmbeddedGo.Bundle.Assets — files collected for a bundle under names that tell their contents apart.

The name of an asset is the stem of the name it is emitted under, a hyphen, the beginning of a digest
of its contents, and the ending. Assets are kept in the order in which their names first came up.
-/
import EmbeddedGo.Digest.Sha256
import EmbeddedGo.Path
import EmbeddedGo.Table

namespace EmbeddedGo.Bundle

/-- How many hexadecimal digits of the digest are kept. -/
def digestLength : Nat := 8

/-- The beginning of the digest of contents. -/
def contentDigest (content : Bytes) : Text :=
  (Digest.hex (Digest.Sha256.digest content)).take digestLength

/-- The directory of assets below that of the bundle. -/
def assetsDirectory : Text := "assets"

/-- The assets so far, by their names below the directory of the bundle. -/
abbrev Assets := List (Text × Bytes)

/-- The name of an asset. -/
def assetName (directory name : Text) (content : Bytes) : Text :=
  directory ++ "/" ++ (Path.ofText name).stem ++ "-" ++ contentDigest content ++
    (Path.ofText name).ending

namespace Assets

/-- The assets with one more emitted, and its name. -/
def emit (assets : Assets) (directory name : Text) (content : Bytes) : Text × Assets :=
  let name := assetName directory name content
  (name, Table.put name content assets)

/-- What was emitted stands under its name; no other asset changes. -/
theorem lookup_emit (assets : Assets) (directory name other : Text) (content : Bytes) :
    (assets.emit directory name content).2.lookup other =
      if other == assetName directory name content then some content else assets.lookup other :=
  Table.lookup_put ..

end Assets
end EmbeddedGo.Bundle
