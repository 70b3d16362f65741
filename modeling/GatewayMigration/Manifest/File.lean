import GatewayMigration.Manifest
import GatewayMigration.Yaml.Document

/-!
# Manifest files

## Main definitions

* `Manifest.ofText`: the objects of the text of a manifest
* `Manifest.ofBytes`: the objects of the bytes of a manifest, which have to be UTF-8
* `Manifest.ofFile`: the objects of a file that may not be readable
-/

namespace GatewayMigration.Manifest

/-- The objects of the text of a manifest, which is called by its path. -/
def ofText (path text : String) : Except Failure (List Json) :=
  match Yaml.documents? text with
  | some docs => .ok (flatten docs)
  | none => .error (.malformed path)

/-- The objects of the bytes of a manifest. -/
def ofBytes (path : String) (bytes : ByteArray) : Except Failure (List Json) :=
  match String.fromUTF8? bytes with
  | some text => ofText path text
  | none => .error (.unreadable path .invalidData)

/-- The objects of a file, or why it cannot be read. -/
def ofFile (path : String) : Except FileFault ByteArray → Except Failure (List Json)
  | .ok bytes => ofBytes path bytes
  | .error fault => .error (.unreadable path fault)

/-- The bytes of a text hold the objects of the text. -/
theorem ofFile_toUTF8 (path text : String) : ofFile path (.ok text.toUTF8) = ofText path text := by
  have htext : String.fromUTF8? text.toUTF8 = some text := dif_pos text.isValidUTF8
  rw [ofFile, ofBytes, htext]

end GatewayMigration.Manifest
