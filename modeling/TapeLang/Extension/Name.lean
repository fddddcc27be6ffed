import TapeLang.Digest.Sha256
import TapeLang.Files.Path
import TapeLang.Text.Alphanumeric
import TapeLang.Text.Utf8

/-! Names that tell the modules of different paths apart. -/

set_option autoImplicit false

namespace TapeLang.ExtensionModule

/-- The last part of a path, with an underscore for all but letters and numbers. -/
def safeName (path : List Char) : List Char :=
  (Path.baseName path).map fun c => if Text.isAlphanumeric c then c else '_'

def pathDigest (workingPath path : List Char) : List Char :=
  (Digest.Sha256.hexDigest
    (Text.Utf8.encode (String.ofList (Path.absolute workingPath path)))).take 12

def uniqueName (workingPath path : List Char) : String :=
  String.ofList ("bfl_ext_".toList ++ safeName path ++ '_' :: pathDigest workingPath path)

end TapeLang.ExtensionModule
