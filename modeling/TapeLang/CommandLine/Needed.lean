import TapeLang.CommandLine.Options
import TapeLang.Extension.Load
import TapeLang.Json.Reader

/-! Files that a command line needs: those that it names, and those that they name in turn. -/

set_option autoImplicit false

namespace TapeLang

def FileNode.ofContent (path : List Char) (content : List UInt8) : FileNode :=
  if ExtensionModule.isModulePath path then
    match ((Text.Utf8.decode? content).bind fun text => Json.parse? (String.ofList text)).bind
      ExtensionModule.ofValue? with
    | some executed => .file content executed
    | none => .plain content
  else .plain content

namespace CommandLine

def Options.paths (options : Options) : List (List Char) :=
  let extensions := options.extensions.filterMap fun path => path.map String.toList
  if options.sourceMode then extensions else options.program.toList :: extensions

/-- Paths that the file at a path names: the entries of a list, and the module that a module
needs. -/
def referred (tree : FileTree) (path : List Char) : List (List Char) :=
  if ExtensionList.isList path then
    match ExtensionList.read tree path with
    | .ok paths => paths
    | .error _ => []
  else
    match tree.resolve path with
    | .ok (.file _ (.ok declared)) =>
      match declared.sibling with
      | some name => [ExtensionModule.siblingPath (tree.absolute path) name]
      | none => []
    | _ => []

/-- Places that are not in a tree yet and that decide what some paths lead to. -/
def unknownPlaces (tree : FileTree) (paths : List (List Char)) : List (List (List Char)) :=
  (paths.flatMap tree.placesOf).eraseDups.filter fun place => (tree.entry? place).isNone

end CommandLine

end TapeLang
