import TapeLang.Extension.List
import TapeLang.Value.Quoted

/-! Loading extensions: finding a module, checking what it asks for, and registering it. -/

set_option autoImplicit false

namespace TapeLang.ExtensionModule

def hasEnding (ending : String) (path : List Char) : Bool := ending.toList.isSuffixOf path

/-- Whether a path has the ending of a module: a source text, a compiled one, or a shared library. -/
def isModulePath (path : List Char) : Bool := [".py", ".pyc", ".so"].any (hasEnding · path)

def ofNode (path : List Char) : FileNode → Except Failure ExtensionModule
  | .file _ executed => executed
  | .directory =>
    let shown := String.ofList path
    if hasEnding ".so" path then
      .error (.foreign "ImportError" s!"{shown}: cannot read file data: Is a directory")
    else .error (.file .isDirectory shown)

def siblingPath (path : List Char) (name : String) : List Char :=
  Path.join (Path.directoryName path) (name.toList ++ ".py".toList)

/-- Loads a module, and then the modules it needs from its directory. `known` holds the names of
needed modules that have been met, and a module of such a name is not loaded again. -/
def execute (tree : FileTree) :
    Nat → List String → List Char → Except Failure (ExtensionModule × List String)
  | 0, _, path => .error (.siblingMissing (String.ofList path))
  | depth + 1, known, path => do
    let node ← tree.resolve path
    let declared ← ofNode path node
    match declared.sibling with
    | none => .ok (declared, known)
    | some name =>
      if known.contains name then .ok (declared, known)
      else
        let sibling := siblingPath path name
        match tree.resolve sibling with
        | .error _ | .ok .directory => .error (.siblingMissing name)
        | .ok _ =>
          let (_, known) ← execute tree depth (name :: known) sibling
          .ok (declared, known)

def find (tree : FileTree) (known : List String) (path : List Char) :
    Except Failure (ExtensionModule × List String) :=
  let shown := String.ofList path
  if !tree.contains path then .error (.extensionMissing shown)
  else if !isModulePath path then .error (.notLoadable shown)
  else execute tree (tree.entries.length + 2) known path

/-- The name that a module's hooks are registered for: its own, or that of its file. -/
def extensionName (declared : ExtensionModule) (path : List Char) : Except Unwritable String :=
  match declared.name with
  | some name => name.shown
  | none => .ok (String.ofList (Path.stem (Path.baseName path)))

def enroll (declared : ExtensionModule) (path : List Char) (services : Services) :
    Except Failure Services :=
  let shown := String.ofList path
  let api := declared.api.getD (.int apiVersion)
  if !api.isOne then do
    let asked ← Failure.ofWriting api.shown
    .error (.apiMismatch shown asked)
  else if !declared.registers then .error (.noRegister shown)
  else do
    let name ← Failure.ofWriting (declared.extensionName path)
    declared.register name services

end TapeLang.ExtensionModule

namespace TapeLang.Services

def addExtensions (tree : FileTree) (known : List String) (services : Services) :
    List (List Char) → Except Failure Services
  | [] => .ok services
  | path :: rest => do
    let (declared, known) ← ExtensionModule.find tree known path
    let services ← declared.enroll path services
    addExtensions tree known services rest

def load (tree : FileTree) (paths : List (List Char)) : Except Failure Services := do
  let found ← ExtensionList.gather tree paths
  addExtensions tree [] {} found

end TapeLang.Services
