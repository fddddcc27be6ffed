import TapeLang.Files.Tree
import TapeLang.Text.Case
import TapeLang.Text.Blank
import TapeLang.Text.Lines
import TapeLang.Text.Utf8

/-! Lists of extensions: one path a line, where a number sign starts a comment. -/

set_option autoImplicit false

namespace TapeLang.ExtensionList

/-- What a line lists: the text before a comment, without blanks around it. -/
def entry (line : List Char) : List Char := Text.trimList (Text.before '#' line)

/-- The path that an entry of a list in a directory stands for; an absolute one stands as it is. -/
def locate (workingPath directory entry : List Char) : List Char :=
  if Path.isAbsolute entry then entry
  else Path.absolute workingPath (Path.join directory entry)

def entries (text : List Char) : List (List Char) :=
  ((Text.splitLines (Text.unifyNewlines text)).map entry).filter (· != [])

def read (tree : FileTree) (path : List Char) : Except Failure (List (List Char)) :=
  if tree.contains path then do
    let directory := Path.directoryName (tree.absolute path)
    let content ← tree.readBytes path
    match Text.Utf8.decode? content with
    | none => .error .undecodable
    | some text => .ok ((entries text).map (locate tree.workingPath directory))
  else .error (.listMissing (String.ofList path))

/-- Whether a path names a list, by its ending in letters of either case. -/
def isList (path : List Char) : Bool :=
  ".bfx".toList.isSuffixOf (Text.lowerFrom [] path)

def expand (tree : FileTree) : List (List Char) → Except Failure (List (List Char))
  | [] => .ok []
  | path :: rest => do
    let first ← if isList path then read tree path else .ok [path]
    let others ← expand tree rest
    pure (first ++ others)

def gather (tree : FileTree) (paths : List (List Char)) : Except Failure (List (List Char)) :=
  (·.map tree.absolute) <$> expand tree paths

end TapeLang.ExtensionList
