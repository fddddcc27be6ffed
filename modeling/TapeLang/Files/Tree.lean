import TapeLang.Extension.Module
import TapeLang.Files.Path

/-! Files as programs and extensions are found in them. -/

set_option autoImplicit false

namespace TapeLang

inductive FileNode where
  /-- A file's bytes, and what it comes to when they are executed as a module. -/
  | file (content : List UInt8) (executed : Except Failure ExtensionModule)
  | directory

def FileNode.plain (content : List UInt8) : FileNode :=
  .file content (.error (.foreign "SyntaxError" "invalid syntax"))

/-- Files by the parts of their absolute paths, and the directory that relative paths start from.
The directories above a file need no entries of their own. -/
structure FileTree where
  workingDirectory : List (List Char)
  entries : List (List (List Char) × FileNode)

namespace FileTree

def workingPath (tree : FileTree) : List Char :=
  '/' :: Text.joinWith '/' tree.workingDirectory

def entry? (tree : FileTree) (place : List (List Char)) : Option FileNode :=
  (tree.entries.find? (·.1 == place)).map (·.2)

/-- Whether a place is above an entry or above the working directory, or is the latter. -/
def isAbove (tree : FileTree) (place : List (List Char)) : Bool :=
  place.isPrefixOf tree.workingDirectory ||
    tree.entries.any fun (other, _) => place.isPrefixOf other && place != other

def node? (tree : FileTree) (place : List (List Char)) : Option FileNode :=
  match tree.entry? place with
  | some node => some node
  | none => if tree.isAbove place then some .directory else none

def bytesOf (cs : List Char) : Nat := cs.foldr (fun c size => c.utf8Size + size) 0

/-- No part of a path is longer than this, in bytes. -/
def maxPart : Nat := 255

/-- Every path is shorter than this, in bytes. -/
def maxPath : Nat := 4096

def walk (tree : FileTree) (place : List (List Char)) :
    List (List Char) → Except FileFailure FileNode
  | [] => .ok .directory
  | part :: rest =>
    if part = [] || part = ['.'] then tree.walk place rest
    else if part = ['.', '.'] then tree.walk place.dropLast rest
    else if maxPart < bytesOf part then .error .nameTooLong
    else match tree.node? (place ++ [part]) with
      | none => .error .missing
      | some .directory => tree.walk (place ++ [part]) rest
      | some node => if rest.isEmpty then .ok node else .error .notDirectory

def visited (place : List (List Char)) : List (List Char) → List (List (List Char))
  | [] => []
  | part :: rest =>
    if part = [] || part = ['.'] then visited place rest
    else if part = ['.', '.'] then visited place.dropLast rest
    else (place ++ [part]) :: visited (place ++ [part]) rest

def start (tree : FileTree) (path : List Char) : List (List Char) :=
  if Path.isAbsolute path then [] else tree.workingDirectory

def placesOf (tree : FileTree) (path : List Char) : List (List (List Char)) :=
  visited (tree.start path) (Text.splitAt '/' path)

def resolve (tree : FileTree) (path : List Char) : Except Failure FileNode :=
  if path.contains '\x00' then .error .nullInPath
  else
    let found :=
      if path = [] then .error .missing
      else if maxPath ≤ bytesOf path then .error .nameTooLong
      else tree.walk (tree.start path) (Text.splitAt '/' path)
    found.mapError fun cause => .file cause (String.ofList path)

def contains (tree : FileTree) (path : List Char) : Bool :=
  match tree.resolve path with
  | .ok _ => true
  | .error _ => false

def readBytes (tree : FileTree) (path : List Char) : Except Failure (List UInt8) :=
  match tree.resolve path with
  | .ok (.file content _) => .ok content
  | .ok .directory => .error (.file .isDirectory (String.ofList path))
  | .error failure => .error failure

def absolute (tree : FileTree) (path : List Char) : List Char :=
  Path.absolute tree.workingPath path

end FileTree

end TapeLang
