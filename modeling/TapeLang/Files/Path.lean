import TapeLang.Text.Split

/-! Paths of files, with slashes between their parts. -/

set_option autoImplicit false

namespace TapeLang.Path

def isAbsolute (path : List Char) : Bool := path.head? = some '/'

/-- The path of something found from a directory; an absolute path does not depend on it. -/
def join (directory path : List Char) : List Char :=
  if isAbsolute path then path
  else if directory.isEmpty || directory.getLast? = some '/' then directory ++ path
  else directory ++ '/' :: path

/-- Leading slashes that a normal path keeps: exactly two stay two. -/
def root : List Char → List Char
  | '/' :: '/' :: '/' :: _ => ['/']
  | '/' :: '/' :: _ => ['/', '/']
  | '/' :: _ => ['/']
  | _ => []

def pushPart (absolute : Bool) (parts : List (List Char)) (part : List Char) : List (List Char) :=
  if part = [] || part = ['.'] then parts
  else if part = ['.', '.'] then
    match parts with
    | [] => if absolute then [] else [part]
    | last :: rest => if last = ['.', '.'] then part :: parts else rest
  else part :: parts

/-- Parts of a normal path: none is empty or a dot, and two dots only lead out of a relative one. -/
def normalParts (path : List Char) : List (List Char) :=
  ((Text.splitAt '/' path).foldl (pushPart (isAbsolute path)) []).reverse

def normalize (path : List Char) : List Char :=
  match root path ++ Text.joinWith '/' (normalParts path) with
  | [] => ['.']
  | normal => normal

def absolute (directory path : List Char) : List Char := normalize (join directory path)

def baseName (path : List Char) : List Char := Text.afterLast '/' path

def directoryName (path : List Char) : List Char :=
  let head := path.take (path.length - (baseName path).length)
  if head.all (· = '/') then head
  else (head.reverse.dropWhile (· = '/')).reverse

/-- A name without its extension; dots at the start of a name do not begin one. -/
def stem (name : List Char) : List Char :=
  let dots := name.takeWhile (· = '.')
  let rest := name.drop dots.length
  if rest.contains '.' then
    dots ++ rest.take (rest.length - (Text.afterLast '.' rest).length - 1)
  else name

end TapeLang.Path
