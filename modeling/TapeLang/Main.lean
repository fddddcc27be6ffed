import TapeLang.CommandLine.Needed
import TapeLang.CommandLine.Run
import TapeLang.Trace.Extension

/-! The command: it finds the files that a command line needs, runs it, and prints what it leaves
behind. -/

set_option autoImplicit false

namespace TapeLang.Main

def readPlace (path : String) : IO (Option FileNode) := do
  try
    let content ← IO.FS.readBinFile path
    return some (.ofContent path.toList content.toList)
  catch
    | .inappropriateType _ 21 _ => return some .directory
    | .inappropriateType .. | .noFileOrDirectory .. => return none
    | error => throw error

def addPlaces (tree : FileTree) (places : List (List (List Char))) : IO FileTree := do
  let mut entries := tree.entries
  for place in places do
    if let some node ← readPlace (String.ofList ('/' :: Text.joinWith '/' place)) then
      entries := entries ++ [(place, node)]
  return { tree with entries }

/-- Adds to a tree what some paths lead to, and what the files there name in turn. `seen` holds the
paths that were followed before. -/
partial def follow (tree : FileTree) (seen paths : List (List Char)) : IO FileTree := do
  let fresh := paths.filter fun path => !seen.contains path
  if fresh.isEmpty then return tree
  let tree ← addPlaces tree (CommandLine.unknownPlaces tree fresh)
  follow tree (seen ++ fresh) (fresh.flatMap (CommandLine.referred tree))

/-- The files that some options need, with the trace extension beside the command. -/
def filesFor (paths : List (List Char)) : IO FileTree := do
  let working := (← IO.currentDir).toString
  let home := (← IO.appDir).toString
  let period := Trace.period (← IO.getEnv "BF_TRACE_EVERY")
  let bundled := home ++ "/ext/trace.py"
  let content ← try IO.FS.readBinFile bundled catch _ => pure .empty
  let tree : FileTree :=
    { workingDirectory := Path.normalParts working.toList
      entries := [(Path.normalParts bundled.toList,
        .file content.toList (.ok (Trace.extension period)))] }
  follow tree [] paths

def stepBound : Nat := Nat.pow 2 62

def faultLine : Fault → String
  | .run error => s!"{error.kind}: {error.message}"
  | .failure cause =>
    match cause.message with
    | .ok message => s!"{cause.name}: {message}"
    | .error _ => cause.name

def printResult (result : CommandLine.Result) : IO UInt32 := do
  IO.print (Text.ofCodePoints result.output.text.toList)
  IO.eprint result.errors
  match result.exit with
  | .code code => return code.toUInt32
  | .escaped fault =>
    IO.eprintln (faultLine fault)
    return 1

end TapeLang.Main

def main (arguments : List String) : IO UInt32 := do
  let paths := match TapeLang.CommandLine.parse arguments with
    | .ok options => options.paths
    | .error _ => []
  let files ← TapeLang.Main.filesFor paths
  let input ← (← IO.getStdin).readBinToEnd
  match TapeLang.CommandLine.run TapeLang.Main.stepBound files input.toList arguments with
  | some result => TapeLang.Main.printResult result
  | none => return 1
