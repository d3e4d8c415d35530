import TypeExport.Command.Run

/-!
# The program

The command line on the files of the machine: the files that a request names are looked at first,
and what it wrote is put in place afterwards.
-/

namespace TypeExport.Command

namespace Request

/-- The path of the catalog of a task. -/
def catalogPaths : Task → List Path
  | .viewModels catalog _ | .enums catalog _ | .constants catalog _ => [catalog]
  | .entityBag catalog _ _ => [catalog]
  | .optionsBag _ _ _ => []

/-- The paths that a request may read or write. -/
def paths (request : Request) : List Path :=
  request.config?.getD (.ofText settingsFileName) :: catalogPaths request.task ++ request.docs
    ++ request.output?.toList

end Request

/-- Take what the machine has at a place into a tree. -/
def lookAt (tree : FileTree) (location : Location) : IO FileTree := do
  let place := (← IO.currentDir) / location.text
  if ← place.isDir then
    return { tree with folders := location :: tree.folders }
  else if ← place.pathExists then
    return { tree with files := (location, ← IO.FS.readFile place) :: tree.files }
  else return tree

/-- Take what the machine has on the way of a path into a tree. -/
def lookAlong (tree : FileTree) (path : Path) : IO FileTree := do
  let start := if path.isRelative then [] else Location.outermost
  let (tree, _) ← path.steps.foldlM
    (fun (tree, here) name => do
      let there := if name = ".." then Location.parent here else here ++ [name]
      return (← lookAt tree there, there))
    (tree, start)
  return tree

/-- Put a file in place. -/
def putFile (location : Location) (text : String) : IO Unit := do
  let place := (← IO.currentDir) / location.text
  if let some folder := place.parent then IO.FS.createDirAll folder
  IO.FS.writeFile place text

/-- Carry out a command line on the files of the machine. -/
def runHere (line : List String) : IO UInt32 := do
  let home ← IO.currentDir
  let paths := match Request.read line with
    | .ok request => request.paths
    | .error _ => []
  let found ← paths.foldlM lookAlong {}
  let files := { found with standIn := Text.freeStandIn (line ++ found.files.map (·.2)) }
  let outcome := run home.toString files line
  for (location, text) in outcome.files.changedSince files do
    putFile location text
  for location in outcome.files.madeSince files do
    IO.FS.createDirAll ((← IO.currentDir) / location.text)
  IO.print outcome.output
  IO.eprint outcome.messages
  return outcome.exitCode.toUInt32

end TypeExport.Command

/-- The program. -/
def main (line : List String) : IO UInt32 :=
  TypeExport.Command.runHere line
