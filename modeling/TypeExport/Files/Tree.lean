import TypeExport.Files.Path
import TypeExport.Text.Encoding
import TypeExport.Text.LineEnd
import TypeExport.Text.Quoted

/-!
# Files

Text files in folders, as far as a program looks at them.  A text gets into a file in two steps:
the file is opened, which takes away what it held, and then the text is stored.  The second step may
fail when the first is done.

* `FileTree` — files and folders at their places.
* `FileTree.read` — the text of a file.
* `FileTree.Change` — a change that may stop on the way.
* `FileTree.makeFolders` — a folder with all folders around it.
* `FileTree.openFile`, `FileTree.store` — the two steps of a write.
* `FileProblem`, `Obstacle` — why a file or folder cannot be used, and why a change stops.
-/

namespace TypeExport

/-- Why a file or folder cannot be used. -/
inductive FileProblem where
  | missing
  | alreadyThere
  | notFolder
  | isFolder
  /-- The storage takes no more text. -/
  | noRoom
deriving DecidableEq, Repr

namespace FileProblem

/-- The number of the problem. -/
def number : FileProblem → Nat
  | missing => 2
  | alreadyThere => 17
  | notFolder => 20
  | isFolder => 21
  | noRoom => 28

/-- The words for the problem. -/
def words : FileProblem → String
  | missing => "No such file or directory"
  | alreadyThere => "File exists"
  | notFolder => "Not a directory"
  | isFolder => "Is a directory"
  | noRoom => "No space left on device"

/-- The text shown for the problem with a path.  When the storage is full, no path is to blame. -/
def message (problem : FileProblem) (path : String) : String :=
  let blamed := if problem = noRoom then "" else ": " ++ Text.literal path
  "[Errno " ++ toString problem.number ++ "] " ++ problem.words ++ blamed

end FileProblem

/-- A place: the names on the way to it, without detours.  The way starts at the working folder,
or with a slash at the outermost folder. -/
abbrev Location := List String

namespace Location

/-- The outermost folder. -/
def outermost : Location := ["/"]

/-- The folder around a place. -/
def parent (location : Location) : Location :=
  if location = outermost then location
  else if location.all (· == "..") then location ++ [".."]
  else location.dropLast

/-- The place as a path. -/
def text (location : Location) : String :=
  match location with
  | "/" :: names => "/" ++ "/".intercalate names
  | names => "/".intercalate names

end Location

/-- Files with their texts, and folders without files.  Folders around a file are there with it. -/
structure FileTree where
  files : List (Location × String) := []
  folders : List Location := []
  /-- How many characters of a text the storage takes, if it does not take all of them. -/
  room? : Option Nat := none
  /-- What takes the place of surrogates in texts. -/
  standIn : Char := Text.standIn

namespace FileTree

/-- A folder is at the place: the outermost one, the working folder, one of the folders around it,
one around a file, or one that was made. -/
def isFolder (tree : FileTree) (location : Location) : Bool :=
  location == Location.outermost || location.all (· == "..") || tree.folders.contains location
    || tree.files.any fun file => location.isPrefixOf file.1 && location != file.1

/-- The text of the file at a place. -/
def file? (tree : FileTree) (location : Location) : Option String :=
  tree.files.lookup location

/-- Something is at the place. -/
def isTaken (tree : FileTree) (location : Location) : Bool :=
  tree.isFolder location || (tree.file? location).isSome

/-- One step from a folder. -/
def step (tree : FileTree) (location : Location) (name : String) :
    Except FileProblem Location :=
  if tree.isFolder location then
    .ok (if name = ".." then location.parent else location ++ [name])
  else if (tree.file? location).isSome then .error .notFolder
  else .error .missing

/-- The place that a path leads to; all but the last of its steps start from folders. -/
def locate (tree : FileTree) (path : Path) : Except FileProblem Location :=
  path.steps.foldlM tree.step (if path.isRelative then [] else Location.outermost)

/-- The text of a file, with every line end as a line feed. -/
def read (tree : FileTree) (path : Path) : Except FileProblem String := do
  let location ← tree.locate path
  match tree.file? location with
  | some text => return .ofList (Text.joinLineEnds text.toList)
  | none => .error (if tree.isFolder location then .isFolder else .missing)

/-- Put a text into the list of files. -/
def setFile (location : Location) (text : String) :
    List (Location × String) → List (Location × String)
  | [] => [(location, text)]
  | (other, old) :: rest =>
    if other = location then (location, text) :: rest
    else (other, old) :: setFile location text rest

/-- The tree with a text in the file at a place. -/
def withText (tree : FileTree) (location : Location) (text : String) : FileTree :=
  { tree with files := setFile location text tree.files }

/-- What the storage takes of a text. -/
def taken (tree : FileTree) (text : String) : String :=
  match tree.room? with
  | none => text
  | some room => .ofList (text.toList.take room)

/-- Make a folder in a folder that is there. -/
def makeFolder (tree : FileTree) (path : Path) : Except FileProblem FileTree := do
  let location ← tree.locate path
  if tree.isTaken location then .error .alreadyThere
  else return { tree with folders := tree.folders ++ [location] }

/-- A folder is where a path leads to. -/
def isFolderAt (tree : FileTree) (path : Path) : Bool :=
  match tree.locate path with
  | .ok location => tree.isFolder location
  | .error _ => false

end FileTree

/-- Why a change to a tree stops. -/
inductive Obstacle where
  /-- There is a problem with a path. -/
  | problem (problem : FileProblem) (path : Path)
  /-- A text has surrogates, which no file can hold. -/
  | notEncodable
deriving DecidableEq, Repr

namespace FileTree

/-- A change to a tree.  It may stop at an obstacle; what it did before that stays. -/
abbrev Change := ExceptT Obstacle (StateM FileTree)

/-- What comes of a change to a tree, and the tree that is left. -/
def Change.on {α : Type} (change : Change α) (tree : FileTree) : Except Obstacle α × FileTree :=
  (StateT.run (ExceptT.run change) tree).run

/-- Make a folder, unless it is there. -/
def ensureFolder (path : Path) : Change Unit := do
  let tree ← get
  match tree.makeFolder path with
  | .ok made => set made
  | .error problem => if tree.isFolderAt path then pure () else throw (.problem problem path)

/-- Make a folder, unless it is there, and first all folders around it that are missing.  A path
has no more folders around it than steps. -/
def makeFoldersWithin : Nat → Path → Change Unit
  | 0, path => ensureFolder path
  | fuel + 1, path => do
    let tree ← get
    match tree.makeFolder path with
    | .error .missing => do
      makeFoldersWithin fuel path.parent
      ensureFolder path
    | _ => ensureFolder path

/-- Make a folder, unless it is there, and first all folders around it that are missing. -/
def makeFolders (path : Path) : Change Unit :=
  makeFoldersWithin path.steps.length path

/-- Open a file to write to it, in a folder that is there.  From then on there is an empty file,
whatever was there before. -/
def openFile (path : Path) : Change Location := do
  let tree ← get
  match tree.locate path with
  | .error problem => throw (.problem problem path)
  | .ok location =>
    if tree.isFolder location then throw (.problem .isFolder path)
    else
      set (tree.withText location "")
      return location

/-- Open a file to write to it, and first make all folders around it that are missing. -/
def openWithFolders (path : Path) : Change Location := do
  makeFolders path.parent
  openFile path

/-- Store a text in an open file.  Nothing is stored of a text with surrogates, and only the
beginning of a text for which there is not enough room. -/
def store (path : Path) (location : Location) (text : String) : Change Unit := do
  let tree ← get
  if Text.isEncodable tree.standIn text then
    set (tree.withText location (tree.taken text))
    if tree.taken text = text then pure () else throw (.problem .noRoom path)
  else throw .notEncodable

/-- Write a text to a file, and first make all folders around it that are missing. -/
def writeWithFolders (path : Path) (text : String) : Change Unit := do
  store path (← openWithFolders path) text

/-- The files of a tree that are not in an earlier one, or have another text there. -/
def changedSince (tree earlier : FileTree) : List (Location × String) :=
  tree.files.filter fun (location, text) => earlier.file? location != some text

/-- The folders that were made in a tree and not in an earlier one. -/
def madeSince (tree earlier : FileTree) : List Location :=
  tree.folders.filter fun location => !earlier.folders.contains location

/-- A tree of files at relative places, given as paths. -/
def ofFiles (files : List (String × String)) : FileTree where
  files := files.map fun (path, text) => ((Path.ofText path).steps, text)

end FileTree

end TypeExport
