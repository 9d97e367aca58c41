import AqlPipeline.FileSystem
import AqlPipeline.Text.Blank
import Std.Data.HashMap

/-!
# Files in memory

A tree of directories and files that starts at the current directory. The directories around that
one are there too, and so are the root of all directories and the null device in it.
-/

namespace AqlPipeline

/-- What a path leads to. -/
inductive FileEntry where
  /-- A file with its text. -/
  | file (text : String)
  /-- A directory. -/
  | directory
  deriving DecidableEq, Repr

/-- A tree of files. -/
structure FileTree where
  /-- The files and directories, by the shortest paths that lead to them. -/
  entries : Std.HashMap String FileEntry

namespace FileTree

/-- No files but the null device. -/
def empty : FileTree :=
  ⟨.ofList [("/dev", .directory), ("/dev/null", .file "")]⟩

/-- Where something is, or could be put. -/
inductive Place where
  /-- This many steps upwards from the current directory. -/
  | above (steps : Nat)
  /-- At the root of all directories. -/
  | root
  /-- At a path, in the directory at another place. -/
  | inside (path : String) (around : Place)
  deriving DecidableEq, Repr

namespace Place

/-- The current directory. -/
def current : Place := .above 0

/-- What the paths of all things in a directory start with. -/
def stem : Place → String
  | .above steps => String.join (List.replicate steps "../")
  | .root => "/"
  | .inside path _ => path ++ "/"

/-- The place of a name in a directory. -/
def child (place : Place) (name : String) : Place :=
  .inside (place.stem ++ name) place

/-- The place of the directory around another one. The root is in itself. -/
def parent : Place → Place
  | .above steps => .above (steps + 1)
  | .root => .root
  | .inside _ around => around

end Place

/-- What is at a place. -/
def entry? (tree : FileTree) : Place → Option FileEntry
  | .inside path _ => tree.entries[path]?
  | _ => some .directory

/-- Puts something at a path. -/
def put (tree : FileTree) (path : String) (entry : FileEntry) : FileTree :=
  ⟨tree.entries.insert path entry⟩

/-- The largest number of bytes in a name. -/
def longestName : Nat := 255

/-- The largest number of bytes in a path. -/
def longestPath : Nat := 4095

/-- The place that some names lead to from another place. Every step has to start in a directory;
what the last one leads to does not have to exist. -/
def walk (tree : FileTree) : Place → (names : List String) → Except FileFault Place
  | place, [] => .ok place
  | place, name :: names =>
    match tree.entry? place with
    | none => .error .notFound
    | some (.file _) => .error .notDirectory
    | some .directory =>
      if name == "" || name == "." then walk tree place names
      else if name == ".." then walk tree place.parent names
      else if longestName < name.utf8ByteSize then .error .nameTooLong
      else walk tree (place.child name) names

/-- The place that a path leads to, from the root if it starts with a slash. -/
def locate (tree : FileTree) (path : String) : Except FileFault Place :=
  if longestPath < path.utf8ByteSize then .error .nameTooLong
  else tree.walk (if path.startsWith "/" then .root else .current) (path.splitOn "/")

/-- Reads a file. -/
def read (tree : FileTree) (path : String) : Except FileFault String := do
  match tree.entry? (← tree.locate path) with
  | none => throw .notFound
  | some .directory => throw .isDirectory
  | some (.file text) => return text

/-- Writes a file. -/
def write (tree : FileTree) (path text : String) : Except FileFault FileTree := do
  let place ← tree.locate path
  match place, tree.entry? place with
  | .inside _ _, some .directory => throw .isDirectory
  | .inside path _, _ => return tree.put path (.file text)
  | _, _ => throw .isDirectory

/-- Makes a directory. Slashes at the end of its path mean nothing. -/
def makeDirectory (tree : FileTree) (path : String) : Except FileFault FileTree := do
  if longestPath < path.utf8ByteSize then throw .nameTooLong
  let place ← tree.locate (String.ofList (Text.dropRightWhile (· == '/') path.toList))
  match place, tree.entry? place with
  | .inside path _, none => return tree.put path .directory
  | _, _ => throw .alreadyExists

/-- Changes the tree, unless there is a fault. -/
def update (change : FileTree → Except FileFault FileTree) :
    StateM FileTree (Except FileFault Unit) := do
  match change (← get) with
  | .ok tree => set tree; return .ok ()
  | .error fault => return .error fault

/-- The tree as a file system. -/
def fileSystem : FileSystem (StateM FileTree) where
  read path := return (← get).read path
  write path text := update (·.write path text)
  makeDirectory path := update (·.makeDirectory path)

/-- A tree of files with the given texts by their paths, in directories made for them. -/
def ofFiles (files : List (String × String)) : FileTree :=
  (files.forM fun (path, text) => do
    let _ ← fileSystem.ensureDirectories (directoriesAround path)
    let _ ← fileSystem.write path text).run empty |>.2

end FileTree

end AqlPipeline
