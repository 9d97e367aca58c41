/-!
# File systems

The few things a program does with files, in any monad.
-/

namespace AqlPipeline

/-- Why something cannot be done with a file. -/
structure FileFault where
  /-- The reason in words. -/
  reason : String
  /-- The number of the reason. -/
  code : Nat
  deriving DecidableEq, Repr

namespace FileFault

/-- There is no such file or directory. -/
def notFound : FileFault := ⟨"No such file or directory", 2⟩

/-- The file is there already. -/
def alreadyExists : FileFault := ⟨"File exists", 17⟩

/-- What should be a directory is a file. -/
def notDirectory : FileFault := ⟨"Not a directory", 20⟩

/-- What should be a file is a directory. -/
def isDirectory : FileFault := ⟨"Is a directory", 21⟩

/-- A name or a path has too many bytes. -/
def nameTooLong : FileFault := ⟨"File name too long", 36⟩

/-- The fault in words. -/
def message (fault : FileFault) : String :=
  fault.reason ++ " (os error " ++ toString fault.code ++ ")"

end FileFault

/-- The paths that end at one of the names of a path, the longest first. The names come with the
last one first. Empty names, and points behind another name, lead nowhere and end no path. -/
def pathsThrough : (names : List String) → List String
  | [] => []
  | name :: names =>
    if name == "" || (name == "." && !names.isEmpty) then pathsThrough names
    else "/".intercalate (name :: names).reverse :: pathsThrough names

/-- The paths of the directories around a path, the innermost first. A point at the end does not
count as a name, so that the directory in front of it is not around it. -/
def directoriesAround (path : String) : List String :=
  (pathsThrough (path.splitOn "/").reverse).drop 1

/-- What can be done with files. -/
structure FileSystem (m : Type → Type) where
  /-- Reads a file. -/
  read : String → m (Except FileFault String)
  /-- Writes a file, in place of one that is there. -/
  write : String → String → m (Except FileFault Unit)
  /-- Makes a directory in one that is there. -/
  makeDirectory : String → m (Except FileFault Unit)

namespace FileSystem

variable {m : Type → Type} [Monad m] (files : FileSystem m)

/-- Whether a path leads to a directory: then it cannot be read for that reason. -/
def isDirectory (path : String) : m Bool := do
  match ← files.read path with
  | .ok _ => return false
  | .error fault => return fault == .isDirectory

/-- Makes a directory, unless it is there. -/
def ensureDirectory (path : String) : m (Except FileFault Unit) := do
  match ← files.makeDirectory path with
  | .ok () => return .ok ()
  | .error fault => return if ← files.isDirectory path then .ok () else .error fault

/-- Makes the first of some directories, and before it the next one, around it, if that is
missing. -/
def ensureDirectories : (paths : List String) → m (Except FileFault Unit)
  | [] => return .ok ()
  | path :: around => do
    match ← files.ensureDirectory path with
    | .ok () => return .ok ()
    | .error fault =>
      if fault ≠ .notFound then return .error fault
      match ← ensureDirectories around with
      | .ok () => files.ensureDirectory path
      | .error fault => return .error fault

/-- Makes a directory, and those around it. -/
def makeDirectories (path : String) : m (Except FileFault Unit) :=
  files.ensureDirectories (path :: directoriesAround path)

end FileSystem

/-- The path of a file in a directory. -/
def joinPath (directory name : String) : String :=
  if directory == "" || directory.endsWith "/" then directory ++ name
  else directory ++ "/" ++ name

end AqlPipeline
