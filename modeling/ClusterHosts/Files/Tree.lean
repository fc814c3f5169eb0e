import ClusterHosts.Files
import ClusterHosts.Text.Basic

/-! # Trees of files

Files and directories as a value, with the operations on files that the program needs. A path is
followed part by part from the root or from a working directory; every part but the last must be a
directory that is there.
-/

namespace ClusterHosts

/-- A file with its content, or a directory with the entries in it by name. -/
inductive FileEntry where
  | file (content : ByteArray)
  | directory (entries : List (SystemText × FileEntry))
  deriving Inhabited

namespace FileEntry

/-- An empty directory. -/
def emptyDirectory : FileEntry := .directory []

/-- Whether the entry is a directory. -/
def isDirectory : FileEntry → Bool
  | .directory _ => true
  | .file _ => false

/-- What is found by following names into directories. -/
def find? (entry : FileEntry) : List SystemText → Option FileEntry
  | [] => some entry
  | name :: names =>
      match entry with
      | .directory entries => (entries.lookup name).bind fun inner => inner.find? names
      | .file _ => none

/-- Entries with a new one under a name, in the place of the one that has it. -/
def withNamed (name : SystemText) (new : FileEntry) :
    List (SystemText × FileEntry) → List (SystemText × FileEntry)
  | [] => [(name, new)]
  | (other, entry) :: entries =>
      if other = name then (name, new) :: entries
      else (other, entry) :: withNamed name new entries

/-- The entry with a new one at the end of a list of names; the directories on the way must be
there. -/
def put (entry : FileEntry) (new : FileEntry) : List SystemText → FileEntry
  | [] => new
  | name :: names =>
      match entry with
      | .file content => .file content
      | .directory entries =>
          match entries.lookup name, names with
          | some inner, names =>
              .directory (withNamed name (inner.put new names) entries)
          | none, [] => .directory (withNamed name new entries)
          | none, _ :: _ => .directory entries

end FileEntry

/-- A tree of files, and the directory from which relative paths start. -/
structure FileTree where
  root : FileEntry := .emptyDirectory
  workingDirectory : List SystemText := []
  deriving Inhabited

namespace FileTree

/-- The parts of a path. -/
def parts (path : SystemText) : List SystemText :=
  (Text.split Path.slash path.bytes).map SystemText.mk

/-- The name that stands for the directory itself. -/
def here : SystemText := .ofText "."

/-- The name that stands for the directory above. -/
def above : SystemText := .ofText ".."

/-- Follows the parts of a path from a directory. The result names the place from the root. -/
def follow (root : FileEntry) (place : List SystemText) :
    List SystemText → Except FileError (List SystemText)
  | [] => .ok place
  | part :: parts =>
      match root.find? place with
      | none => .error .missing
      | some (.file _) => .error .notDirectory
      | some (.directory entries) =>
          if part.isEmpty ∨ part = here then follow root place parts
          else if part = above then follow root place.dropLast parts
          else if (entries.lookup part).isSome then follow root (place ++ [part]) parts
          else .error .missing

/-- Where a path starts. -/
def start (tree : FileTree) (path : SystemText) : List SystemText :=
  if Path.isAbsolute path then [] else tree.workingDirectory

/-- Refuses what can be no path. -/
def checkPath (path : SystemText) : Except FileError Unit :=
  if Path.hasNul path then .error .nulInName
  else if Path.maximalLength < path.length then .error .nameTooLong
  else if path.isEmpty then .error .missing
  else .ok ()

/-- The place that a path leads to. -/
def place (tree : FileTree) (path : SystemText) : Except FileError (List SystemText) := do
  checkPath path
  follow tree.root (tree.start path) (parts path)

/-- What is found at a path. -/
def find (tree : FileTree) (path : SystemText) : Except FileError FileEntry := do
  let place ← tree.place path
  match tree.root.find? place with
  | some entry => pure entry
  | none => throw .missing

/-- Whether there is a file or directory at a path. -/
def isPresent (tree : FileTree) (path : SystemText) : Bool := (tree.find path).isOk

/-- Whether there is a directory at a path. -/
def isDirectory (tree : FileTree) (path : SystemText) : Bool :=
  match tree.find path with
  | .ok entry => entry.isDirectory
  | .error _ => false

/-- The content of a file. -/
def read (tree : FileTree) (path : SystemText) : Except FileError ByteArray := do
  match ← tree.find path with
  | .file content => pure content
  | .directory _ => throw .isDirectory

/-- The names in a directory. -/
def list (tree : FileTree) (path : SystemText) : Except FileError (List SystemText) := do
  match ← tree.find path with
  | .file _ => throw .notDirectory
  | .directory entries => pure (entries.map Prod.fst)

/-- Where a path ends: the place of the directory before its last name, and that name. A slash
behind the name asks for a directory. -/
structure Target where
  directory : List SystemText
  name : SystemText
  asDirectory : Bool

/-- Finds the directory that a path ends in. Paths that end in a dot or in the root have no name. -/
def target (tree : FileTree) (path : SystemText) : Except FileError (Option Target) := do
  checkPath path
  let backwards := (parts path).reverse
  match backwards.dropWhile SystemText.isEmpty with
  | [] => pure none
  | name :: before =>
      let directory ← follow tree.root (tree.start path) before.reverse
      match tree.root.find? directory with
      | some (.directory _) =>
          if name = here ∨ name = above then pure none
          else if Path.maximalNameLength < name.length then throw .nameTooLong
          else pure (some ⟨directory, name, backwards.head?.any SystemText.isEmpty⟩)
      | _ => throw .notDirectory

/-- The tree with an entry in the place of a target. -/
def withEntry (tree : FileTree) (target : Target) (entry : FileEntry) : FileTree :=
  { tree with root := tree.root.put entry (target.directory ++ [target.name]) }

/-- Makes a directory whose parent is there. -/
def createDirectory (tree : FileTree) (path : SystemText) : Except FileError FileTree := do
  match ← tree.target path with
  | none => throw .alreadyPresent
  | some target =>
      match tree.root.find? (target.directory ++ [target.name]) with
      | some _ => throw .alreadyPresent
      | none => pure (tree.withEntry target .emptyDirectory)

/-- Moves a new file to a path. It takes the place of a file, but not of a directory. -/
def moveTo (tree : FileTree) (path : SystemText) (content : ByteArray) :
    Except FileError FileTree := do
  if Path.hasNul path then throw .invalid
  match ← tree.target path with
  | none => throw .busy
  | some target =>
      if target.asDirectory then throw .notDirectory
      else match tree.root.find? (target.directory ++ [target.name]) with
        | some (.directory _) => throw .isDirectory
        | _ => pure (tree.withEntry target (.file content))

/-- Puts a new file at a path. It is made in the directory of the path before it is moved. -/
def replace (tree : FileTree) (path : SystemText) (content : ByteArray) :
    Except ReplaceError FileTree :=
  let parent := (Path.parent? path).getD here
  match tree.find (if parent.isEmpty then here else parent) with
  | .error error => .error (.noTemporary error)
  | .ok (.file _) => .error (.noTemporary .notDirectory)
  | .ok (.directory _) =>
      match tree.moveTo path content with
      | .ok tree => .ok tree
      | .error error => .error (.notMoved error)

/-- Makes an empty file at a path unless there is a file. -/
def openLog (tree : FileTree) (path : SystemText) : Except FileError FileTree := do
  match tree.find path with
  | .ok (.file _) => pure tree
  | .ok (.directory _) => throw .isDirectory
  | .error .missing =>
      match ← tree.target path with
      | some target => pure (tree.withEntry target (.file .empty))
      | none => throw .isDirectory
  | .error error => throw error

/-- The operations on files, on a tree that is the state. -/
def files : Files (StateM FileTree) where
  isPresent path := do pure ((← get).isPresent path)
  isDirectory path := do pure ((← get).isDirectory path)
  read path := do pure ((← get).read path)
  createDirectory path := do
    match (← get).createDirectory path with
    | .ok tree =>
        set tree
        pure (.ok ())
    | .error error => pure (.error error)
  replace path content := do
    match (← get).replace path content with
    | .ok tree =>
        set tree
        pure (.ok ())
    | .error error => pure (.error error)
  openLog path := do
    match (← get).openLog path with
    | .ok tree =>
        set tree
        pure (.ok ())
    | .error error => pure (.error error)

end FileTree

end ClusterHosts
