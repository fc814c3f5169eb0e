import ClusterHosts.Text.System

/-! # Files

What the program does with files, and how it can fail. The program reaches files only through
`Files`, whose operations may have effects of a monad, so that it runs on a computer's files and on
a tree of files that is a value.
-/

namespace ClusterHosts

/-- Why an operation on a file fails. -/
inductive FileError where
  | missing
  | busy
  | alreadyPresent
  | notDirectory
  | isDirectory
  /-- What is asked for makes no sense. -/
  | invalid
  /-- A path, or a name in it, is longer than paths and names may be. -/
  | nameTooLong
  /-- A path has the byte NUL, which ends paths for the system. -/
  | nulInName
  /-- The content is not a text. -/
  | notText
  /-- A reason that the computer gives in its own words. -/
  | other (words : String)
  deriving DecidableEq

/-- The wording of a failure. -/
def FileError.message : FileError → String
  | .missing => "No such file or directory (os error 2)"
  | .busy => "Device or resource busy (os error 16)"
  | .alreadyPresent => "File exists (os error 17)"
  | .notDirectory => "Not a directory (os error 20)"
  | .isDirectory => "Is a directory (os error 21)"
  | .invalid => "Invalid argument (os error 22)"
  | .nameTooLong => "File name too long (os error 36)"
  | .nulInName => "file name contained an unexpected NUL byte"
  | .notText => "stream did not contain valid UTF-8"
  | .other words => words

/-- Why a file cannot be replaced. -/
inductive ReplaceError where
  /-- No new file can be made beside it. -/
  | noTemporary (cause : FileError)
  /-- The new file, which has a path of its own, cannot be filled. -/
  | notWritten (temporary : SystemText) (cause : FileError)
  /-- The new file cannot take its place. -/
  | notMoved (cause : FileError)
  deriving DecidableEq

/-- Ways to reach files. -/
structure Files (m : Type → Type) where
  /-- Whether there is a file or directory at a path. -/
  isPresent : SystemText → m Bool
  /-- Whether there is a directory at a path. -/
  isDirectory : SystemText → m Bool
  /-- The content of a file. -/
  read : SystemText → m (Except FileError ByteArray)
  /-- Makes a directory in one that is there. -/
  createDirectory : SystemText → m (Except FileError Unit)
  /-- Puts a new file at a path; the old one stays until the new one is complete. -/
  replace : SystemText → ByteArray → m (Except ReplaceError Unit)
  /-- Makes a file if it is missing, so that lines can be added to it. -/
  openLog : SystemText → m (Except FileError Unit)

/-- The text that a file holds. -/
def Files.readText {m : Type → Type} [Monad m] (files : Files m) (path : SystemText) :
    m (Except FileError String) := do
  match ← files.read path with
  | .error error => pure (.error error)
  | .ok bytes =>
      match String.fromUTF8? bytes with
      | some text => pure (.ok text)
      | none => pure (.error .notText)

end ClusterHosts

namespace ClusterHosts.Path

/-! ## Paths

A path is a text of the system whose parts are separated by slashes. Slashes at the end count for
nothing, nor does a single dot behind a slash. A path that starts with a slash is absolute. The
lengths of paths and names are bounded, in bytes.
-/

/-- The byte that separates the parts of a path. -/
def slash : UInt8 := 0x2F

/-- The byte of a dot. -/
def dot : UInt8 := 0x2E

/-- Whether a path starts at the root. -/
def isAbsolute (path : SystemText) : Bool := path.bytes.head? == some slash

/-- The most bytes that a path may have. -/
def maximalLength : Nat := 4095

/-- The most bytes that a name in a path may have. -/
def maximalNameLength : Nat := 255

/-- Whether a path has the byte NUL. -/
def hasNul (path : SystemText) : Bool := path.bytes.contains 0

/-- The path of something in a directory. -/
def join (directory name : SystemText) : SystemText :=
  if isAbsolute name || directory.isEmpty then name
  else if directory.bytes.getLast? == some slash then ⟨directory.bytes ++ name.bytes⟩
  else ⟨directory.bytes ++ slash :: name.bytes⟩

/-- A path, written backwards, without what counts for nothing at its end. -/
def trimEnd : List UInt8 → List UInt8
  | [] => []
  | [byte] => [byte]
  | byte :: next :: rest =>
      if byte = slash ∨ byte = dot ∧ next = slash then trimEnd (next :: rest)
      else byte :: next :: rest

/-- The directory that a path lies in. The empty path and the root lie in none; a name alone lies in
the directory with the empty path. -/
def parent? (path : SystemText) : Option SystemText :=
  let backwards := trimEnd path.bytes.reverse
  if backwards = [] ∨ backwards = [slash] then none
  else some ⟨(trimEnd (backwards.dropWhile (· != slash))).reverse⟩

end ClusterHosts.Path

namespace ClusterHosts.Files

/-! ## Making directories

A directory is made together with those that it is in, so far as they are missing. What is there
already is left as it is; what was made before a failure stays.
-/

variable {m : Type → Type} [Monad m]

/-- Makes a directory unless it is there. The one that it is in must be there. -/
def ensureDirectory (files : Files m) (path : SystemText) : m (Except FileError Unit) := do
  match ← files.createDirectory path with
  | .ok () => pure (.ok ())
  | .error error => if ← files.isDirectory path then pure (.ok ()) else pure (.error error)

/-- Makes a directory and those before it on its path, in a number of steps upwards that is at least
the number of its parts. -/
def createUpwards (files : Files m) : Nat → SystemText → m (Except FileError Unit)
  | 0, _ => pure (.error .missing)
  | steps + 1, path =>
      if path.isEmpty then pure (.ok ())
      else do
        match ← files.ensureDirectory path with
        | .ok () => pure (.ok ())
        | .error .missing =>
            match Path.parent? path with
            | none => pure (.error .missing)
            | some parent =>
                match ← files.createUpwards steps parent with
                | .error error => pure (.error error)
                | .ok () => files.ensureDirectory path
        | .error error => pure (.error error)

/-- Makes a directory and those that it is in, so far as they are missing. -/
def createDirectories (files : Files m) (path : SystemText) : m (Except FileError Unit) :=
  files.createUpwards (path.length + 1) path

end ClusterHosts.Files
