import ScriptLex.Error
/-!
# A file system

The files a run can read: each file at an absolute path, given as its components, with its
bytes. The directories are the root, the working directory and its ancestors, every proper
prefix of a file's path, and the directories recorded as such with their ancestors. A path is
resolved component by component from the root or from the working directory: `.` stays, `..`
goes to the parent, and a component after a file is an error. Reading a text decodes the bytes
as UTF-8.
-/

namespace ScriptLex

/-- Files by absolute path, the working directory, and directories known to exist though no
known file lies in them. -/
structure FileSystem where
  files : List (List String × List UInt8) := []
  cwd : List String := []
  dirs : List (List String) := []
  deriving Inhabited

/-- What a path leads to. -/
inductive Node where
  | file (bytes : List UInt8)
  | directory
  deriving Inhabited

namespace FileSystem

/-- What lies at an absolute path, if anything. -/
def node? (fs : FileSystem) (at_ : List String) : Option Node :=
  match fs.files.find? (·.1 == at_) with
  | some (_, bytes) => some (.file bytes)
  | none =>
    if at_.isPrefixOf fs.cwd || fs.files.any (fun f => at_.isPrefixOf f.1) ||
        fs.dirs.any (at_.isPrefixOf ·) then some .directory
    else none

/-- The components of a path: its texts between slashes, empty ones included. -/
def components (path : String) : List String := (path.toList.splitOn '/').map String.ofList

/-- The absolute components a path names, read without looking at the files: empty and `.`
components stay, `..` goes to the parent. -/
def locate (fs : FileSystem) (path : String) : List String :=
  let start := if path.startsWith "/" then [] else fs.cwd
  (components path).foldl (fun here c =>
    if c == "" || c == "." then here else if c == ".." then here.dropLast else here ++ [c]) start

/-- Places a file at a path, replacing the file there. -/
def add (fs : FileSystem) (path : String) (bytes : List UInt8) : FileSystem :=
  let at_ := fs.locate path
  { fs with files := (at_, bytes) :: fs.files.filter (·.1 != at_) }

/-- Records a directory at a path. -/
def addDirectory (fs : FileSystem) (path : String) : FileSystem :=
  { fs with dirs := fs.locate path :: fs.dirs }

/-- Walks the components of a path from a directory. -/
def walk (fs : FileSystem) : List String → List String → Except ReadFailure (List String)
  | here, [] => .ok here
  | here, c :: rest =>
    match fs.node? here with
    | none => .error .notFound
    | some (.file _) => .error .notDirectory
    | some .directory =>
      if c == "" || c == "." then walk fs here rest
      else if c == ".." then walk fs here.dropLast rest
      else walk fs (here ++ [c]) rest

/-- Resolves a path: the absolute path it names and what lies there. -/
def resolve (fs : FileSystem) (path : String) : Except ReadFailure (List String × Node) := do
  if path.isEmpty then throw .notFound
  let comps := components path
  let start := if path.startsWith "/" then [] else fs.cwd
  let at_ ← fs.walk start comps
  match fs.node? at_ with
  | none => throw .notFound
  | some (.file bytes) =>
    -- a path that ends in a slash must name a directory
    if path.endsWith "/" then throw .notDirectory else pure (at_, .file bytes)
  | some .directory => pure (at_, .directory)

/-- Something exists at the path. -/
def isPresent (fs : FileSystem) (path : String) : Bool :=
  match fs.resolve path with
  | .ok _ => true
  | .error _ => false

/-- The bytes of the file at the path. -/
def readBytes (fs : FileSystem) (path : String) : Except ReadFailure (List UInt8) := do
  match (← fs.resolve path).2 with
  | .file bytes => pure bytes
  | .directory => throw .isDirectory

end FileSystem

/-- Decodes UTF-8 bytes into a text. -/
def decodeUtf8 (bytes : List UInt8) : Except ReadFailure String :=
  match String.fromUTF8? ⟨bytes.toArray⟩ with
  | some s => .ok s
  | none => .error .invalidUtf8

/-- The text of the file at the path. -/
def FileSystem.readText (fs : FileSystem) (path : String) : Except ReadFailure String := do
  decodeUtf8 (← fs.readBytes path)

/-- A path with a relative name joined on: a separator goes between them unless the path is empty
or already ends in one. -/
def joinPath (dir name : String) : String :=
  if dir.isEmpty || dir.endsWith "/" then dir ++ name else dir ++ "/" ++ name

end ScriptLex
