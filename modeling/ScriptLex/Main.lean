import ScriptLex.Program
/-!
# The command line

The program on a real system. Everything it needs is gathered first: the arguments, the
variables of its environment in their order, the home directory that the user database gives,
all of standard input, and every file the run may read (the files named, the configuration
files, and the files that `.load` lines of the session name). The run itself is `Program.run`;
what it writes is then printed, and its status returned.
-/

namespace ScriptLex.Main

/-- The variables of an environment block, in its order: entries end in a NUL byte, and each
is split at the first `=` after its first character, so a name may start with `=`. An entry
with no such `=` is passed over, and so is one that is not UTF-8. -/
def environVariables (block : List UInt8) : List (String × String) :=
  (block.splitOn 0).filterMap fun entry => do
    let text ← String.fromUTF8? ⟨entry.toArray⟩
    match text.toList with
    | [] => none
    | c :: rest =>
      match rest.span (· != '=') with
      | (name, _ :: value) => some (String.ofList (c :: name), String.ofList value)
      | (_, []) => none

/-- The real user id in the text of the process status. -/
def realUid? (status : String) : Option String :=
  (status.splitOn "\n").findSome? fun line =>
    match line.toList with
    | 'U' :: 'i' :: 'd' :: ':' :: rest =>
      let digits := (rest.dropWhile Char.isWhitespace).takeWhile Char.isDigit
      if digits.isEmpty then none else some (String.ofList digits)
    | _ => none

/-- The home directory of the first entry of a user database in the `passwd` layout whose
user id is `uid`; an empty one counts as none. -/
def passwdHome? (passwd uid : String) : Option String := do
  let line ← (passwd.splitOn "\n").find? fun line => (line.splitOn ":")[2]? == some uid
  let home ← (line.splitOn ":")[5]?
  if home.isEmpty then none else some home

/-- The files that `.load` lines of a session name. -/
def loadedPaths (stdin : List UInt8) : List String :=
  (Session.splitLines stdin).filterMap fun l => do
    let text ← String.fromUTF8? ⟨l.toArray⟩
    match Session.Command.parse? (String.ofList (Session.cleanLine text.toList)) with
    | some (.load, some path) => some path
    | _ => none

/-- Every file a run on these arguments may read. -/
def pathsRead (userHome : Option String) (vars : List (String × String)) (argv : List String)
    (stdin : List UInt8) : List String :=
  let configs := (Config.Platform.standard.globalFile? userHome vars).toList ++ [Config.projectFile]
  match CommandLine.parse argv with
  | .ok inv => configs ++ inv.config.toList ++ inv.files ++ loadedPaths stdin
  | .error _ => []

/-- Reads a stream to its end. -/
partial def readAll (h : IO.FS.Stream) (acc : ByteArray) : IO ByteArray := do
  let chunk ← h.read 65536
  if chunk.isEmpty then pure acc else readAll h (acc ++ chunk)

/-- Reads a file into the file system; a directory is recorded as one, and a file that cannot
be read is left out. -/
def gather (fs : FileSystem) (path : String) : IO FileSystem := do
  try
    let data ← IO.FS.readBinFile path
    pure (fs.add path data.toList)
  catch
    | .inappropriateType _ 21 _ => pure (fs.addDirectory path)
    | _ => pure fs

/-- The text of a file, or none when it cannot be read. -/
def readTextFile? (path : String) : IO (Option String) := do
  try
    pure (String.fromUTF8? (← IO.FS.readBinFile path))
  catch _ =>
    pure none

end ScriptLex.Main

open ScriptLex in
/-- Runs the program. -/
def main (argv : List String) : IO UInt32 := do
  let stdin := (← Main.readAll (← IO.getStdin) ByteArray.empty).toList
  let environ ← try IO.FS.readBinFile "/proc/self/environ" catch _ => pure ByteArray.empty
  let vars := Main.environVariables environ.toList
  let uid := (← Main.readTextFile? "/proc/self/status").bind Main.realUid?
  let passwd ← Main.readTextFile? "/etc/passwd"
  let userHome := do Main.passwdHome? (← passwd) (← uid)
  let cwd := ((← IO.currentDir).toString.splitOn "/").filter (· != "")
  let fs ← (Main.pathsRead userHome vars argv stdin).foldlM Main.gather { cwd }
  let (con, status) := Program.run { fs, vars, stdin, userHome } argv
  IO.print con.out
  IO.eprint con.err
  pure status.toUInt32
