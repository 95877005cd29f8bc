import DocLint.CommandLine.Paths
import DocLint.CommandLine.Run
import Std.Time.DateTime.Timestamp

/-!
# The program

Reads the files that a command may need into a tree, does the command, and writes what it says.  No
other programs are run, so version control is reported as a program that cannot be started.
-/
namespace DocLint.Program

/-- The node of a path on disk.  A link to a file counts as the file, and what cannot be read as a
link that leads nowhere. -/
partial def readNode (path : String) : IO Node := do
  try
    let real ← IO.FS.realPath path
    if ← real.isDir then
      let mut entries : List (String × Node) := []
      let found ← real.readDir
      for entry in found do
        let name := entry.fileName
        let linked := (← entry.path.symlinkMetadata).type == .symlink
        if FileTree.skippedDirectories.contains name then
          entries := Node.putEntry entries name (.directory [])
        else if linked && (← entry.path.isDir) then
          entries := Node.putEntry entries name (.link (← IO.FS.realPath entry.path).toString)
        else
          entries := Node.putEntry entries name (← readNode entry.path.toString)
      return .directory entries
    else
      return .file (← IO.FS.readBinFile path).toList
  catch _ => return .link ""

/-- Put a node at a path without steps upwards, over what is there. -/
def graft (tree : FileTree) (path : String) (node : Node) : FileTree :=
  match tree.makePlace path with
  | (tree, some place) => { tree with root := tree.root.put place node }
  | (tree, none) =>
    let place := if Path.isAbsolute path then [] else tree.workDir
    { tree with root := tree.root.put place node }

/-- The absolute path of what a path names, which may be a link. -/
def named (path : String) : IO String := do
  match Path.parent? path, Path.fileName? path with
  | some parent, some name =>
    let directory ← IO.FS.realPath (if parent == "" then "." else parent)
    return Path.join directory.toString name
  | _, _ => return (← IO.FS.realPath path).toString

/-- Read what is at a path into a tree, if there is anything: under its own name, and where it leads
to. -/
def readInto (tree : FileTree) (path : String) : IO FileTree := do
  try
    let real ← IO.FS.realPath path
    let node ← readNode path
    let tree := graft (graft tree real.toString node) (← named path) node
    return if (Path.pieces path).contains ".." then tree else graft tree path node
  catch _ => return tree

def readClock : IO Calendar.Instant := do
  let now ← Std.Time.Timestamp.now
  return Calendar.Instant.atMillis now.toMillisecondsSinceUnixEpoch.val

def readFiles (words : List String) : IO FileTree := do
  let workDir := (Path.pieces (← IO.currentDir).toString).filter (· != "")
  let empty : Node := .directory []
  let mut tree : FileTree := ⟨empty.put workDir empty, workDir⟩
  match CommandLine.Invocation.ofWords words with
  | .error _ => return tree
  | .ok invocation =>
    for path in invocation.command.paths do
      tree ← readInto tree path
    match invocation.command with
    | .parse _ _ => return tree
    | .validate config _ _ =>
      match CommandLine.loadConfiguration tree config with
      | .error _ => return tree
      | .ok configuration =>
        for path in configuration.paths do
          tree ← readInto tree path
        return tree

def run (words : List String) : IO UInt32 := do
  let machine : CommandLine.Machine :=
    ⟨← readFiles words, fun _ _ _ => .error .permissionDenied, ← readClock⟩
  let stdout ← IO.getStdout
  let coloured := (← IO.getEnv "NO_COLOR").isNone && (← stdout.isTty)
  let finish := CommandLine.run machine coloured words
  stdout.putStr finish.stdout
  stdout.flush
  (← IO.getStderr).putStr finish.stderr
  return finish.exit.toUInt32

end DocLint.Program

/-- Do what the words of the command line ask for. -/
def main (words : List String) : IO UInt32 :=
  DocLint.Program.run words
