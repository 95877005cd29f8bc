import DocLint.FileTree.Name
import DocLint.FileTree.Path

/-!
# Trees of files

A tree of directories, files and symbolic links, with the directory in which relative paths start.
Looking a path up follows links as an operating system does, and fails with the same errors.
-/
namespace DocLint

/-- What a name in a directory stands for.  The entries of a directory are sorted by the bytes of
their names. -/
inductive Node where
  | file (bytes : List UInt8)
  | link (target : String)
  | directory (entries : List (String × Node))

instance : Inhabited Node := ⟨.directory []⟩

inductive IoError where
  | notFound
  | permissionDenied
  | notADirectory
  | isADirectory
  | nameTooLong
  | tooManyLinks
  | notUtf8
deriving DecidableEq, Repr

def IoError.message : IoError → String
  | .notFound => "No such file or directory (os error 2)"
  | .permissionDenied => "Permission denied (os error 13)"
  | .notADirectory => "Not a directory (os error 20)"
  | .isADirectory => "Is a directory (os error 21)"
  | .nameTooLong => "File name too long (os error 36)"
  | .tooManyLinks => "Too many levels of symbolic links (os error 40)"
  | .notUtf8 => "stream did not contain valid UTF-8"

/-- A file tree and the names of the directories that lead from its root to the working
directory. -/
structure FileTree where
  root : Node
  workDir : List String

namespace Node

def child? (entries : List (String × Node)) (name : String) : Option Node :=
  (entries.find? fun e => e.1 == name).map (·.2)

/-- Put an entry into a sorted list of entries, replacing the entry of that name. -/
def putEntry : List (String × Node) → String → Node → List (String × Node)
  | [], name, node => [(name, node)]
  | (n, old) :: rest, name, node =>
    if Path.bytes name < Path.bytes n then (name, node) :: (n, old) :: rest
    else if name == n then (name, node) :: rest
    else (n, old) :: putEntry rest name node

def entries : Node → List (String × Node)
  | directory entries => entries
  | _ => []

/-- The node that a list of names leads to, without following links. -/
def at? : Node → List String → Option Node
  | node, [] => some node
  | directory entries, name :: names =>
    match child? entries name with
    | some child => child.at? names
    | none => none
  | _, _ :: _ => none

/-- Put a node where a list of names leads, making directories on the way. -/
def put (node : Node) : List String → Node → Node
  | [], new => new
  | name :: names, new =>
    let child := (child? node.entries name).getD (directory [])
    directory (putEntry node.entries name (child.put names new))

end Node

namespace FileTree

/-- How many links a lookup follows before it gives up. -/
def maxLinks : Nat := 40

def maxName : Nat := 255

/-- The steps of a path: a trailing slash requires a directory, as a final `.` does. -/
def steps (path : String) : List String :=
  let steps := (Path.pieces path).filter (· != "")
  if path.toList.getLast? == some '/' then steps ++ ["."] else steps

/-- Take steps from a place, which is given by its names in reverse, up to a link on the way; from
there `enter` goes on, with the place of the directory that has the link, its target and the steps
behind it. `last` says whether a link at the end is on the way, too. -/
def takeSteps (tree : FileTree) (last : Bool)
    (enter : List String → String → List String → Except IoError (List String)) :
    List String → List String → Except IoError (List String)
  | place, [] => .ok place
  | place, step :: rest =>
    match tree.root.at? place.reverse with
    | some (.directory entries) =>
      if step == "." then tree.takeSteps last enter place rest
      else if step == ".." then tree.takeSteps last enter place.tail rest
      else if (Path.bytes step).length > maxName then .error .nameTooLong
      else
        match Node.child? entries step with
        | none => .error .notFound
        | some (.link target) =>
          if rest.isEmpty && !last then .ok (step :: place) else enter place target rest
        | some _ => tree.takeSteps last enter (step :: place) rest
    | some _ => .error .notADirectory
    | none => .error .notFound

/-- Follow steps from a place. The number is that of the links that may still be followed. -/
def follow (tree : FileTree) (last : Bool) :
    Nat → List String → List String → Except IoError (List String)
  | 0 => tree.takeSteps last fun _ _ _ => .error .tooManyLinks
  | links + 1 => tree.takeSteps last fun place target rest =>
    if target == "" then .error .notFound
    else
      let start := if Path.isAbsolute target then [] else place
      tree.follow last links start (steps target ++ rest)

/-- The names that lead to what a path denotes, from the root on. -/
def locate (tree : FileTree) (last : Bool) (path : String) : Except IoError (List String) :=
  if path == "" then .error .notFound
  else
    let start := if Path.isAbsolute path then [] else tree.workDir.reverse
    (tree.follow last maxLinks start (steps path)).map List.reverse

/-- What a path denotes once links are followed. -/
def resolve (tree : FileTree) (path : String) : Except IoError Node := do
  let place ← tree.locate true path
  match tree.root.at? place with
  | some node => .ok node
  | none => .error .notFound

def exists? (tree : FileTree) (path : String) : Bool :=
  match tree.resolve path with
  | .ok _ => true
  | .error _ => false

/-- Whether a path denotes a regular file, or a link to one. -/
def isFile (tree : FileTree) (path : String) : Bool :=
  match tree.resolve path with
  | .ok (.file _) => true
  | _ => false

def readBytes (tree : FileTree) (path : String) : Except IoError (List UInt8) := do
  match ← tree.resolve path with
  | .file bytes => .ok bytes
  | _ => .error .isADirectory

def readText (tree : FileTree) (path : String) : Except IoError String := do
  let bytes ← tree.readBytes path
  match Text.decodeUtf8 bytes with
  | .ok text => .ok text
  | .error _ => .error .notUtf8

/-- Follow the steps of a path as far as they exist, making directories for the others. -/
def makeDirectories (tree : FileTree) : List String → List String → FileTree × List String
  | place, [] => (tree, place)
  | place, step :: rest =>
    match tree.follow true maxLinks place [step] with
    | .ok found => makeDirectories tree found rest
    | .error _ =>
      let made := step :: place
      makeDirectories { tree with root := tree.root.put made.reverse (.directory []) } made rest

/-- The place of a path, none for the root; directories on the way are made as needed, and links on
the way are followed. -/
def makePlace (tree : FileTree) (path : String) : FileTree × Option (List String) :=
  let all := (Path.pieces path).filter fun piece => piece != "" && piece != "."
  let start := if Path.isAbsolute path then [] else tree.workDir.reverse
  let (tree, parent) := makeDirectories tree start all.dropLast
  (tree, all.getLast?.map fun name => (name :: parent).reverse)

end FileTree
end DocLint
