import DocLint.FileTree.Basic

/-!
# Walking a file tree

The paths of the files below a directory, depth first, the entries of each directory in the byte
order of their names.  Links to files count as files, links to directories are not entered, and
directories of version-control data are skipped.
-/
namespace DocLint.FileTree

def skippedDirectories : List String := [".git"]

mutual
/-- The paths of the files at and below a node; `isFile` tells whether a link's path denotes a
file. -/
def filesAt (isFile : String → Bool) (path name : String) : Node → List String
  | .file _ => [path]
  | .link _ => if isFile path then [path] else []
  | .directory entries =>
    if skippedDirectories.contains name then [] else filesBelow isFile path entries

def filesBelow (isFile : String → Bool) (directory : String) : List (String × Node) → List String
  | [] => []
  | (name, node) :: rest =>
    filesAt isFile (Path.join directory name) name node ++ filesBelow isFile directory rest
end

/-- The paths of all files below a directory, which may itself be reached by a link. -/
def walk (tree : FileTree) (base : String) : List String :=
  match tree.resolve base with
  | .ok (.directory entries) => filesBelow tree.isFile base entries
  | _ => []

end DocLint.FileTree
