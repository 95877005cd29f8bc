import DocLint.FileTree.Walk
import DocLint.PathFilter

/-!
# The scope of a run

The list of files that a run looks at, in the order of its report.  Either all files at or below
the base that pass a filter, or those of them that version control reports as changed.
-/
namespace DocLint.Scope

/-- The files at or below a base that pass a filter.  A base that is a file is taken as it is. -/
def matchingFiles (tree : FileTree) (base : String) (filter : PathFilter) : List String :=
  if tree.isFile base then [base] else (tree.walk base).filter filter.admits

def rootOf (tree : FileTree) (base : String) : String :=
  if tree.isFile base then (Path.parent? base).getD base else base

/-- Keep the first of several paths that are the same. -/
def distinctPaths (paths : List String) : List String :=
  (paths.foldl (fun kept path => if kept.any (Path.same path) then kept else path :: kept)
    []).reverse

/-- The reported paths that exist and pass a filter, without repetitions. -/
def changedFiles (tree : FileTree) (base : String) (filter : PathFilter) (reported : List String) :
    List String :=
  let root := rootOf tree base
  distinctPaths ((reported.map (Path.join root)).filter fun path =>
    tree.exists? path && filter.admits path)

/-- The scope of a run, with the calls that were made to version control. -/
def resolve (tree : FileTree) (vcs : Vcs) (base : String) (mode : Mode) (options : ModeOptions) :
    List VcsCall × Except SetupError (List String) :=
  if !tree.exists? base then ([], .error (.missingBase base))
  else
    match options.fileFilter with
    | .error e => ([], .error e)
    | .ok filter =>
      match mode with
      | .matching => ([], .ok (matchingFiles tree base filter))
      | .changed =>
        let (calls, reported) := vcs.fetchAndDiff options.remoteName options.branchName
        match reported with
        | .error e => (calls, .error (.scope e))
        | .ok reported => (calls, .ok (changedFiles tree base filter reported))

end DocLint.Scope
