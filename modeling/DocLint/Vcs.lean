/-!
# Version control

What a run needs of version control: to fetch a branch, and to list the files that changed with
respect to it.  The calls that were made are values, so that a run can be compared with its calls.
-/
namespace DocLint

inductive VcsError where
  | spawn (program source : String)
  | command (command status stderr : String)
  | output (command detail : String)
deriving DecidableEq, Repr

def VcsError.message : VcsError → String
  | .spawn program source => "failed to run " ++ program ++ ": " ++ source
  | .command call status stderr =>
    "\x60" ++ call ++ "\x60 exited with " ++ status ++ ": " ++ stderr
  | .output call detail => "unexpected output from \x60" ++ call ++ "\x60: " ++ detail

inductive VcsCall where
  | fetch (remote branch : String)
  | diff (branch : String)
deriving DecidableEq, Repr

structure Vcs where
  fetch : String → String → Except VcsError Unit
  changed : String → Except VcsError (List String)

/-- Fetch a branch, then list the changed files; with the calls that were made. -/
def Vcs.fetchAndDiff (vcs : Vcs) (remote branch : String) :
    List VcsCall × Except VcsError (List String) :=
  match vcs.fetch remote branch with
  | .error e => ([.fetch remote branch], .error e)
  | .ok () => ([.fetch remote branch, .diff branch], vcs.changed branch)

end DocLint
