import DocLint.Text.Lines

/-!
# Paths

A path is a text whose parts are separated by slashes.  Repeated slashes, inner `.` parts and a
trailing slash make no difference to where a path leads, and two paths are the same when their
components are.
-/
namespace DocLint

inductive PathComponent where
  | root
  | here
  | up
  | name (s : String)
deriving DecidableEq, Repr

namespace Path

def pieces (path : String) : List String :=
  (Text.splitOn (· == '/') path.toList).map String.ofList

def isAbsolute (path : String) : Bool :=
  path.toList.head? == some '/'

/-- The components of the pieces after the first one, where `.` and empty pieces do not count. -/
def innerComponents (pieces : List String) : List PathComponent :=
  pieces.filterMap fun piece =>
    if piece == "" || piece == "." then none
    else if piece == ".." then some .up
    else some (.name piece)

/-- The components of a path; a `.` counts only at its start. -/
def components (path : String) : List PathComponent :=
  if isAbsolute path then .root :: innerComponents (pieces path)
  else
    match pieces path with
    | "." :: rest => .here :: innerComponents rest
    | all => innerComponents all

/-- Two paths are the same when their components agree. -/
def same (a b : String) : Bool :=
  components a == components b

/-- A path below another one; an absolute path stands for itself. -/
def join (base path : String) : String :=
  if isAbsolute path then path
  else if base == "" || base.toList.getLast? == some '/' then base ++ path
  else base ++ "/" ++ path

/-- Whether the piece at the end of a path does not count: it is empty or an inner `.`. -/
def isIdle (piece : String) (before : List String) : Bool :=
  piece == "" || (piece == "." && !before.isEmpty)

def dropIdle : List String → List String
  | [] => []
  | piece :: before => if isIdle piece before then dropIdle before else piece :: before

/-- The path without its last component; none for the root and for the empty path. -/
def parent? (path : String) : Option String :=
  match dropIdle (pieces path).reverse with
  | [] => none
  | _ :: before =>
    match dropIdle before with
    | [] => some (if isAbsolute path then "/" else "")
    | kept => some ("/".intercalate kept.reverse)

def fileName? (path : String) : Option String :=
  match (components path).getLast? with
  | some (.name s) => some s
  | _ => none

/-- What follows the last dot of a file name, unless the dot starts the name. -/
def extension? (path : String) : Option String :=
  match fileName? path with
  | none => none
  | some name =>
    match (Text.splitOn (· == '.') name.toList).reverse with
    | last :: before => if before.all (·.isEmpty) && before.length ≤ 1 then none
        else some (String.ofList last)
    | [] => none

end Path
end DocLint
