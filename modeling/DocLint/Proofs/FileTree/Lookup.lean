import DocLint.Proofs.FileTree.Entries
import DocLint.Proofs.FileTree.PathParts

/-!
# Looking paths up

Following a path is described by what one step does and by how steps are chained. Looking up
succeeds exactly if the steps of a path lead somewhere, so that a path can be cut into parts that
are followed one after the other, and steps that stay where they are can be left out.
-/
namespace DocLint.FileTree

/-- What one step does at a place with some links left to follow: it leads to a place, with links
left and with steps that a link puts in front of the others. -/
inductive Advance (tree : FileTree) :
    Nat → List String → String → Nat → List String → List String → Prop
  | here {links : Nat} {place : List String} {entries : List (String × Node)}
      (inside : tree.root.at? place.reverse = some (.directory entries)) :
      Advance tree links place "." links place []
  | up {links : Nat} {place : List String} {entries : List (String × Node)}
      (inside : tree.root.at? place.reverse = some (.directory entries)) :
      Advance tree links place ".." links place.tail []
  | into {links : Nat} {place : List String} {entries : List (String × Node)} {step : String}
      {node : Node} (inside : tree.root.at? place.reverse = some (.directory entries))
      (ne_here : step ≠ ".") (ne_up : step ≠ "..") (fits : (Path.bytes step).length ≤ maxName)
      (child : Node.child? entries step = some node) (solid : ∀ target, node ≠ .link target) :
      Advance tree links place step links (step :: place) []
  | through {links : Nat} {place : List String} {entries : List (String × Node)}
      {step target : String} (inside : tree.root.at? place.reverse = some (.directory entries))
      (ne_here : step ≠ ".") (ne_up : step ≠ "..") (fits : (Path.bytes step).length ≤ maxName)
      (child : Node.child? entries step = some (.link target)) (ne_empty : target ≠ "") :
      Advance tree (links + 1) place step links (if Path.isAbsolute target then [] else place)
        (steps target)

/-- Steps lead from a place with some links left to follow to another place with some left. -/
inductive Reaches (tree : FileTree) : Nat → List String → List String → Nat → List String → Prop
  | done {links : Nat} {place : List String} : Reaches tree links place [] links place
  | step {links links' left : Nat} {place place' more rest found : List String} {step : String}
      (first : Advance tree links place step links' place' more)
      (next : Reaches tree links' place' (more ++ rest) left found) :
      Reaches tree links place (step :: rest) left found

variable {tree : FileTree} {links links' left : Nat}
  {place place' path found more rest xs ys : List String} {step : String}

/-- What a directory has under a name is what is at the place of that name. -/
theorem at?_reverse_cons {entries : List (String × Node)}
    (inside : tree.root.at? place.reverse = some (.directory entries)) (step : String) :
    tree.root.at? (step :: place).reverse = Node.child? entries step := by
  rw [List.reverse_cons, Node.at?_append, inside, Option.bind_some, Node.at?]
  cases Node.child? entries step with
  | none => rfl
  | some child => cases child <;> rfl

theorem follow_nil (last : Bool) : tree.follow last links place [] = .ok place := by
  cases links <;> rfl

/-- Of a path the first step is taken, and the others from where it leads. -/
theorem follow_cons (last : Bool) : tree.follow last links place (step :: rest) =
    match tree.root.at? place.reverse with
    | some (.directory entries) =>
      if step == "." then tree.follow last links place rest
      else if step == ".." then tree.follow last links place.tail rest
      else if (Path.bytes step).length > maxName then .error .nameTooLong
      else
        match Node.child? entries step with
        | none => .error .notFound
        | some (.link target) =>
          if rest.isEmpty && !last then .ok (step :: place)
          else
            match links with
            | 0 => .error .tooManyLinks
            | links + 1 =>
              if target == "" then .error .notFound
              else
                let start := if Path.isAbsolute target then [] else place
                tree.follow last links start (steps target ++ rest)
        | some _ => tree.follow last links (step :: place) rest
    | some _ => .error .notADirectory
    | none => .error .notFound := by
  cases links <;> rfl

theorem follow_of_advance (first : Advance tree links place step links' place' more) :
    tree.follow true links place (step :: rest) =
      tree.follow true links' place' (more ++ rest) := by
  cases first with
  | here inside => simp [follow_cons, inside]
  | up inside => simp [follow_cons, inside]
  | @into _ _ _ _ node inside ne_here ne_up fits child solid =>
    cases node with
    | link target => exact absurd rfl (solid target)
    | file bytes => simp [follow_cons, inside, ne_here, ne_up, Nat.not_lt.mpr fits, child]
    | directory entries => simp [follow_cons, inside, ne_here, ne_up, Nat.not_lt.mpr fits, child]
  | through inside ne_here ne_up fits child ne_empty =>
    simp [follow_cons, inside, ne_here, ne_up, Nat.not_lt.mpr fits, child, ne_empty]

/-- A step is taken in a directory. -/
theorem Advance.inside (first : Advance tree links place step links' place' more) :
    ∃ entries, tree.root.at? place.reverse = some (.directory entries) := by
  cases first <;> exact ⟨_, by assumption⟩

/-- A step does not need the links that it leaves. -/
theorem Advance.add_links (first : Advance tree links place step links' place' more) (extra : Nat) :
    Advance tree (links + extra) place step (links' + extra) place' more := by
  cases first with
  | here inside => exact .here inside
  | up inside => exact .up inside
  | into inside ne_here ne_up fits child solid => exact .into inside ne_here ne_up fits child solid
  | through inside ne_here ne_up fits child ne_empty =>
    rw [Nat.succ_add_eq_add_succ]
    exact .through inside ne_here ne_up fits child ne_empty

theorem Advance.links_le (first : Advance tree links place step links' place' more) :
    links' ≤ links := by
  cases first <;> omega

/-- A step that stays where it is changes nothing. -/
theorem eq_of_advance_here (first : Advance tree links place "." links' place' more) :
    links' = links ∧ place' = place ∧ more = [] := by
  generalize here : "." = step at first
  cases first with
  | here => exact ⟨rfl, rfl, rfl⟩
  | up => exact absurd here (by decide)
  | into _ ne_here => exact absurd here.symm ne_here
  | through _ ne_here => exact absurd here.symm ne_here

theorem follow_of_reaches (reaches : Reaches tree links place path left found) :
    tree.follow true links place path = .ok found := by
  induction reaches with
  | done => rw [follow_nil]
  | step first _ ih => rw [follow_of_advance first, ih]

theorem reaches_of_follow {links : Nat} {place path found : List String}
    (followed : tree.follow true links place path = .ok found) :
    ∃ left, Reaches tree links place path left found := by
  match path with
  | [] =>
    rw [follow_nil] at followed
    cases followed
    exact ⟨links, .done⟩
  | step :: rest =>
    rw [follow_cons] at followed
    split at followed
    case h_2 => cases followed
    case h_3 => cases followed
    case h_1 entries inside =>
      split at followed
      case isTrue here =>
        obtain ⟨left, next⟩ := reaches_of_follow followed
        rw [beq_iff_eq] at here
        subst here
        exact ⟨left, .step (.here inside) next⟩
      case isFalse ne_here =>
        rw [beq_iff_eq] at ne_here
        split at followed
        case isTrue up =>
          obtain ⟨left, next⟩ := reaches_of_follow followed
          rw [beq_iff_eq] at up
          subst up
          exact ⟨left, .step (.up inside) next⟩
        case isFalse ne_up =>
          rw [beq_iff_eq] at ne_up
          split at followed
          case isTrue => cases followed
          case isFalse fits =>
            rw [gt_iff_lt, Nat.not_lt] at fits
            split at followed
            case h_1 => cases followed
            case h_2 target child =>
              rw [Bool.not_true, Bool.and_false, if_neg Bool.false_ne_true] at followed
              cases links with
              | zero => cases followed
              | succ links =>
                dsimp only at followed
                split at followed
                case isTrue => cases followed
                case isFalse ne_empty =>
                  rw [beq_iff_eq] at ne_empty
                  obtain ⟨left, next⟩ := reaches_of_follow followed
                  exact ⟨left, .step (.through inside ne_here ne_up fits child ne_empty) next⟩
            case h_3 node solid child =>
              obtain ⟨left, next⟩ := reaches_of_follow followed
              exact ⟨left, .step (.into inside ne_here ne_up fits child solid) next⟩
termination_by (links, path.length)

namespace Reaches

variable {last : List String} {remaining : Nat}

theorem append (first : Reaches tree links place xs left found)
    (second : Reaches tree left found ys remaining last) :
    Reaches tree links place (xs ++ ys) remaining last := by
  induction first with
  | done => exact second
  | step advance _ ih => exact .step advance (List.append_assoc .. ▸ ih second)

theorem split (whole : Reaches tree links place (xs ++ ys) remaining last) :
    ∃ left found, Reaches tree links place xs left found ∧
      Reaches tree left found ys remaining last := by
  generalize eq : xs ++ ys = path at whole
  induction whole generalizing xs with
  | done =>
    obtain ⟨rfl, rfl⟩ := List.append_eq_nil_iff.mp eq
    exact ⟨_, _, .done, .done⟩
  | step advance next ih =>
    cases xs with
    | nil =>
      rw [List.nil_append] at eq
      exact ⟨_, _, .done, eq ▸ .step advance next⟩
    | cons x xs =>
      rw [List.cons_append] at eq
      obtain ⟨rfl, rfl⟩ := List.cons.inj eq
      obtain ⟨left, found, first, second⟩ := ih (List.append_assoc ..)
      exact ⟨left, found, .step advance first, second⟩

/-- Steps lead to the same place when more links may be followed. -/
theorem add_links (reaches : Reaches tree links place path left found) (extra : Nat) :
    Reaches tree (links + extra) place path (left + extra) found := by
  induction reaches with
  | done => exact .done
  | step first _ ih => exact .step (first.add_links extra) ih

theorem left_le (reaches : Reaches tree links place path left found) : left ≤ links := by
  induction reaches with
  | done => exact Nat.le_refl _
  | step first _ ih => exact Nat.le_trans ih first.links_le

/-- Where steps lead to does not depend on how they are taken. -/
theorem found_unique {left' : Nat} {found' : List String}
    (one : Reaches tree links place path left found)
    (other : Reaches tree links place path left' found') : found = found' :=
  Except.ok.inj ((follow_of_reaches one).symm.trans (follow_of_reaches other))

end Reaches

/-- Where a step leads without a link is no link. -/
theorem Advance.solid (first : Advance tree links place step links' place' []) (target : String) :
    tree.root.at? place'.reverse ≠ some (.link target) := by
  generalize nothing : [] = more at first
  cases first with
  | here inside =>
    rw [inside]
    simp
  | up inside =>
    cases place with
    | nil =>
      rw [List.tail_nil, inside]
      simp
    | cons name above =>
      rw [List.reverse_cons] at inside
      obtain ⟨entries, outside⟩ := Node.directory_of_at? (List.cons_ne_nil _ _) inside
      rw [List.tail_cons, outside]
      simp
  | into inside _ _ _ child solid =>
    rw [at?_reverse_cons inside, child, ne_eq, Option.some.injEq]
    exact solid target
  | through _ _ _ _ _ ne_empty => exact absurd nothing.symm (steps_ne_nil ne_empty)

/-- Steps lead to a file or to a directory, not to a link. -/
theorem Reaches.solid (reaches : Reaches tree links place path left found) (ne : path ≠ [])
    (target : String) : tree.root.at? found.reverse ≠ some (.link target) := by
  induction reaches with
  | done => exact absurd rfl ne
  | @step _ _ _ _ _ more rest _ _ first next ih =>
    by_cases last : more ++ rest = []
    · obtain ⟨rfl, rfl⟩ := List.append_eq_nil_iff.mp last
      cases next
      exact first.solid target
    · exact ih last

inductive Thinned : List String → List String → Prop
  | nil : Thinned [] []
  | keep {xs ys : List String} (step : String) : Thinned xs ys → Thinned (step :: xs) (step :: ys)
  | drop {xs ys : List String} : Thinned xs ys → Thinned ("." :: xs) ys

namespace Thinned

theorem refl (xs : List String) : Thinned xs xs := by
  induction xs with
  | nil => exact .nil
  | cons x xs ih => exact .keep x ih

theorem append {as bs : List String} (front : Thinned xs ys) (back : Thinned as bs) :
    Thinned (xs ++ as) (ys ++ bs) := by
  induction front with
  | nil => exact back
  | keep step _ ih => exact .keep step ih
  | drop _ ih => exact .drop ih

theorem filter (xs : List String) : Thinned xs (xs.filter (· != ".")) := by
  induction xs with
  | nil => exact .nil
  | cons x xs ih =>
    by_cases here : x = "."
    · subst here
      exact .drop ih
    · rw [List.filter_cons_of_pos (by simpa using here)]
      exact .keep x ih

/-- Steps that stay where they are may be left out. -/
theorem reaches (thinned : Thinned xs ys) (whole : Reaches tree links place xs left found) :
    Reaches tree links place ys left found := by
  induction whole generalizing ys with
  | done =>
    cases thinned
    exact .done
  | step advance next ih =>
    cases thinned with
    | keep _ rest => exact .step advance (ih ((refl _).append rest))
    | drop rest =>
      obtain ⟨rfl, rfl, rfl⟩ := eq_of_advance_here advance
      exact ih rest

end Thinned

def origin (tree : FileTree) (path : String) : List String :=
  if Path.isAbsolute path then [] else tree.workDir.reverse

theorem locate_eq {path : String} (ne : path ≠ "") : tree.locate true path =
    (tree.follow true maxLinks (tree.origin path) (steps path)).map List.reverse := by
  rw [locate, if_neg (by simpa using ne), ← origin]

theorem locate_eq_ok_iff {path : String} {there : List String} :
    tree.locate true path = .ok there ↔ path ≠ "" ∧
      ∃ left, Reaches tree maxLinks (tree.origin path) (steps path) left there.reverse := by
  constructor
  · intro located
    have ne : path ≠ "" := by
      rintro rfl
      cases located
    rw [locate_eq ne] at located
    cases followed : tree.follow true maxLinks (tree.origin path) (steps path) with
    | error e =>
      rw [followed] at located
      cases located
    | ok found =>
      rw [followed] at located
      cases located
      obtain ⟨left, reaches⟩ := reaches_of_follow followed
      exact ⟨ne, left, by rwa [List.reverse_reverse]⟩
  · rintro ⟨ne, left, reaches⟩
    rw [locate_eq ne, follow_of_reaches reaches, Except.map, List.reverse_reverse]

theorem resolve_eq {path : String} (ne : path ≠ "") : tree.resolve path =
    match tree.follow true maxLinks (tree.origin path) (steps path) with
    | .error e => .error e
    | .ok found =>
      match tree.root.at? found.reverse with
      | some node => .ok node
      | none => .error .notFound := by
  rw [resolve, locate, if_neg (by simpa using ne), ← origin]
  dsimp only
  cases tree.follow true maxLinks (tree.origin path) (steps path) <;> rfl

theorem resolve_eq_ok_iff {path : String} {node : Node} : tree.resolve path = .ok node ↔
    path ≠ "" ∧ ∃ left place, Reaches tree maxLinks (tree.origin path) (steps path) left place ∧
      tree.root.at? place.reverse = some node := by
  constructor
  · intro resolved
    have ne : path ≠ "" := by
      rintro rfl
      cases resolved
    rw [resolve_eq ne] at resolved
    split at resolved
    case h_1 => cases resolved
    case h_2 found followed =>
      split at resolved
      case h_2 => cases resolved
      case h_1 last reached =>
        cases resolved
        obtain ⟨left, reaches⟩ := reaches_of_follow followed
        exact ⟨ne, left, found, reaches, reached⟩
  · rintro ⟨ne, left, place, reaches, reached⟩
    rw [resolve_eq ne, follow_of_reaches reaches]
    simp only [reached]

/-- The step that a slash at the end stands for may be left out. -/
theorem thinned_steps (path : String) : Thinned (steps path) (Path.strides path) := by
  obtain ⟨tail, idle, eq⟩ := steps_eq_strides_append path
  have drop : Thinned tail [] := by
    rcases idle with rfl | rfl
    · exact .nil
    · exact .drop .nil
  rw [eq]
  simpa using (Thinned.refl (Path.strides path)).append drop

theorem reaches_of_resolve {base : String} {node : Node} (resolved : tree.resolve base = .ok node) :
    base ≠ "" ∧ ∃ left place,
      Reaches tree maxLinks (tree.origin base) (Path.strides base) left place ∧
        tree.root.at? place.reverse = some node := by
  obtain ⟨ne, left, place, reaches, found⟩ := resolve_eq_ok_iff.mp resolved
  exact ⟨ne, left, place, (thinned_steps base).reaches reaches, found⟩

theorem isFile_iff {path : String} :
    tree.isFile path = true ↔ ∃ bytes, tree.resolve path = .ok (.file bytes) := by
  rw [isFile]
  constructor
  · intro file
    split at file
    case h_1 bytes resolved => exact ⟨bytes, resolved⟩
    case h_2 => cases file
  · rintro ⟨bytes, resolved⟩
    rw [resolved]

theorem resolve_eq_ok_iff_located {path : String} {node : Node} : tree.resolve path = .ok node ↔
    ∃ names, tree.locate true path = .ok names ∧ tree.root.at? names = some node := by
  simp only [resolve, bind, Except.bind]
  cases tree.locate true path with
  | error e => simp
  | ok found =>
    cases reached : tree.root.at? found with
    | none => simp [reached]
    | some other => simp [reached]

theorem isFile_iff_located {path : String} : tree.isFile path = true ↔ ∃ names bytes,
    tree.locate true path = .ok names ∧ tree.root.at? names = some (.file bytes) := by
  simp only [isFile_iff, resolve_eq_ok_iff_located]
  exact exists_comm

/-- A path that denotes something denotes a file or a directory. -/
theorem file_or_directory_of_exists {path : String} (present : tree.exists? path = true) :
    tree.isFile path = true ∨ ∃ entries, tree.resolve path = .ok (.directory entries) := by
  cases resolved : tree.resolve path with
  | error e =>
    rw [exists?, resolved] at present
    cases present
  | ok node =>
    cases node with
    | file bytes => exact .inl (isFile_iff.mpr ⟨bytes, resolved⟩)
    | directory entries => exact .inr ⟨entries, rfl⟩
    | link target =>
      obtain ⟨ne, _, _, reaches, reached⟩ := resolve_eq_ok_iff.mp resolved
      exact absurd reached (reaches.solid (steps_ne_nil ne) target)

end DocLint.FileTree
