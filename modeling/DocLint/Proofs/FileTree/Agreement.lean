import DocLint.Proofs.FileTree.Lookup

/-!
# Trees that differ in one file

Two trees that differ at one place only, where each of them has a regular file or nothing. A path
that leads to another place in the one tree leads there in the other one, too, and denotes the same;
and a path whose lookup does not come by that place is looked up alike in both, whether it leads
somewhere or not.
-/
namespace DocLint

def Node.surface : Node → Node
  | directory _ => directory []
  | node => node

/-- Nodes that look alike from outside are missing, links to the same target, or no links. -/
theorem Node.alike_cases {x y : Option Node} (alike : x.map surface = y.map surface) :
    (x = none ∧ y = none) ∨ (∃ target, x = some (.link target) ∧ y = some (.link target)) ∨
    ∃ node node', x = some node ∧ y = some node' ∧
      (∀ target, node ≠ .link target) ∧ ∀ target, node' ≠ .link target := by
  cases x with
  | none => exact .inl ⟨rfl, Option.map_eq_none_iff.mp alike.symm⟩
  | some node =>
    obtain ⟨node', rfl, same⟩ := Option.map_eq_some_iff.mp alike.symm
    cases node <;> cases node' <;> simp_all [surface]

namespace FileTree

def seenAt (tree : FileTree) (names : List String) : Option Node :=
  (tree.root.at? names).map Node.surface

/-- Two trees that differ at one place at most, where each has a regular file or nothing. -/
structure SameBut (place : List String) (t₁ t₂ : FileTree) : Prop where
  workDir_eq : t₁.workDir = t₂.workDir
  elsewhere : ∀ names, names ≠ place → t₁.seenAt names = t₂.seenAt names
  first : ∀ node, t₁.root.at? place = some node → ∃ bytes, node = .file bytes
  second : ∀ node, t₂.root.at? place = some node → ∃ bytes, node = .file bytes

variable {tree t₁ t₂ : FileTree} {there names path more rest found : List String}
  {step : String} {links links' left : Nat}

/-! ### What is seen -/

theorem seenAt_eq_directory_iff : tree.seenAt names = some (.directory []) ↔
    ∃ entries, tree.root.at? names = some (.directory entries) := by
  rw [seenAt]
  cases tree.root.at? names with
  | none => simp
  | some node => cases node <;> simp [Node.surface]

/-- What is no directory is seen as it is. -/
theorem seenAt_eq_some_iff {node : Node} (solid : ∀ entries, node ≠ .directory entries) :
    tree.seenAt names = some node ↔ tree.root.at? names = some node := by
  rw [seenAt]
  cases tree.root.at? names with
  | none => simp
  | some other =>
    cases other with
    | file bytes => rfl
    | link target => rfl
    | directory entries => simp [Node.surface, (solid _).symm]

theorem seenAt_eq_none_iff : tree.seenAt names = none ↔ tree.root.at? names = none :=
  Option.map_eq_none_iff

theorem at?_of_seenAt_eq (seen : t₁.seenAt names = t₂.seenAt names) {node : Node}
    (solid : ∀ entries, node ≠ .directory entries) (found : t₁.root.at? names = some node) :
    t₂.root.at? names = some node := by
  rwa [← seenAt_eq_some_iff solid, ← seen, seenAt_eq_some_iff solid]

theorem directory_of_seenAt_eq (seen : t₁.seenAt names = t₂.seenAt names)
    {entries : List (String × Node)} (inside : t₁.root.at? names = some (.directory entries)) :
    ∃ entries', t₂.root.at? names = some (.directory entries') := by
  rw [← seenAt_eq_directory_iff, ← seen, seenAt_eq_directory_iff]
  exact ⟨entries, inside⟩

/-- Steps that lead away from a place start in a directory. -/
theorem Reaches.stays_or_inside {place : List String}
    (reaches : Reaches tree links place path left found) :
    place = found ∨ ∃ entries, tree.root.at? place.reverse = some (.directory entries) := by
  cases reaches with
  | done => exact .inl rfl
  | step first _ => exact .inr first.inside

namespace SameBut

theorem symm (same : SameBut there t₁ t₂) : SameBut there t₂ t₁ where
  workDir_eq := same.workDir_eq.symm
  elsewhere names ne := (same.elsewhere names ne).symm
  first := same.second
  second := same.first

theorem origin_eq (same : SameBut there t₁ t₂) (path : String) :
    t₁.origin path = t₂.origin path := by
  rw [origin, origin, same.workDir_eq]

theorem directory (same : SameBut there t₁ t₂) {entries : List (String × Node)}
    (inside : t₁.root.at? names = some (.directory entries)) :
    names ≠ there ∧ ∃ entries', t₂.root.at? names = some (.directory entries') := by
  have ne : names ≠ there := by
    rintro rfl
    obtain ⟨bytes, eq⟩ := same.first _ inside
    cases eq
  exact ⟨ne, directory_of_seenAt_eq (same.elsewhere names ne) inside⟩

theorem link (same : SameBut there t₁ t₂) {target : String}
    (isLink : t₁.root.at? names = some (.link target)) :
    t₂.root.at? names = some (.link target) := by
  have ne : names ≠ there := by
    rintro rfl
    obtain ⟨bytes, eq⟩ := same.first _ isLink
    cases eq
  exact at?_of_seenAt_eq (same.elsewhere names ne) (by simp) isLink

theorem file (same : SameBut there t₁ t₂) (ne : names ≠ there) {bytes : List UInt8}
    (isFile : t₁.root.at? names = some (.file bytes)) :
    t₂.root.at? names = some (.file bytes) :=
  at?_of_seenAt_eq (same.elsewhere names ne) (by simp) isFile

/-! ### Paths that lead elsewhere -/

variable {place place' : List String}

theorem advance (same : SameBut there t₁ t₂)
    (first : Advance t₁ links place step links' place' more) (ne : place'.reverse ≠ there) :
    Advance t₂ links place step links' place' more := by
  cases first with
  | here inside =>
    obtain ⟨-, entries', inside'⟩ := same.directory inside
    exact .here inside'
  | up inside =>
    obtain ⟨-, entries', inside'⟩ := same.directory inside
    exact .up inside'
  | @into _ _ _ _ node inside ne_here ne_up fits child solid =>
    obtain ⟨-, entries', inside'⟩ := same.directory inside
    have seen := same.elsewhere _ ne
    rw [seenAt, seenAt, at?_reverse_cons inside, at?_reverse_cons inside', child] at seen
    obtain ⟨node', child', surface_eq⟩ := Option.map_eq_some_iff.mp seen.symm
    refine .into inside' ne_here ne_up fits child' ?_
    rintro target rfl
    cases node with
    | link target => exact solid target rfl
    | file bytes => cases surface_eq
    | directory entries => cases surface_eq
  | through inside ne_here ne_up fits child ne_empty =>
    obtain ⟨-, entries', inside'⟩ := same.directory inside
    have child' := same.link ((at?_reverse_cons inside step).trans child)
    rw [at?_reverse_cons inside'] at child'
    exact .through inside' ne_here ne_up fits child' ne_empty

/-- Steps that lead to another place do not come by the place where the trees differ, since they
only go on from directories. -/
theorem reaches (same : SameBut there t₁ t₂)
    (reaches : Reaches t₁ links place path left found) (ne : found.reverse ≠ there) :
    Reaches t₂ links place path left found := by
  induction reaches with
  | done => exact .done
  | @step _ _ _ _ place' _ _ _ _ first next ih =>
    have apart : place'.reverse ≠ there := by
      rcases next.stays_or_inside with rfl | ⟨entries, inside⟩
      · exact ne
      · exact (same.directory inside).1
    exact .step (same.advance first apart) (ih ne)

theorem locate (same : SameBut there t₁ t₂) {path : String}
    (located : t₁.locate true path = .ok names) (ne : names ≠ there) :
    t₂.locate true path = .ok names := by
  obtain ⟨some_path, left, reaches⟩ := locate_eq_ok_iff.mp located
  rw [locate_eq_ok_iff, ← same.origin_eq]
  exact ⟨some_path, left, same.reaches reaches (by rwa [List.reverse_reverse])⟩

end SameBut

theorem readBytes_of_located {path : String} (located : tree.locate true path = .ok names) :
    tree.readBytes path =
      match tree.seenAt names with
      | some (.file bytes) => .ok bytes
      | some _ => .error .isADirectory
      | none => .error .notFound := by
  simp only [readBytes, resolve, located, seenAt, bind, Except.bind]
  cases tree.root.at? names with
  | none => rfl
  | some node => cases node <;> rfl

theorem SameBut.readBytes_eq (same : SameBut there t₁ t₂) {path : String}
    (located : t₁.locate true path = .ok names) (ne : names ≠ there) :
    t₁.readBytes path = t₂.readBytes path := by
  rw [readBytes_of_located located, readBytes_of_located (same.locate located ne),
    same.elsewhere names ne]

/-! ### Paths that do not come by -/

/-- A step uses a link up, or none and leaves no other steps to take first. -/
theorem Advance.decreases {place place' : List String}
    (first : Advance tree links place step links' place' more) :
    links' < links ∨ links' = links ∧ more = [] := by
  cases first with
  | through => exact .inl (Nat.lt_succ_self _)
  | here => exact .inr ⟨rfl, rfl⟩
  | up => exact .inr ⟨rfl, rfl⟩
  | into => exact .inr ⟨rfl, rfl⟩

/-- Following steps comes by a place, whether it goes on from there or not. -/
inductive Visits (tree : FileTree) : Nat → List String → List String → List String → Prop
  | here {links : Nat} {place path : List String} : Visits tree links place path place
  | step {links links' : Nat} {place place' more rest visited : List String} {step : String}
      (first : Advance tree links place step links' place' more)
      (next : Visits tree links' place' (more ++ rest) visited) :
      Visits tree links place (step :: rest) visited

/-- Looking a path up does not come by a place. -/
def Avoids (tree : FileTree) (there : List String) (path : String) : Prop :=
  ¬ Visits tree maxLinks (tree.origin path) (steps path) there.reverse

theorem Reaches.visits {place : List String} (reaches : Reaches tree links place path left found) :
    Visits tree links place path found := by
  induction reaches with
  | done => exact .here
  | step first _ ih => exact .step first ih

/-- In two trees that look alike at a place and at what a step from there may lead to, the step is
taken in both, or it fails in both for the same reason. -/
theorem advance_or_fail {place : List String} (links : Nat)
    (seen : t₁.seenAt place.reverse = t₂.seenAt place.reverse)
    (child : ∀ entries entries', t₁.root.at? place.reverse = some (.directory entries) →
      t₂.root.at? place.reverse = some (.directory entries') →
      step ≠ "." → step ≠ ".." → (Path.bytes step).length ≤ maxName →
      t₁.seenAt (step :: place).reverse = t₂.seenAt (step :: place).reverse) :
    (∃ links' place' more, Advance t₁ links place step links' place' more ∧
      Advance t₂ links place step links' place' more) ∨
    ∀ rest, t₁.follow true links place (step :: rest) =
      t₂.follow true links place (step :: rest) := by
  cases inside : t₁.root.at? place.reverse with
  | none =>
    have inside' := seenAt_eq_none_iff.mp (seen.symm.trans (seenAt_eq_none_iff.mpr inside))
    exact .inr fun rest => by simp only [follow_cons, inside, inside']
  | some node =>
    cases node with
    | file bytes =>
      have inside' := at?_of_seenAt_eq seen (by simp) inside
      exact .inr fun rest => by simp only [follow_cons, inside, inside']
    | link target =>
      have inside' := at?_of_seenAt_eq seen (by simp) inside
      exact .inr fun rest => by simp only [follow_cons, inside, inside']
    | directory entries =>
      obtain ⟨entries', inside'⟩ := directory_of_seenAt_eq seen inside
      by_cases ne_here : step = "."
      · subst ne_here
        exact .inl ⟨links, place, [], .here inside, .here inside'⟩
      by_cases ne_up : step = ".."
      · subst ne_up
        exact .inl ⟨links, place.tail, [], .up inside, .up inside'⟩
      by_cases fits : (Path.bytes step).length ≤ maxName
      · have child := child entries entries' inside inside' ne_here ne_up fits
        rw [seenAt, seenAt, at?_reverse_cons inside, at?_reverse_cons inside'] at child
        rcases Node.alike_cases child with ⟨none, none'⟩ | ⟨target, isLink, isLink'⟩ |
          ⟨node, node', isNode, isNode', solid, solid'⟩
        · exact .inr fun rest => by
            simp [follow_cons, inside, inside', ne_here, ne_up, Nat.not_lt.mpr fits, none, none']
        · by_cases usable : target ≠ "" ∧ links ≠ 0
          · obtain ⟨fewer, rfl⟩ := Nat.exists_eq_succ_of_ne_zero usable.2
            exact .inl ⟨fewer, _, _, .through inside ne_here ne_up fits isLink usable.1,
              .through inside' ne_here ne_up fits isLink' usable.1⟩
          · refine .inr fun rest => ?_
            cases links <;> simp_all [follow_cons, Nat.not_lt.mpr fits]
        · exact .inl ⟨links, step :: place, [], .into inside ne_here ne_up fits isNode solid,
            .into inside' ne_here ne_up fits isNode' solid'⟩
      · exact .inr fun rest => by simp [follow_cons, inside, inside', ne_here, ne_up, Nat.not_le.mp fits]

/-- Where a step would come by a place that has no more than a file, there is nothing at all if the
place is not come by. -/
theorem seenAt_eq_none_of_not_visits {place : List String} {entries : List (String × Node)}
    (only : ∀ node, tree.root.at? there = some node → ∃ bytes, node = .file bytes)
    (inside : tree.root.at? place.reverse = some (.directory entries))
    (ne_here : step ≠ ".") (ne_up : step ≠ "..") (fits : (Path.bytes step).length ≤ maxName)
    (eq : (step :: place).reverse = there)
    (unvisited : ¬ Visits tree links place (step :: rest) there.reverse) :
    tree.seenAt there = none := by
  rw [seenAt_eq_none_iff, Option.eq_none_iff_forall_ne_some]
  intro node found
  obtain ⟨bytes, rfl⟩ := only node found
  rw [← eq, at?_reverse_cons inside] at found
  refine unvisited (.step (.into inside ne_here ne_up fits found (by simp)) ?_)
  rw [← eq, List.reverse_reverse]
  exact .here

namespace SameBut

variable {place : List String}

/-- If following steps does not come by the place where the trees differ, it has the same outcome in
both. -/
theorem follow_eq (same : SameBut there t₁ t₂) {links : Nat} {place path : List String}
    (unvisited₁ : ¬ Visits t₁ links place path there.reverse)
    (unvisited₂ : ¬ Visits t₂ links place path there.reverse) :
    t₁.follow true links place path = t₂.follow true links place path := by
  match path with
  | [] => rw [follow_nil, follow_nil]
  | step :: rest =>
    have elsewhere : place.reverse ≠ there := by
      rintro rfl
      exact unvisited₁ (by rw [List.reverse_reverse]; exact .here)
    have child : ∀ entries entries', t₁.root.at? place.reverse = some (.directory entries) →
        t₂.root.at? place.reverse = some (.directory entries') →
        step ≠ "." → step ≠ ".." → (Path.bytes step).length ≤ maxName →
        t₁.seenAt (step :: place).reverse = t₂.seenAt (step :: place).reverse := by
      intro entries entries' inside inside' ne_here ne_up fits
      by_cases eq : (step :: place).reverse = there
      · rw [eq, seenAt_eq_none_of_not_visits same.first inside ne_here ne_up fits eq unvisited₁,
          seenAt_eq_none_of_not_visits same.second inside' ne_here ne_up fits eq unvisited₂]
      · exact same.elsewhere _ eq
    rcases advance_or_fail links (same.elsewhere _ elsewhere) child with
      ⟨links', place', more, first, second⟩ | fail
    · rw [follow_of_advance first, follow_of_advance second]
      exact same.follow_eq (fun next => unvisited₁ (.step first next))
        (fun next => unvisited₂ (.step second next))
    · exact fail rest
termination_by (links, path.length)
decreasing_by
  rcases first.decreases with fewer | ⟨rfl, rfl⟩
  · exact .left _ _ fewer
  · exact .right _ (by simp)

/-- A path that does not come by the place where the trees differ denotes the same in both, or is
lost in both for the same reason. -/
theorem locate_eq (same : SameBut there t₁ t₂) {path : String} (avoids₁ : t₁.Avoids there path)
    (avoids₂ : t₂.Avoids there path) : t₁.locate true path = t₂.locate true path := by
  by_cases ne : path = ""
  · subst ne
    rfl
  · rw [Avoids, ← same.origin_eq] at avoids₂
    rw [FileTree.locate_eq ne, FileTree.locate_eq ne, ← same.origin_eq,
      same.follow_eq avoids₁ avoids₂]

theorem readText_eq (same : SameBut there t₁ t₂) {path : String} (avoids₁ : t₁.Avoids there path)
    (avoids₂ : t₂.Avoids there path) : t₁.readText path = t₂.readText path := by
  have located := same.locate_eq avoids₁ avoids₂
  have bytes : t₁.readBytes path = t₂.readBytes path := by
    cases found : t₁.locate true path with
    | error e => simp only [readBytes, resolve, ← located, found, bind, Except.bind]
    | ok names =>
      refine same.readBytes_eq found ?_
      rintro rfl
      obtain ⟨-, left, reaches⟩ := locate_eq_ok_iff.mp found
      exact avoids₁ reaches.visits
  rw [readText, readText, bytes]

end SameBut

end FileTree
end DocLint
