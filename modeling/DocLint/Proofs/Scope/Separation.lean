import DocLint.Proofs.FileTree.Agreement
import DocLint.Proofs.Scope.Matching
import Mathlib.Data.List.Sort

/-!
# Scopes of trees that differ in one file

If two trees differ in one file that no link leads to, the files below a directory are the same ones
in the same order, apart from that file, which is listed at most once.
-/
namespace DocLint

namespace FileTree

def denotes (tree : FileTree) (there : List String) (path : String) : Bool :=
  match tree.locate true path with
  | .ok names => names == there
  | .error _ => false

def Unlinked (tree : FileTree) (there : List String) : Prop :=
  ∀ directory name target, tree.root.at? (directory ++ [name]) = some (.link target) →
    tree.follow true maxLinks directory.reverse [name] ≠ .ok there.reverse

/-- A base leads to a directory at a place of a sound tree. -/
structure Rooted (tree : FileTree) (base : String) (start : List String)
    (entries : List (String × Node)) : Prop where
  wellFormed : tree.root.WellFormed
  located : tree.locate true base = .ok start
  here : tree.root.at? start = some (.directory entries)

variable {tree t₁ t₂ : FileTree} {there start names found : List String} {base path : String}
  {entries entries' : List (String × Node)}

theorem denotes_iff : tree.denotes there path = true ↔ tree.locate true path = .ok there := by
  rw [denotes]
  cases tree.locate true path with
  | error e => simp
  | ok found => simp

/-! ### Where paths below a base lead -/

namespace Rooted

theorem resolved (rooted : tree.Rooted base start entries) :
    tree.resolve base = .ok (.directory entries) :=
  resolve_eq_ok_iff_located.mpr ⟨start, rooted.located, rooted.here⟩

/-- What names lead to from a base is at the place of the base followed by them. -/
theorem at?_append (rooted : tree.Rooted base start entries) (names : List String) :
    tree.root.at? (start ++ names) = (Node.directory entries).at? names := by
  rw [Node.at?_append, rooted.here, Option.bind_some]

theorem named (rooted : tree.Rooted base start entries) {last : Node}
    (found : (Node.directory entries).at? names = some last) :
    ∀ name ∈ names, Path.IsName name := fun name member =>
  (((rooted.wellFormed.at? rooted.here).1.at? found).2 name member).1

theorem reaches (rooted : tree.Rooted base start entries) :
    base ≠ "" ∧ ∃ left,
      Reaches tree maxLinks (tree.origin base) (Path.strides base) left start.reverse := by
  obtain ⟨ne, left, reaches⟩ := locate_eq_ok_iff.mp rooted.located
  exact ⟨ne, left, (thinned_steps base).reaches reaches⟩

/-- Names that lead down from a base to something that is no link are steps to the place below. -/
theorem reaches_names (rooted : tree.Rooted base start entries) {last : Node}
    (found : (Node.directory entries).at? names = some last)
    (solid : ∀ target, last ≠ .link target) :
    ∃ left, Reaches tree maxLinks (tree.origin base) (Path.strides base ++ names) left
      (start ++ names).reverse := by
  obtain ⟨-, left, reaches⟩ := rooted.reaches
  have here : tree.root.at? start.reverse.reverse = some (.directory entries) := by
    rw [List.reverse_reverse]
    exact rooted.here
  have sound := (rooted.wellFormed.at? rooted.here).1
  have down : Reaches tree left start.reverse names left (names.reverse ++ start.reverse) :=
    FileTree.reaches_names sound here found solid
  rw [List.reverse_append]
  exact ⟨left, reaches.append down⟩

theorem locate_below_eq_ok_iff (rooted : tree.Rooted base start entries) (ne_nil : names ≠ [])
    (named : ∀ name ∈ names, Path.IsName name) :
    tree.locate true (Path.below base names) = .ok found ↔ ∃ left,
      Reaches tree maxLinks (tree.origin base) (Path.strides base ++ names) left found.reverse := by
  have ne := rooted.reaches.1
  have extended := Path.Extends.below ne named
  have origin_eq : tree.origin (Path.below base names) = tree.origin base := by
    rw [origin, origin, extended.isAbsolute_eq]
  rw [locate_eq_ok_iff, origin_eq, steps_below ne ne_nil named]
  exact and_iff_right extended.ne_empty

theorem locate_below (rooted : tree.Rooted base start entries) (ne_nil : names ≠ [])
    {last : Node} (found : (Node.directory entries).at? names = some last)
    (solid : ∀ target, last ≠ .link target) :
    tree.locate true (Path.below base names) = .ok (start ++ names) :=
  (rooted.locate_below_eq_ok_iff ne_nil (rooted.named found)).mpr (rooted.reaches_names found solid)

/-- A link below a base does not lead to a place that no link leads to, although fewer links may be
followed from there than from the directory of the link. -/
theorem ne_of_link (rooted : tree.Rooted base start entries) (unlinked : tree.Unlinked there)
    {target : String} (link : (Node.directory entries).at? names = some (.link target))
    (leads : tree.locate true (Path.below base names) = .ok found) : found ≠ there := by
  have named := rooted.named link
  rcases List.eq_nil_or_concat names with rfl | ⟨front, name, rfl⟩
  · cases link
  rw [List.concat_eq_append] at link leads named
  obtain ⟨inner, inside⟩ := Node.directory_of_at? (List.cons_ne_nil name []) link
  obtain ⟨_, down⟩ := rooted.reaches_names inside (by simp)
  obtain ⟨_, whole⟩ := (rooted.locate_below_eq_ok_iff (by simp) named).mp leads
  rw [← List.append_assoc] at whole
  obtain ⟨spare, middle, before, after⟩ := whole.split
  obtain rfl := before.found_unique down
  have withAllLinks := follow_of_reaches (after.add_links (maxLinks - spare))
  rw [Nat.add_sub_cancel' before.left_le] at withAllLinks
  rintro rfl
  refine unlinked (start ++ front) name target ?_ withAllLinks
  rw [List.append_assoc, rooted.at?_append]
  exact link

end Rooted

theorem exists_rooted (wellFormed : tree.root.WellFormed) (present : tree.exists? base = true)
    (noFile : tree.isFile base = false) : ∃ start entries, tree.Rooted base start entries := by
  rcases file_or_directory_of_exists present with file | ⟨entries, resolved⟩
  · rw [noFile] at file
    cases file
  · obtain ⟨start, located, here⟩ := resolve_eq_ok_iff_located.mp resolved
    exact ⟨start, entries, wellFormed, located, here⟩

/-- A base that is a directory in the one tree is one in the other, at the same place. -/
theorem SameBut.rooted (same : SameBut there t₁ t₂) (wellFormed : t₂.root.WellFormed)
    (rooted : t₁.Rooted base start entries) : ∃ entries', t₂.Rooted base start entries' := by
  obtain ⟨apart, entries', here⟩ := same.directory rooted.here
  exact ⟨entries', wellFormed, same.locate rooted.located apart, here⟩

theorem SameBut.exists_of_exists (same : SameBut there t₁ t₂) (wellFormed₁ : t₁.root.WellFormed)
    (wellFormed₂ : t₂.root.WellFormed) (noFile : t₁.isFile base = false)
    (present : t₁.exists? base = true) : t₂.exists? base = true := by
  obtain ⟨start, entries, rooted₁⟩ := exists_rooted wellFormed₁ present noFile
  obtain ⟨entries', rooted₂⟩ := same.rooted wellFormed₂ rooted₁
  rw [exists?, rooted₂.resolved]

/-- A file below a base that is not the one at the place where the trees differ is below the base in
the other tree, too. -/
theorem SameBut.leadsToFile (same : SameBut there t₁ t₂) (unlinked : t₁.Unlinked there)
    (rooted₁ : t₁.Rooted base start entries) (rooted₂ : t₂.Rooted base start entries')
    (leads : t₁.LeadsToFile base (.directory entries) names)
    (other : t₁.denotes there (Path.below base names) = false) :
    t₂.LeadsToFile base (.directory entries') names ∧
      ∃ found ≠ there, t₁.locate true (Path.below base names) = .ok found := by
  have through : ∀ front more, names = front ++ more → more ≠ [] →
      ∃ inner, (Node.directory entries').at? front = some (.directory inner) := by
    intro front more eq ne
    obtain ⟨inner, inside⟩ := leads.through front more eq ne
    obtain ⟨-, inner', inside'⟩ := same.directory ((rooted₁.at?_append front).trans inside)
    exact ⟨inner', (rooted₂.at?_append front).symm.trans inside'⟩
  rcases leads.leaf with ⟨bytes, isFile⟩ | ⟨⟨target, link⟩, denotes⟩
  · have found := rooted₁.locate_below leads.named isFile (by simp)
    have ne : start ++ names ≠ there := by
      rintro rfl
      rw [denotes_iff.mpr found] at other
      cases other
    have isFile' := same.file ne ((rooted₁.at?_append names).trans isFile)
    rw [rooted₂.at?_append] at isFile'
    exact ⟨⟨leads.named, through, leads.entered, .inl ⟨bytes, isFile'⟩⟩, _, ne, found⟩
  · obtain ⟨found, bytes, leadsTo, isFile⟩ := isFile_iff_located.mp denotes
    have ne := rooted₁.ne_of_link unlinked link leadsTo
    have link' := same.link ((rooted₁.at?_append names).trans link)
    rw [rooted₂.at?_append] at link'
    have denotes' := isFile_iff_located.mpr
      ⟨found, bytes, same.locate leadsTo ne, same.file ne isFile⟩
    exact ⟨⟨leads.named, through, leads.entered, .inr ⟨⟨target, link'⟩, denotes'⟩⟩, found, ne,
      leadsTo⟩

end FileTree

namespace Scope

open FileTree

variable {tree t₁ t₂ : FileTree} {there start : List String} {base path : String}
  {entries entries' : List (String × Node)} {filter : PathFilter}

theorem pairwise_matchingFiles (rooted : tree.Rooted base start entries) (filter : PathFilter) :
    (matchingFiles tree base filter).Pairwise Path.Precedes := by
  rw [matchingFiles_of_directory rooted.resolved]
  exact (pairwise_filesBelow rooted.reaches.1 (rooted.wellFormed.at? rooted.here).1).filter _

theorem mem_other_scope (same : SameBut there t₁ t₂) (unlinked : t₁.Unlinked there)
    (rooted₁ : t₁.Rooted base start entries) (rooted₂ : t₂.Rooted base start entries')
    (member : path ∈ matchingFiles t₁ base filter) (other : t₁.denotes there path = false) :
    (path ∈ matchingFiles t₂ base filter ∧ t₂.denotes there path = false) ∧
      ∃ found ≠ there, t₁.locate true path = .ok found := by
  obtain ⟨admitted, names, rfl, leads⟩ :=
    (mem_matchingFiles_iff rooted₁.wellFormed rooted₁.resolved filter path).mp member
  obtain ⟨leads', found, ne, leadsTo⟩ := same.leadsToFile unlinked rooted₁ rooted₂ leads other
  refine ⟨⟨?_, ?_⟩, found, ne, leadsTo⟩
  · rw [mem_matchingFiles_iff rooted₂.wellFormed rooted₂.resolved]
    exact ⟨admitted, names, rfl, leads'⟩
  · rw [denotes, same.locate leadsTo ne]
    exact beq_eq_false_iff_ne.mpr ne

/-- Apart from the file at the place where the trees differ, the scopes are the same. -/
theorem others_eq (same : SameBut there t₁ t₂) (unlinked₁ : t₁.Unlinked there)
    (unlinked₂ : t₂.Unlinked there) (rooted₁ : t₁.Rooted base start entries)
    (rooted₂ : t₂.Rooted base start entries') (filter : PathFilter) :
    (matchingFiles t₁ base filter).filter (fun path => !t₁.denotes there path) =
      (matchingFiles t₂ base filter).filter (fun path => !t₂.denotes there path) := by
  refine ((pairwise_matchingFiles rooted₁ filter).filter _).eq_of_mem_iff
    ((pairwise_matchingFiles rooted₂ filter).filter _) fun path => ?_
  rw [List.mem_filter, List.mem_filter, Bool.not_eq_true', Bool.not_eq_true']
  constructor
  · rintro ⟨member, other⟩
    exact (mem_other_scope same unlinked₁ rooted₁ rooted₂ member other).1
  · rintro ⟨member, other⟩
    exact (mem_other_scope same.symm unlinked₂ rooted₂ rooted₁ member other).1

/-- A listed path that leads to a place that no link leads to spells the names of that place. -/
theorem names_of_denotes (rooted : tree.Rooted base start entries)
    (unlinked : tree.Unlinked there) (member : path ∈ matchingFiles tree base filter)
    (denotes : tree.denotes there path = true) :
    ∃ names, path = Path.below base names ∧ start ++ names = there := by
  obtain ⟨-, names, rfl, leads⟩ :=
    (mem_matchingFiles_iff rooted.wellFormed rooted.resolved filter path).mp member
  have leadsTo := denotes_iff.mp denotes
  refine ⟨names, rfl, ?_⟩
  rcases leads.leaf with ⟨bytes, isFile⟩ | ⟨⟨target, link⟩, -⟩
  · have found := rooted.locate_below leads.named isFile (by simp)
    exact Except.ok.inj (found.symm.trans leadsTo)
  · exact absurd rfl (rooted.ne_of_link unlinked link leadsTo)

/-- A file that no link leads to is listed at most once. -/
theorem length_own_le_one (rooted : tree.Rooted base start entries)
    (unlinked : tree.Unlinked there) (filter : PathFilter) :
    ((matchingFiles tree base filter).filter (tree.denotes there)).length ≤ 1 := by
  have sorted := (pairwise_matchingFiles rooted filter).filter (tree.denotes there)
  have spelled : ∀ path ∈ (matchingFiles tree base filter).filter (tree.denotes there),
      ∃ names, path = Path.below base names ∧ start ++ names = there := by
    intro path member
    obtain ⟨listed, denotes⟩ := List.mem_filter.mp member
    exact names_of_denotes rooted unlinked listed denotes
  generalize (matchingFiles tree base filter).filter (tree.denotes there) = own at sorted spelled
  match own with
  | [] => exact Nat.zero_le _
  | [path] => exact Nat.le_refl _
  | path :: other :: rest =>
    obtain ⟨names, rfl, eq⟩ := spelled path (by simp)
    obtain ⟨more, rfl, eq'⟩ := spelled other (by simp)
    obtain rfl := List.append_cancel_left (eq.trans eq'.symm)
    exact absurd (List.rel_of_pairwise_cons sorted List.mem_cons_self) (Std.Irrefl.irrefl _)

end Scope
end DocLint
