import DocLint.Proofs.FileTree.Entries
import DocLint.Proofs.FileTree.Lookup

/-!
# Going down from a directory

Names that lead down from a directory, without following links, are steps that lead to the same
node; and steps that lead somewhere lead down as long as no link is followed. Paths below a base
that are spelled differently lead to the same place.
-/
namespace DocLint.FileTree

open DocLint.Path

variable {tree : FileTree}

/-- Names lead down from a directory, unless they end at a link. -/
theorem reaches_names {links : Nat} {place names : List String} {start last : Node}
    (wellFormed : start.WellFormed) (here : tree.root.at? place.reverse = some start)
    (found : start.at? names = some last) (solid : ∀ target, last ≠ .link target) :
    Reaches tree links place names links (names.reverse ++ place) := by
  induction names generalizing place start with
  | nil => exact .done
  | cons name names ih =>
    cases wellFormed with
    | file bytes => cases found
    | link target => cases found
    | @directory entries named fits sorted nodes =>
      obtain ⟨child, isChild, rest⟩ := Node.at?_cons.mp found
      have member := Node.mem_of_child? isChild
      have childSolid : ∀ target, child ≠ .link target := by
        rintro target rfl
        cases names with
        | nil => exact solid target (Option.some.inj rest).symm
        | cons x xs => cases rest
      have there : tree.root.at? (name :: place).reverse = some child :=
        (at?_reverse_cons here name).trans isChild
      have isName := named _ member
      refine .step (.into here isName.ne_here isName.ne_up (fits _ member) isChild childSolid) ?_
      simpa using ih (nodes _ member) there rest

/-- Names that lead down from a directory to a node are looked up with this result. -/
theorem resolve_below {base : String} {entries : List (String × Node)} {names : List String}
    {last : Node} (wellFormed : tree.root.WellFormed)
    (resolved : tree.resolve base = .ok (.directory entries)) (ne_nil : names ≠ [])
    (found : (Node.directory entries).at? names = some last)
    (solid : ∀ target, last ≠ .link target) : tree.resolve (below base names) = .ok last := by
  obtain ⟨ne, left, place, reaches, here⟩ := reaches_of_resolve resolved
  have start := (wellFormed.at? here).1
  have named : ∀ name ∈ names, IsName name := fun name member =>
    ((start.at? found).2 name member).1
  have extended := Extends.below ne named
  have down : Reaches tree left place names left (names.reverse ++ place) :=
    reaches_names start here found solid
  have origin_eq : tree.origin (below base names) = tree.origin base := by
    rw [origin, origin, extended.isAbsolute_eq]
  rw [resolve_eq_ok_iff, origin_eq, steps_below ne ne_nil named]
  refine ⟨extended.ne_empty, left, _, reaches.append down, ?_⟩
  rw [List.reverse_append, List.reverse_reverse, Node.at?_append, here]
  exact found

/-- No name but the last one is that of a link. -/
def Direct (start : Node) (names : List String) : Prop :=
  ∀ front more target, names = front ++ more → front ≠ [] → more ≠ [] →
    start.at? front ≠ some (.link target)

theorem direct_singleton (start : Node) (name : String) : Direct start [name] := by
  intro front more target eq neFront neMore
  have front_pos := List.length_pos_iff.mpr neFront
  have more_pos := List.length_pos_iff.mpr neMore
  have total := congrArg List.length eq
  rw [List.length_singleton, List.length_append] at total
  omega

/-- Names along which steps lead, but through no link, lead down; and unless there is a link at the
end, they lead to the same place. -/
theorem at?_of_reaches {links left : Nat} {place names found : List String} {start : Node}
    (named : ∀ name ∈ names, IsName name) (here : tree.root.at? place.reverse = some start)
    (direct : Direct start names) (reaches : Reaches tree links place names left found) :
    ∃ last, start.at? names = some last ∧
      ((∀ target, last ≠ .link target) → found = names.reverse ++ place) := by
  induction names generalizing links place start with
  | nil =>
    cases reaches
    exact ⟨start, by cases start <;> rfl, fun _ => rfl⟩
  | cons name names ih =>
    rw [List.forall_mem_cons] at named
    obtain ⟨isName, others⟩ := named
    cases reaches with
    | step first next =>
      cases first with
      | here => exact absurd rfl isName.ne_here
      | up => exact absurd rfl isName.ne_up
      | @into _ _ entries _ node inside _ _ _ child solid =>
        cases here.symm.trans inside
        have there : tree.root.at? (name :: place).reverse = some node :=
          (at?_reverse_cons inside name).trans child
        have rest : Direct node names := by
          rintro front more target rfl neFront neMore link
          refine direct (name :: front) more target rfl (List.cons_ne_nil _ _) neMore ?_
          exact Node.at?_cons.mpr ⟨node, child, link⟩
        obtain ⟨last, below, place_eq⟩ := ih others there rest next
        refine ⟨last, Node.at?_cons.mpr ⟨node, child, below⟩, fun solid => ?_⟩
        rw [place_eq solid, List.reverse_cons, List.append_assoc, List.singleton_append]
      | @through _ _ entries _ target inside _ _ _ child _ =>
        cases here.symm.trans inside
        have link : (Node.directory entries).at? [name] = some (.link target) :=
          Node.at?_cons.mpr ⟨.link target, child, rfl⟩
        by_cases last : names = []
        · subst last
          exact ⟨.link target, link, fun solid => absurd rfl (solid target)⟩
        · exact absurd link (direct [name] names target rfl (List.cons_ne_nil _ _) last)

/-- A path below a base leads where its names lead, whatever its spelling. -/
theorem reaches_of_namesOnly {base path : String} {names : List String} {node : Node}
    (ne : base ≠ "") (only : NamesOnly path names)
    (resolved : tree.resolve (join base path) = .ok node) :
    ∃ left place, Reaches tree maxLinks (tree.origin base) (strides base ++ names) left place ∧
      tree.root.at? place.reverse = some node := by
  obtain ⟨-, left, place, reaches, found⟩ := reaches_of_resolve resolved
  have origin_eq : tree.origin (join base path) = tree.origin base := by
    rw [origin, origin, isAbsolute_join ne only.relative]
  have thinned : Thinned (strides (join base path)) (strides base ++ names) := by
    rw [strides_join ne only.relative, ← names_of_innerComponents only.inner_eq]
    exact (Thinned.refl _).append (Thinned.filter _)
  exact ⟨left, place, thinned.reaches (origin_eq ▸ reaches), found⟩

/-- The spelling of a path makes no difference to what it denotes, if it denotes anything. -/
theorem resolve_respelled {base path : String} {names : List String} {node : Node}
    (ne : base ≠ "") (ne_nil : names ≠ []) (only : NamesOnly path names)
    (resolved : tree.resolve (join base path) = .ok node) :
    tree.resolve (below base names) = .ok node := by
  obtain ⟨left, place, reaches, found⟩ := reaches_of_namesOnly ne only resolved
  have extended := Extends.below ne only.named
  have origin_eq : tree.origin (below base names) = tree.origin base := by
    rw [origin, origin, extended.isAbsolute_eq]
  rw [resolve_eq_ok_iff, origin_eq, steps_below ne ne_nil only.named]
  exact ⟨extended.ne_empty, left, place, reaches, found⟩

end DocLint.FileTree
