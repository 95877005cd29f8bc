import DocLint.Proofs.Json.Records

/-!
# What a record holds

A record that was read from an object holds in each slot what the object gives under the name of the
slot; a record that was read from an array, what stands at the place of the slot. A slot for which
nothing is given stays empty.
-/
namespace DocLint

/-- What a value gives for a field with a name and a place among the fields. -/
def Json.given? (name : String) (index : Nat) : Json → Option Json
  | .object entries => Fields.get? entries name
  | .array items => items[index]?
  | _ => none

namespace FieldDecoder

variable {σ α : Type} {fields before after : List (FieldDecoder σ)} {name : String} {index : Nat}
  {slot : σ → Option α} {decode : Decoder α} {r s : σ} {x : α} {entries : Fields}

structure Avoids (name : String) (slot : σ → Option α) (f : FieldDecoder σ) : Prop where
  unnamed : f.accepts name = false
  keeps : ∀ {v : Json} {r s : σ}, f.decode v r = .ok s → slot s = slot r

theorem avoids_ofSlot {β : Type} {name' : String} {required : Bool} {slot' : σ → Option β}
    {fill : β → σ → σ} {decode' : Decoder β} (other : name' ≠ name)
    (keeps : ∀ y r, slot (fill y r) = slot r) :
    Avoids name slot (ofSlot name' [] required slot' fill decode') where
  unnamed := by simpa [accepts, ofSlot] using other
  keeps := by
    intro v r s read
    obtain ⟨y, -, rfl⟩ := ofSlot_decode_eq_ok_iff.mp read
    exact keeps y r

/-- The field at a place, and no other field, has the name and enters the slot. -/
structure HasSlot (fields : List (FieldDecoder σ)) (index : Nat) (name : String)
    (slot : σ → Option α) (decode : Decoder α) : Prop where
  split : ∃ before after required fill,
    fields = before ++ ofSlot name [] required slot fill decode :: after ∧ before.length = index ∧
      (∀ x r, slot (fill x r) = some x) ∧ ∀ g ∈ before ++ after, g.Avoids name slot

/-- The slot is empty if nothing is given, else it holds what is given. -/
def Holds (slot : σ → Option α) (decode : Decoder α) (given : Option Json) (r : σ) : Prop :=
  match given with
  | none => slot r = none
  | some v => ∃ x, decode v = .ok x ∧ slot r = some x

/-- What a slot holds was given. -/
theorem Holds.exists_given {given : Option Json} (holds : Holds slot decode given r)
    (full : slot r = some x) : ∃ v, given = some v ∧ decode v = .ok x := by
  cases given with
  | none =>
    rw [show slot r = none from holds] at full
    cases full
  | some v =>
    obtain ⟨y, decoded, held⟩ := holds
    rw [held] at full
    cases full
    exact ⟨v, rfl, decoded⟩

/-- The field that a key belongs to: the one of the slot, or one that leaves the slot alone. -/
theorem HasSlot.of_enter (has : HasSlot fields index name slot decode) {key : String} {v : Json}
    (entered : enter fields (key, v) r = .ok s) :
    (key = name ∧ slot r = none ∧ ∃ x, decode v = .ok x ∧ slot s = some x) ∨
      (key ≠ name ∧ slot s = slot r) := by
  obtain ⟨before, after, required, fill, rfl, -, fills, others⟩ := has.split
  have own (key : String) : (ofSlot name [] required slot fill decode).accepts key = true ↔
      key = name := by
    simpa [accepts, ofSlot] using eq_comm
  by_cases same : key = name
  · subst same
    have found : (before ++ ofSlot key [] required slot fill decode :: after).find?
        (·.accepts key) = some (ofSlot key [] required slot fill decode) := by
      have earlier : before.find? (·.accepts key) = none := List.find?_eq_none.mpr fun g member => by
        simp [(others g (List.mem_append_left _ member)).unnamed]
      rw [List.find?_append, earlier, Option.none_or]
      exact List.find?_cons_of_pos ((own key).mpr rfl)
    rcases enter_eq_ok_iff.mp entered with ⟨unknown, -⟩ | ⟨g, known, empty, read⟩
    · rw [found] at unknown
      cases unknown
    · obtain rfl := Option.some.inj (found.symm.trans known)
      obtain ⟨x, decoded, rfl⟩ := ofSlot_decode_eq_ok_iff.mp read
      exact .inl ⟨rfl, by simpa [ofSlot] using empty, x, decoded, fills x r⟩
  · refine .inr ⟨same, ?_⟩
    rcases enter_eq_ok_iff.mp entered with ⟨-, rfl⟩ | ⟨g, known, -, read⟩
    · rfl
    · have accepts := List.find?_some known
      rcases List.mem_append.mp (List.mem_of_find?_eq_some known) with member | member
      · exact (others g (List.mem_append_left _ member)).keeps read
      · rcases List.mem_cons.mp member with rfl | member
        · exact absurd ((own key).mp accepts) same
        · exact (others g (List.mem_append_right _ member)).keeps read

/-- A slot that is full stays as it is. -/
theorem HasSlot.kept (has : HasSlot fields index name slot decode) (full : slot r = some x)
    (read : fromFields fields entries r = .ok s) : slot s = some x := by
  induction entries generalizing r with
  | nil => cases read; exact full
  | cons entry entries ih =>
    obtain ⟨next, entered, rest⟩ := fromFields_cons_eq_ok_iff.mp read
    rcases has.of_enter entered with ⟨-, empty, -⟩ | ⟨-, same⟩
    · rw [full] at empty
      cases empty
    · exact ih (same.trans full) rest

theorem HasSlot.holds_object (has : HasSlot fields index name slot decode) (start : slot r = none)
    (read : fromFields fields entries r = .ok s) :
    Holds slot decode (Fields.get? entries name) s := by
  induction entries generalizing r with
  | nil => cases read; exact start
  | cons entry entries ih =>
    obtain ⟨key, v⟩ := entry
    obtain ⟨next, entered, rest⟩ := fromFields_cons_eq_ok_iff.mp read
    rcases has.of_enter entered with ⟨rfl, -, x, decoded, full⟩ | ⟨other, same⟩
    · have given : Fields.get? ((key, v) :: entries) key = some v := by simp [Fields.get?]
      rw [given]
      exact ⟨x, decoded, has.kept full rest⟩
    · have given : Fields.get? ((key, v) :: entries) name = Fields.get? entries name := by
        simp [Fields.get?, other]
      rw [given]
      exact ih (same.trans start) rest

theorem HasSlot.holds_array (has : HasSlot fields index name slot decode) (start : slot r = none)
    {expected : String} {count : Nat} {items : List Json}
    (read : fromItems expected fields count items r = .ok s) :
    Holds slot decode items[index]? s := by
  obtain ⟨before, after, required, fill, rfl, rfl, fills, others⟩ := has.split
  clear has
  induction before generalizing count items r with
  | nil =>
    have later {P : σ → Prop} (le : ∀ {r s : σ}, slot s = slot r → P r → P s) :
        ∀ g ∈ after, ∀ {v : Json} {r s : σ}, P r → g.decode v r = .ok s → P s :=
      fun g member _ _ _ before read => le ((others g member).keeps read) before
    cases items with
    | nil =>
      rw [List.nil_append, fromItems] at read
      split at read
      · cases read
      · exact fromItems_keeps (P := fun r => slot r = none)
          (later fun same empty => same.trans empty) start read
    | cons v items =>
      rw [List.nil_append, fromItems] at read
      cases first : (ofSlot name [] required slot fill decode).decode v r with
      | error e => rw [first] at read; cases read
      | ok next =>
        rw [first] at read
        obtain ⟨x, decoded, rfl⟩ := ofSlot_decode_eq_ok_iff.mp first
        exact ⟨x, decoded, fromItems_keeps (P := fun r => slot r = some x)
          (later fun same full => same.trans full) (fills x r) read⟩
  | cons g before ih =>
    rw [List.cons_append, List.forall_mem_cons] at others
    cases items with
    | nil =>
      rw [List.cons_append, fromItems] at read
      split at read
      · cases read
      · exact ih start read others.2
    | cons v items =>
      rw [List.cons_append, fromItems] at read
      cases first : g.decode v r with
      | error e => rw [first] at read; cases read
      | ok next =>
        rw [first] at read
        exact ih ((others.1.keeps first).trans start) read others.2

end FieldDecoder

namespace Json

variable {σ α : Type} {label : String} {fields : List (FieldDecoder σ)} {empty : σ}
  {finish : σ → Except DecodeError α} {a : α} {v : Json}

/-- A value that is read as a record gives what the slots of the record hold. -/
theorem exists_holds_of_decodeRecord (read : decodeRecord label fields empty finish v = .ok a) :
    ∃ r, finish r = .ok a ∧
      ∀ {β : Type} {index : Nat} {name : String} {slot : σ → Option β} {decode : Decoder β},
        FieldDecoder.HasSlot fields index name slot decode → slot empty = none →
          FieldDecoder.Holds slot decode (v.given? name index) r := by
  cases v with
  | object entries =>
    obtain ⟨r, entered, done⟩ := decodeRecord_object_eq_ok_iff.mp read
    exact ⟨r, done, fun has start => has.holds_object start entered⟩
  | array items =>
    obtain ⟨-, r, entered, done⟩ := decodeRecord_array_eq_ok_iff.mp read
    exact ⟨r, done, fun has start => has.holds_array start entered⟩
  | null | bool | number | string => cases read

end Json
end DocLint
