import DocLint.Json.Decoding
import DocLint.Proofs.FirstFault
import Mathlib.Data.List.Forall2
import Mathlib.Data.List.Pairwise

/-!
# Reading records

The fields of an object enter a record one after the other. Where different fields enter different
parts of it, a record that can be read is read the same whatever the order of its fields. What holds
of an empty record and is kept by every field holds of every record that was read.
-/
namespace DocLint

namespace FieldDecoder

variable {σ : Type} {fields : List (FieldDecoder σ)} {entry other : String × Json}
  {entries others : Fields} {r s t : σ}

def enter (fields : List (FieldDecoder σ)) (entry : String × Json) (record : σ) :
    Except DecodeError σ :=
  match fields.find? (·.accepts entry.1) with
  | none => .ok record
  | some field =>
    if field.filled record then .error (.duplicateField field.name)
    else field.decode entry.2 record

theorem fromFields_cons :
    fromFields fields (entry :: entries) r =
      (enter fields entry r).bind (fromFields fields entries) := by
  rw [fromFields, enter]
  cases fields.find? (·.accepts entry.1) with
  | none => rfl
  | some field => cases filled : field.filled r <;> simp only [filled] <;> rfl

theorem fromFields_cons_eq_ok_iff :
    fromFields fields (entry :: entries) r = .ok t ↔
      ∃ s, enter fields entry r = .ok s ∧ fromFields fields entries s = .ok t := by
  rw [fromFields_cons]
  cases enter fields entry r <;> simp [Except.bind]

theorem enter_eq_ok_iff :
    enter fields entry r = .ok s ↔
      (fields.find? (·.accepts entry.1) = none ∧ s = r) ∨
      ∃ f, fields.find? (·.accepts entry.1) = some f ∧ f.filled r = false ∧
        f.decode entry.2 r = .ok s := by
  rw [enter]
  cases fields.find? (·.accepts entry.1) with
  | none =>
    constructor
    · rintro ⟨⟩
      exact .inl ⟨rfl, rfl⟩
    · rintro (⟨_, rfl⟩ | ⟨f, found, _⟩)
      · rfl
      · cases found
  | some field => cases filled : field.filled r <;> simp [filled]

theorem fromFields_cons_of_found {f : FieldDecoder σ}
    (found : fields.find? (·.accepts entry.1) = some f) (empty : f.filled r = false)
    (decoded : f.decode entry.2 r = .ok s) :
    fromFields fields (entry :: entries) r = fromFields fields entries s := by
  have entered : enter fields entry r = .ok s :=
    enter_eq_ok_iff.mpr (.inr ⟨f, found, empty, decoded⟩)
  rw [fromFields_cons, entered]
  rfl

/-- A field leaves alone what another one reads and fills. -/
structure Passes (f g : FieldDecoder σ) : Prop where
  keeps : ∀ {v : Json} {r s : σ}, f.decode v r = .ok s → g.filled s = g.filled r
  swaps : ∀ {v w : Json} {r s t : σ}, f.decode v r = .ok s → g.decode w s = .ok t →
    ∃ s', g.decode w r = .ok s' ∧ f.decode v s' = .ok t

def Apart (f g : FieldDecoder σ) : Prop := f.Passes g ∧ g.Passes f

instance : Std.Symm (Apart (σ := σ)) := ⟨fun _ _ apart => ⟨apart.2, apart.1⟩⟩

/-- A field that has entered a record can be seen there. -/
def Fills (f : FieldDecoder σ) : Prop :=
  ∀ {v : Json} {r s : σ}, f.decode v r = .ok s → f.filled s = true

structure Separate (fields : List (FieldDecoder σ)) : Prop where
  fills : ∀ f ∈ fields, f.Fills
  apart : fields.Pairwise Apart

theorem separate_four {a b c d : FieldDecoder σ} (fills_a : a.Fills) (fills_b : b.Fills)
    (fills_c : c.Fills) (fills_d : d.Fills) (apart_ab : a.Apart b) (apart_ac : a.Apart c)
    (apart_ad : a.Apart d) (apart_bc : b.Apart c) (apart_bd : b.Apart d) (apart_cd : c.Apart d) :
    Separate [a, b, c, d] where
  fills := by
    simp only [List.forall_mem_cons]
    exact ⟨fills_a, fills_b, fills_c, fills_d, List.forall_mem_nil _⟩
  apart := by
    simp only [List.pairwise_cons, List.forall_mem_cons]
    exact ⟨⟨apart_ab, apart_ac, apart_ad, List.forall_mem_nil _⟩,
      ⟨apart_bc, apart_bd, List.forall_mem_nil _⟩, ⟨apart_cd, List.forall_mem_nil _⟩,
      List.forall_mem_nil _, .nil⟩

section
variable {α β : Type} {f : FieldDecoder σ} {name name' : String} {aliases aliases' : List String}
  {required required' : Bool} {slot : σ → Option α} {slot' : σ → Option β} {fill : α → σ → σ}
  {fill' : β → σ → σ} {decode : Decoder α} {decode' : Decoder β}

theorem ofSlot_decode_eq_ok_iff {v : Json} :
    (ofSlot name aliases required slot fill decode).decode v r = .ok s ↔
      ∃ x, decode v = .ok x ∧ s = fill x r := by
  simp only [ofSlot]
  cases decode v <;> simp [Except.map, eq_comm]

theorem fills_ofSlot (filled : ∀ x r, slot (fill x r) = some x) :
    (ofSlot name aliases required slot fill decode).Fills := by
  intro v r s read
  obtain ⟨x, _, rfl⟩ := ofSlot_decode_eq_ok_iff.mp read
  simp [ofSlot, filled]

theorem passes_ofSlot (keeps : ∀ x r, slot' (fill x r) = slot' r)
    (swaps : ∀ x y r, fill' y (fill x r) = fill x (fill' y r)) :
    (ofSlot name aliases required slot fill decode).Passes
      (ofSlot name' aliases' required' slot' fill' decode') where
  keeps := by
    intro v r s read
    obtain ⟨x, _, rfl⟩ := ofSlot_decode_eq_ok_iff.mp read
    simp [ofSlot, keeps]
  swaps := by
    intro v w r s t first second
    obtain ⟨x, readX, rfl⟩ := ofSlot_decode_eq_ok_iff.mp first
    obtain ⟨y, readY, rfl⟩ := ofSlot_decode_eq_ok_iff.mp second
    exact ⟨fill' y r, ofSlot_decode_eq_ok_iff.mpr ⟨y, readY, rfl⟩,
      ofSlot_decode_eq_ok_iff.mpr ⟨x, readX, swaps x y r⟩⟩

theorem apart_ofSlot (keeps : ∀ x r, slot' (fill x r) = slot' r)
    (keeps' : ∀ y r, slot (fill' y r) = slot r)
    (swaps : ∀ x y r, fill' y (fill x r) = fill x (fill' y r)) :
    (ofSlot name aliases required slot fill decode).Apart
      (ofSlot name' aliases' required' slot' fill' decode') :=
  ⟨passes_ofSlot keeps swaps, passes_ofSlot keeps' fun y x r => (swaps x y r).symm⟩

end

/-- Two fields of an object may enter in either order, if they can enter at all. -/
theorem enter_swap (separate : Separate fields) (first : enter fields entry r = .ok s)
    (second : enter fields other s = .ok t) :
    ∃ s', enter fields other r = .ok s' ∧ enter fields entry s' = .ok t := by
  rw [enter_eq_ok_iff] at first second
  rcases first with ⟨unknown, rfl⟩ | ⟨f, foundF, emptyF, readF⟩
  · exact ⟨t, enter_eq_ok_iff.mpr second, enter_eq_ok_iff.mpr (.inl ⟨unknown, rfl⟩)⟩
  · rcases second with ⟨unknown, rfl⟩ | ⟨g, foundG, emptyG, readG⟩
    · exact ⟨r, enter_eq_ok_iff.mpr (.inl ⟨unknown, rfl⟩),
        enter_eq_ok_iff.mpr (.inr ⟨f, foundF, emptyF, readF⟩)⟩
    · have memberF := List.mem_of_find?_eq_some foundF
      have memberG := List.mem_of_find?_eq_some foundG
      have different : f ≠ g := by
        rintro rfl
        exact absurd (separate.fills f memberF readF) (by simp [emptyG])
      have apart := separate.apart.forall memberF memberG different
      obtain ⟨s', readG', readF'⟩ := apart.1.swaps readF readG
      have emptyG' : g.filled r = false := (apart.1.keeps readF).symm.trans emptyG
      have emptyF' : f.filled s' = false := (apart.2.keeps readG').trans emptyF
      exact ⟨s', enter_eq_ok_iff.mpr (.inr ⟨g, foundG, emptyG', readG'⟩),
        enter_eq_ok_iff.mpr (.inr ⟨f, foundF, emptyF', readF'⟩)⟩

/-- A record that can be read is read the same whatever the order of its fields. -/
theorem fromFields_of_perm (separate : Separate fields) (perm : entries.Perm others)
    (read : fromFields fields entries r = .ok s) : fromFields fields others r = .ok s := by
  induction perm generalizing r with
  | nil => exact read
  | cons entry _ ih =>
    obtain ⟨next, entered, rest⟩ := fromFields_cons_eq_ok_iff.mp read
    exact fromFields_cons_eq_ok_iff.mpr ⟨next, entered, ih rest⟩
  | swap a b rest =>
    obtain ⟨first, enteredB, afterB⟩ := fromFields_cons_eq_ok_iff.mp read
    obtain ⟨second, enteredA, afterBoth⟩ := fromFields_cons_eq_ok_iff.mp afterB
    obtain ⟨first', beforeB, thenB⟩ := enter_swap separate enteredB enteredA
    exact fromFields_cons_eq_ok_iff.mpr
      ⟨first', beforeB, fromFields_cons_eq_ok_iff.mpr ⟨second, thenB, afterBoth⟩⟩
  | trans _ _ first second => exact second (first read)

/-- Fields that enter in place of others make no difference if each enters as the other did. -/
theorem fromFields_of_forall₂
    (alike : List.Forall₂
      (fun a b => ∀ {r s : σ}, enter fields a r = .ok s → enter fields b r = .ok s) entries others)
    (read : fromFields fields entries r = .ok s) : fromFields fields others r = .ok s := by
  induction alike generalizing r with
  | nil => exact read
  | cons same _ ih =>
    obtain ⟨next, entered, rest⟩ := fromFields_cons_eq_ok_iff.mp read
    exact fromFields_cons_eq_ok_iff.mpr ⟨next, same entered, ih rest⟩

/-- A list of fields in declared order is read the same if each item is read as the other was. -/
theorem fromItems_of_forall₂ {expected : String} {index : Nat} {items others : List Json}
    (short : items.length ≤ fields.length)
    (alike : List.Forall₂
      (fun (a : FieldDecoder σ × Json) w =>
        ∀ {r s : σ}, a.1.decode a.2 r = .ok s → a.1.decode w r = .ok s)
      (fields.zip items) others)
    (read : fromItems expected fields index items r = .ok s) :
    fromItems expected fields index others r = .ok s := by
  induction fields generalizing index items others r with
  | nil => exact read
  | cons f fields ih =>
    cases items with
    | nil =>
      cases alike
      exact read
    | cons v items =>
      rcases alike with _ | ⟨same, alike⟩
      simp only [fromItems] at read ⊢
      cases first : f.decode v r with
      | error e => rw [first] at read; cases read
      | ok next =>
        rw [first] at read
        rw [same first]
        exact ih (Nat.le_of_succ_le_succ short) alike read

section
variable {P : σ → Prop}

theorem fromFields_keeps
    (keeps : ∀ f ∈ fields, ∀ {v : Json} {r s : σ}, P r → f.decode v r = .ok s → P s)
    (start : P r) (read : fromFields fields entries r = .ok s) : P s := by
  induction entries generalizing r with
  | nil => cases read; exact start
  | cons entry entries ih =>
    obtain ⟨next, entered, rest⟩ := fromFields_cons_eq_ok_iff.mp read
    rcases enter_eq_ok_iff.mp entered with ⟨_, rfl⟩ | ⟨f, found, _, decoded⟩
    · exact ih start rest
    · exact ih (keeps f (List.mem_of_find?_eq_some found) start decoded) rest

theorem fromItems_keeps {expected : String} {index : Nat} {items : List Json}
    (keeps : ∀ f ∈ fields, ∀ {v : Json} {r s : σ}, P r → f.decode v r = .ok s → P s)
    (start : P r) (read : fromItems expected fields index items r = .ok s) : P s := by
  induction fields generalizing index items r with
  | nil => cases read; exact start
  | cons f fields ih =>
    rw [List.forall_mem_cons] at keeps
    cases items with
    | nil =>
      rw [fromItems] at read
      split at read
      · cases read
      · exact ih keeps.2 start read
    | cons v items =>
      simp only [fromItems] at read
      cases first : f.decode v r with
      | error e => rw [first] at read; cases read
      | ok next =>
        rw [first] at read
        exact ih keeps.2 (keeps.1 start first) read

end

end FieldDecoder

namespace Json

variable {σ α : Type} {label : String} {fields : List (FieldDecoder σ)} {empty : σ}
  {finish : σ → Except DecodeError α} {a : α}

theorem decodeRecord_object_eq_ok_iff {entries : Fields} :
    decodeRecord label fields empty finish (.object entries) = .ok a ↔
      ∃ r, FieldDecoder.fromFields fields entries empty = .ok r ∧ finish r = .ok a := by
  rw [decodeRecord]
  cases FieldDecoder.fromFields fields entries empty <;> simp [bind, Except.bind]

theorem decodeRecord_array_eq_ok_iff {items : List Json} :
    decodeRecord label fields empty finish (.array items) = .ok a ↔
      items.length ≤ fields.length ∧
      ∃ r, FieldDecoder.fromItems (FieldDecoder.shape label fields.length) fields 0 items empty =
          .ok r ∧ finish r = .ok a := by
  rw [decodeRecord]
  cases FieldDecoder.fromItems (FieldDecoder.shape label fields.length) fields 0 items empty with
  | error e => simp [bind, Except.bind]
  | ok r =>
    cases done : finish r with
    | error e => simp [bind, Except.bind, done]
    | ok b =>
      by_cases long : fields.length < items.length
      · simp [bind, Except.bind, done, long, Nat.not_le.mpr long]
      · simp [bind, Except.bind, done, if_neg long, Nat.not_lt.mp long]

/-- What holds of the empty record and is kept by every field holds of the record that a value is
finished from. -/
theorem exists_record_of_decodeRecord {P : σ → Prop} {v : Json} (start : P empty)
    (keeps : ∀ f ∈ fields, ∀ {v : Json} {r s : σ}, P r → f.decode v r = .ok s → P s)
    (read : decodeRecord label fields empty finish v = .ok a) : ∃ r, P r ∧ finish r = .ok a := by
  cases v with
  | object entries =>
    obtain ⟨r, entered, done⟩ := decodeRecord_object_eq_ok_iff.mp read
    exact ⟨r, FieldDecoder.fromFields_keeps keeps start entered, done⟩
  | array items =>
    obtain ⟨_, r, entered, done⟩ := decodeRecord_array_eq_ok_iff.mp read
    exact ⟨r, FieldDecoder.fromItems_keeps keeps start entered, done⟩
  | null | bool | number | string => cases read

theorem decodeList_array_eq_ok_iff {decode : Decoder α} {items : List Json} {values : List α} :
    decodeList decode (.array items) = .ok values ↔
      List.Forall₂ (fun v x => decode v = .ok x) items values :=
  mapM_eq_ok_iff

/-- What was written for a list is read back if what was written for its items is. -/
theorem decodeList_map {decode : Decoder α} {encode : α → Json} {values : List α}
    (back : ∀ x ∈ values, decode (encode x) = .ok x) :
    decodeList decode (.array (values.map encode)) = .ok values := by
  rw [decodeList_array_eq_ok_iff, List.forall₂_map_left_iff, List.forall₂_same]
  exact back

theorem decodeOption_of_ne_null {decode : Decoder α} {v : Json} (present : v ≠ .null) :
    decodeOption decode v = (decode v).map some := by
  cases v with
  | null => exact absurd rfl present
  | bool | number | string | array | object => rfl

/-- An optional value is read as nothing from `null`, else as what it is read as by itself. -/
theorem decodeOption_cases {decode : Decoder α} {v : Json} {x : Option α}
    (read : decodeOption decode v = .ok x) :
    v = .null ∧ x = none ∨ ∃ a, decode v = .ok a ∧ x = some a := by
  by_cases null : v = .null
  · subst null
    cases read
    exact .inl ⟨rfl, rfl⟩
  · rw [decodeOption_of_ne_null null] at read
    cases decoded : decode v with
    | error e =>
      rw [decoded] at read
      cases read
    | ok a =>
      rw [decoded] at read
      cases read
      exact .inr ⟨a, rfl, rfl⟩

end Json
end DocLint
