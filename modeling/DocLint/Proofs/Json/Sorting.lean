import DocLint.Json.Basic

/-!
# Sorted values

Sorting the fields of every object in a value gives a normal form: the fields of an object then have
strictly increasing keys, and sorting once more changes nothing.
-/
namespace DocLint

namespace Fields

variable {fields : Fields} {key k : String} {value : Json}

theorem mem_insert {field : String × Json} (member : field ∈ fields.insert key value) :
    field = (key, value) ∨ field ∈ fields := by
  induction fields with
  | nil => exact .inl (List.mem_singleton.mp member)
  | cons first rest ih =>
    obtain ⟨k, v⟩ := first
    rw [insert] at member
    split at member
    · exact List.mem_cons.mp member
    · split at member
      · exact (List.mem_cons.mp member).imp_right (List.mem_cons_of_mem _)
      · rcases List.mem_cons.mp member with rfl | later
        · exact .inr List.mem_cons_self
        · exact (ih later).imp_right (List.mem_cons_of_mem _)

theorem sorted_insert (sorted : fields.Sorted) (key : String) (value : Json) :
    (fields.insert key value).Sorted := by
  induction fields with
  | nil => exact List.pairwise_singleton _ _
  | cons first rest ih =>
    obtain ⟨k, v⟩ := first
    obtain ⟨above, tail⟩ := List.pairwise_cons.mp sorted
    rw [insert]
    split
    · rename_i below
      refine List.pairwise_cons.mpr ⟨fun field member => ?_, sorted⟩
      rcases List.mem_cons.mp member with rfl | later
      · exact below
      · exact String.lt_trans below (above field later)
    · rename_i notBelow
      split
      · rename_i same
        exact List.pairwise_cons.mpr ⟨fun field member => eq_of_beq same ▸ above field member, tail⟩
      · rename_i different
        refine List.pairwise_cons.mpr ⟨fun field member => ?_, ih tail⟩
        rcases mem_insert member with rfl | later
        · refine Classical.byContradiction fun notAbove => different (beq_iff_eq.mpr ?_)
          exact String.le_antisymm (String.not_lt.mp notAbove) (String.not_lt.mp notBelow)
        · exact above field later

/-- Fields put into sorted fields one after the other. -/
theorem sorted_foldl_insert (sorted : fields.Sorted) (more : Fields) :
    (more.foldl (fun s field => Fields.insert s field.1 field.2) fields).Sorted := by
  induction more generalizing fields with
  | nil => exact sorted
  | cons field more ih => exact ih (sorted_insert sorted field.1 field.2)

theorem insert_of_above (above : ∀ field ∈ fields, field.1 < key) :
    fields.insert key value = fields ++ [(key, value)] := by
  induction fields with
  | nil => rfl
  | cons first rest ih =>
    obtain ⟨k, v⟩ := first
    rw [List.forall_mem_cons] at above
    have notBelow : ¬ key < k := fun below =>
      String.lt_irrefl key (String.lt_trans below above.1)
    have different : ¬ (key == k) = true := by
      simpa using (String.ne_of_lt above.1).symm
    rw [insert, if_neg notBelow, if_neg different, ih above.2]
    rfl

/-- The fields before come in front: sorted fields are put at the end one by one. -/
theorem foldl_insert_of_sorted {more : Fields} (sorted : Sorted (fields ++ more)) :
    more.foldl (fun s field => Fields.insert s field.1 field.2) fields = fields ++ more := by
  induction more generalizing fields with
  | nil => simp
  | cons field more ih =>
    have below : ∀ before ∈ fields, before.1 < field.1 := fun before member =>
      (List.pairwise_append.mp sorted).2.2 before member field List.mem_cons_self
    rw [List.foldl_cons, insert_of_above below, ih (by simpa using sorted)]
    simp

end Fields

theorem sortFields_insert (fields : Fields) (key : String) (value : Json) :
    sortFields (fields.insert key value) = (sortFields fields).insert key value.sorted := by
  induction fields with
  | nil => rfl
  | cons first rest ih =>
    obtain ⟨k, v⟩ := first
    rw [Fields.insert, sortFields, Fields.insert]
    split
    · rfl
    · split
      · rfl
      · rw [sortFields, ih]

theorem sortFields_foldl_insert (fields more : Fields) :
    sortFields (more.foldl (fun s field => Fields.insert s field.1 field.2) fields) =
      (sortFields more).foldl (fun s field => Fields.insert s field.1 field.2)
        (sortFields fields) := by
  induction more generalizing fields with
  | nil => rfl
  | cons field more ih =>
    rw [List.foldl_cons, ih, sortFields_insert]
    rfl

mutual
theorem Json.sorted_sorted : (v : Json) → v.sorted.sorted = v.sorted
  | .null | .bool _ | .number _ | .string _ => rfl
  | .array items => by
    simp only [Json.sorted]
    rw [sortItems_sortItems items]
  | .object fields => by
    simp only [Json.sorted, Json.ofFields]
    have inside : sortFields ((sortFields fields).foldl
          (fun s field => Fields.insert s field.1 field.2) []) =
        (sortFields fields).foldl (fun s field => Fields.insert s field.1 field.2) [] := by
      rw [sortFields_foldl_insert, sortFields_sortFields fields]
      rfl
    rw [inside, Fields.foldl_insert_of_sorted]
    · rfl
    · exact Fields.sorted_foldl_insert List.Pairwise.nil _

theorem sortItems_sortItems : (items : List Json) →
    sortItems (sortItems items) = sortItems items
  | [] => rfl
  | item :: rest => by
    simp only [sortItems]
    rw [Json.sorted_sorted item, sortItems_sortItems rest]

theorem sortFields_sortFields : (fields : Fields) →
    sortFields (sortFields fields) = sortFields fields
  | [] => rfl
  | (key, value) :: rest => by
    simp only [sortFields]
    rw [Json.sorted_sorted value, sortFields_sortFields rest]
end

theorem Json.sorted_eq_null_iff {v : Json} : v.sorted = .null ↔ v = .null := by
  cases v <;> simp [Json.sorted, Json.ofFields]

end DocLint
