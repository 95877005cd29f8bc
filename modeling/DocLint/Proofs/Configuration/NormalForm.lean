import DocLint.Configuration
import DocLint.Proofs.Json.Records
import DocLint.Proofs.Json.Sorting
import Mathlib.Data.List.Permutation

/-!
# The normal form of a configuration

Every value that is read as a configuration has a normal form, which is what is written for the
configuration: reading it again gives the same configuration. What is read does not depend on which
spelling of a pattern's key is used, nor on the order of the fields of an object.
-/
namespace DocLint

def patternKeys : List (List String) :=
  [[includeName, "includes"], [excludeName, "excludes"]]

def SameKey (k l : String) : Prop :=
  k = l ∨ ∃ keys ∈ patternKeys, k ∈ keys ∧ l ∈ keys

/-- Some keys of patterns in an object are spelled otherwise, and its fields may stand in another
order. -/
inductive Json.Respelled : Json → Json → Prop
  | refl (v : Json) : Respelled v v
  | object {entries respelled others : Fields}
      (alike : List.Forall₂ (fun a b => SameKey a.1 b.1 ∧ b.2 = a.2) entries respelled)
      (perm : respelled.Perm others) : Respelled (.object entries) (.object others)

section
variable {σ α : Type} {label : String} {fields : List (FieldDecoder σ)} {empty : σ}
  {finish : σ → Except DecodeError α} {a : α} {v w : Json}

/-- Fields that take both spellings of a pattern's key. -/
def TakesSpellings (fields : List (FieldDecoder σ)) : Prop :=
  ∀ {k l : String}, SameKey k l → fields.find? (·.accepts k) = fields.find? (·.accepts l)

theorem takesSpellings_of
    (includes : fields.find? (·.accepts includeName) = fields.find? (·.accepts "includes"))
    (excludes : fields.find? (·.accepts excludeName) = fields.find? (·.accepts "excludes")) :
    TakesSpellings fields := by
  rintro k l (rfl | ⟨keys, member, left, right⟩)
  · rfl
  · simp only [patternKeys, List.mem_cons, List.not_mem_nil, or_false] at member
    rcases member with rfl | rfl <;>
      simp only [List.mem_cons, List.not_mem_nil, or_false] at left right <;>
      rcases left with rfl | rfl <;> rcases right with rfl | rfl <;>
      simp only [includes, excludes]

theorem decodeRecord_of_respelled (separate : FieldDecoder.Separate fields)
    (takes : TakesSpellings fields) (respelled : v.Respelled w)
    (read : Json.decodeRecord label fields empty finish v = .ok a) :
    Json.decodeRecord label fields empty finish w = .ok a := by
  cases respelled with
  | refl => exact read
  | object alike perm =>
    obtain ⟨r, entered, done⟩ := Json.decodeRecord_object_eq_ok_iff.mp read
    refine Json.decodeRecord_object_eq_ok_iff.mpr ⟨r, ?_, done⟩
    apply FieldDecoder.fromFields_of_perm separate perm
    refine FieldDecoder.fromFields_of_forall₂ (alike.imp ?_) entered
    rintro ⟨k, u⟩ ⟨l, u'⟩ ⟨same, rfl⟩ r s enters
    rw [FieldDecoder.enter, ← takes same]
    exact enters

end

namespace ModeOptions

theorem separate_fields : FieldDecoder.Separate fields := by
  apply FieldDecoder.separate_four
  case fills_a | fills_b | fills_c | fills_d =>
    exact FieldDecoder.fills_ofSlot (by intros; rfl)
  case apart_ab | apart_ac | apart_ad | apart_bc | apart_bd | apart_cd =>
    exact FieldDecoder.apart_ofSlot (fun _ _ => rfl) (fun _ _ => rfl) fun _ _ _ => rfl

theorem decode_of_respelled {v w : Json} {o : ModeOptions} (respelled : v.Respelled w)
    (read : decode v = .ok o) : decode w = .ok o :=
  decodeRecord_of_respelled separate_fields (takesSpellings_of rfl rfl) respelled read

theorem decode_encode (o : ModeOptions) : decode o.encode = .ok o := by
  obtain ⟨includePattern, excludePattern, branch, remote⟩ := o
  cases includePattern <;> cases excludePattern <;> cases branch <;> cases remote <;> rfl

end ModeOptions

namespace CheckConfig

theorem separate_fields : FieldDecoder.Separate fields := by
  apply FieldDecoder.separate_four
  case fills_a | fills_b | fills_c | fills_d =>
    exact FieldDecoder.fills_ofSlot (by intros; rfl)
  case apart_ab | apart_ac | apart_ad | apart_bc | apart_bd | apart_cd =>
    exact FieldDecoder.apart_ofSlot (fun _ _ => rfl) (fun _ _ => rfl) fun _ _ _ => rfl

theorem decode_of_respelled {v w : Json} {c : CheckConfig} (respelled : v.Respelled w)
    (read : decode v = .ok c) : decode w = .ok c :=
  decodeRecord_of_respelled separate_fields (takesSpellings_of rfl rfl) respelled read

/-- Settings as they are read: never `null`, and with sorted objects. -/
def Settled (settings : Option Json) : Prop :=
  ∀ v, settings = some v → v ≠ .null ∧ v.sorted = v

theorem settled_of_decodeSettings {v : Json} {settings : Option Json}
    (read : decodeSettings v = .ok settings) : Settled settings := by
  rintro w rfl
  by_cases missing : v = .null
  · rw [missing] at read
    cases read
  · rw [decodeSettings, Json.decodeOption_of_ne_null missing] at read
    cases read
    exact ⟨mt Json.sorted_eq_null_iff.mp missing, Json.sorted_sorted v⟩

theorem settled_of_decode {v : Json} {c : CheckConfig} (read : decode v = .ok c) :
    Settled c.settings := by
  let P (d : Draft) : Prop := Settled (d.settings.getD none)
  have keeps : ∀ f ∈ fields, ∀ {v : Json} {r s : Draft}, P r → f.decode v r = .ok s → P s := by
    simp only [fields, List.forall_mem_cons]
    refine ⟨?_, ?_, ?_, ?_, List.forall_mem_nil _⟩ <;> intro v r s before entered <;>
      obtain ⟨x, decoded, rfl⟩ := FieldDecoder.ofSlot_decode_eq_ok_iff.mp entered
    · exact before
    · exact before
    · exact before
    · exact settled_of_decodeSettings decoded
  have start : P {} := by
    rintro w ⟨⟩
  obtain ⟨d, settled, done⟩ := Json.exists_record_of_decodeRecord (P := P) start keeps read
  rw [finish] at done
  cases named : requireField "name" d.name with
  | error e => rw [named] at done; cases done
  | ok name =>
    rw [named] at done
    cases done
    exact settled

theorem decode_encode {c : CheckConfig} (settled : Settled c.settings) :
    decode c.encode = .ok c := by
  obtain ⟨name, includePattern, excludePattern, settings⟩ := c
  cases settings with
  | none => cases includePattern <;> cases excludePattern <;> rfl
  | some v =>
    obtain ⟨present, sorted⟩ := settled v rfl
    have read : decode (encode ⟨name, includePattern, excludePattern, some v⟩) =
        .ok ⟨name, includePattern, excludePattern, some v.sorted⟩ := by
      cases v with
      | null => exact absurd rfl present
      | bool | number | string | array | object =>
        cases includePattern <;> cases excludePattern <;> rfl
    rw [read, sorted]

end CheckConfig

namespace Configuration

theorem separate_fields : FieldDecoder.Separate fields := by
  apply FieldDecoder.separate_four
  case fills_a | fills_b | fills_c | fills_d =>
    exact FieldDecoder.fills_ofSlot (by intros; rfl)
  case apart_ab | apart_ac | apart_ad | apart_bc | apart_bd | apart_cd =>
    exact FieldDecoder.apart_ofSlot (fun _ _ => rfl) (fun _ _ => rfl) fun _ _ _ => rfl

/-- The value of a field in which some keys of patterns are spelled otherwise, those of the options
or of any of the checks. -/
inductive RespelledField : String → Json → Json → Prop
  | refl (name : String) (v : Json) : RespelledField name v v
  | options {v w : Json} (respelled : v.Respelled w) : RespelledField "modeConfig" v w
  | checks {items others : List Json} (respelled : List.Forall₂ Json.Respelled items others) :
      RespelledField "checks" (.array items) (.array others)

def fieldNames : List String := ["mode", "modeConfig", "baseDirectory", "checks"]

/-- A configuration in which some keys of patterns are spelled otherwise; it is an object, whose
fields may stand in another order, or a list of its fields. -/
inductive Respelled : Json → Json → Prop
  | object {entries respelled others : Fields}
      (alike : List.Forall₂ (fun a b => b.1 = a.1 ∧ RespelledField a.1 a.2 b.2) entries respelled)
      (perm : respelled.Perm others) : Respelled (.object entries) (.object others)
  | array {items others : List Json} (short : items.length ≤ fieldNames.length)
      (alike : List.Forall₂ (fun a w => RespelledField a.1 a.2 w) (fieldNames.zip items) others) :
      Respelled (.array items) (.array others)

theorem decodeChecks_of_respelled {items others : List Json} {checks : List CheckConfig}
    (respelled : List.Forall₂ Json.Respelled items others)
    (read : Json.decodeList CheckConfig.decode (.array items) = .ok checks) :
    Json.decodeList CheckConfig.decode (.array others) = .ok checks := by
  rw [Json.decodeList_array_eq_ok_iff] at read ⊢
  induction respelled generalizing checks with
  | nil => exact read
  | cons same _ ih =>
    rcases read with _ | ⟨first, rest⟩
    exact .cons (CheckConfig.decode_of_respelled same first) (ih rest)

theorem settled_of_decodeChecks {v : Json} {checks : List CheckConfig}
    (read : Json.decodeList CheckConfig.decode v = .ok checks) :
    ∀ check ∈ checks, CheckConfig.Settled check.settings := by
  cases v with
  | array items =>
    rw [Json.decodeList_array_eq_ok_iff] at read
    induction read with
    | nil => exact fun _ member => absurd member List.not_mem_nil
    | cons decoded _ ih =>
      exact List.forall_mem_cons.mpr ⟨CheckConfig.settled_of_decode decoded, ih⟩
  | null | bool | number | string | object => cases read

variable {f : FieldDecoder Draft} {name : String} {v w : Json} {r s : Draft}

theorem decode_field_of_respelled (known : f ∈ fields) (same : f.name = name)
    (respelled : RespelledField name v w) (read : f.decode v r = .ok s) :
    f.decode w r = .ok s := by
  simp only [fields, List.mem_cons, List.not_mem_nil, or_false] at known
  cases respelled with
  | refl => exact read
  | options respelled =>
    rcases known with rfl | rfl | rfl | rfl
    · exact absurd same (by decide)
    · obtain ⟨options, decoded, rfl⟩ := FieldDecoder.ofSlot_decode_eq_ok_iff.mp read
      exact FieldDecoder.ofSlot_decode_eq_ok_iff.mpr
        ⟨options, ModeOptions.decode_of_respelled respelled decoded, rfl⟩
    · exact absurd same (by decide)
    · exact absurd same (by decide)
  | checks respelled =>
    rcases known with rfl | rfl | rfl | rfl
    · exact absurd same (by decide)
    · exact absurd same (by decide)
    · exact absurd same (by decide)
    · obtain ⟨checks, decoded, rfl⟩ := FieldDecoder.ofSlot_decode_eq_ok_iff.mp read
      exact FieldDecoder.ofSlot_decode_eq_ok_iff.mpr
        ⟨checks, decodeChecks_of_respelled respelled decoded, rfl⟩

theorem name_of_found (found : fields.find? (·.accepts name) = some f) : f.name = name := by
  have accepted := List.find?_some found
  have known := List.mem_of_find?_eq_some found
  simp only [fields, List.mem_cons, List.not_mem_nil, or_false] at known
  rcases known with rfl | rfl | rfl | rfl <;>
    simpa [FieldDecoder.accepts, FieldDecoder.ofSlot] using accepted

theorem enter_of_respelled (respelled : RespelledField name v w)
    (entered : FieldDecoder.enter fields (name, v) r = .ok s) :
    FieldDecoder.enter fields (name, w) r = .ok s := by
  rw [FieldDecoder.enter_eq_ok_iff] at entered ⊢
  refine entered.imp_right ?_
  rintro ⟨f, found, empty, decoded⟩
  have known := List.mem_of_find?_eq_some found
  exact ⟨f, found, empty, decode_field_of_respelled known (name_of_found found) respelled decoded⟩

theorem decode_items_of_respelled {known : List (FieldDecoder Draft)}
    (inside : ∀ f ∈ known, f ∈ fields) {items others : List Json}
    (alike : List.Forall₂ (fun a w => RespelledField a.1 a.2 w)
      ((known.map (·.name)).zip items) others) :
    List.Forall₂
      (fun (a : FieldDecoder Draft × Json) w =>
        ∀ {r s : Draft}, a.1.decode a.2 r = .ok s → a.1.decode w r = .ok s)
      (known.zip items) others := by
  induction known generalizing items others with
  | nil =>
    cases alike
    exact .nil
  | cons f known ih =>
    rw [List.forall_mem_cons] at inside
    cases items with
    | nil =>
      cases alike
      exact .nil
    | cons v items =>
      rcases alike with _ | ⟨respelled, alike⟩
      exact .cons (decode_field_of_respelled inside.1 rfl respelled) (ih inside.2 alike)

theorem decode_of_respelled {c : Configuration} (respelled : Respelled v w)
    (read : decode v = .ok c) : decode w = .ok c := by
  cases respelled with
  | object alike perm =>
    obtain ⟨d, entered, done⟩ := Json.decodeRecord_object_eq_ok_iff.mp read
    refine Json.decodeRecord_object_eq_ok_iff.mpr ⟨d, ?_, done⟩
    apply FieldDecoder.fromFields_of_perm separate_fields perm
    refine FieldDecoder.fromFields_of_forall₂ (alike.imp ?_) entered
    rintro ⟨k, v⟩ ⟨_, w⟩ ⟨rfl, respelled⟩ r s enters
    exact enter_of_respelled respelled enters
  | array short alike =>
    rename_i items others
    obtain ⟨_, d, entered, done⟩ := Json.decodeRecord_array_eq_ok_iff.mp read
    have length : others.length ≤ fields.length := by
      rw [← alike.length_eq, List.length_zip]
      exact Nat.min_le_left _ _
    exact Json.decodeRecord_array_eq_ok_iff.mpr ⟨length, d, FieldDecoder.fromItems_of_forall₂ short
      (decode_items_of_respelled (fun _ member => member) alike) entered, done⟩

theorem decode_encode {c : Configuration}
    (settled : ∀ check ∈ c.checks, CheckConfig.Settled check.settings) :
    decode c.encode = .ok c := by
  have mode : Mode.decode c.mode.encode = .ok c.mode := by
    cases c.mode <;> rfl
  have checks : Json.decodeList CheckConfig.decode (.array (c.checks.map CheckConfig.encode)) =
      .ok c.checks :=
    Json.decodeList_map fun check member => CheckConfig.decode_encode (settled check member)
  refine Json.decodeRecord_object_eq_ok_iff.mpr
    ⟨⟨some c.mode, some c.modeOptions, some c.baseDirectory, some c.checks⟩, ?_, rfl⟩
  rw [FieldDecoder.fromFields_cons_of_found rfl rfl
      (FieldDecoder.ofSlot_decode_eq_ok_iff.mpr ⟨c.mode, mode, rfl⟩),
    FieldDecoder.fromFields_cons_of_found rfl rfl
      (FieldDecoder.ofSlot_decode_eq_ok_iff.mpr
        ⟨c.modeOptions, ModeOptions.decode_encode c.modeOptions, rfl⟩),
    FieldDecoder.fromFields_cons_of_found rfl rfl
      (FieldDecoder.ofSlot_decode_eq_ok_iff.mpr ⟨c.baseDirectory, rfl, rfl⟩),
    FieldDecoder.fromFields_cons_of_found rfl rfl
      (FieldDecoder.ofSlot_decode_eq_ok_iff.mpr ⟨c.checks, checks, rfl⟩)]
  rfl

theorem settled_of_decode {c : Configuration} (read : decode v = .ok c) :
    ∀ check ∈ c.checks, CheckConfig.Settled check.settings := by
  let P (d : Draft) : Prop :=
    ∀ check ∈ d.checks.getD [], CheckConfig.Settled check.settings
  have keeps : ∀ f ∈ fields, ∀ {v : Json} {r s : Draft}, P r → f.decode v r = .ok s → P s := by
    simp only [fields, List.forall_mem_cons]
    refine ⟨?_, ?_, ?_, ?_, List.forall_mem_nil _⟩ <;> intro v r s before entered <;>
      obtain ⟨x, decoded, rfl⟩ := FieldDecoder.ofSlot_decode_eq_ok_iff.mp entered
    · exact before
    · exact before
    · exact before
    · exact settled_of_decodeChecks decoded
  have start : P {} := fun _ member => absurd member List.not_mem_nil
  obtain ⟨d, settled, done⟩ := Json.exists_record_of_decodeRecord (P := P) start keeps read
  cases done
  exact settled

/-- What is written for a configuration that was read from a value is read as that configuration
again, so that writing it once more changes nothing. The value and what was written are read the
same if keys of patterns in them are spelled otherwise and fields are given in another order. -/
theorem decode_normal_form {v : Json} {c : Configuration} (read : decode v = .ok c) :
    decode c.encode = .ok c ∧ (decode c.encode).map encode = .ok c.encode ∧
    ∀ w : Json, Respelled v w ∨ Respelled c.encode w → decode w = .ok c := by
  have again : decode c.encode = .ok c := decode_encode (settled_of_decode read)
  refine ⟨again, ?_, ?_⟩
  · rw [again]
    rfl
  · rintro w (respelled | respelled)
    · exact decode_of_respelled respelled read
    · exact decode_of_respelled respelled again

/-- Both patterns under their short names, a mode as an object, settings that are not sorted, and a
check that is a list of its fields. -/
private def shorthand : Json :=
  .object [("mode", .object [("Changed", .null)]),
    ("modeConfig", .object [("branch", .null), ("includes", .string "docs/")]),
    ("checks", .array [
      .object [("excludes", .string "draft"), ("name", .string "Spelling"),
        ("settings", .object [("warnLimit", .nat 3), ("dictionary", .null)])],
      .array [.string "WriteGood"]])]

private def spelledOut : Json :=
  .object [("modeConfig", .object [("includePattern", .string "docs/"), ("branch", .null)]),
    ("mode", .object [("Changed", .null)]),
    ("checks", .array [
      .object [("excludePattern", .string "draft"), ("name", .string "Spelling"),
        ("settings", .object [("warnLimit", .nat 3), ("dictionary", .null)])],
      .array [.string "WriteGood"]])]

private theorem respelled_shorthand : Respelled shorthand spelledOut := by
  have includes : SameKey "includes" includeName :=
    .inr ⟨[includeName, "includes"], by decide, by decide, by decide⟩
  have excludes : SameKey "excludes" excludeName :=
    .inr ⟨[excludeName, "excludes"], by decide, by decide, by decide⟩
  have options : Json.Respelled (.object [("branch", .null), ("includes", .string "docs/")])
      (.object [("includePattern", .string "docs/"), ("branch", .null)]) := by
    refine .object (.cons ?_ (.cons ?_ .nil)) (.swap _ _ _)
    · exact ⟨.inl rfl, rfl⟩
    · exact ⟨includes, rfl⟩
  refine .object (.cons ?_ (.cons ?_ (.cons ?_ .nil))) (.swap _ _ _)
  · exact ⟨rfl, .refl _ _⟩
  · exact ⟨rfl, .options options⟩
  · refine ⟨rfl, .checks (.cons (.object (.cons ?_ (.cons ?_ (.cons ?_ .nil))) (.refl _))
      (.cons (.refl _) .nil))⟩
    · exact ⟨excludes, rfl⟩
    · exact ⟨.inl rfl, rfl⟩
    · exact ⟨.inl rfl, rfl⟩

theorem decode_normal_form_of_shorthand :
    ∃ c, decode shorthand = .ok c ∧ decode c.encode = .ok c ∧ decode spelledOut = .ok c := by
  have reads : (decode shorthand).toBool = true := rfl
  cases read : decode shorthand with
  | error e => rw [read] at reads; cases reads
  | ok c =>
    obtain ⟨again, _, others⟩ := decode_normal_form read
    exact ⟨c, rfl, again, others spelledOut (.inl respelled_shorthand)⟩

end Configuration
end DocLint
