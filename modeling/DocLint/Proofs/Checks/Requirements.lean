import DocLint.Checks.RequiredProperties
import DocLint.Proofs.Json.Equality
import DocLint.Proofs.Json.Slots
import DocLint.Proofs.Severity.Fold

/-!
# Required properties

A requirement is violated by a document without the property, or whose property has a value that
equals none of the allowed ones. The violated requirements alone decide on the status, each with the
status that it asks for; information counts for the message, but not for the status.
-/
namespace DocLint.Checks.RequiredProperties

/-! ### Reading requirements -/

/-- The allowed values that settings give, where `null` gives none. -/
inductive GivesValues : Option Json → Option (List Json) → Prop
  | absent : GivesValues none none
  | null : GivesValues (some .null) none
  | values (vs : List Json) : GivesValues (some (.array vs)) (some vs)

/-- The status that settings give for a violation; an error, unless they name another one. -/
inductive GivesStatus : Option Json → Severity → Prop
  | absent : GivesStatus none .error
  | null : GivesStatus (some .null) .error
  | named {v : Json} {s : Severity} (read : Severity.decode v = .ok s) : GivesStatus (some v) s

/-- How settings spell a requirement: by a bare name, or with the values and the status in detail.
-/
inductive Spells : Json → Requirement → Prop
  | bare (property : String) : Spells (.string property) ⟨property, none, .error⟩
  | detailed {v : Json} {r : Requirement}
      (property : v.given? "property" 0 = some (.string r.property))
      (values : GivesValues (v.given? "allowedValues" 1) r.allowedValues)
      (status : GivesStatus (v.given? "invalidStatus" 2) r.invalidStatus) : Spells v r

open FieldDecoder

theorem hasSlot_property : HasSlot Requirement.fields 0 "property" Requirement.Draft.property
    Json.decodeString := by
  refine ⟨[], _, _, _, rfl, rfl, fun _ _ => rfl, ?_⟩
  simp only [List.nil_append, List.forall_mem_cons]
  exact ⟨avoids_ofSlot (by decide) fun _ _ => rfl, avoids_ofSlot (by decide) fun _ _ => rfl,
    List.forall_mem_nil _⟩

theorem hasSlot_allowedValues : HasSlot Requirement.fields 1 "allowedValues"
    Requirement.Draft.allowedValues (Json.decodeOption (Json.decodeList .ok)) := by
  refine ⟨[_], _, _, _, rfl, rfl, fun _ _ => rfl, ?_⟩
  simp only [List.singleton_append, List.forall_mem_cons]
  exact ⟨avoids_ofSlot (by decide) fun _ _ => rfl, avoids_ofSlot (by decide) fun _ _ => rfl,
    List.forall_mem_nil _⟩

theorem hasSlot_invalidStatus : HasSlot Requirement.fields 2 "invalidStatus"
    Requirement.Draft.invalidStatus (Json.decodeOption Severity.decode) := by
  refine ⟨[_, _], _, _, _, rfl, rfl, fun _ _ => rfl, ?_⟩
  simp only [List.append_nil, List.forall_mem_cons]
  exact ⟨avoids_ofSlot (by decide) fun _ _ => rfl, avoids_ofSlot (by decide) fun _ _ => rfl,
    List.forall_mem_nil _⟩

theorem hasSlot_properties : HasSlot fields 0 "properties" Draft.properties
    (Json.decodeList Requirement.decode) :=
  ⟨[], _, _, _, rfl, rfl, fun _ _ => rfl, List.forall_mem_nil _⟩

theorem givesValues_of_holds {given : Option Json} {d : Requirement.Draft}
    (holds : Holds Requirement.Draft.allowedValues (Json.decodeOption (Json.decodeList .ok))
      given d) :
    GivesValues given (d.allowedValues.getD none) := by
  cases given with
  | none =>
    rw [show d.allowedValues = none from holds]
    exact .absent
  | some v =>
    obtain ⟨x, decoded, held⟩ := holds
    rw [held, Option.getD_some]
    rcases Json.decodeOption_cases decoded with ⟨rfl, rfl⟩ | ⟨values, listed, rfl⟩
    · exact .null
    · cases v with
      | array items =>
        have same := Json.decodeList_array_eq_ok_iff.mp listed
        simp only [Except.ok.injEq, List.forall₂_eq_eq_eq] at same
        exact same ▸ .values items
      | null | bool | number | string | object => cases listed

theorem givesStatus_of_holds {given : Option Json} {d : Requirement.Draft}
    (holds : Holds Requirement.Draft.invalidStatus (Json.decodeOption Severity.decode) given d) :
    GivesStatus given ((d.invalidStatus.getD none).getD .error) := by
  cases given with
  | none =>
    rw [show d.invalidStatus = none from holds]
    exact .absent
  | some v =>
    obtain ⟨x, decoded, held⟩ := holds
    rw [held, Option.getD_some]
    rcases Json.decodeOption_cases decoded with ⟨rfl, rfl⟩ | ⟨s, read, rfl⟩
    · exact .null
    · exact .named read

theorem spells_of_decodeDetailed {v : Json} {r : Requirement}
    (read : Requirement.decodeDetailed v = .ok r) : Spells v r := by
  obtain ⟨d, done, holds⟩ := Json.exists_holds_of_decodeRecord read
  cases named : d.property with
  | none =>
    rw [named] at done
    cases done
  | some name =>
    rw [named] at done
    cases done
    obtain ⟨w, given, decoded⟩ := (holds hasSlot_property rfl).exists_given named
    refine .detailed ?_ (givesValues_of_holds (holds hasSlot_allowedValues rfl))
      (givesStatus_of_holds (holds hasSlot_invalidStatus rfl))
    cases w with
    | string s =>
      cases decoded
      exact given
    | null | bool | number | array | object => cases decoded

theorem spells_of_decode {v : Json} {r : Requirement} (read : Requirement.decode v = .ok r) :
    Spells v r := by
  rw [Requirement.decode.eq_def] at read
  split at read
  case h_1 property =>
    cases read
    exact .bare property
  case h_2 =>
    cases detailed : Requirement.decodeDetailed v with
    | error e =>
      rw [detailed] at read
      cases read
    | ok requirement =>
      rw [detailed] at read
      cases read
      exact spells_of_decodeDetailed detailed

/-- Settings that are read list the requirements, each in one of its spellings. -/
theorem exists_items_of_decode {json : Json} {requirements : List Requirement}
    (read : decode json = .ok requirements) :
    ∃ items, json.given? "properties" 0 = some (.array items) ∧
      List.Forall₂ Spells items requirements := by
  obtain ⟨d, done, holds⟩ := Json.exists_holds_of_decodeRecord read
  cases listed : d.properties with
  | none =>
    rw [listed] at done
    cases done
  | some x =>
    rw [listed] at done
    cases done
    obtain ⟨v, given, decoded⟩ := (holds hasSlot_properties rfl).exists_given listed
    cases v with
    | array items =>
      refine ⟨items, given, ?_⟩
      exact (Json.decodeList_array_eq_ok_iff.mp decoded).imp fun _ _ => spells_of_decode
    | null | bool | number | string | object => cases decoded

/-! ### Violations -/

/-- The property is missing, or it has a value that equals none of the allowed ones. -/
def IsViolated (properties : Fields) (r : Requirement) : Prop :=
  ∀ value, Fields.get? properties r.property = some value →
    ∃ allowed, r.allowedValues = some allowed ∧ ∀ v ∈ allowed, ¬v.Equals value

def complaint (properties : Fields) (r : Requirement) : String :=
  match Fields.get? properties r.property with
  | none => "Missing property: " ++ r.property
  | some value =>
    "Invalid value: " ++ display value ++ " for: " ++ r.property ++ ", must be one of: " ++
      (Json.array (r.allowedValues.getD [])).compact

variable {properties : Fields} {r : Requirement} {requirements others : List Requirement}

theorem isViolated_iff (properties : Fields) (r : Requirement) : IsViolated properties r ↔
    (Fields.get? properties r.property).all (fun value => !r.allows value) = true := by
  have refused (value : Json) : (!r.allows value) = true ↔
      ∃ allowed, r.allowedValues = some allowed ∧ ∀ v ∈ allowed, ¬v.Equals value := by
    rw [Requirement.allows]
    cases r.allowedValues with
    | none => simp
    | some allowed => simp [← Json.agrees_iff]
  unfold IsViolated
  cases Fields.get? properties r.property with
  | none => simp
  | some value => simp only [Option.some.injEq, forall_eq', Option.all_some, refused]

instance (properties : Fields) (r : Requirement) : Decidable (IsViolated properties r) :=
  decidable_of_iff _ (isViolated_iff properties r).symm

/-- The status of a requirement: the one it asks for if it is violated. -/
def statusOf (properties : Fields) (r : Requirement) : Severity :=
  if IsViolated properties r then r.invalidStatus else .success

def entry (properties : Fields) (r : Requirement) : Json :=
  .object [("message", .string (if IsViolated properties r then complaint properties r
      else "Property " ++ r.property ++ " is valid")),
    ("property", .string r.property), ("status", (statusOf properties r).encode)]

theorem check_eq (properties : Fields) (r : Requirement) : r.check properties =
    ⟨r.property, statusOf properties r, if IsViolated properties r then complaint properties r
      else "Property " ++ r.property ++ " is valid"⟩ := by
  have violated := isViolated_iff properties r
  rw [Requirement.check, statusOf, complaint]
  cases given : Fields.get? properties r.property with
  | none =>
    rw [given] at violated
    have missing : IsViolated properties r := violated.mpr rfl
    rw [if_pos missing, if_pos missing]
  | some value =>
    rw [given] at violated
    cases allowed : r.allows value with
    | true =>
      have kept : ¬IsViolated properties r := by simp [violated, allowed]
      simp only [if_neg kept, allowed, if_true]
    | false =>
      have broken : IsViolated properties r := by simp [violated, allowed]
      simp only [if_pos broken, allowed, Bool.false_eq_true, if_false]

theorem encode_check (properties : Fields) (r : Requirement) :
    (r.check properties).encode = entry properties r := by
  have sorted (name status message : Json) :
      Json.ofFields [("property", name), ("status", status), ("message", message)] =
        .object [("message", message), ("property", name), ("status", status)] := by
    have first : "message" < "property" := by decide
    have later : ¬"status" < "property" := by decide
    have other : ¬("status" == "property") = true := by decide
    simp only [Json.ofFields, List.foldl_cons, List.foldl_nil, Fields.insert, if_pos first,
      if_neg later, if_neg other]
  rw [check_eq]
  exact sorted _ _ _

/-! ### Verdicts -/

/-- Some requirement is violated that asks for the status. -/
def Asks (properties : Fields) (requirements : List Requirement) (status : Severity) : Prop :=
  ∃ r ∈ requirements, IsViolated properties r ∧ r.invalidStatus = status

/-- The violated requirements that do not ask for success. -/
def problems (properties : Fields) (requirements : List Requirement) : List Requirement :=
  requirements.filter fun r => IsViolated properties r ∧ r.invalidStatus ≠ .success

structure IsVerdict (properties : Fields) (requirements : List Requirement) (result : CheckResult) :
    Prop where
  detail : result.detail = some (.array (requirements.map (entry properties)))
  failure_iff : result.status = .failure ↔ Asks properties requirements .failure
  error_iff : result.status = .error ↔
    ¬Asks properties requirements .failure ∧ Asks properties requirements .error
  warn_iff : result.status = .warn ↔ ¬Asks properties requirements .failure ∧
    ¬Asks properties requirements .error ∧ Asks properties requirements .warn
  success_iff : result.status = .success ↔
    ∀ r ∈ requirements, IsViolated properties r →
      r.invalidStatus = .info ∨ r.invalidStatus = .success
  no_problems : problems properties requirements = [] → result.message =
    "Checked: " ++ toString requirements.length ++ " properties, result: Success"
  some_problems : problems properties requirements ≠ [] → result.message =
    "; ".intercalate ((problems properties requirements).map (complaint properties))

theorem mem_map_statusOf_iff (status : Severity) (alarming : status ≠ .success) :
    status ∈ requirements.map (statusOf properties) ↔ Asks properties requirements status := by
  simp only [List.mem_map, Asks]
  refine exists_congr fun r => and_congr_right fun _ => ?_
  rw [statusOf]
  split
  case isTrue violated => simp [violated]
  case isFalse kept => simp [kept, alarming.symm]

/-- The requirements that get a status other than success are the problems. -/
theorem filter_statusOf : requirements.filter (fun r => statusOf properties r != .success) =
    problems properties requirements := by
  refine List.filter_congr fun r _ => ?_
  rw [Bool.eq_iff_iff, statusOf, decide_eq_true_eq]
  split
  case isTrue violated => simp [violated]
  case isFalse kept => simp [kept]

theorem status_assess (document : Document) (requirements : List Requirement) :
    (assess document requirements).status =
      .fold (requirements.map (statusOf document.properties)) := by
  simp only [assess, List.map_map]
  congr 2
  funext r
  rw [Function.comp_apply, check_eq]

theorem fold_eq_success_of_no_problems (none : problems properties requirements = []) :
    Severity.fold (requirements.map (statusOf properties)) = .success := by
  rw [← filter_statusOf, List.filter_eq_nil_iff] at none
  rw [Severity.fold_eq_success_iff]
  have harmless (status : Severity) (alarming : status ≠ .success) :
      status ∉ requirements.map (statusOf properties) := by
    intro member
    obtain ⟨r, listed, rfl⟩ := List.mem_map.mp member
    exact none r listed (bne_iff_ne.mpr alarming)
  exact ⟨harmless _ nofun, harmless _ nofun, harmless _ nofun⟩

theorem message_assess (document : Document) (requirements : List Requirement) :
    (assess document requirements).message =
      if problems document.properties requirements = [] then
        "Checked: " ++ toString requirements.length ++ " properties, result: Success"
      else "; ".intercalate
        ((problems document.properties requirements).map (complaint document.properties)) := by
  have status := status_assess document requirements
  have findings : (requirements.map (Requirement.check document.properties)).filter
      (fun f => f.status != .success) = (problems document.properties requirements).map
        (Requirement.check document.properties) := by
    rw [List.filter_map, ← filter_statusOf]
    congr 2
    funext r
    rw [Function.comp_apply, check_eq]
  have messages : (problems document.properties requirements).map
      ((·.message) ∘ Requirement.check document.properties) =
        (problems document.properties requirements).map (complaint document.properties) := by
    refine List.map_congr_left fun r member => ?_
    have violated : IsViolated document.properties r := by
      exact (of_decide_eq_true (List.mem_filter.mp member).2).1
    rw [Function.comp_apply, check_eq, if_pos violated]
  simp only [assess] at status ⊢
  rw [findings, status, List.map_map, messages, List.isEmpty_map, List.length_map]
  by_cases none : problems document.properties requirements = []
  · have wording : " properties, result: " ++ Severity.success.name =
        " properties, result: Success" := by decide
    rw [if_pos none, none, fold_eq_success_of_no_problems none, List.isEmpty_nil, if_pos rfl,
      String.append_assoc, wording]
  · rw [if_neg none, if_neg (by simpa using none)]

theorem isVerdict_assess (document : Document) (requirements : List Requirement) :
    IsVerdict document.properties requirements (assess document requirements) where
  detail := by
    simp only [assess, List.map_map]
    congr 3
    funext r
    exact encode_check document.properties r
  failure_iff := by
    rw [status_assess, Severity.fold_eq_failure_iff, mem_map_statusOf_iff .failure nofun]
  error_iff := by
    rw [status_assess, Severity.fold_eq_error_iff, mem_map_statusOf_iff .failure nofun,
      mem_map_statusOf_iff .error nofun]
  warn_iff := by
    rw [status_assess, Severity.fold_eq_warn_iff, mem_map_statusOf_iff .failure nofun,
      mem_map_statusOf_iff .error nofun, mem_map_statusOf_iff .warn nofun]
  success_iff := by
    rw [status_assess, Severity.fold_eq_success_iff, mem_map_statusOf_iff .failure nofun,
      mem_map_statusOf_iff .error nofun, mem_map_statusOf_iff .warn nofun]
    constructor
    · rintro ⟨failure, error, warn⟩ r member violated
      cases asked : r.invalidStatus with
      | success => exact .inr rfl
      | info => exact .inl rfl
      | warn => exact absurd ⟨r, member, violated, asked⟩ warn
      | error => exact absurd ⟨r, member, violated, asked⟩ error
      | failure => exact absurd ⟨r, member, violated, asked⟩ failure
    · intro harmless
      have unasked {status : Severity} (other : status ≠ .info ∧ status ≠ .success) :
          ¬Asks document.properties requirements status := by
        rintro ⟨r, member, violated, rfl⟩
        exact (harmless r member violated).elim other.1 other.2
      exact ⟨unasked (by decide), unasked (by decide), unasked (by decide)⟩
  no_problems none := by rw [message_assess, if_pos none]
  some_problems some := by rw [message_assess, if_neg some]

/-! ### Changes -/

theorem rank_statusOf_le {richer : Fields}
    (fewer : ∀ r ∈ requirements, IsViolated richer r → IsViolated properties r) :
    (Severity.fold (requirements.map (statusOf richer))).rank ≤
      (Severity.fold (requirements.map (statusOf properties))).rank := by
  refine Severity.rank_fold_le fun status member alarming => ?_
  have other : status ≠ .success := by
    rintro rfl
    exact absurd alarming (by decide)
  rw [mem_map_statusOf_iff status other] at member ⊢
  obtain ⟨r, listed, violated, asked⟩ := member
  exact ⟨r, listed, fewer r listed violated, asked⟩

/-- One more property violates nothing new: a requirement for it was violated before. -/
theorem IsViolated.of_added {richer : Fields} {key : String}
    (same : ∀ name, name ≠ key → Fields.get? richer name = Fields.get? properties name)
    (absent : Fields.get? properties key = none) (violated : IsViolated richer r) :
    IsViolated properties r := by
  intro value given
  by_cases added : r.property = key
  · rw [added, absent] at given
    cases given
  · exact violated value (by rw [same _ added, given])

variable {document : Document} {json : Json}

theorem check_eq_ok (read : decode json = .ok requirements) (document : Document) :
    check document json = .ok (assess document requirements) := by
  rw [check, parseSettings, read]
  rfl

/-- Settings spell the requirements that are read from them, and the check says about a document
what these requirements say. More requirements never lower the status, their order is of no account,
and another property of the document never raises it, whether or not its values are restricted. -/
theorem check_answers_requirements (read : decode json = .ok requirements) (document : Document) :
    (∃ items, json.given? "properties" 0 = some (.array items) ∧
      List.Forall₂ Spells items requirements) ∧
    ∃ result, check document json = .ok result ∧
      IsVerdict document.properties requirements result ∧
      (∀ more others, decode more = .ok others → requirements ⊆ others →
        ∃ result', check document more = .ok result' ∧
          result.status.rank ≤ result'.status.rank) ∧
      (∀ other others, decode other = .ok others → requirements.Perm others →
        ∃ result', check document other = .ok result' ∧ result'.status = result.status) ∧
      ∀ (richer : Document) (key : String),
        (∀ name, name ≠ key →
          Fields.get? richer.properties name = Fields.get? document.properties name) →
        Fields.get? document.properties key = none →
        ∃ result', check richer json = .ok result' ∧
          result'.status.rank ≤ result.status.rank := by
  refine ⟨exists_items_of_decode read, _, check_eq_ok read document,
    isVerdict_assess document requirements, ?more, ?order, ?added⟩
  case more =>
    intro more others readMore included
    refine ⟨_, check_eq_ok readMore document, ?_⟩
    rw [status_assess, status_assess]
    exact Severity.rank_fold_le fun status member _ => List.map_subset _ included member
  case order =>
    intro other others readOther perm
    refine ⟨_, check_eq_ok readOther document, ?_⟩
    rw [status_assess, status_assess]
    exact Severity.fold_perm (perm.symm.map _)
  case added =>
    intro richer key same absent
    refine ⟨_, check_eq_ok read richer, ?_⟩
    rw [status_assess, status_assess]
    exact rank_statusOf_le fun _ _ violated =>
      violated.of_added same absent

/-- A real is no allowed integer, a missing property may be mere information, and a missing one that
asks for an error can be added. -/
theorem check_answers_layered_requirements :
    let settings : Json := .object [("properties", .array [.string "title",
      .object [("property", .string "summary"), ("invalidStatus", .string "Info")],
      .object [("allowedValues", .array [.number (.integer 1)]), ("invalidStatus", .string "Warn"),
        ("property", .string "layout")]])]
    let bare : Document := ⟨"a.md", [("layout", .number (.real 1))], "", "", []⟩
    let titled : Document :=
      ⟨"a.md", [("layout", .number (.real 1)), ("title", .string "A")], "", "", []⟩
    ∃ result better, check bare settings = .ok result ∧ check titled settings = .ok better ∧
      result.status = .error ∧ better.status = .warn := by
  intro settings bare titled
  let title : Requirement := ⟨"title", none, .error⟩
  let summary : Requirement := ⟨"summary", none, .info⟩
  let layout : Requirement := ⟨"layout", some [.number (.integer 1)], .warn⟩
  have read : decode settings = .ok [title, summary, layout] := rfl
  have restricted {document : Document} (given : Fields.get? document.properties "layout" =
      some (.number (.real 1))) : IsViolated document.properties layout := by
    intro value found
    obtain rfl := Option.some.inj (given.symm.trans found)
    exact ⟨_, rfl, List.forall_mem_singleton.mpr (Json.not_integer_equals_real 1 1)⟩
  obtain ⟨-, result, first, verdict, -, -, added⟩ := check_answers_requirements read bare
  obtain ⟨-, better, second, verdict', -⟩ := check_answers_requirements read titled
  have missing : IsViolated bare.properties title := fun value found => by cases found
  have present : ¬IsViolated titled.properties title := fun violated => by
    obtain ⟨allowed, given, -⟩ := violated _ rfl
    cases given
  have calm {document : Document} {status : Severity}
      (other : ∀ r ∈ [title, summary, layout], r.invalidStatus ≠ status) :
      ¬Asks document.properties [title, summary, layout] status := by
    rintro ⟨r, member, -, asked⟩
    exact other r member asked
  refine ⟨result, better, first, second, ?_, ?_⟩
  · exact verdict.error_iff.mpr ⟨calm (by decide), title, by simp, missing, rfl⟩
  · refine verdict'.warn_iff.mpr ⟨calm (by decide), ?_, layout, by simp, restricted rfl, rfl⟩
    rintro ⟨r, member, violated, asked⟩
    simp only [List.mem_cons, List.not_mem_nil, or_false] at member
    rcases member with rfl | rfl | rfl
    · exact present violated
    · cases asked
    · cases asked

end DocLint.Checks.RequiredProperties
