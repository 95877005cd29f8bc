import DocLint.Json.Basic

/-!
# Equality of JSON values

Two values are equal if they have the same shape and the same leaves. Integers equal no reals, even
where the numbers do, and the order of fields counts, which sorted objects have in common.
-/
namespace DocLint.Json

mutual
/-- Equality of JSON values; reals are compared as floats. -/
inductive Equals : Json → Json → Prop
  | null : Equals .null .null
  | bool (b : Bool) : Equals (.bool b) (.bool b)
  | integer (n : Int) : Equals (.number (.integer n)) (.number (.integer n))
  | real {x y : Float} (same : (x == y) = true) : Equals (.number (.real x)) (.number (.real y))
  | string (s : String) : Equals (.string s) (.string s)
  | array {items others : List Json} (same : ItemsEqual items others) :
      Equals (.array items) (.array others)
  | object {fields others : Fields} (same : FieldsEqual fields others) :
      Equals (.object fields) (.object others)

inductive ItemsEqual : List Json → List Json → Prop
  | nil : ItemsEqual [] []
  | cons {a b : Json} {items others : List Json} (same : Equals a b)
      (rest : ItemsEqual items others) : ItemsEqual (a :: items) (b :: others)

inductive FieldsEqual : Fields → Fields → Prop
  | nil : FieldsEqual [] []
  | cons {a b : Json} {fields others : Fields} (key : String) (same : Equals a b)
      (rest : FieldsEqual fields others) : FieldsEqual ((key, a) :: fields) ((key, b) :: others)
end

theorem not_integer_equals_real (n : Int) (x : Float) :
    ¬Equals (.number (.integer n)) (.number (.real x)) := nofun

mutual
theorem equals_of_agrees {a b : Json} (agree : a.agrees b = true) : Equals a b := by
  match a, b with
  | .null, .null => exact .null
  | .bool _, .bool _ =>
    obtain rfl := beq_iff_eq.mp agree
    exact .bool _
  | .number (.integer _), .number (.integer _) =>
    obtain rfl := beq_iff_eq.mp agree
    exact .integer _
  | .number (.real _), .number (.real _) => exact .real agree
  | .string _, .string _ =>
    obtain rfl := beq_iff_eq.mp agree
    exact .string _
  | .array _, .array _ => exact .array (itemsEqual_of_agree agree)
  | .object _, .object _ => exact .object (fieldsEqual_of_agree agree)

theorem itemsEqual_of_agree {items others : List Json} (agree : agreeItems items others = true) :
    ItemsEqual items others := by
  match items, others with
  | [], [] => exact .nil
  | _ :: _, _ :: _ =>
    rw [agreeItems, Bool.and_eq_true] at agree
    exact .cons (equals_of_agrees agree.1) (itemsEqual_of_agree agree.2)

theorem fieldsEqual_of_agree {fields others : Fields} (agree : agreeFields fields others = true) :
    FieldsEqual fields others := by
  match fields, others with
  | [], [] => exact .nil
  | (_, _) :: _, (_, _) :: _ =>
    rw [agreeFields, Bool.and_eq_true, Bool.and_eq_true] at agree
    obtain ⟨⟨key, same⟩, rest⟩ := agree
    obtain rfl := beq_iff_eq.mp key
    exact .cons _ (equals_of_agrees same) (fieldsEqual_of_agree rest)
end

mutual
theorem Equals.agrees {a b : Json} (same : Equals a b) : a.agrees b = true := by
  match same with
  | .null => rfl
  | .bool b => exact beq_self_eq_true b
  | .integer n => exact beq_self_eq_true n
  | .real same => exact same
  | .string s => exact beq_self_eq_true s
  | .array same => exact same.agree
  | .object same => exact same.agree

theorem ItemsEqual.agree {items others : List Json} (same : ItemsEqual items others) :
    agreeItems items others = true := by
  match same with
  | .nil => rfl
  | .cons same rest =>
    rw [agreeItems, Bool.and_eq_true]
    exact ⟨same.agrees, rest.agree⟩

theorem FieldsEqual.agree {fields others : Fields} (same : FieldsEqual fields others) :
    agreeFields fields others = true := by
  match same with
  | .nil => rfl
  | .cons key same rest =>
    rw [agreeFields, Bool.and_eq_true, Bool.and_eq_true]
    exact ⟨⟨beq_self_eq_true key, same.agrees⟩, rest.agree⟩
end

theorem agrees_iff {a b : Json} : a.agrees b = true ↔ Equals a b :=
  ⟨equals_of_agrees, Equals.agrees⟩

end DocLint.Json
