import TypeForm.Condition.Evaluation
import TypeForm.Proofs.Keyword.Type
import TypeForm.Proofs.Number.Exact

/-!
# Conformance to a type form

Which values a form accepts, said without conditions. Evaluating the condition that the `type`
keyword emits always gives an answer, and it is that the value does not conform
(`Form.evaluate_violated`).
-/
namespace TypeForm

/-! ### Values of a tag -/

/-- Whether a value is one of a tag's. The numbers of a float tag include NaN and the infinities;
those of an integer tag have an exact value that is an integer in the range. -/
def TypeTag.Admits (tag : TypeTag) (value : Data) : Prop :=
  match tag with
  | boolean => ∃ b, value = .bool b
  | string => ∃ s, value = .string s
  | timestamp => (∃ m, value = .moment m) ∨ ∃ s, value = .string s ∧ isDateTime s = true
  | float32 | float64 => ∃ x, value = .number x
  | int type => ∃ (x : Binary64) (n : ℤ), value = .number x ∧ x.rational? = some (n : ℚ) ∧
      type.range.min ≤ n ∧ n ≤ type.range.max

/-- Whether a value is accepted: one of the tag's, or null if the form is nullable. -/
def Form.Conforms (form : Form) (value : Data) : Prop :=
  (form.nullable = true ∧ value = .null) ∨ form.tag.Admits value

/-- The test for the values of a tag. -/
def TypeTag.admits : TypeTag → Data → Bool
  | boolean, .bool _ => true
  | string, .string _ => true
  | timestamp, .moment _ => true
  | timestamp, .string s => isDateTime s
  | float32, .number _ => true
  | float64, .number _ => true
  | int type, .number x => type.range.contains x
  | _, _ => false

theorem TypeTag.admits_iff (tag : TypeTag) (value : Data) :
    tag.admits value = true ↔ tag.Admits value := by
  cases tag with
  | int type => cases value <;> simp [admits, Admits, IntType.contains_iff]
  | _ => cases value <;> simp [admits, Admits]

instance (tag : TypeTag) (value : Data) : Decidable (tag.Admits value) :=
  decidable_of_iff _ (tag.admits_iff value)

instance (form : Form) (value : Data) : Decidable (form.Conforms value) :=
  decidable_of_iff ((form.nullable = true ∧ value.kind = .null) ∨ form.tag.Admits value) <| by
    unfold Form.Conforms
    cases value <;> simp [Data.kind]

theorem Form.decide_conforms (form : Form) (value : Data) :
    decide (form.Conforms value) =
      (form.nullable && value.kind == .null || form.tag.admits value) := by
  rw [Bool.eq_iff_iff, decide_eq_true_iff, Bool.or_eq_true, TypeTag.admits_iff, Form.Conforms]
  cases value <;> simp [Data.kind]

/-! ### The value of the emitted condition -/

@[simp] theorem Env.lookup_bind (env : Env) (name : Ident) (value : Data) :
    (env.bind name value).lookup name = .ok value := by
  simp [Env.lookup, Env.bind]

namespace Condition

@[simp] theorem test_bind (env : Env) (name : Ident) (value : Data) (holds : Data → Bool) :
    test (env.bind name value) name holds = .ok (holds value) := by
  simp [test, Except.map]

theorem evaluate_not {env : Env} {condition : Condition} {value : Bool}
    (evaluated : evaluate env condition = .ok value) :
    evaluate env (.not condition) = .ok (!value) := by
  simp [evaluate, evaluated, Except.map]

/-- Conditions that all have values hold together if each value is true. -/
theorem evaluateAll_of_values {env : Env} {conditions : List Condition} {values : List Bool}
    (evaluated : List.Forall₂ (fun condition value => evaluate env condition = .ok value)
      conditions values) :
    evaluateAll env conditions = .ok (values.all id) := by
  induction evaluated with
  | nil => rfl
  | @cons first value _ _ head _ ih => cases value <;> simp [evaluateAll, head, ih]

theorem evaluateAny_of_values {env : Env} {conditions : List Condition} {values : List Bool}
    (evaluated : List.Forall₂ (fun condition value => evaluate env condition = .ok value)
      conditions values) :
    evaluateAny env conditions = .ok (values.any id) := by
  induction evaluated with
  | nil => rfl
  | @cons first value _ _ head _ ih => cases value <;> simp [evaluateAny, head, ih]

end Condition

open Condition

private theorem contains_eq (range : IntRange) (x : Binary64) :
    range.contains x =
      (x.isFinite && Relation.atLeast.holds x range.min && Relation.atMost.holds x range.max &&
        x.isWhole) :=
  rfl

private theorem all_after_true (a b c d : Bool) :
    [true, a, b, c, d].all id = (a && b && c && d) := by
  simp [Bool.and_assoc]

private theorem evaluate_outside (type : IntType) (env : Env) (helper data : Ident)
    (value : Data) :
    ((TypeTag.int type).violated helper data).evaluate (env.bind data value) =
      .ok (!(TypeTag.int type).admits value) := by
  apply evaluate_not
  cases value with
  | number x =>
    have tested (holds : Data → Bool) : test (env.bind data (.number x)) data holds =
        .ok (holds (.number x)) := test_bind ..
    have number : evaluate (env.bind data (.number x)) (.kindIs data .number) = .ok true :=
      tested _
    have finite : evaluate (env.bind data (.number x)) (.isFinite data) = .ok x.isFinite :=
      tested _
    have compare (relation : Relation) (bound : Int) :
        evaluate (env.bind data (.number x)) (.compare data relation bound) =
          .ok (relation.holds x bound) := tested _
    have whole : evaluate (env.bind data (.number x)) (.isWhole data) = .ok x.isWhole :=
      tested _
    -- Each of the five tests has a value, whatever those before it say.
    have conjunction := evaluateAll_of_values <|
      .cons number <| .cons finite <| .cons (compare .atLeast type.range.min) <|
      .cons (compare .atMost type.range.max) <| .cons whole .nil
    have admitted : (TypeTag.int type).admits (.number x) = _ := contains_eq type.range x
    rw [admitted]
    exact conjunction.trans (congrArg Except.ok (all_after_true ..))
  | _ => simp [evaluate, evaluateAll, Data.kind, TypeTag.admits]

private theorem evaluate_notTimestamp (env : Env) (helper data : Ident) (value : Data)
    (bound : env.scope.helper? helper = some dateTimeHelper) :
    (TypeTag.timestamp.violated helper data).evaluate (env.bind data value) =
      .ok (!TypeTag.timestamp.admits value) := by
  apply evaluate_not
  have found : (env.bind data value).scope.helper? helper = some dateTimeHelper := bound
  have moment : evaluate (env.bind data value) (.isMoment data) =
      .ok (value.kind == .dateTime) := test_bind ..
  have text : evaluate (env.bind data value) (.kindIs data .string) =
      .ok (value.kind == .string) := test_bind ..
  have stamp : evaluate (env.bind data value) (.call helper data) =
      .ok (value.string?.any isDateTime) := by
    rw [evaluate, found]
    exact test_bind ..
  -- The helper is called for texts only, but it would have an answer for any value.
  have both : evaluate (env.bind data value) (.and _) = _ :=
    evaluateAll_of_values (.cons text (.cons stamp .nil))
  refine Eq.trans (evaluateAny_of_values (.cons moment (.cons both .nil))) ?_
  cases value <;> simp [TypeTag.admits, Data.kind, Data.string?]

/-- The emitted condition tells whether a value is none of the tag's. -/
theorem TypeTag.evaluate_violated (tag : TypeTag) (env : Env) (helper data : Ident) (value : Data)
    (bound : tag = .timestamp → env.scope.helper? helper = some dateTimeHelper) :
    (tag.violated helper data).evaluate (env.bind data value) = .ok (!tag.admits value) := by
  cases tag with
  | int type => exact evaluate_outside type env helper data value
  | timestamp => exact evaluate_notTimestamp env helper data value (bound rfl)
  | boolean | string | float32 | float64 =>
    refine evaluate_not (Eq.trans (test_bind ..) ?_)
    cases value <;> rfl

/-- The emitted condition tells whether a value does not conform, and never fails to. -/
theorem Form.evaluate_violated (form : Form) (env : Env) (helper data : Ident) (value : Data)
    (bound : form.tag = .timestamp → env.scope.helper? helper = some dateTimeHelper) :
    (form.violated helper data).evaluate (env.bind data value) =
      .ok (!decide (form.Conforms value)) := by
  have violated := form.tag.evaluate_violated env helper data value bound
  rw [form.decide_conforms value]
  cases nullable : form.nullable with
  | false =>
    rw [Form.violated, if_neg (by simp [nullable]), violated, Bool.false_and, Bool.false_or]
  | true =>
    have present : evaluate (env.bind data value) (.notNull data) =
        .ok (value.kind != .null) := test_bind ..
    rw [Form.violated, if_pos nullable]
    refine Eq.trans (evaluateAll_of_values (.cons violated (.cons present .nil))) ?_
    simp [Bool.and_comm, bne]

end TypeForm
