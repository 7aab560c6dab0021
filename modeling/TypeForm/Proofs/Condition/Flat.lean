import TypeForm.Keyword.Type

/-!
# Conditions in flat form

A condition is flat if at every depth conjunctions have several conjuncts, none of them true or a
conjunction itself, disjunctions in the same way, and nothing is negated twice and no constant is
negated. The folding constructors look only at the outermost part of what they are given, but they
build flat conditions from flat ones, and every flat condition can be built by them.

## Main result

`built_iff_flat`: what can be built from atoms and constants is what is flat, and the `type` keyword
emits nothing else.

## Proof strategy

Conjunctions and disjunctions are treated as one (`node`), told apart by the value that the
constructor leaves out. A flat condition contributes parts that are flat and that would contribute
themselves (`Flat.of_mem_operands`); putting such parts together gives a flat condition whether
there are several of them, one or none (`flat_gather`).
-/
namespace TypeForm
namespace Condition

/-- A test, which is neither a constant nor made of other conditions. -/
def IsAtom : Condition → Prop
  | const _ | not _ | and _ | or _ => False
  | _ => True

/-- What the folding constructors build from atoms and constants. -/
inductive Built : Condition → Prop
  | const (value : Bool) : Built (.const value)
  | atom {condition : Condition} (isAtom : IsAtom condition) : Built condition
  | negate {condition : Condition} (inner : Built condition) : Built condition.negate
  | both {left right : Condition} (first : Built left) (second : Built right) :
      Built (left.both right)
  | either {left right : Condition} (first : Built left) (second : Built right) :
      Built (left.either right)
  | all {conditions : List Condition} (each : ∀ condition ∈ conditions, Built condition) :
      Built (.all conditions)
  | any {conditions : List Condition} (each : ∀ condition ∈ conditions, Built condition) :
      Built (.any conditions)

/-- Nothing is left to fold, at whatever depth. -/
inductive Flat : Condition → Prop
  | const (value : Bool) : Flat (.const value)
  | atom {condition : Condition} (isAtom : IsAtom condition) : Flat condition
  | not {condition : Condition} (inner : Flat condition)
      (noConst : ∀ value, condition ≠ .const value) (noNot : ∀ other, condition ≠ .not other) :
      Flat (.not condition)
  | and {conditions : List Condition} (several : 2 ≤ conditions.length)
      (each : ∀ condition ∈ conditions, Flat condition)
      (noTrue : .const true ∉ conditions) (noAnd : ∀ others, .and others ∉ conditions) :
      Flat (.and conditions)
  | or {conditions : List Condition} (several : 2 ≤ conditions.length)
      (each : ∀ condition ∈ conditions, Flat condition)
      (noFalse : .const false ∉ conditions) (noOr : ∀ others, .or others ∉ conditions) :
      Flat (.or conditions)

/-! ### Conjunctions and disjunctions as one -/

/-- A conjunction, of which true is the unit, or a disjunction, of which false is. -/
def node : (unit : Bool) → List Condition → Condition
  | true => and
  | false => or

/-- What a condition contributes to a node of one kind. -/
def operands : (unit : Bool) → Condition → List Condition
  | true => conjuncts
  | false => disjuncts

/-- The constructor that folds nodes. -/
def fold : (unit : Bool) → List Condition → Condition
  | true => all
  | false => any

/-- The condition that is made of what was contributed. -/
def gather (unit : Bool) : List Condition → Condition
  | [] => const unit
  | [condition] => condition
  | several => node unit several

/-- A condition that contributes itself. -/
structure IsOperand (unit : Bool) (condition : Condition) : Prop where
  notUnit : condition ≠ const unit
  notNode : ∀ others, condition ≠ node unit others

variable {unit : Bool} {condition : Condition} {conditions : List Condition}

theorem fold_eq (unit : Bool) (conditions : List Condition) :
    fold unit conditions = gather unit (conditions.flatMap (operands unit)) := by
  cases unit <;> rfl

theorem gather_of_several (several : 2 ≤ conditions.length) :
    gather unit conditions = node unit conditions := by
  match conditions, several with
  | _ :: _ :: _, _ => rfl

@[simp] theorem operands_node (unit : Bool) (conditions : List Condition) :
    operands unit (node unit conditions) = conditions := by
  cases unit <;> rfl

@[simp] theorem operands_const (unit : Bool) : operands unit (const unit) = [] := by
  cases unit <;> rfl

theorem operands_of_isOperand (alone : IsOperand unit condition) :
    operands unit condition = [condition] := by
  cases unit with
  | true =>
    cases condition with
    | and others => exact absurd rfl (alone.notNode others)
    | const value =>
      cases value with
      | true => exact absurd rfl alone.notUnit
      | false => rfl
    | _ => rfl
  | false =>
    cases condition with
    | or others => exact absurd rfl (alone.notNode others)
    | const value =>
      cases value with
      | true => rfl
      | false => exact absurd rfl alone.notUnit
    | _ => rfl

theorem node_or_unit_or_isOperand (unit : Bool) (condition : Condition) :
    (∃ others, condition = node unit others) ∨ condition = const unit ∨
      IsOperand unit condition := by
  by_cases isNode : ∃ others, condition = node unit others
  · exact .inl isNode
  by_cases isUnit : condition = const unit
  · exact .inr (.inl isUnit)
  exact .inr (.inr ⟨isUnit, fun others same => isNode ⟨others, same⟩⟩)

theorem flatMap_operands (alone : ∀ condition ∈ conditions, IsOperand unit condition) :
    conditions.flatMap (operands unit) = conditions := by
  induction conditions with
  | nil => rfl
  | cons first others ih =>
    obtain ⟨one, rest⟩ := List.forall_mem_cons.mp alone
    rw [List.flatMap_cons, operands_of_isOperand one, ih rest]
    rfl

/-! ### Flat nodes -/

theorem forall_isOperand_iff :
    (∀ condition ∈ conditions, IsOperand unit condition) ↔
      const unit ∉ conditions ∧ ∀ others, node unit others ∉ conditions := by
  constructor
  · intro alone
    exact ⟨fun member => (alone _ member).notUnit rfl,
      fun others member => (alone _ member).notNode others rfl⟩
  · rintro ⟨noUnit, noNode⟩ condition member
    refine ⟨?_, ?_⟩
    · rintro rfl
      exact noUnit member
    · rintro others rfl
      exact noNode others member

theorem flat_node_iff :
    Flat (node unit conditions) ↔
      2 ≤ conditions.length ∧ (∀ condition ∈ conditions, Flat condition) ∧
        ∀ condition ∈ conditions, IsOperand unit condition := by
  rw [forall_isOperand_iff]
  cases unit with
  | true =>
    constructor
    · intro flat
      cases flat with
      | atom isAtom => exact isAtom.elim
      | and several each noTrue noAnd => exact ⟨several, each, noTrue, noAnd⟩
    · rintro ⟨several, each, noTrue, noAnd⟩
      exact .and several each noTrue noAnd
  | false =>
    constructor
    · intro flat
      cases flat with
      | atom isAtom => exact isAtom.elim
      | or several each noFalse noOr => exact ⟨several, each, noFalse, noOr⟩
    · rintro ⟨several, each, noFalse, noOr⟩
      exact .or several each noFalse noOr

/-- What a flat condition contributes is flat, and would contribute itself. -/
theorem Flat.of_mem_operands (flat : Flat condition) :
    ∀ part ∈ operands unit condition, Flat part ∧ IsOperand unit part := by
  -- A node is taken apart, a unit is left out, and anything else stays as it is.
  rcases node_or_unit_or_isOperand unit condition with ⟨others, rfl⟩ | rfl | alone
  · rw [operands_node]
    obtain ⟨-, each, alone⟩ := flat_node_iff.mp flat
    exact fun part member => ⟨each part member, alone part member⟩
  · simp
  · rw [operands_of_isOperand alone, List.forall_mem_singleton]
    exact ⟨flat, alone⟩

theorem Flat.of_mem_flatMap (each : ∀ condition ∈ conditions, Flat condition) :
    ∀ part ∈ conditions.flatMap (operands unit), Flat part ∧ IsOperand unit part := by
  intro part member
  obtain ⟨condition, inside, contributed⟩ := List.mem_flatMap.mp member
  exact (each condition inside).of_mem_operands part contributed

theorem flat_gather (parts : ∀ part ∈ conditions, Flat part ∧ IsOperand unit part) :
    Flat (gather unit conditions) := by
  -- Only several parts make a node; a single one takes its place.
  match conditions with
  | [] => exact .const unit
  | [condition] => exact (parts condition List.mem_cons_self).1
  | _ :: _ :: _ =>
    exact flat_node_iff.mpr ⟨by simp, fun part member => (parts part member).1,
      fun part member => (parts part member).2⟩

/-! ### What the constructors build -/

theorem flat_fold (unit : Bool) (each : ∀ condition ∈ conditions, Flat condition) :
    Flat (fold unit conditions) := by
  rw [fold_eq]
  exact flat_gather (Flat.of_mem_flatMap each)

theorem negate_eq_not (noConst : ∀ value, condition ≠ const value)
    (noNot : ∀ other, condition ≠ not other) : condition.negate = not condition := by
  cases condition with
  | const value => exact absurd rfl (noConst value)
  | not inner => exact absurd rfl (noNot inner)
  | _ => rfl

theorem flat_negate (flat : Flat condition) : Flat condition.negate := by
  cases condition with
  | const value => exact .const !value
  | not inner =>
    cases flat with
    | atom isAtom => exact isAtom.elim
    | not inner _ _ => exact inner
  | _ => exact .not flat nofun nofun

theorem Flat.pair {left right : Condition} (first : Flat left) (second : Flat right) :
    ∀ condition ∈ [left, right], Flat condition := by
  simp [first, second]

/-- Whatever was built from what, each constructor leaves nothing to fold. -/
theorem Built.flat (built : Built condition) : Flat condition := by
  induction built with
  | const value => exact .const value
  | atom isAtom => exact .atom isAtom
  | negate _ flat => exact flat_negate flat
  | both _ _ first second => exact flat_fold true (first.pair second)
  | either _ _ first second => exact flat_fold false (first.pair second)
  | all _ each => exact flat_fold true each
  | any _ each => exact flat_fold false each

theorem fold_of_isOperand (several : 2 ≤ conditions.length)
    (alone : ∀ condition ∈ conditions, IsOperand unit condition) :
    fold unit conditions = node unit conditions := by
  rw [fold_eq, flatMap_operands alone, gather_of_several several]

/-- A flat condition is built from the inside out. -/
theorem Flat.built (flat : Flat condition) : Built condition := by
  induction flat with
  | const value => exact .const value
  | atom isAtom => exact .atom isAtom
  | not _ noConst noNot built =>
    rw [← negate_eq_not noConst noNot]
    exact built.negate
  | @and conditions several _ noTrue noAnd built =>
    -- Nothing is folded in what is flat, so that the constructor builds the conjunction itself.
    have folded : fold true conditions = node true conditions :=
      fold_of_isOperand several (forall_isOperand_iff.mpr ⟨noTrue, noAnd⟩)
    change Built (node true conditions)
    rw [← folded]
    exact .all built
  | @or conditions several _ noFalse noOr built =>
    have folded : fold false conditions = node false conditions :=
      fold_of_isOperand several (forall_isOperand_iff.mpr ⟨noFalse, noOr⟩)
    change Built (node false conditions)
    rw [← folded]
    exact .any built

end Condition

open Condition

/-! ### The conditions of the `type` keyword -/

theorem TypeTag.built_violation (tag : TypeTag) (data : Ident) (draft : Draft) :
    Built (tag.violation data draft).1 := by
  have kindIs : ∀ kind, Built (.kindIs data kind) := fun _ => .atom trivial
  cases tag with
  | boolean | string | float32 | float64 => exact .negate (kindIs _)
  | timestamp =>
    change Built (notTimestamp (draft.bind "func" dateTimeHelper).1 data)
    rw [notTimestamp]
    exact .negate (.either (.atom trivial) (.both (kindIs .string) (.atom trivial)))
  | int type =>
    change Built (outside type.range data)
    rw [outside]
    refine .negate (.all ?_)
    intro condition member
    simp only [List.mem_cons, List.not_mem_nil, or_false] at member
    rcases member with rfl | rfl | rfl | rfl | rfl <;> exact .atom trivial

theorem TypeTag.checks_violation (tag : TypeTag) (data : Ident) (draft : Draft) :
    (tag.violation data draft).2.checks = draft.checks := by
  cases tag <;> rfl

/-- The keyword adds one check, whose condition is built by the folding constructors. -/
theorem emit_built (occurrence : Occurrence) (tag : TypeTag) (draft : Draft) :
    ∃ check, (typeKeyword.emit occurrence tag draft).checks = draft.checks ++ [check] ∧
      Built check.condition := by
  let data := occurrence.site.data
  let violated := (tag.violation data draft).1
  have built : Built violated := tag.built_violation data draft
  refine ⟨⟨occurrence.site.instancePath, occurrence.schemaPath, occurrence.keyword,
    occurrence.schema, data,
    if occurrence.flag "nullable" then .both violated (.notNull data) else violated⟩, ?_, ?_⟩
  · exact congrArg (· ++ [_]) (tag.checks_violation data draft)
  · dsimp only
    split
    · exact .both built (.atom trivial)
    · exact built

/-- What the folding constructors build from atoms and constants is flat at every depth, and they
build every flat condition. The `type` keyword adds one check, whose condition is flat. -/
theorem built_iff_flat :
    (∀ condition, Built condition ↔ Flat condition) ∧
      ∀ (occurrence : Occurrence) (tag : TypeTag) (draft : Draft),
        ∃ check, (typeKeyword.emit occurrence tag draft).checks = draft.checks ++ [check] ∧
          Flat check.condition := by
  refine ⟨fun condition => ⟨Built.flat, Flat.built⟩, fun occurrence tag draft => ?_⟩
  obtain ⟨check, added, built⟩ := emit_built occurrence tag draft
  exact ⟨check, added, built.flat⟩

end TypeForm
