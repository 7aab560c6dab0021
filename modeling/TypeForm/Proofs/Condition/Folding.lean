import TypeForm.Condition.Evaluation

/-!
# Folding keeps values

The constructors that fold conditions take conjunctions and disjunctions apart and leave out
constants. What they build has the value of what was asked for, or fails for the same reason,
whatever the conditions are and wherever their names are bound.

## Main result

`evaluate_folded`: each of the five folding constructors against the plain one.

## Proof strategy

A conjunction is evaluated up to the first condition that is false, and a disjunction up to the
first that is true (`evaluateUntil`). Such a search goes through a list of conditions in the same
way if one of them is replaced by several through which it goes as through that one
(`evaluateUntil_flatMap`), and a condition may be replaced by its conjuncts if the search is for
one that is false, and by its disjuncts if it is for one that is true.
-/
namespace TypeForm.Condition

/-- The first condition with the value `stop`, or without a value, decides; if there is none, the
value is the other one. -/
def evaluateUntil (stop : Bool) (env : Env) : List Condition → Except EvalError Bool
  | [] => .ok !stop
  | condition :: rest =>
    match evaluate env condition with
    | .ok value => if value = stop then .ok stop else evaluateUntil stop env rest
    | .error error => .error error

variable (stop : Bool) (env : Env)

theorem evaluate_and (conditions : List Condition) :
    evaluate env (and conditions) = evaluateUntil false env conditions := by
  rw [evaluate]
  induction conditions with
  | nil => rfl
  | cons condition rest ih =>
    rw [evaluateAll, evaluateUntil, ih]
    cases evaluate env condition with
    | error error => rfl
    | ok value => cases value <;> rfl

theorem evaluate_or (conditions : List Condition) :
    evaluate env (or conditions) = evaluateUntil true env conditions := by
  rw [evaluate]
  induction conditions with
  | nil => rfl
  | cons condition rest ih =>
    rw [evaluateAny, evaluateUntil, ih]
    cases evaluate env condition with
    | error error => rfl
    | ok value => cases value <;> rfl

/-! ### Searching in lists of conditions -/

theorem evaluateUntil_singleton (condition : Condition) :
    evaluateUntil stop env [condition] = evaluate env condition := by
  rw [evaluateUntil]
  cases evaluate env condition with
  | error error => rfl
  | ok value => cases value <;> cases stop <;> rfl

/-- The search goes on in the second list only if the first has not decided it. -/
theorem evaluateUntil_append (conditions others : List Condition) :
    evaluateUntil stop env (conditions ++ others) =
      match evaluateUntil stop env conditions with
      | .ok value => if value = stop then .ok stop else evaluateUntil stop env others
      | .error error => .error error := by
  induction conditions with
  | nil => simp [evaluateUntil]
  | cons condition rest ih =>
    rw [List.cons_append, evaluateUntil, evaluateUntil, ih]
    cases evaluate env condition with
    | error error => rfl
    | ok value =>
      by_cases decided : value = stop
      · simp [decided]
      · simp [decided]

theorem evaluateUntil_flatMap {parts : Condition → List Condition}
    (same : ∀ condition, evaluateUntil stop env (parts condition) = evaluate env condition)
    (conditions : List Condition) :
    evaluateUntil stop env (conditions.flatMap parts) = evaluateUntil stop env conditions := by
  induction conditions with
  | nil => rfl
  | cons condition rest ih =>
    rw [List.flatMap_cons, evaluateUntil_append, same, ih, evaluateUntil]

theorem evaluateUntil_conjuncts (condition : Condition) :
    evaluateUntil false env condition.conjuncts = evaluate env condition := by
  fun_cases conjuncts condition with
  | case1 conditions => exact (evaluate_and env conditions).symm
  | case2 => rfl
  | case3 => exact evaluateUntil_singleton false env condition

theorem evaluateUntil_disjuncts (condition : Condition) :
    evaluateUntil true env condition.disjuncts = evaluate env condition := by
  fun_cases disjuncts condition with
  | case1 conditions => exact (evaluate_or env conditions).symm
  | case2 => rfl
  | case3 => exact evaluateUntil_singleton true env condition

/-! ### The folding constructors -/

theorem evaluate_all (conditions : List Condition) :
    evaluate env (all conditions) = evaluate env (and conditions) := by
  rw [evaluate_and, ← evaluateUntil_flatMap false env (evaluateUntil_conjuncts env)]
  unfold all
  -- The conjunction is made of what is left, unless that is no condition or a single one.
  split
  next none => rw [none]; rfl
  next condition single => rw [single, evaluateUntil_singleton]
  next => exact evaluate_and env _

theorem evaluate_any (conditions : List Condition) :
    evaluate env (any conditions) = evaluate env (or conditions) := by
  rw [evaluate_or, ← evaluateUntil_flatMap true env (evaluateUntil_disjuncts env)]
  unfold any
  split
  next none => rw [none]; rfl
  next condition single => rw [single, evaluateUntil_singleton]
  next => exact evaluate_or env _

theorem evaluate_negate (condition : Condition) :
    evaluate env (negate condition) = evaluate env (not condition) := by
  fun_cases negate condition with
  | case1 value => rfl
  | case2 inner =>
    -- Negated twice, a value is itself, and a reason to fail stays.
    rw [evaluate, evaluate]
    cases evaluate env inner with
    | error error => rfl
    | ok value => exact congrArg Except.ok (Bool.not_not value).symm
  | case3 => rfl

/-- What the folding constructors build is evaluated as what the plain ones do, in every scope and
for all bindings: it has the same value, or fails for the same reason. -/
theorem evaluate_folded (conditions : List Condition) (left right : Condition) :
    evaluate env (all conditions) = evaluate env (and conditions) ∧
      evaluate env (any conditions) = evaluate env (or conditions) ∧
      evaluate env (both left right) = evaluate env (and [left, right]) ∧
      evaluate env (either left right) = evaluate env (or [left, right]) ∧
      evaluate env (negate left) = evaluate env (not left) :=
  ⟨evaluate_all env conditions, evaluate_any env conditions, evaluate_all env [left, right],
    evaluate_any env [left, right], evaluate_negate env left⟩

end TypeForm.Condition
