import TypeForm.Scope

/-!
# Evaluation of conditions

A condition is evaluated with the helpers of a scope and the values bound to its data names.
Conjunctions and disjunctions stop at the first condition that decides them, so an unbound name
after it does no harm.
-/
namespace TypeForm

/-- Why a condition has no value. -/
inductive EvalError where
  | unboundData (name : Ident)
  | unknownHelper (name : Ident)
deriving DecidableEq, Repr

def EvalError.message : EvalError → String
  | unboundData name => s!"name '{name.text}' is not bound to a data value"
  | unknownHelper name => s!"name '{name.text}' is not bound to a helper"

/-- Helpers, and values bound to names; a binding hides the earlier ones of its name, which stand
after it. -/
structure Env where
  scope : Scope
  values : List (Ident × Data)

namespace Env

def ofScope (scope : Scope) : Env := ⟨scope, []⟩

/-- Bind a name to a value. -/
def bind (env : Env) (name : Ident) (value : Data) : Env :=
  { env with values := (name, value) :: env.values }

/-- The value bound to a name. -/
def lookup (env : Env) (name : Ident) : Except EvalError Data :=
  match env.values.find? fun binding => binding.1 == name with
  | some binding => .ok binding.2
  | none => .error (.unboundData name)

end Env

namespace Relation

/-- Whether a number stands in the relation to a bound, which is taken as a binary number. -/
def holds (relation : Relation) (x : Binary64) (bound : Int) : Bool :=
  match relation with
  | atLeast => (Binary64.ofInt bound).le x
  | atMost => x.le (Binary64.ofInt bound)

end Relation

namespace Condition

/-- Apply a test to the value of a name. -/
def test (env : Env) (name : Ident) (holds : Data → Bool) : Except EvalError Bool :=
  (env.lookup name).map holds

mutual

/-- The value of a condition. Tests for numbers fail on other data, and helpers on data that is
not text. -/
def evaluate (env : Env) : Condition → Except EvalError Bool
  | const value => .ok value
  | kindIs data kind => test env data fun value => value.kind == kind
  | isMoment data => test env data fun value => value.kind == .dateTime
  | isFinite data => test env data fun value => value.number?.any Binary64.isFinite
  | compare data relation bound =>
    test env data fun value => value.number?.any (relation.holds · bound)
  | isWhole data => test env data fun value => value.number?.any Binary64.isWhole
  | notNull data => test env data fun value => value.kind != .null
  | call helper data =>
    match env.scope.helper? helper with
    | some helper => test env data fun value => value.string?.any helper.accepts
    | none => .error (.unknownHelper helper)
  | not condition => (evaluate env condition).map (!·)
  | and conditions => evaluateAll env conditions
  | or conditions => evaluateAny env conditions

/-- Whether all conditions hold, up to the first that does not. -/
def evaluateAll (env : Env) : List Condition → Except EvalError Bool
  | [] => .ok true
  | condition :: rest =>
    match evaluate env condition with
    | .ok true => evaluateAll env rest
    | other => other

/-- Whether some condition holds, up to the first that does. -/
def evaluateAny (env : Env) : List Condition → Except EvalError Bool
  | [] => .ok false
  | condition :: rest =>
    match evaluate env condition with
    | .ok false => evaluateAny env rest
    | other => other

end

end Condition
end TypeForm
