import TypeForm.Data.Basic

/-!
# Conditions

A condition is a boolean expression over named data values. The constructors `all`, `any`,
`both`, `either` and `negate` build conditions without nested conjunctions or disjunctions,
needless constants or double negation.
-/
namespace TypeForm

/-- A name in generated code. -/
structure Ident where
  text : String
deriving DecidableEq, Repr

/-- Comparison of a number with a bound. -/
inductive Relation where
  | atLeast
  | atMost
deriving DecidableEq, Repr

def Relation.symbol : Relation → String
  | atLeast => ">="
  | atMost => "<="

inductive Condition where
  | const (value : Bool)
  | kindIs (data : Ident) (kind : Kind)
  | isMoment (data : Ident)
  | isFinite (data : Ident)
  | compare (data : Ident) (relation : Relation) (bound : Int)
  | isWhole (data : Ident)
  | notNull (data : Ident)
  | call (helper data : Ident)
  | not (condition : Condition)
  | and (conditions : List Condition)
  | or (conditions : List Condition)
deriving Repr, Inhabited

namespace Condition

/-- What a condition contributes to a conjunction. -/
def conjuncts : Condition → List Condition
  | and conditions => conditions
  | const true => []
  | condition => [condition]

/-- What a condition contributes to a disjunction. -/
def disjuncts : Condition → List Condition
  | or conditions => conditions
  | const false => []
  | condition => [condition]

/-- The conjunction of conditions; a single one stands for itself and none is true. -/
def all (conditions : List Condition) : Condition :=
  match conditions.flatMap conjuncts with
  | [] => const true
  | [condition] => condition
  | several => and several

/-- The disjunction of conditions; a single one stands for itself and none is false. -/
def any (conditions : List Condition) : Condition :=
  match conditions.flatMap disjuncts with
  | [] => const false
  | [condition] => condition
  | several => or several

def both (left right : Condition) : Condition :=
  all [left, right]

def either (left right : Condition) : Condition :=
  any [left, right]

/-- The opposite of a condition. -/
def negate : Condition → Condition
  | const value => const !value
  | not condition => condition
  | condition => not condition

end Condition
end TypeForm
