import TypeForm.Condition.Basic

/-!
# Names and shared helpers

A scope belongs to one compilation. It draws fresh names by numbering them within their stem, and
binds each helper once: a second helper with the key of a bound one gets the name of the first.
Nothing is ever replaced or removed.
-/
namespace TypeForm

/-- A predicate on text that conditions may call. -/
structure Helper where
  /-- Helpers with one key are taken for the same. -/
  key : String
  accepts : String → Bool
  /-- The expression that loads the helper in generated source. -/
  source : String

/-- A helper bound to a name. -/
structure Binding where
  name : Ident
  helper : Helper

structure Scope where
  /-- Bindings in the order in which they were made. -/
  bindings : List Binding
  /-- The stems of the names drawn so far. -/
  drawn : List String

namespace Scope

def empty : Scope := ⟨[], []⟩

/-- The name that a stem gives when it was drawn `count` times before. -/
def numbered (stem : String) (count : Nat) : Ident :=
  ⟨stem ++ toString count⟩

/-- Draw the next name of a stem. -/
def fresh (scope : Scope) (stem : String) : Ident × Scope :=
  (numbered stem (scope.drawn.count stem), { scope with drawn := stem :: scope.drawn })

/-- The binding of the helper with the given key. -/
def findKey? (scope : Scope) (key : String) : Option Binding :=
  scope.bindings.find? fun binding => binding.helper.key == key

/-- The name of a helper, which is bound to a fresh name of the stem if its key is new. -/
def bind (scope : Scope) (stem : String) (helper : Helper) : Ident × Scope :=
  match scope.findKey? helper.key with
  | some binding => (binding.name, scope)
  | none =>
    let (name, scope) := scope.fresh stem
    (name, { scope with bindings := scope.bindings ++ [⟨name, helper⟩] })

/-- The helper first bound to a name. -/
def helper? (scope : Scope) (name : Ident) : Option Helper :=
  (scope.bindings.find? fun binding => binding.name == name).map (·.helper)

end Scope
end TypeForm
