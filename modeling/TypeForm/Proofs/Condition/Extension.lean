import TypeForm.Proofs.Condition.Folding
import TypeForm.Proofs.Scope.Run

/-!
# Conditions in later environments

A condition is built while its scope still grows, and evaluated where more data may be bound than it
speaks of.

## Main result

`evaluate_later`: a value that a condition has stays its value when the scope serves further
requests and other names are bound to data, even if a later helper gets a name that the condition
calls.

## Proof strategy

An environment extends another one if all that names stand for in that one they still stand for
(`Env.Extends`). An evaluation that comes to a value meets names of this kind only, so that it goes
on in the same way in the extension (`evaluate_of_extends`). An error says that a name stood for
nothing, and need not stay. A scope adds bindings behind those that it has, and the first one of a
name counts (`Scope.helper?_run`).
-/
namespace TypeForm

/-- What a name stands for in the first environment it stands for in the second. -/
structure Env.Extends (env later : Env) : Prop where
  lookup : ∀ name value, env.lookup name = .ok value → later.lookup name = .ok value
  helper? : ∀ name helper, env.scope.helper? name = some helper →
    later.scope.helper? name = some helper

/-- Bind several names, one after the other. -/
def Env.bindAll (env : Env) (added : List (Ident × Data)) : Env :=
  added.foldl (fun env binding => env.bind binding.1 binding.2) env

/-! ### What extends an environment -/

theorem Scope.helper?_run (scope : Scope) {name : Ident} {helper : Helper}
    (found : scope.helper? name = some helper) (requests : List Request) :
    (scope.run requests).2.helper? name = some helper := by
  obtain ⟨added, bound, -⟩ := scope.bindings_run requests
  rw [helper?, Option.map_eq_some_iff] at found
  obtain ⟨binding, first, rfl⟩ := found
  -- Bindings that are added under the same name stand behind this one.
  rw [helper?, bound, List.find?_append, first]
  rfl

namespace Env

theorem mem_names_of_lookup {env : Env} {name : Ident} {value : Data}
    (found : env.lookup name = .ok value) : name ∈ env.values.map (·.1) := by
  rw [lookup] at found
  split at found
  next binding first =>
    have same : binding.1 = name := by simpa using List.find?_some first
    exact same ▸ List.mem_map_of_mem (List.mem_of_find?_eq_some first)
  next => cases found

theorem lookup_bind_of_ne (env : Env) {name other : Ident} (differ : other ≠ name) (value : Data) :
    (env.bind other value).lookup name = env.lookup name := by
  have passed : (other == name) = false := beq_false_of_ne differ
  simp only [lookup, bind, List.find?_cons, passed]

theorem lookup_bindAll (env : Env) {name : Ident} {added : List (Ident × Data)}
    (absent : ∀ binding ∈ added, binding.1 ≠ name) :
    (env.bindAll added).lookup name = env.lookup name := by
  induction added generalizing env with
  | nil => rfl
  | cons binding rest ih =>
    have later := ih (env.bind binding.1 binding.2) fun other member =>
      absent other (List.mem_cons_of_mem _ member)
    exact later.trans (env.lookup_bind_of_ne (absent binding List.mem_cons_self) binding.2)

theorem scope_bindAll (env : Env) (added : List (Ident × Data)) :
    (env.bindAll added).scope = env.scope := by
  induction added generalizing env with
  | nil => rfl
  | cons binding rest ih => exact ih (env.bind binding.1 binding.2)

theorem extends_later (env : Env) (requests : List Scope.Request) {added : List (Ident × Data)}
    (unbound : ∀ binding ∈ added, binding.1 ∉ env.values.map (·.1)) :
    env.Extends ({ env with scope := (env.scope.run requests).2 }.bindAll added) := by
  constructor
  · intro name value found
    rw [lookup_bindAll]
    · exact found
    · -- A name with a value is bound, and those that are added are not.
      intro binding member same
      exact unbound binding member (same ▸ mem_names_of_lookup found)
  · intro name helper found
    rw [scope_bindAll]
    exact env.scope.helper?_run found requests

end Env

/-! ### Values of conditions -/

namespace Condition

section
variable {env later : Env}

theorem test_of_extends (kept : env.Extends later) {name : Ident} {holds : Data → Bool}
    {value : Bool} (tested : test env name holds = .ok value) :
    test later name holds = .ok value := by
  rw [test] at tested ⊢
  cases found : env.lookup name with
  | error error =>
    rw [found] at tested
    cases tested
  | ok data =>
    rw [kept.lookup name data found, ← found]
    exact tested

mutual

theorem evaluate_of_extends (kept : env.Extends later) (condition : Condition) {value : Bool}
    (evaluated : evaluate env condition = .ok value) : evaluate later condition = .ok value := by
  cases condition with
  | const => exact evaluated
  | kindIs | isMoment | isFinite | compare | isWhole | notNull =>
    exact test_of_extends kept evaluated
  | call helper data =>
    rw [evaluate] at evaluated ⊢
    cases found : env.scope.helper? helper with
    | none =>
      rw [found] at evaluated
      cases evaluated
    | some called =>
      rw [found] at evaluated
      rw [kept.helper? helper called found]
      exact test_of_extends kept evaluated
  | not condition =>
    rw [evaluate] at evaluated ⊢
    cases inner : evaluate env condition with
    | error error =>
      rw [inner] at evaluated
      cases evaluated
    | ok opposite =>
      rw [evaluate_of_extends kept condition inner, ← inner]
      exact evaluated
  | and conditions =>
    rw [evaluate_and] at evaluated ⊢
    exact evaluateUntil_of_extends kept false conditions evaluated
  | or conditions =>
    rw [evaluate_or] at evaluated ⊢
    exact evaluateUntil_of_extends kept true conditions evaluated

theorem evaluateUntil_of_extends (kept : env.Extends later) (stop : Bool)
    (conditions : List Condition) {value : Bool}
    (evaluated : evaluateUntil stop env conditions = .ok value) :
    evaluateUntil stop later conditions = .ok value := by
  cases conditions with
  | nil => exact evaluated
  | cons condition rest =>
    rw [evaluateUntil] at evaluated ⊢
    cases first : evaluate env condition with
    | error error =>
      rw [first] at evaluated
      cases evaluated
    | ok holds =>
      rw [first] at evaluated
      rw [evaluate_of_extends kept condition first]
      -- Behind a condition that decides, names may stand for nothing.
      by_cases decided : holds = stop
      · simp only [if_pos decided] at evaluated ⊢
        exact evaluated
      · simp only [if_neg decided] at evaluated ⊢
        exact evaluateUntil_of_extends kept stop rest evaluated

end
end

/-- A value that a condition has in an environment is its value after any further requests to the
scope, and with any names bound that were not bound before. -/
theorem evaluate_later (condition : Condition) (env : Env) (requests : List Scope.Request)
    (added : List (Ident × Data)) (value : Bool)
    (unbound : ∀ binding ∈ added, binding.1 ∉ env.values.map (·.1))
    (evaluated : condition.evaluate env = .ok value) :
    condition.evaluate ({ env with scope := (env.scope.run requests).2 }.bindAll added) =
      .ok value :=
  evaluate_of_extends (env.extends_later requests unbound) condition evaluated

/-- The name `func10` is bound to a test for the empty text, as the first name of the stem `func1`;
it is the next one of the stem `func`. -/
def beforeClash : Env :=
  { scope := (Scope.empty.run (.bind "func1" ⟨"empty", String.isEmpty, "isEmpty"⟩ ::
      List.replicate 10 (.fresh "func"))).2
    values := [(⟨"data0"⟩, .string "x")] }

/-- A helper that accepts what the first one does not gets its name, and the condition that calls
the first one keeps its value. -/
theorem evaluate_later_clash :
    let request : Scope.Request := .bind "func" ⟨"any", fun _ => true, "isAny"⟩
    let condition : Condition := .call ⟨"func10"⟩ ⟨"data0"⟩
    (beforeClash.scope.serve request).1 = ⟨"func10"⟩ ∧
      condition.evaluate beforeClash = .ok false ∧
      condition.evaluate ({ beforeClash with scope := (beforeClash.scope.run [request]).2 }.bindAll
        [(⟨"data1"⟩, .null)]) = .ok false := by
  intro request condition
  have evaluated : condition.evaluate beforeClash = .ok false := by rfl
  refine ⟨by decide +kernel, evaluated, ?_⟩
  exact evaluate_later condition beforeClash [request] [(⟨"data1"⟩, .null)] false
    (by decide +kernel) evaluated

-- A condition without a value may get one, as its names are bound.
example : (notNull ⟨"data0"⟩).evaluate (.ofScope .empty) = .error (.unboundData ⟨"data0"⟩) ∧
    (notNull ⟨"data0"⟩).evaluate ((Env.ofScope .empty).bindAll [(⟨"data0"⟩, .null)]) = .ok false :=
  ⟨rfl, rfl⟩

end Condition
end TypeForm
