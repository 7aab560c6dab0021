import TypeForm.Scope

/-!
# Requests to a scope

A scope is asked for new names and for the names of helpers, any number of times and in any order.
`Scope.serve_step` says once what a single request does. From it follows what a run of requests
leaves behind: bindings are only ever added (`Scope.bindings_run`), the helper bound under a key is
the one that was first asked for under it (`Scope.findKey?_run`), and every answer to a request for
a helper is the name bound under its key (`Scope.findKey?_of_answer`).
-/
namespace TypeForm.Scope

/-- What a scope can be asked for: a new name, or the name of a helper. -/
inductive Request where
  | fresh (stem : String)
  | bind (stem : String) (helper : Helper)

/-- The name that answers a request, and the scope after it. -/
def serve (scope : Scope) : Request → Ident × Scope
  | .fresh stem => scope.fresh stem
  | .bind stem helper => scope.bind stem helper

def run (scope : Scope) : List Request → List Ident × Scope
  | [] => ([], scope)
  | request :: rest =>
    let last := (scope.serve request).2.run rest
    ((scope.serve request).1 :: last.1, last.2)

/-- The stem of the name that is drawn for a request; none is drawn for a helper whose key is
bound. -/
def stem? (scope : Scope) : Request → Option String
  | .fresh stem => some stem
  | .bind stem helper => if (scope.findKey? helper.key).isSome then none else some stem

/-- The names drawn in a run, each with its stem, in order. -/
def draws (scope : Scope) : List Request → List (String × Ident)
  | [] => []
  | request :: rest =>
    ((scope.stem? request).map fun stem => (stem, (scope.serve request).1)).toList
      ++ (scope.serve request).2.draws rest

/-- The helper that requests ask for first under a key. -/
def firstHelper? (requests : List Request) (key : String) : Option Helper :=
  requests.findSome? fun
    | .fresh _ => none
    | .bind _ helper => if helper.key = key then some helper else none

/-! ### One request -/

/-- The next name of a stem. -/
def next (scope : Scope) (stem : String) : Ident :=
  numbered stem (scope.drawn.count stem)

/-- What a request can do: draw a name, find a helper that is bound, or bind one that is not. -/
inductive Step (scope : Scope) : Request → Ident × Scope → Prop
  | fresh (stem : String) :
      Step scope (.fresh stem) (scope.next stem, ⟨scope.bindings, stem :: scope.drawn⟩)
  | known (stem : String) {helper : Helper} {binding : Binding}
      (found : scope.findKey? helper.key = some binding) :
      Step scope (.bind stem helper) (binding.name, scope)
  | new (stem : String) {helper : Helper} (unknown : scope.findKey? helper.key = none) :
      Step scope (.bind stem helper)
        (scope.next stem, ⟨scope.bindings ++ [⟨scope.next stem, helper⟩], stem :: scope.drawn⟩)

variable (scope : Scope)

theorem serve_step (request : Request) : scope.Step request (scope.serve request) := by
  cases request with
  | fresh stem => exact .fresh stem
  | bind stem helper =>
    rw [serve, bind]
    cases found : scope.findKey? helper.key with
    | some binding => exact .known stem found
    | none => exact .new stem found

/-- A request for which a name is drawn takes the next one of its stem. -/
theorem serve_of_stem?_eq_some {request : Request} {stem : String}
    (draws : scope.stem? request = some stem) :
    (scope.serve request).1 = scope.next stem ∧
      (scope.serve request).2.drawn = stem :: scope.drawn := by
  have step := scope.serve_step request
  generalize scope.serve request = result at step ⊢
  cases step with
  | fresh => cases draws; exact ⟨rfl, rfl⟩
  | known _ found => simp [stem?, found] at draws
  | new _ unknown =>
    simp only [stem?, unknown, Option.isSome_none, Bool.false_eq_true, if_false,
      Option.some.injEq] at draws
    exact draws ▸ ⟨rfl, rfl⟩

/-- A request for which no name is drawn changes nothing. -/
theorem serve_of_stem?_eq_none {request : Request} (reuses : scope.stem? request = none) :
    (scope.serve request).2 = scope := by
  have step := scope.serve_step request
  generalize scope.serve request = result at step ⊢
  cases step with
  | fresh => cases reuses
  | known => rfl
  | new _ unknown => simp [stem?, unknown] at reuses

theorem draws_of_stem?_eq_some {request : Request} {stem : String}
    (draws : scope.stem? request = some stem) (rest : List Request) :
    scope.draws (request :: rest) =
      (stem, scope.next stem) :: (scope.serve request).2.draws rest := by
  rw [Scope.draws, draws, (scope.serve_of_stem?_eq_some draws).1]
  rfl

theorem draws_of_stem?_eq_none {request : Request} (reuses : scope.stem? request = none)
    (rest : List Request) : scope.draws (request :: rest) = scope.draws rest := by
  rw [Scope.draws, reuses, scope.serve_of_stem?_eq_none reuses]
  rfl

/-! ### Bindings -/

/-- A request only adds bindings, and each under the name that was drawn for it. -/
theorem bindings_serve (request : Request) :
    ∃ added, (scope.serve request).2.bindings = scope.bindings ++ added ∧
      (added.map Binding.name).Sublist
        ((scope.stem? request).map fun _ => (scope.serve request).1).toList := by
  have step := scope.serve_step request
  generalize scope.serve request = result at step ⊢
  cases step with
  | fresh => exact ⟨[], by simp, by simp⟩
  | known => exact ⟨[], by simp, by simp⟩
  | new stem unknown => exact ⟨_, rfl, by simp [stem?, unknown]⟩

theorem bindings_run (requests : List Request) :
    ∃ added, (scope.run requests).2.bindings = scope.bindings ++ added ∧
      (added.map Binding.name).Sublist ((scope.draws requests).map (·.2)) := by
  induction requests generalizing scope with
  | nil => exact ⟨[], by simp [run], by simp⟩
  | cons request rest ih =>
    obtain ⟨first, bound, named⟩ := scope.bindings_serve request
    obtain ⟨others, kept, drawn⟩ := ih (scope.serve request).2
    refine ⟨first ++ others, ?_, ?_⟩
    · rw [run, kept, bound, List.append_assoc]
    · -- The first request draws at most one name, and a binding of it has that name.
      rw [draws, List.map_append, List.map_append]
      refine .append ?_ drawn
      cases draws : scope.stem? request <;> simpa [draws] using named

theorem findKey?_serve (request : Request) (key : String) :
    ((scope.serve request).2.findKey? key).map Binding.helper =
      ((scope.findKey? key).map Binding.helper).or (firstHelper? [request] key) := by
  have step := scope.serve_step request
  generalize scope.serve request = result at step ⊢
  cases step with
  | fresh => simp [findKey?, firstHelper?]
  | @known _ helper binding found =>
    -- A helper under a bound key is not taken over.
    by_cases same : helper.key = key
    · simp [← same, found]
    · simp [firstHelper?, same]
  | @new _ helper unknown =>
    -- The binding is added at the end, so that it is found under its own key only.
    by_cases same : helper.key = key
    · subst same
      simp only [findKey?] at unknown
      simp [findKey?, firstHelper?, List.find?_append, unknown]
    · cases bound : scope.bindings.find? fun binding => binding.helper.key == key <;>
        simp [findKey?, firstHelper?, List.find?_append, same, bound]

/-- The helper of a key is the one that was bound before, or the first that a run asks for. -/
theorem findKey?_run (requests : List Request) (key : String) :
    ((scope.run requests).2.findKey? key).map Binding.helper =
      ((scope.findKey? key).map Binding.helper).or (firstHelper? requests key) := by
  induction requests generalizing scope with
  | nil => simp [run, firstHelper?]
  | cons request rest ih =>
    -- A binding of before comes first, then one by this request, then one by those that follow.
    have split : firstHelper? (request :: rest) key =
        (firstHelper? [request] key).or (firstHelper? rest key) := by
      simp only [firstHelper?, ← List.findSome?_append, List.singleton_append]
    rw [run, ih, findKey?_serve, split, Option.or_assoc]

theorem findKey?_run_of_eq_some {key : String} {binding : Binding}
    (found : scope.findKey? key = some binding) (requests : List Request) :
    (scope.run requests).2.findKey? key = some binding := by
  obtain ⟨added, bound, -⟩ := scope.bindings_run requests
  rw [findKey?] at found
  rw [findKey?, bound, List.find?_append, found, Option.some_or]

/-- A request for a helper is answered by the name that its key is bound to from then on. -/
theorem findKey?_serve_bind (stem : String) (helper : Helper) :
    ∃ binding, (scope.serve (.bind stem helper)).2.findKey? helper.key = some binding ∧
      binding.name = (scope.serve (.bind stem helper)).1 := by
  have step := scope.serve_step (.bind stem helper)
  generalize scope.serve (.bind stem helper) = result at step ⊢
  cases step with
  | known _ found => exact ⟨_, found, rfl⟩
  | new _ unknown =>
    rw [findKey?] at unknown
    exact ⟨⟨scope.next stem, helper⟩, by simp [findKey?, List.find?_append, unknown], rfl⟩

theorem findKey?_of_answer {requests : List Request} {stem : String} {helper : Helper}
    {name : Ident} (answer : (Request.bind stem helper, name) ∈
      requests.zip (scope.run requests).1) :
    ∃ binding, (scope.run requests).2.findKey? helper.key = some binding ∧
      binding.name = name := by
  induction requests generalizing scope with
  | nil => cases answer
  | cons request rest ih =>
    rw [run, List.zip_cons_cons] at answer
    rcases List.mem_cons.mp answer with now | later
    · obtain ⟨rfl, rfl⟩ := Prod.mk.inj now
      -- What the answer was bound to stays so while the others are served.
      obtain ⟨binding, found, named⟩ := scope.findKey?_serve_bind stem helper
      exact ⟨binding, findKey?_run_of_eq_some _ found rest, named⟩
    · exact ih _ later

end TypeForm.Scope
