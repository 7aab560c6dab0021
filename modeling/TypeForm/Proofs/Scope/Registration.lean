import TypeForm.Proofs.Scope.Run

/-!
# What a scope keeps of its requests

The requests to a scope and its answers are a record, from which everything that the scope does can
be told: which helpers are bound under which names, and which names were drawn.

## Main result

`run_record`: from the empty scope, the bindings are those of the record, one for each key, and the
names that the record draws from a stem are numbered from zero without a gap.

## Proof strategy

Both are shown for runs from any scope, by induction on the requests and with one case for each way
in which a request is served (`serve_step`). A binding of the record then counts only if its key was
not bound before (`bindings_eq_registered`), and numbers go on from those that the scope gave before
(`names_of_draws`).
-/
namespace TypeForm.Scope

/-- The bindings that a record asks for, of which the first of each key counts. -/
def registered : List (Request × Ident) → List Binding
  | [] => []
  | (.fresh _, _) :: rest => registered rest
  | (.bind _ helper, name) :: rest =>
    ⟨name, helper⟩ :: (registered rest).filter fun binding => binding.helper.key ≠ helper.key

/-- The names that are drawn in a record, each with its stem. One is drawn for every request for a
name, and for a request for a helper if its key is not among those known. -/
def drawnIn (known : List String) : List (Request × Ident) → List (String × Ident)
  | [] => []
  | (.fresh stem, name) :: rest => (stem, name) :: drawnIn known rest
  | (.bind stem helper, name) :: rest =>
    if helper.key ∈ known then drawnIn known rest
    else (stem, name) :: drawnIn (helper.key :: known) rest

/-- The names that a record draws from a stem, in order. -/
def namesFrom (stem : String) (record : List (Request × Ident)) : List Ident :=
  ((drawnIn [] record).filter fun draw => draw.1 = stem).map (·.2)

variable (scope : Scope)

theorem length_run (requests : List Request) : (scope.run requests).1.length = requests.length := by
  induction requests generalizing scope with
  | nil => rfl
  | cons request rest ih => simp [run, ih]

/-! ### Bindings of a record -/

theorem nodup_registered (record : List (Request × Ident)) :
    ((registered record).map fun binding => binding.helper.key).Nodup := by
  induction record with
  | nil => exact List.nodup_nil
  | cons entry rest ih =>
    obtain ⟨request, name⟩ := entry
    cases request with
    | fresh stem => exact ih
    | bind stem helper =>
      rw [registered, List.map_cons, List.nodup_cons]
      refine ⟨by simp, ih.sublist ?_⟩
      exact List.filter_sublist.map _

/-- A new binding is found under its own key, if that was not bound before. -/
theorem findKey?_concat (binding : Binding) (drawn : List String) (key : String) :
    (Scope.mk (scope.bindings ++ [binding]) drawn).findKey? key =
      (scope.findKey? key).or (if binding.helper.key = key then some binding else none) := by
  simp [findKey?, List.find?_append, List.find?_singleton]

theorem bindings_eq_registered (requests : List Request) :
    (scope.run requests).2.bindings = scope.bindings ++
      (registered (requests.zip (scope.run requests).1)).filter
        fun binding => (scope.findKey? binding.helper.key).isNone := by
  induction requests generalizing scope with
  | nil => simp [run, registered]
  | cons request rest ih =>
    simp only [run, List.zip_cons_cons]
    have step := scope.serve_step request
    generalize scope.serve request = result at step ⊢
    cases step with
    | fresh stem => exact ih _
    | @known stem helper binding found =>
      rw [ih, registered, List.filter_cons, List.filter_filter, found, if_neg (by simp)]
      -- What is not bound has another key than the helper.
      refine congrArg (scope.bindings ++ ·) (List.filter_congr fun other _ => ?_)
      by_cases same : other.helper.key = helper.key
      · simp [same, found]
      · simp [same]
    | @new stem helper unknown =>
      -- Behind the new binding, the others of its key do not count either.
      have bound (drawn : List String) (other : Binding) :
          ((Scope.mk (scope.bindings ++ [⟨scope.next stem, helper⟩]) drawn).findKey?
              other.helper.key).isNone =
            ((scope.findKey? other.helper.key).isNone && other.helper.key ≠ helper.key) := by
        rw [findKey?_concat]
        by_cases same : other.helper.key = helper.key
        · simp [same]
        · simp [same, Ne.symm same]
      rw [ih, registered, List.filter_cons, List.filter_filter]
      simp only [bound, unknown, Option.isNone_none, if_true, List.append_assoc,
        List.singleton_append]

/-! ### Names of a record -/

theorem drawnIn_eq_draws {known : List String}
    (bound : ∀ key, key ∈ known ↔ (scope.findKey? key).isSome) (requests : List Request) :
    drawnIn known (requests.zip (scope.run requests).1) = scope.draws requests := by
  induction requests generalizing scope known with
  | nil => rfl
  | cons request rest ih =>
    cases request with
    | fresh stem => exact congrArg ((stem, scope.next stem) :: ·) (ih (scope.fresh stem).2 bound)
    | bind stem helper =>
      simp only [run, List.zip_cons_cons, drawnIn]
      cases found : scope.findKey? helper.key with
      | some binding =>
        have reuses : scope.stem? (.bind stem helper) = none := by simp [stem?, found]
        rw [if_pos ((bound _).mpr (by simp [found])), scope.serve_of_stem?_eq_none reuses,
          scope.draws_of_stem?_eq_none reuses]
        exact ih scope bound
      | none =>
        have draws : scope.stem? (.bind stem helper) = some stem := by simp [stem?, found]
        have absent : helper.key ∉ known := fun member => by
          simpa [found] using (bound _).mp member
        rw [if_neg absent, scope.draws_of_stem?_eq_some draws,
          (scope.serve_of_stem?_eq_some draws).1]
        refine congrArg ((stem, scope.next stem) :: ·) (ih _ fun key => ?_)
        have served : (scope.serve (.bind stem helper)).2 =
            ⟨scope.bindings ++ [⟨scope.next stem, helper⟩], stem :: scope.drawn⟩ := by
          simp [serve, bind, found, Scope.fresh, next]
        rw [served, findKey?_concat, List.mem_cons, bound]
        by_cases same : helper.key = key
        · simp [same]
        · simp [same, Ne.symm same]

theorem names_of_draws (requests : List Request) (stem : String) :
    ∃ count, ((scope.draws requests).filter fun draw => draw.1 = stem).map (·.2) =
      (List.range' (scope.drawn.count stem) count).map (numbered stem) := by
  induction requests generalizing scope with
  | nil => exact ⟨0, rfl⟩
  | cons request rest ih =>
    obtain ⟨count, later⟩ := ih (scope.serve request).2
    cases drawn : scope.stem? request with
    | none =>
      rw [scope.draws_of_stem?_eq_none drawn]
      exact ih scope
    | some other =>
      rw [(scope.serve_of_stem?_eq_some drawn).2] at later
      rw [scope.draws_of_stem?_eq_some drawn]
      by_cases same : other = stem
      · subst same
        refine ⟨count + 1, ?_⟩
        rw [List.count_cons_self] at later
        simp [later, List.range'_succ, next]
      · rw [List.count_cons_of_ne same] at later
        exact ⟨count, by simpa [same] using later⟩

/-- What a run from the empty scope leaves behind. There is a binding for each key that a helper was
asked for under, in the order in which that happened first, with the helper and the answer of then;
each answer to a request for a helper is the name of its key's binding. The names drawn from a stem
have the numbers from zero on, whatever was drawn from other stems or not drawn in between. Further
requests add bindings behind those that are there. -/
theorem run_record (requests : List Request) :
    let names := (empty.run requests).1
    let scope := (empty.run requests).2
    let record := requests.zip names
    names.length = requests.length ∧ scope.bindings = registered record ∧
      (scope.bindings.map fun binding => binding.helper.key).Nodup ∧
      (∀ stem helper name, (.bind stem helper, name) ∈ record →
        ∃ binding ∈ scope.bindings, binding.helper.key = helper.key ∧ binding.name = name) ∧
      (∀ stem, namesFrom stem record =
        (List.range (namesFrom stem record).length).map fun number => ⟨stem ++ toString number⟩) ∧
      ∀ more, scope.bindings <+: (scope.run more).2.bindings := by
  intro names scope record
  have bindings : scope.bindings = registered record := by
    have all : ∀ binding ∈ registered record,
        (empty.findKey? binding.helper.key).isNone = true := fun _ _ => rfl
    have made := empty.bindings_eq_registered requests
    rwa [List.filter_eq_self.mpr all] at made
  refine ⟨empty.length_run requests, bindings, ?_, fun stem helper name answer => ?_,
    fun stem => ?_, fun more => ?_⟩
  · rw [bindings]
    exact nodup_registered record
  · obtain ⟨binding, found, named⟩ := empty.findKey?_of_answer answer
    have key : binding.helper.key = helper.key := by simpa using List.find?_some found
    exact ⟨binding, List.mem_of_find?_eq_some found, key, named⟩
  · have drawn : drawnIn [] record = empty.draws requests :=
      empty.drawnIn_eq_draws (fun key => by simp [findKey?, empty]) requests
    obtain ⟨count, numbers⟩ := empty.names_of_draws requests stem
    have none : empty.drawn.count stem = 0 := rfl
    rw [namesFrom, drawn, numbers, none, List.length_map, List.length_range', List.range_eq_range']
    rfl
  · obtain ⟨added, same, -⟩ := scope.bindings_run more
    exact ⟨added, same.symm⟩

end TypeForm.Scope
