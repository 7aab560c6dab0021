import TypeForm.Proofs.Session.Validation
import TypeForm.Proofs.Source.Validator

/-!
# The source of a validator determines what it does

Validators that sessions made report the same if their sources are the same, whatever was submitted
to the sessions and however they were configured.

## Main result

`validate_of_source`: sessions with one source agree on every document, up to the values of
keywords, which the source does not tell.

## Proof strategy

The source is read back as a statement for each check (`source?_source`), so that both validators
have the same statements. A statement does not tell the form that it was made for, but its condition
tells which values conform (`conforms_of_condition`), and a validator without statements reports
nothing in either mode.
-/
namespace TypeForm

open Source

/-- Where a failure is, and which keyword failed. -/
def Failure.place (failure : Failure) : String × String × String :=
  (failure.instancePath, failure.schemaPath, failure.keyword)

/-! ### Compiled checks are readable -/

theorem isName_func (count : Nat) : IsName (Scope.numbered "func" count) :=
  isName_numbered (by simp) rfl count

theorem isName_data (count : Nat) : IsName (Scope.numbered "data" count) :=
  isName_numbered (by simp) rfl count

theorem TypeTag.readable_violated (tag : TypeTag) {helper data : Ident} (isHelper : IsName helper)
    (isName : IsName data) : Readable (tag.violated helper data) := by
  cases tag with
  | boolean | string | float32 | float64 => exact .not (.kindIs isName _)
  | timestamp =>
    have text : Readable (.and [.kindIs data .string, .call helper data]) :=
      .and (by simp) (by simpa using ⟨.kindIs isName _, .call isHelper isName⟩)
    exact .not (.or (by simp) (by simpa using ⟨.isMoment isName, text⟩))
  | int type =>
    exact .not (.and (by simp) (by simpa using ⟨.kindIs isName _, .isFinite isName,
      .compare isName _ _, .compare isName _ _, .isWhole isName⟩))

theorem Form.readable_violated (form : Form) {helper data : Ident} (isHelper : IsName helper)
    (isName : IsName data) : Readable (form.violated helper data) := by
  have tag := form.tag.readable_violated isHelper isName
  unfold Form.violated
  split
  · exact .and (by simp) (by simpa using ⟨tag, .notNull isName⟩)
  · exact tag

theorem Entry.isReadable (entry : Entry) : IsReadable entry.check where
  condition := entry.form.readable_violated (isName_func 0) (isName_data entry.index)
  data := isName_data entry.index

/-- Any number of checks fit some limit. -/
theorem exists_fits (checks : List Check) :
    ∃ fuel, checks.length < fuel ∧ ∀ check ∈ checks, Fits fuel check := by
  induction checks with
  | nil => exact ⟨1, Nat.one_pos, by simp⟩
  | cons check others ih =>
    obtain ⟨fuel, enough, fits⟩ := ih
    -- Limits add up, and a larger one still fits the checks before.
    let size := sizeOf check.condition + (Text.segments check.instancePath.toList).length
    refine ⟨fuel + size + 1, ?_, ?_⟩
    · rw [List.length_cons]
      omega
    · intro other member
      rcases List.mem_cons.mp member with rfl | member
      · constructor <;> omega
      · have fitting := fits other member
        exact ⟨Nat.lt_of_lt_of_le fitting.1 (by omega), Nat.lt_of_lt_of_le fitting.2 (by omega)⟩

/-- Validators with one source have the same statements. -/
theorem statements_of_source {first second : Validator} {entries others : List Entry}
    (holds : first.Holds entries) (alike : second.Holds others)
    (same : first.source = second.source) :
    entries.map (fun entry => statement first.config.allErrors entry.check) =
      others.map fun entry => statement second.config.allErrors entry.check := by
  obtain ⟨fuel, enough, fits⟩ := exists_fits (first.checks ++ second.checks)
  rw [List.length_append] at enough
  have read {validator : Validator} {entries : List Entry} (holds : validator.Holds entries)
      (inside : ∀ check ∈ validator.checks, Fits fuel check)
      (fewer : validator.checks.length < fuel) :
      source? fuel ⟨helperName, dateTimeHelper⟩ validator.source.toList =
        some (validator.checks.map (statement validator.config.allErrors)) := by
    refine source?_source (holds.bindings ▸ bindingsFor_cases entries)
      (holds.root ▸ isName_data 0) (fun check member => ⟨?_, inside check member⟩) fewer
    rw [holds.checks] at member
    obtain ⟨entry, -, rfl⟩ := List.mem_map.mp member
    exact entry.isReadable
  have left := read holds (fun check member => fits check (List.mem_append_left _ member))
    (by omega)
  have right := read alike (fun check member => fits check (List.mem_append_right _ member))
    (by omega)
  rw [same, right, holds.checks, alike.checks, List.map_map, List.map_map] at left
  exact (Option.some.inj left).symm

/-! ### What a statement tells -/

/-- A condition tells which values conform to the form that it was made for. -/
theorem conforms_of_condition {entry other : Entry} (data : entry.data = other.data)
    (condition : entry.check.condition = other.check.condition) (value : Data) :
    entry.form.Conforms value ↔ other.form.Conforms value := by
  -- Both conditions are evaluated in one scope, in which the helper is bound.
  let scope : Scope := ⟨[⟨helperName, dateTimeHelper⟩], []⟩
  have bound : scope.helper? helperName = some dateTimeHelper := by simp [scope, Scope.helper?]
  have left := entry.form.evaluate_violated (.ofScope scope) helperName entry.data value
    fun _ => bound
  have right := other.form.evaluate_violated (.ofScope scope) helperName other.data value
    fun _ => bound
  have conditions : entry.form.violated helperName entry.data =
      other.form.violated helperName other.data := condition
  rw [conditions, data, right] at left
  simpa using (Except.ok.inj left).symm

/-- Entries with one statement fail at the same places. -/
theorem place_of_statement {entry other : Entry} {allErrors mode : Bool}
    (same : statement allErrors entry.check = statement mode other.check) (document : Data) :
    (entry.failure? document).map Failure.place = (other.failure? document).map Failure.place := by
  have data : entry.data = other.data := congrArg Statement.data same
  have condition : entry.check.condition = other.check.condition :=
    congrArg Statement.condition same
  have instancePath : entry.instancePath = other.instancePath :=
    congrArg (fun found => found.report.instancePath) same
  have schemaPath : entry.schemaPath ++ "/" ++ "type" = other.schemaPath ++ "/" ++ "type" :=
    congrArg (fun found => found.report.schemaPath) same
  unfold Demand.failure?
  rw [instancePath]
  cases document.pointer other.instancePath with
  | none => rfl
  | some value =>
    have agree := conforms_of_condition data condition value
    by_cases conforms : other.form.Conforms value
    · simp [conforms, agree.mpr conforms]
    · have fails : ¬entry.form.Conforms value := fun also => conforms (agree.mp also)
      simp only [conforms, fails, if_false, Option.map_some, Failure.place, schemaPath]

/-- Lists that agree on something agree on what it determines. -/
theorem filterMap_of_map {α β γ : Type} {f g : α → β} {p q : α → Option γ} {xs ys : List α}
    (same : xs.map f = ys.map g) (determined : ∀ x y, f x = g y → p x = q y) :
    xs.filterMap p = ys.filterMap q := by
  induction xs generalizing ys with
  | nil =>
    obtain rfl : ys = [] := by simpa using same.symm
    rfl
  | cons x xs ih =>
    cases ys with
    | nil => cases same
    | cons y ys =>
      obtain ⟨head, tail⟩ := List.cons.inj same
      rw [List.filterMap_cons, List.filterMap_cons, determined x y head, ih tail]

/-- What a validator reports, told by its entries. -/
theorem Validator.Holds.places {validator : Validator} {entries : List Entry}
    (holds : validator.Holds entries) (document : Data) :
    (validator.validate document).map (List.map Failure.place) =
      .ok (if validator.config.allErrors
        then entries.filterMap fun entry => (entry.failure? document).map Failure.place
        else (entries.filterMap fun entry => (entry.failure? document).map Failure.place).take 1) := by
  rw [holds.validate, List.filterMap_map, Except.map, reported]
  cases validator.config.allErrors <;> simp [List.map_filterMap, List.map_take]

/-- Sessions whose validators have the same source agree on what is wrong with a document: the same
keywords fail in the same places, in the same order. -/
theorem validate_of_source (first second : Config) (submissions others : List Submission)
    (same : ((Session.start first).run submissions).1.finish.source =
      ((Session.start second).run others).1.finish.source) (document : Data) :
    (((Session.start first).run submissions).1.finish.validate document).map
        (List.map Failure.place) =
      (((Session.start second).run others).1.finish.validate document).map
        (List.map Failure.place) := by
  obtain ⟨entries, holds, -⟩ := Session.holds_run first submissions
  obtain ⟨alikes, alike, -⟩ := Session.holds_run second others
  have statements := statements_of_source holds.finish alike.finish same
  have places := filterMap_of_map statements
    fun entry other same => place_of_statement same document
  rw [holds.finish.places, alike.finish.places, places]
  -- The mode is told by any statement, and plays no part without one.
  cases alikes with
  | nil => simp
  | cons other rest =>
    cases entries with
    | nil => cases statements
    | cons entry more =>
      have mode := congrArg Statement.allErrors (List.cons.inj statements).1
      simp only [statement] at mode
      rw [mode]

/-- The source does not tell the two float tags apart, and neither does what is reported. -/
theorem validate_of_source_floats :
    ((Session.start .default).run
        [⟨"/x", "", .object [("type", .string "float32")]⟩]).1.finish.source =
      ((Session.start .default).run
        [⟨"/x", "", .object [("type", .string "float64")]⟩]).1.finish.source ∧
    (((Session.start .default).run
        [⟨"/x", "", .object [("type", .string "float32")]⟩]).1.finish.validate
          (.object [("x", .null)])).map (List.map Failure.place) =
      (((Session.start .default).run
        [⟨"/x", "", .object [("type", .string "float64")]⟩]).1.finish.validate
          (.object [("x", .null)])).map (List.map Failure.place) := by
  have same : ((Session.start .default).run
        [⟨"/x", "", .object [("type", .string "float32")]⟩]).1.finish.source =
      ((Session.start .default).run
        [⟨"/x", "", .object [("type", .string "float64")]⟩]).1.finish.source := by
    decide +kernel
  exact ⟨same, validate_of_source _ _ _ _ same _⟩

end TypeForm
