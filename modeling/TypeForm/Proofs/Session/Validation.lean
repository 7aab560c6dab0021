import TypeForm.Proofs.Keyword.Conformance
import TypeForm.Proofs.Session.Run

/-!
# What a validator reports

A validator made by a session decides every check on every document, and reports exactly the
demands of the session that the document fails.

## Main result

`validate_run`: with all errors asked for, the report lists the failures of the demands that a run
made, in their order. `Validator.Holds.validate` says the same of any validator that holds the
checks of entries, and for both modes.
-/
namespace TypeForm

/-- The failure of a demand in a document: there is none where the document lacks the part that
the demand is about, or has a value there that conforms. -/
def Demand.failure? (demand : Demand) (document : Data) : Option Failure :=
  match document.pointer demand.instancePath with
  | none => none
  | some value =>
    if demand.form.Conforms value then none
    else
      some
        { instancePath := demand.instancePath
          schemaPath := demand.schemaPath ++ "/" ++ "type"
          keyword := "type"
          schema := .string demand.form.tag.name }

/-- All failures, or only the first. -/
def reported (allErrors : Bool) (failures : List Failure) : List Failure :=
  if allErrors then failures else failures.take 1

namespace Validator

/-- Where the checks of some items all decide, with a known failure for each that fails, these
failures are reported. -/
theorem failing_of_decided {α : Type} {scope : Scope} {document : Data} {items : List α}
    {check : α → Check} {failure? : α → Option Failure} (allErrors : Bool)
    (decided : ∀ item ∈ items,
      (check item).fails scope document = .ok (failure? item).isSome ∧
        ∀ failure, failure? item = some failure → (check item).failure = failure) :
    failing scope allErrors document (items.map check) =
      .ok (reported allErrors (items.filterMap failure?)) := by
  induction items with
  | nil => cases allErrors <;> rfl
  | cons item rest ih =>
    have rests := ih fun other member => decided other (List.mem_cons_of_mem item member)
    obtain ⟨first, known⟩ := decided item List.mem_cons_self
    cases fate : failure? item with
    | none =>
      rw [fate] at first
      simp only [List.map_cons, failing, first, Option.isSome_none, rests,
        List.filterMap_cons, fate]
    | some failure =>
      rw [fate] at first
      have same := known failure fate
      -- Only the first failure counts unless all are asked for.
      cases allErrors with
      | false => simp [failing, first, fate, same, reported]
      | true => simp [failing, first, fate, same, rests, reported, Except.map]

/-- The helper is found by its name if an entry is about timestamps. -/
theorem Holds.helper? {validator : Validator} {entries : List Entry}
    (holds : validator.Holds entries) {entry : Entry} (member : entry ∈ entries)
    (timestamp : entry.form.tag = .timestamp) :
    validator.scope.helper? helperName = some dateTimeHelper := by
  have bindings := holds.bindings
  rw [bindingsFor_of_mem member timestamp] at bindings
  simp [Scope.helper?, bindings]

/-- A check decides whether its demand fails. -/
theorem Holds.fails {validator : Validator} {entries : List Entry}
    (holds : validator.Holds entries) {entry : Entry} (member : entry ∈ entries)
    (document : Data) :
    entry.check.fails validator.scope document = .ok (entry.failure? document).isSome := by
  unfold Check.fails Demand.failure?
  have path : entry.check.instancePath = entry.instancePath := rfl
  rw [path]
  cases document.pointer entry.instancePath with
  | none => rfl
  | some value =>
    -- Whatever else is bound, the name in the condition is bound to this value.
    have evaluated := entry.form.evaluate_violated (.ofScope validator.scope) helperName entry.data
      value fun timestamp => holds.helper? member timestamp
    refine evaluated.trans (congrArg Except.ok ?_)
    by_cases conforms : entry.form.Conforms value <;> simp [conforms]

theorem check_failure {entry : Entry} {document : Data} {failure : Failure}
    (failed : entry.failure? document = some failure) : entry.check.failure = failure := by
  unfold Demand.failure? at failed
  split at failed
  · cases failed
  · split at failed
    · cases failed
    · exact Option.some.inj failed

/-- A validator gives an answer for every document: the failures of its demands. -/
theorem Holds.validate {validator : Validator} {entries : List Entry}
    (holds : validator.Holds entries) (document : Data) :
    validator.validate document =
      .ok (reported validator.config.allErrors
        ((entries.map Entry.toDemand).filterMap (Demand.failure? · document))) := by
  rw [Validator.validate, holds.checks, List.filterMap_map]
  apply failing_of_decided
  intro entry member
  exact ⟨holds.fails member document, fun failure failed => check_failure failed⟩

end Validator

/-- With all errors asked for, the validator of any run of a session answers for every document.
It lists what the document fails of the demands that were made, in the order of the submissions. -/
theorem validate_run (config : Config) (submissions : List Submission) (document : Data)
    (allErrors : config.allErrors = true) :
    ((Session.start config).run submissions).1.finish.validate document =
      .ok ((demands submissions ((Session.start config).run submissions).2).filterMap
        (Demand.failure? · document)) := by
  obtain ⟨entries, holds, made⟩ := Session.holds_run config submissions
  have mode : ((Session.start config).run submissions).1.config = config :=
    Session.run_config _ submissions
  have answer := holds.finish.validate document
  rw [made] at answer
  rw [answer, reported, if_pos]
  exact (congrArg Config.allErrors mode).trans allErrors

/-- A submission at a faulty path is refused, and two demands fail. -/
theorem validate_run_refused :
    Config.default.allErrors = true ∧
      ((Session.start .default).run
        [⟨"", "", .object [("type", .string "boolean")]⟩,
          ⟨"x", "/properties/x", .object [("type", .string "string")]⟩,
          ⟨"/x", "/properties/x", .object [("nullable", .bool true), ("type", .string "timestamp")]⟩
        ]).1.finish.validate (.object [("x", .string "soon")]) =
      .ok [⟨"", "/type", "type", .string "boolean"⟩,
        ⟨"/x", "/properties/x/type", "type", .string "timestamp"⟩] :=
  ⟨rfl, (validate_run .default _ _ rfl).trans (by decide +kernel)⟩

end TypeForm
