import TypeForm.Proofs.Session.Compilation
import TypeForm.Proofs.Session.Validation

/-!
# What settings change in an answer

Two settings have a say in what is reported on a document. Without `allErrors` only the first
failure is kept (`Validator.validate_modes`), so whether a document is valid does not
depend on it. With `redact` a diagnostic is made of its failure alone
(`Validator.diagnostic_of_redact`), and a failure is made of its check alone, so documents that fail
the same checks have the same diagnostics (`Validator.Holds.diagnostics_of_failAlike`).
-/
namespace TypeForm

theorem isEmpty_reported (allErrors : Bool) (failures : List Failure) :
    (reported allErrors failures).isEmpty = failures.isEmpty := by
  cases allErrors <;> cases failures <;> rfl

/-- In either mode there is a failure to speak of, or there is none. -/
theorem forall_mem_reported {p : Prop} (allErrors : Bool) (failures : List Failure) :
    (∀ failure ∈ reported allErrors failures, p) ↔ failures = [] ∨ p := by
  cases failures with
  | nil => cases allErrors <;> simp [reported]
  | cons failure rest =>
    have first : failure ∈ reported allErrors (failure :: rest) := by
      cases allErrors <;> simp [reported]
    exact ⟨fun all => .inr (all failure first), fun given _ _ => given.resolve_left (by simp)⟩

namespace Validator

variable {validator : Validator} {entries : List Entry}

/-! ### All failures or the first -/

/-- In either mode a document is validated against the same demands. -/
theorem Holds.validate_withConfig (holds : validator.Holds entries) (config : Config)
    (document : Data) :
    (validator.withConfig config).validate document =
      .ok (reported config.allErrors
        ((entries.map Entry.toDemand).filterMap (Demand.failure? · document))) :=
  (holds.withConfig config).validate document

theorem Holds.isValid_withConfig (holds : validator.Holds entries) (config : Config)
    (document : Data) :
    (validator.withConfig config).isValid document =
      .ok ((entries.map Entry.toDemand).filterMap (Demand.failure? · document)).isEmpty := by
  rw [isValid, holds.validate_withConfig config document]
  exact congrArg Except.ok (isEmpty_reported _ _)

/-- One run of a session in two modes: the answers are all failures, or the first of them. -/
theorem validate_modes (config : Config) (submissions : List Submission) (document : Data) :
    ∃ failures, ∀ allErrors,
      ((Session.start { config with allErrors }).run submissions).1.finish.validate document =
          .ok (reported allErrors failures) ∧
        ((Session.start { config with allErrors }).run submissions).1.finish.isValid document =
          .ok failures.isEmpty := by
  obtain ⟨entries, holds, -⟩ := Session.holds_run config submissions
  refine ⟨(entries.map Entry.toDemand).filterMap (Demand.failure? · document), fun allErrors => ?_⟩
  have same : ((Session.start { config with allErrors }).run submissions).1.finish =
      ((Session.start config).run submissions).1.finish.withConfig { config with allErrors } :=
    congrArg (fun outcome => outcome.1.finish)
      ((Session.start config).run_withConfig { config with allErrors } submissions)
  rw [same]
  exact ⟨holds.finish.validate_withConfig _ document, holds.finish.isValid_withConfig _ document⟩

/-! ### Redaction -/

/-- Two documents fail the same checks. -/
def FailAlike (validator : Validator) (left right : Data) : Prop :=
  ∀ check ∈ validator.checks,
    check.fails validator.scope left = .ok true ↔ check.fails validator.scope right = .ok true

/-- A diagnostic that is redacted shows nothing of the document. -/
theorem diagnostic_of_redact {config : Config} (redact : config.redact = true) (failure : Failure)
    (left right : Data) : diagnostic config left failure = diagnostic config right failure := by
  simp only [diagnostic, actualText, redact, if_true]

/-- The failure of an entry does not say with what value the document failed. -/
theorem failure?_of_isSome {entry : Entry} {left right : Data}
    (alike : (entry.failure? left).isSome = (entry.failure? right).isSome) :
    entry.failure? left = entry.failure? right := by
  cases first : entry.failure? left with
  | none =>
    rw [first] at alike
    exact (Option.not_isSome_iff_eq_none.mp (by simp [← alike])).symm
  | some failure =>
    rw [first] at alike
    obtain ⟨other, second⟩ := Option.isSome_iff_exists.mp alike.symm
    rw [second, ← check_failure first, ← check_failure second]

theorem Holds.failures_of_failAlike (holds : validator.Holds entries) {left right : Data}
    (alike : validator.FailAlike left right) :
    (entries.map Entry.toDemand).filterMap (Demand.failure? · left) =
      (entries.map Entry.toDemand).filterMap (Demand.failure? · right) := by
  rw [List.filterMap_map, List.filterMap_map]
  apply List.filterMap_congr
  intro entry member
  apply failure?_of_isSome
  -- The check of the entry is one of the validator's, and decides on both documents.
  have check : entry.check ∈ validator.checks :=
    holds.checks ▸ List.mem_map_of_mem member
  have same := alike entry.check check
  rw [holds.fails member left, holds.fails member right, Except.ok.injEq, Except.ok.injEq] at same
  exact Bool.eq_iff_iff.mpr same

/-- Where data values are redacted, documents that fail the same checks are reported on alike. -/
theorem Holds.diagnostics_of_failAlike (holds : validator.Holds entries)
    (redact : validator.config.redact = true) {left right : Data}
    (alike : validator.FailAlike left right) :
    ∃ failures, validator.validate left = .ok failures ∧ validator.validate right = .ok failures ∧
      validator.diagnostics failures left = validator.diagnostics failures right := by
  refine ⟨_, holds.validate left, ?_, ?_⟩
  · rw [holds.validate right, holds.failures_of_failAlike alike]
  · exact List.map_congr_left fun failure _ => diagnostic_of_redact redact failure left right

end Validator
end TypeForm
