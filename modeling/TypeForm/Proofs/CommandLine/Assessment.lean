import TypeForm.CommandLine.Run
import TypeForm.Proofs.Report.Counts
import TypeForm.Proofs.Session.Settings

/-!
# The diagnostics of a document

`Run.findings` are the diagnostics of one document, said by the demands of the schema and the content
of the document's file. A validator that holds these demands assesses every document, readable or
not, with exactly these diagnostics (`Run.assess_eq`), and several documents one after the other
(`Run.assessAll_eq`), so that none of them has a say in what is found in another.

From the list follow the severities in it (`Run.severity_of_mem_findings`), and what the settings
change: the mode does not change whether the list is clean (`Run.isClean_findings`), and with redaction
the list is the same for documents that fail the same checks (`Run.findings_of_failAlike`).
-/
namespace TypeForm

/-- No JSON value can be read from what a file has. -/
def Unreadable (content : Except FileError String) : Prop :=
  ∀ text value, content = .ok text → Json.parse text ≠ .ok value

namespace Run

variable {path : String} {content : Except FileError String}

theorem jsonOf_cases (path : String) (content : Except FileError String) :
    (∃ trouble, jsonOf path content = .error trouble ∧ Unreadable content) ∨
      ∃ text value, content = .ok text ∧ Json.parse text = .ok value ∧
        jsonOf path content = .ok value := by
  cases content with
  | error error => exact .inl ⟨_, rfl, by simp [Unreadable]⟩
  | ok text =>
    cases parsed : Json.parse text with
    | error reason =>
      refine .inl ⟨⟨"Invalid JSON in " ++ path, some reason⟩, by simp [jsonOf, parsed], ?_⟩
      rintro _ value ⟨⟩
      simp [parsed]
    | ok value => exact .inr ⟨text, value, rfl, parsed, by simp [jsonOf, parsed]⟩

theorem jsonOf_of_unreadable (unread : Unreadable content) (path : String) :
    ∃ trouble, jsonOf path content = .error trouble := by
  rcases jsonOf_cases path content with ⟨trouble, read, -⟩ | ⟨text, value, same, parsed, -⟩
  · exact ⟨trouble, read⟩
  · exact absurd parsed (unread text value same)

/-- The diagnostics of a document of its own, held against demands. -/
def findings (config : Config) (demands : List Demand) (path : String)
    (content : Except FileError String) : List Diagnostic :=
  match jsonOf path content with
  | .error trouble => [unreadable path trouble]
  | .ok value =>
    (reported config.allErrors (demands.filterMap (Demand.failure? · (Data.ofJson value)))).map
      fun failure => inFile path (Validator.diagnostic config (Data.ofJson value) failure)

variable {validator : Validator} {entries : List Entry}

theorem assess_eq (holds : validator.Holds entries) (path : String)
    (content : Except FileError String) :
    assess validator path content =
      .ok (findings validator.config (entries.map Entry.toDemand) path content) := by
  unfold assess findings
  cases jsonOf path content with
  | error trouble => rfl
  | ok value =>
    simp only [holds.validate, Except.map, Validator.diagnostics, List.map_map]
    rfl

theorem assessAll_eq (holds : validator.Holds entries)
    (documents : List (String × Except FileError String)) :
    assessAll validator documents =
      .ok (documents.map fun document => (document.1,
        findings validator.config (entries.map Entry.toDemand) document.1 document.2)) := by
  induction documents with
  | nil => rfl
  | cons document rest ih =>
    obtain ⟨path, content⟩ := document
    rw [assessAll, assess_eq holds, ih]
    rfl

/-! ### Severities -/

theorem severity_of_mem_findings {config : Config} {demands : List Demand}
    {diagnostic : Diagnostic} (member : diagnostic ∈ findings config demands path content) :
    (diagnostic.code = .validationTypeMismatch ∧
        diagnostic.severity = config.overrides.severity .validationTypeMismatch .error) ∨
      (diagnostic.code = .inputParseError ∧ diagnostic.severity = .error ∧ Unreadable content) := by
  unfold findings at member
  rcases jsonOf_cases path content with ⟨trouble, read, unread⟩ | ⟨text, value, -, -, read⟩
  · rw [read, List.mem_singleton] at member
    exact .inr (member ▸ ⟨rfl, rfl, unread⟩)
  · rw [read] at member
    obtain ⟨failure, -, rfl⟩ := List.mem_map.mp member
    exact .inl ⟨rfl, rfl⟩

/-- A document that cannot be read has one diagnostic, which is always an error. -/
theorem findings_of_unreadable (config : Config) (demands : List Demand)
    (unread : Unreadable content) :
    ∃ trouble, findings config demands path content = [unreadable path trouble] := by
  obtain ⟨trouble, read⟩ := jsonOf_of_unreadable unread path
  exact ⟨trouble, by simp [findings, read]⟩

/-! ### Settings -/

/-- Whether one failure is reported or all of them, each has the severity of the others. -/
theorem isClean_findings {config other : Config} (overrides : config.overrides = other.overrides)
    (demands : List Demand) (path : String) (content : Except FileError String) :
    IsClean (findings config demands path content) ↔
      IsClean (findings other demands path content) := by
  unfold findings
  cases jsonOf path content with
  | error trouble => rfl
  | ok value =>
    -- No severity depends on the failure, so one diagnostic stands for all of them.
    have severity (settings : Config) (failure : Failure) :
        (inFile path (Validator.diagnostic settings (Data.ofJson value) failure)).severity =
          settings.overrides.severity .validationTypeMismatch .error := rfl
    simp only [IsClean, List.forall_mem_map, severity, overrides, forall_mem_reported]

/-- With redaction, nothing is found in a document but which checks it fails. -/
theorem findings_of_failAlike (holds : validator.Holds entries)
    (redact : validator.config.redact = true) {left right : Except FileError String}
    {first second : Json} (readLeft : jsonOf path left = .ok first)
    (readRight : jsonOf path right = .ok second)
    (alike : validator.FailAlike (Data.ofJson first) (Data.ofJson second)) :
    findings validator.config (entries.map Entry.toDemand) path left =
      findings validator.config (entries.map Entry.toDemand) path right := by
  simp only [findings, readLeft, readRight, holds.failures_of_failAlike alike]
  exact List.map_congr_left fun failure _ => congrArg (inFile path)
    (Validator.diagnostic_of_redact redact failure _ _)

end Run
end TypeForm
