import TypeForm.Report

/-!
# Counts of a report

A report is filled document by document. `Report.Lists` says what it then holds: the diagnostics of
the documents one after the other, how many documents there are, and how many of them are clean. The
counts by severity are those of the diagnostics, so the question whether a report has errors
(`Report.Lists.hasErrors_iff`) and the question whether a document is missing among the valid ones
(`Report.Lists.valid_lt_iff`) have the same answer.
-/
namespace TypeForm

/-- No diagnostic is an error. -/
def IsClean (diagnostics : List Diagnostic) : Prop :=
  ∀ diagnostic ∈ diagnostics, diagnostic.severity ≠ .error

instance : DecidablePred IsClean := fun diagnostics =>
  inferInstanceAs (Decidable (∀ diagnostic ∈ diagnostics, diagnostic.severity ≠ .error))

theorem isClean_iff_all {diagnostics : List Diagnostic} :
    IsClean diagnostics ↔ (diagnostics.all fun diagnostic => diagnostic.severity != .error) = true := by
  simp [IsClean]

/-- Whether documents are clean can be told from all their diagnostics together. -/
theorem isClean_flatten {documents : List (List Diagnostic)} :
    IsClean documents.flatten ↔ ∀ diagnostics ∈ documents, IsClean diagnostics := by
  simp only [IsClean, List.forall_mem_flatten]

/-- The number of diagnostics of a severity. -/
def Summary.ofSeverity (summary : Summary) : Severity → Nat
  | .error => summary.errors
  | .warn => summary.warnings
  | .info => summary.info

theorem Summary.ofSeverity_count (summary : Summary) (counted asked : Severity) :
    (summary.count counted).ofSeverity asked =
      summary.ofSeverity asked + if counted = asked then 1 else 0 := by
  cases counted <;> cases asked <;> rfl

namespace Report

variable {report : Report}

/-! ### Diagnostics -/

/-- The counts by severity, and the total, are those of the diagnostics listed. -/
structure IsTallied (report : Report) : Prop where
  total : report.summary.total = report.diagnostics.length
  ofSeverity : ∀ severity, report.summary.ofSeverity severity =
    report.diagnostics.countP fun diagnostic => diagnostic.severity = severity

theorem isTallied_empty (timestamp : String) : (empty timestamp).IsTallied where
  total := rfl
  ofSeverity := fun severity => by cases severity <;> rfl

theorem IsTallied.addDiagnostic (tallied : report.IsTallied) (diagnostic : Diagnostic) :
    (report.addDiagnostic diagnostic).IsTallied where
  total := by
    have total : (report.summary.count diagnostic.severity).total = report.summary.total + 1 := by
      unfold Summary.count
      cases diagnostic.severity <;> rfl
    simp [Report.addDiagnostic, total, tallied.total]
  ofSeverity := fun severity => by
    have counted := report.summary.ofSeverity_count diagnostic.severity severity
    rw [tallied.ofSeverity severity] at counted
    simpa [Report.addDiagnostic, List.countP_append, List.countP_cons] using counted

theorem IsTallied.addDiagnostics (tallied : report.IsTallied) (diagnostics : List Diagnostic) :
    (report.addDiagnostics diagnostics).IsTallied :=
  List.foldlRecOn diagnostics _ tallied fun _ tallied diagnostic _ =>
    tallied.addDiagnostic diagnostic

/-- A report that is tallied has errors exactly if it is not clean. -/
theorem IsTallied.hasErrors_iff (tallied : report.IsTallied) :
    report.hasErrors = true ↔ ¬IsClean report.diagnostics := by
  have errors : report.summary.errors = _ := tallied.ofSeverity .error
  rw [hasErrors, decide_eq_true_iff, errors, List.countP_pos_iff]
  simp [IsClean]

/-- Diagnostics are added at the end, and the documents are left alone. -/
theorem addDiagnostics_eq (report : Report) (diagnostics : List Diagnostic) :
    ∃ summary : Summary, report.addDiagnostics diagnostics =
        { report with summary, diagnostics := report.diagnostics ++ diagnostics } ∧
      summary.documentsChecked = report.summary.documentsChecked ∧
      summary.documentsValid = report.summary.documentsValid := by
  induction diagnostics generalizing report with
  | nil => exact ⟨report.summary, by simp [addDiagnostics], rfl, rfl⟩
  | cons diagnostic rest ih =>
    obtain ⟨summary, added, checked, valid⟩ := ih (report.addDiagnostic diagnostic)
    refine ⟨summary, ?_, checked.trans ?_, valid.trans ?_⟩
    · refine added.trans ?_
      simp [addDiagnostic]
    all_goals
      simp only [addDiagnostic, Summary.count]
      cases diagnostic.severity <;> rfl

/-! ### Documents -/

/-- A report lists documents, each given by its diagnostics. -/
structure Lists (report : Report) (documents : List (List Diagnostic)) : Prop where
  tallied : report.IsTallied
  diagnostics : report.diagnostics = documents.flatten
  checked : report.summary.documentsChecked = documents.length
  valid : report.summary.documentsValid = documents.countP fun diagnostics => IsClean diagnostics

theorem lists_empty (timestamp : String) : (empty timestamp).Lists [] :=
  ⟨isTallied_empty timestamp, rfl, rfl, rfl⟩

variable {documents : List (List Diagnostic)}

/-- Counting a document concerns no diagnostic. -/
theorem IsTallied.countDocument (tallied : report.IsTallied) (valid : Bool) :
    ({ report with summary := report.summary.countDocument valid } : Report).IsTallied where
  total := tallied.total
  ofSeverity := fun severity => by
    rw [← tallied.ofSeverity severity]
    cases severity <;> rfl

/-- A document is counted, and then its diagnostics are added. -/
theorem addDocument_eq (report : Report) (diagnostics : List Diagnostic) :
    ∃ summary : Summary, report.addDocument diagnostics =
        { report with summary, diagnostics := report.diagnostics ++ diagnostics } ∧
      summary.documentsChecked = report.summary.documentsChecked + 1 ∧
      summary.documentsValid =
        report.summary.documentsValid + if IsClean diagnostics then 1 else 0 := by
  simp only [isClean_iff_all]
  exact addDiagnostics_eq
    { report with
      summary := report.summary.countDocument
        (diagnostics.all fun diagnostic => diagnostic.severity != .error) } diagnostics

theorem Lists.addDocument (lists : report.Lists documents) (diagnostics : List Diagnostic) :
    (report.addDocument diagnostics).Lists (documents ++ [diagnostics]) := by
  obtain ⟨summary, added, checked, valid⟩ := report.addDocument_eq diagnostics
  -- The tally is kept by both halves of the step; the rest is read off what the step changes.
  refine ⟨(lists.tallied.countDocument _).addDiagnostics diagnostics, ?_, ?_, ?_⟩
  · simp [added, lists.diagnostics]
  · simp [added, checked, lists.checked]
  · simp [added, valid, lists.valid, List.countP_append, List.countP_cons]

theorem Lists.hasErrors_iff (lists : report.Lists documents) :
    report.hasErrors = true ↔ ∃ diagnostics ∈ documents, ¬IsClean diagnostics := by
  rw [lists.tallied.hasErrors_iff, lists.diagnostics, isClean_flatten]
  simp

theorem Lists.valid_lt_iff (lists : report.Lists documents) :
    report.summary.documentsValid < report.summary.documentsChecked ↔
      ∃ diagnostics ∈ documents, ¬IsClean diagnostics := by
  -- There are never more valid documents than documents, so that fewer means not all.
  have all := List.countP_eq_length (p := fun diagnostics => IsClean diagnostics) (l := documents)
  have most := List.countP_le_length (p := fun diagnostics => IsClean diagnostics) (l := documents)
  rw [lists.valid, lists.checked, Nat.lt_iff_le_and_ne, and_iff_right most, Ne, all]
  simp

end Report
end TypeForm
