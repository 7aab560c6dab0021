import TypeForm.Proofs.Report.Counts

/-!
# Runs of a report

A report is filled by single diagnostics and by documents, in any order. `Report.Records` says what
it holds after any of this: every diagnostic that was added, in order, its counts by severity, and
the documents with those that are valid.

## Main result

`run_counts`: the summary of a report, however it was begun and filled, counts what was added.

## Proof strategy

One addition keeps the record (`Records.add`), where the tally by severity is kept by adding a
diagnostic and by counting a document. A report that is begun with diagnostics is one to which they
were added singly, so that every run starts from the empty report.
-/
namespace TypeForm
namespace Report

/-- What may be added to a report. -/
inductive Addition where
  | diagnostic (added : Diagnostic)
  | document (diagnostics : List Diagnostic)

namespace Addition

def diagnostics : Addition → List Diagnostic
  | diagnostic added => [added]
  | document diagnostics => diagnostics

/-- The diagnostics of a document. -/
def document? : Addition → Option (List Diagnostic)
  | diagnostic _ => none
  | document diagnostics => some diagnostics

end Addition

def add (report : Report) : Addition → Report
  | .diagnostic added => report.addDiagnostic added
  | .document diagnostics => report.addDocument diagnostics

def run (report : Report) (additions : List Addition) : Report :=
  additions.foldl add report

/-- A report holds additions, and nothing else. -/
structure Records (report : Report) (additions : List Addition) : Prop where
  tallied : report.IsTallied
  diagnostics : report.diagnostics = additions.flatMap Addition.diagnostics
  checked : report.summary.documentsChecked = (additions.filterMap Addition.document?).length
  valid : report.summary.documentsValid =
    (additions.filterMap Addition.document?).countP fun diagnostics => IsClean diagnostics

theorem records_empty (timestamp : String) : (empty timestamp).Records [] :=
  ⟨isTallied_empty timestamp, rfl, rfl, rfl⟩

variable {report : Report} {additions : List Addition}

theorem Records.add (records : report.Records additions) (addition : Addition) :
    (report.add addition).Records (additions ++ [addition]) := by
  cases addition with
  | diagnostic added =>
    obtain ⟨summary, same, checked, valid⟩ := report.addDiagnostics_eq [added]
    have alone : report.add (.diagnostic added) = report.addDiagnostics [added] := rfl
    -- A single diagnostic is no document.
    refine ⟨records.tallied.addDiagnostic added, ?_, ?_, ?_⟩
    · simp [alone, same, records.diagnostics, Addition.diagnostics]
    · simp [alone, same, checked, records.checked, Addition.document?]
    · simp [alone, same, valid, records.valid, Addition.document?]
  | document diagnostics =>
    obtain ⟨summary, same, checked, valid⟩ := report.addDocument_eq diagnostics
    have whole : report.add (.document diagnostics) = report.addDocument diagnostics := rfl
    refine ⟨(records.tallied.countDocument _).addDiagnostics diagnostics, ?_, ?_, ?_⟩
    · simp [whole, same, records.diagnostics, Addition.diagnostics]
    · simp [whole, same, checked, records.checked, Addition.document?]
    · simp [whole, same, valid, records.valid, Addition.document?, List.countP_append,
        List.countP_cons]

theorem Records.run (records : report.Records additions) (more : List Addition) :
    (report.run more).Records (additions ++ more) := by
  induction more generalizing report additions with
  | nil => simpa [Report.run] using records
  | cons addition rest ih =>
    have later := ih (records.add addition)
    rw [List.append_assoc, List.singleton_append] at later
    exact later

theorem ofDiagnostics_eq_run (timestamp : String) (diagnostics : List Diagnostic) :
    ofDiagnostics timestamp diagnostics =
      (empty timestamp).run (diagnostics.map Addition.diagnostic) := by
  rw [run, List.foldl_map]
  rfl

/-- What a report holds that was begun with diagnostics. -/
theorem records_run (timestamp : String) (initial : List Diagnostic) (additions : List Addition) :
    ((ofDiagnostics timestamp initial).run additions).Records
      (initial.map Addition.diagnostic ++ additions) := by
  rw [ofDiagnostics_eq_run]
  exact ((records_empty timestamp).run _).run additions

/-- A report of documents only. -/
theorem Records.lists {documents : List (List Diagnostic)}
    (records : report.Records (documents.map Addition.document)) : report.Lists documents := by
  have same : (documents.map Addition.document).filterMap Addition.document? = documents := by
    simp [List.filterMap_map, Function.comp_def, Addition.document?]
  refine ⟨records.tallied, ?_, ?_, ?_⟩
  · rw [records.diagnostics, List.flatMap_map]
    simp [Addition.diagnostics]
  · rw [records.checked, same]
  · rw [records.valid, same]

theorem Records.summary_eq (records : report.Records additions) :
    report.summary =
      { total := report.diagnostics.length
        errors := report.diagnostics.countP fun diagnostic => diagnostic.severity = .error
        warnings := report.diagnostics.countP fun diagnostic => diagnostic.severity = .warn
        info := report.diagnostics.countP fun diagnostic => diagnostic.severity = .info
        documentsChecked := (additions.filterMap Addition.document?).length
        documentsValid := (additions.filterMap Addition.document?).countP
          fun diagnostics => IsClean diagnostics } := by
  rw [Summary.mk.injEq]
  exact ⟨records.tallied.total, records.tallied.ofSeverity .error,
    records.tallied.ofSeverity .warn, records.tallied.ofSeverity .info, records.checked,
    records.valid⟩

/-- Every diagnostic has one of the three severities. -/
theorem countP_severities (diagnostics : List Diagnostic) :
    (diagnostics.countP fun diagnostic => diagnostic.severity = .error) +
        (diagnostics.countP fun diagnostic => diagnostic.severity = .warn) +
        (diagnostics.countP fun diagnostic => diagnostic.severity = .info) =
      diagnostics.length := by
  induction diagnostics with
  | nil => rfl
  | cons diagnostic rest ih =>
    simp only [List.countP_cons, List.length_cons]
    cases diagnostic.severity <;> simp <;> omega

/-- A report that was begun empty or with diagnostics, and then given diagnostics and documents in
any order, lists all diagnostics in the order in which they came. Its summary has their numbers by
severity, which sum up to the total, the number of documents, and that of the documents without an
error. It has errors exactly if a diagnostic is one; and if there are only documents, exactly if
fewer are valid than were checked. -/
theorem run_counts (timestamp : String) (initial : List Diagnostic) (additions : List Addition) :
    let report := (ofDiagnostics timestamp initial).run additions
    let documents := additions.filterMap Addition.document?
    let number (severity : Severity) :=
      report.diagnostics.countP fun diagnostic => diagnostic.severity = severity
    ofDiagnostics timestamp [] = empty timestamp ∧
      report.diagnostics = initial ++ additions.flatMap Addition.diagnostics ∧
      report.summary =
        { total := report.diagnostics.length
          errors := number .error
          warnings := number .warn
          info := number .info
          documentsChecked := documents.length
          documentsValid := documents.countP fun diagnostics => IsClean diagnostics } ∧
      number .error + number .warn + number .info = report.summary.total ∧
      (report.hasErrors = true ↔
        ∃ diagnostic ∈ report.diagnostics, diagnostic.severity = .error) ∧
      ∀ documents : List (List Diagnostic),
        let report := (empty timestamp).run (documents.map Addition.document)
        report.hasErrors = true ↔
          report.summary.documentsValid < report.summary.documentsChecked := by
  intro report documents number
  have records := records_run timestamp initial additions
  -- What the report was begun with are no documents.
  have split : (initial.map Addition.diagnostic ++ additions).filterMap Addition.document? =
      documents := by
    simp [List.filterMap_map, Function.comp_def, Addition.document?, documents]
  have summary := records.summary_eq
  rw [split] at summary
  refine ⟨rfl, ?_, summary, ?_, ?_, fun documents => ?_⟩
  · rw [records.diagnostics, List.flatMap_append, List.flatMap_map]
    simp [Addition.diagnostics]
  · rw [records.tallied.total]
    exact countP_severities _
  · rw [records.tallied.hasErrors_iff]
    simp [IsClean, report]
  · intro filled
    have lists : filled.Lists documents :=
      ((records_empty timestamp).run (documents.map Addition.document)).lists
    rw [lists.hasErrors_iff, lists.valid_lt_iff]

end Report
end TypeForm
