import TypeForm.Proofs.CommandLine.Validation

/-!
# What a run says about its documents

The report of a run that validates, its counts and the exit code are made by different steps. They
agree with each other and with the documents (`Validation.accounts_of_written`), and which severity a diagnostic
has depends on its code and on the configuration (`Validation.severity_of_report`).
-/
namespace TypeForm

theorem Run.reportOn_lists (now : String) (assessed : List (String × List Diagnostic)) :
    (reportOn now assessed).Lists (assessed.map (·.2)) := by
  -- The report that is filled lists the documents before, so that it lists one more after a step.
  suffices step : ∀ (report : Report) (before : List (List Diagnostic)), report.Lists before →
      (assessed.foldl (fun report document => report.addDocument document.2) report).Lists
        (before ++ assessed.map (·.2)) from step _ [] (Report.lists_empty now)
  induction assessed with
  | nil => intro report before lists; simpa using lists
  | cons document rest ih =>
    intro report before lists
    simpa using ih _ _ (lists.addDocument document.2)

namespace Validation

variable {World : Type}

/-- The report of a run is that of its documents, and the exit code is that of the report. -/
structure Accounts (run : Validation World) : Prop where
  shown : run.ending.1.out = Display.report run.colours run.report
  saved : ∀ path, run.output = some path →
    run.ending.2 = ((run.host.write path run.report.text).run run.reading.2).2
  paths : run.contents.map (·.1) = run.documents
  /-- Nothing but the validator and the document has a say in its diagnostics. -/
  assessed : ∀ document ∈ run.contents,
    Run.assess run.validator document.1 document.2 = .ok (run.own document)
  diagnostics : run.report.diagnostics = run.contents.flatMap run.own
  unreadable : ∀ document ∈ run.contents, Unreadable document.2 →
    ∃ diagnostic, run.own document = [diagnostic] ∧ diagnostic.code = .inputParseError ∧
      ∃ location, diagnostic.location = some location ∧ location.file = some document.1
  checked : run.report.summary.documentsChecked = run.documents.length
  counted : run.report.summary.documentsValid < run.report.summary.documentsChecked ↔
    ∃ document ∈ run.contents, ∃ diagnostic ∈ run.own document, diagnostic.severity = .error
  failed : run.ending.1.exit = 1 ↔
    ∃ document ∈ run.contents, ∃ diagnostic ∈ run.own document, diagnostic.severity = .error
  passed : run.ending.1.exit = 0 ↔
    ¬∃ document ∈ run.contents, ∃ diagnostic ∈ run.own document, diagnostic.severity = .error

variable (run : Validation World)

/-- The report lists the documents of the run in their order. -/
theorem report_lists : run.report.Lists (run.contents.map run.own) := by
  have lists := Run.reportOn_lists run.clock.1
    (run.contents.map fun document => (document.1, run.own document))
  rwa [List.map_map] at lists

theorem exists_unclean_iff :
    (∃ diagnostics ∈ run.contents.map run.own, ¬IsClean diagnostics) ↔
      ∃ document ∈ run.contents, ∃ diagnostic ∈ run.own document,
        diagnostic.severity = .error := by
  simp [IsClean]

theorem ending_of_written (written : run.writing.1 = .ok ()) :
    run.ending =
      (Run.reportOutcome run.colours (run.messages ++ run.savedNote) run.report,
        run.writing.2) := by
  rw [ending_eq, written]

theorem own_of_unreadable {document : String × Except FileError String}
    (unread : Unreadable document.2) :
    ∃ trouble, run.own document = [Run.unreadable document.1 trouble] := by
  obtain ⟨entries, holds⟩ := run.exists_holds
  rw [run.own_eq holds]
  exact Run.findings_of_unreadable _ _ unread

/-- Every run whose report can be written, if it is to be, shows a report that agrees with its
documents, and an exit code that agrees with the report. -/
theorem accounts_of_written (written : run.writing.1 = .ok ()) : run.Accounts := by
  have lists := run.report_lists
  have paths : run.contents.map (·.1) = run.documents :=
    Run.map_fst_readAll run.host run.documents run.clock.2
  have ending := run.ending_of_written written
  -- The exit code asks the count of errors, the count of valid documents asks each document.
  have exit : run.ending.1.exit = if run.report.hasErrors then 1 else 0 := by
    rw [ending, Run.reportOutcome]
  have errors : run.report.hasErrors = true ↔ _ :=
    lists.hasErrors_iff.trans run.exists_unclean_iff
  refine
    { shown := by rw [ending, Run.reportOutcome]
      saved := fun path asked => by rw [ending, writing, asked]
      paths
      assessed := fun document _ => run.assess_own document
      diagnostics := lists.diagnostics.trans List.flatMap_def.symm
      unreadable := fun document _ unread => ?_
      checked := by rw [lists.checked, List.length_map, ← paths, List.length_map]
      counted := lists.valid_lt_iff.trans run.exists_unclean_iff
      failed := by rw [exit, ← errors]; cases run.report.hasErrors <;> simp
      passed := by rw [exit, ← errors]; cases run.report.hasErrors <;> simp }
  obtain ⟨trouble, own⟩ := run.own_of_unreadable unread
  exact ⟨_, own, rfl, _, rfl, rfl⟩

/-- A run over four documents with type mismatches as warnings: a good one, one that is no JSON, one
that is no string, and one that is missing. -/
def mixed : Validation Disk :=
  (of? (.ofDisk "2024-05-01T00:00:00+00:00") false
    ["validate", "s.json", "good.json", "bad.json", "number.json", "none.json", "-o", "r.json"]
    (.ofFiles
      [("jtdc.toml", .text "[severity.overrides]\nVALIDATION_TYPE_MISMATCH = \"warn\"\n"),
        ("s.json", .text "\x7b\"type\": \"string\"\x7d"), ("good.json", .text "\"\""),
        ("bad.json", .text "\x7b"), ("number.json", .text "7")])).get (by decide +kernel)

/-- Two documents fail the run, and the warning is no error. -/
theorem accounts_of_written_mixed :
    mixed.writing.1 = .ok () ∧ mixed.Accounts ∧ mixed.ending.1.exit = 1 ∧
      mixed.report.summary = ⟨3, 2, 1, 0, 4, 2⟩ ∧
      mixed.report.diagnostics.map (·.code) =
        [.inputParseError, .validationTypeMismatch, .inputParseError] := by
  have written : mixed.writing.1 = .ok () := by decide +kernel
  exact ⟨written, accounts_of_written mixed written, by decide +kernel⟩

/-! ### Severities -/

theorem mem_report_iff {diagnostic : Diagnostic} :
    diagnostic ∈ run.report.diagnostics ↔
      ∃ document ∈ run.contents, diagnostic ∈ run.own document := by
  rw [run.report_lists.diagnostics, ← List.flatMap_def, List.mem_flatMap]

theorem severity_of_mem_own {document : String × Except FileError String}
    {diagnostic : Diagnostic} (member : diagnostic ∈ run.own document) :
    (diagnostic.code = .validationTypeMismatch ∧
        diagnostic.severity = run.config.overrides.severity .validationTypeMismatch .error) ∨
      (diagnostic.code = .inputParseError ∧ diagnostic.severity = .error ∧
        Unreadable document.2) := by
  obtain ⟨entries, holds⟩ := run.exists_holds
  rw [run.own_eq holds] at member
  rw [← Run.buildValidator_config run.compiles]
  exact Run.severity_of_mem_findings member

/-- The severity of a diagnostic in a report is the one configured for its code, unless it says that
a document cannot be read: then it is an error. So each has its configured severity exactly if that
of unreadable documents is an error, or every document can be read. -/
theorem severity_of_report :
    (∀ diagnostic ∈ run.report.diagnostics, diagnostic.severity =
        if diagnostic.code = .inputParseError then .error
        else run.config.overrides.severity diagnostic.code .error) ∧
      ((∀ diagnostic ∈ run.report.diagnostics,
          diagnostic.severity = run.config.overrides.severity diagnostic.code .error) ↔
        run.config.overrides.severity .inputParseError .error = .error ∨
          ∀ document ∈ run.contents, ¬Unreadable document.2) := by
  refine ⟨?_, ?_, ?_⟩
  · intro diagnostic member
    obtain ⟨document, -, own⟩ := run.mem_report_iff.mp member
    rcases run.severity_of_mem_own own with ⟨code, severity⟩ | ⟨code, severity, -⟩
    · simp [code, severity]
    · simp [code, severity]
  · intro configured
    -- A document that cannot be read has a diagnostic that is an error whatever is configured.
    refine Classical.or_iff_not_imp_right.mpr fun some => ?_
    simp only [not_forall, not_not] at some
    obtain ⟨document, member, unread⟩ := some
    obtain ⟨trouble, own⟩ := run.own_of_unreadable unread
    exact (configured (Run.unreadable document.1 trouble)
      (run.mem_report_iff.mpr ⟨document, member, by simp [own]⟩)).symm
  · intro exempt diagnostic member
    obtain ⟨document, inside, own⟩ := run.mem_report_iff.mp member
    rcases run.severity_of_mem_own own with ⟨code, severity⟩ | ⟨code, severity, unread⟩
    · rw [code, severity]
    · rw [code, severity]
      exact (exempt.resolve_right fun readable => readable document inside unread).symm

/-- A run in which a document is missing, although that is configured to be a warning. -/
def missing : Validation Disk :=
  (of? (.ofDisk "2024-05-01T00:00:00+00:00") false ["validate", "s.json", "d.json"]
    (.ofFiles
      [("jtdc.toml", .text "[severity.overrides]\nINPUT_PARSE_ERROR = \"warn\"\n"),
        ("s.json", .text "\x7b\"type\": \"string\"\x7d")])).get (by decide +kernel)

theorem missing_not_configured :
    ¬∀ diagnostic ∈ missing.report.diagnostics,
      diagnostic.severity = missing.config.overrides.severity diagnostic.code .error := by
  decide +kernel

end Validation
end TypeForm
