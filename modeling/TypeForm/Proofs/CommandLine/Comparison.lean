import TypeForm.Proofs.CommandLine.Verdict

/-!
# Runs compared

Two runs of the program over the same schema, in which one thing differs. If it is the mode, the
verdicts are the same (`Validation.modes_agree`). If it is the documents, but these fail the same
checks and data values are redacted, then everything that can be seen of the runs is the same, up to
the time of day (`Validation.redacted_runs_agree`).
-/
namespace TypeForm

section Timestamp

variable (other : String)

private theorem addDiagnostics_timestamp (report : Report) (diagnostics : List Diagnostic) :
    ({ report with timestamp := other } : Report).addDiagnostics diagnostics =
      { report.addDiagnostics diagnostics with timestamp := other } := by
  -- Adding one diagnostic does not look at the time, so the step holds by computation.
  induction diagnostics generalizing report with
  | nil => rfl
  | cons diagnostic rest ih => exact ih (report.addDiagnostic diagnostic)

private theorem addDocument_timestamp (report : Report) (diagnostics : List Diagnostic) :
    ({ report with timestamp := other } : Report).addDocument diagnostics =
      { report.addDocument diagnostics with timestamp := other } :=
  addDiagnostics_timestamp other
    { report with
      summary := report.summary.countDocument
        (diagnostics.all fun diagnostic => diagnostic.severity != .error) } diagnostics

/-- The time of day has no say in a report but its own field. -/
theorem Run.reportOn_timestamp (now : String) (assessed : List (String × List Diagnostic)) :
    reportOn other assessed = { reportOn now assessed with timestamp := other } := by
  suffices step : ∀ report : Report,
      assessed.foldl (fun report document => report.addDocument document.2)
          { report with timestamp := other } =
        { assessed.foldl (fun report document => report.addDocument document.2) report with
          timestamp := other } from step (.empty now)
  induction assessed with
  | nil => intro report; rfl
  | cons document rest ih =>
    intro report
    simp only [List.foldl_cons, addDocument_timestamp, ih]

theorem Run.timestamp_reportOn (now : String) (assessed : List (String × List Diagnostic)) :
    (reportOn now assessed).timestamp = now :=
  congrArg Report.timestamp (reportOn_timestamp now now assessed)

end Timestamp

namespace Validation

variable {World World' : Type}

/-- Runs over one schema have one validator, but for its configuration. -/
theorem validator_eq {run : Validation World} {other : Validation World'}
    (fields : run.fields = other.fields) (schema : run.schemaRead.1 = other.schemaRead.1) :
    other.validator = run.validator.withConfig other.config := by
  have built : Run.buildValidator run.config run.schema run.fields run.schemaRead.1 =
      .ok run.validator := run.compiles
  -- The schema of the one run, built under the configuration of the other.
  have again := Run.buildValidator_withConfig built other.config other.schema
  rw [fields, schema] at again
  have builds : Run.buildValidator other.config other.schema other.fields other.schemaRead.1 =
      .ok other.validator := other.compiles
  exact Except.ok.inj (builds.symm.trans again)

theorem exit_of_not_written {run : Validation World} (failed : run.writing.1 ≠ .ok ()) :
    run.ending.1.exit = 1 := by
  rw [ending_eq]
  cases answer : run.writing.1 with
  | error => rfl
  | ok => exact absurd answer failed

/-- Runs over the same schema and the same documents, of which both can write their reports, if
these are to be written, or neither can. -/
structure SameTask (run : Validation World) (other : Validation World') : Prop where
  fields : run.fields = other.fields
  schema : run.schemaRead.1 = other.schemaRead.1
  contents : run.contents = other.contents
  written : run.writing.1 = .ok () ↔ other.writing.1 = .ok ()

/-- Documents in which something is found in one mode are those in which something is in the other. -/
theorem isClean_own {run : Validation World} {other : Validation World'}
    (valid : other.validator = run.validator.withConfig other.config)
    (overrides : run.config.overrides = other.config.overrides)
    (document : String × Except FileError String) :
    IsClean (run.own document) ↔ IsClean (other.own document) := by
  obtain ⟨entries, holds⟩ := run.exists_holds
  have others : other.validator.Holds entries := valid ▸ holds.withConfig other.config
  rw [run.own_eq holds, other.own_eq others]
  apply Run.isClean_findings
  rw [Run.buildValidator_config run.compiles, Run.buildValidator_config other.compiles, overrides]

/-- Where the same documents are clean, the counts of documents and the exit codes are the same. -/
theorem SameTask.verdict_eq {run : Validation World} {other : Validation World'}
    (same : run.SameTask other)
    (clean : ∀ document ∈ run.contents, IsClean (run.own document) ↔ IsClean (other.own document)) :
    run.ending.1.exit = other.ending.1.exit ∧
      run.report.summary.documentsChecked = other.report.summary.documentsChecked ∧
      run.report.summary.documentsValid = other.report.summary.documentsValid ∧
      run.report.hasErrors = other.report.hasErrors := by
  have lists := run.report_lists
  have others := other.report_lists
  rw [← same.contents] at others
  have errors : run.report.hasErrors = other.report.hasErrors := by
    rw [Bool.eq_iff_iff, lists.hasErrors_iff, others.hasErrors_iff]
    simp only [List.mem_map, exists_exists_and_eq_and]
    exact exists_congr fun document => and_congr_right fun member => not_congr (clean document member)
  refine ⟨?_, ?_, ?_, errors⟩
  · -- A report that cannot be written fails both runs.
    by_cases written : run.writing.1 = .ok ()
    · rw [run.ending_of_written written, other.ending_of_written (same.written.mp written)]
      simp only [Run.reportOutcome, errors]
    · rw [exit_of_not_written written, exit_of_not_written fun wrote => written (same.written.mpr wrote)]
  · rw [lists.checked, others.checked, List.length_map, List.length_map]
  · rw [lists.valid, others.valid, List.countP_map, List.countP_map]
    exact List.countP_congr fun document member => by simpa using clean document member

/-- What is reported of a document in the two modes is all failures and the first. A schema
compiles in both or in neither, and runs in the two modes over the same schema and documents come to
the same verdict. -/
theorem modes_agree (config : Config) :
    (∀ (submissions : List Submission) (document : Data), ∃ failures,
      let all := ((Session.start { config with allErrors := true }).run submissions).1.finish
      let first := ((Session.start { config with allErrors := false }).run submissions).1.finish
      all.validate document = .ok failures ∧ first.validate document = .ok (failures.take 1) ∧
        all.isValid document = .ok failures.isEmpty ∧
        first.isValid document = .ok failures.isEmpty) ∧
    (∀ schema fields content,
      (∃ validator, Run.buildValidator { config with allErrors := true } schema fields content =
          .ok validator) ↔
        ∃ validator, Run.buildValidator { config with allErrors := false } schema fields content =
          .ok validator) ∧
    ∀ {World World' : Type} (all : Validation World) (first : Validation World'),
      all.config = { config with allErrors := true } →
      first.config = { config with allErrors := false } → all.SameTask first →
        all.ending.1.exit = first.ending.1.exit ∧
        all.report.summary.documentsChecked = first.report.summary.documentsChecked ∧
        all.report.summary.documentsValid = first.report.summary.documentsValid ∧
        all.report.hasErrors = first.report.hasErrors := by
  refine ⟨fun submissions document => ?_, fun schema fields content => ?_, ?_⟩
  · obtain ⟨failures, answers⟩ := Validator.validate_modes config submissions document
    exact ⟨failures, (answers true).1, (answers false).1, (answers true).2, (answers false).2⟩
  · constructor
    · rintro ⟨validator, built⟩
      exact ⟨_, Run.buildValidator_withConfig built _ schema⟩
    · rintro ⟨validator, built⟩
      exact ⟨_, Run.buildValidator_withConfig built _ schema⟩
  · intro World World' all first allConfig firstConfig same
    have valid := validator_eq same.fields same.schema
    have overrides : all.config.overrides = first.config.overrides := by
      rw [allConfig, firstConfig]
    exact same.verdict_eq fun document _ => isClean_own valid overrides document

/-- A run over a document with two faults, with the given lines of configuration. -/
def faulty? (settings : String) : Option (Validation Disk) :=
  of? (.ofDisk "2024-05-01T00:00:00+00:00") false ["validate", "s.json", "d.json", "--fields"]
    (.ofFiles
      [("jtdc.toml", .text settings),
        ("s.json", .text "\x7b\"a\": \x7b\"type\": \"int8\"\x7d, \"b\": \x7b\"type\": \"string\"\x7d\x7d"),
        ("d.json", .text "\x7b\"a\": 128, \"b\": 1\x7d")])

/-- The run that lists both faults fails like the one that lists the first. -/
theorem modes_agree_faulty :
    let all := (faulty? "").get (by decide +kernel)
    let first := (faulty? "all_errors = false\n").get (by decide +kernel)
    all.config = { Config.default with allErrors := true } ∧
      first.config = { Config.default with allErrors := false } ∧ all.SameTask first ∧
      all.ending.1.exit = first.ending.1.exit ∧
      all.report.summary.total = 2 ∧ first.report.summary.total = 1 := by
  intro all first
  obtain ⟨thorough, hasty, fields, schema, contents, written, totals⟩ :
      all.config = { Config.default with allErrors := true } ∧
        first.config = { Config.default with allErrors := false } ∧ all.fields = first.fields ∧
        all.schemaRead.1 = first.schemaRead.1 ∧ all.contents = first.contents ∧
        (all.writing.1 = .ok () ↔ first.writing.1 = .ok ()) ∧
        all.report.summary.total = 2 ∧ first.report.summary.total = 1 := by
    decide +kernel
  have same : all.SameTask first := ⟨fields, schema, contents, written⟩
  have agree := (modes_agree .default).2.2 all first thorough hasty same
  exact ⟨thorough, hasty, same, agree.1, totals⟩

/-! ### Redaction -/

/-- Runs that were started alike and whose documents are JSON under the same names and fail the same
checks one by one. -/
structure Indistinct (run : Validation World) (other : Validation World') : Prop where
  colours : run.colours = other.colours
  arguments : run.arguments = other.arguments
  config : run.config = other.config
  notice : run.notice = other.notice
  schema : run.schemaRead.1 = other.schemaRead.1
  documents : List.Forall₂
    (fun left right => left.1 = right.1 ∧
      ∃ first second, Run.jsonOf left.1 left.2 = .ok first ∧
        Run.jsonOf right.1 right.2 = .ok second ∧
        run.validator.FailAlike (Data.ofJson first) (Data.ofJson second))
    run.contents other.contents
  written : run.writing.1 = other.writing.1

section Indistinct

variable {run : Validation World} {other : Validation World'}

/-- The same arguments ask for the same. -/
theorem Indistinct.asked (alike : run.Indistinct other) :
    run.verbose = other.verbose ∧ run.fields = other.fields ∧ run.output = other.output := by
  have asked := run.asked
  rw [alike.arguments, other.asked] at asked
  simp only [Option.some.injEq, Request.run.injEq, Invocation.mk.injEq, Command.validate.injEq]
    at asked
  obtain ⟨-, verbose, -, -, fields, output⟩ := asked
  exact ⟨verbose.symm, fields.symm, output.symm⟩

theorem Indistinct.validator (alike : run.Indistinct other) : other.validator = run.validator := by
  rw [validator_eq alike.asked.2.1 alike.schema, ← alike.config,
    ← Run.buildValidator_config run.compiles]
  rfl

/-- The documents of the runs are reported on alike. -/
theorem Indistinct.assessed (alike : run.Indistinct other) (redact : run.config.redact = true) :
    run.contents.map (fun document => (document.1, run.own document)) =
      other.contents.map fun document => (document.1, other.own document) := by
  obtain ⟨entries, holds⟩ := run.exists_holds
  have others : other.validator.Holds entries := alike.validator ▸ holds
  rw [← Run.buildValidator_config run.compiles] at redact
  simp only [run.own_eq holds, other.own_eq others, alike.validator]
  have documents := alike.documents
  generalize run.contents = lefts, other.contents = rights at documents
  -- The documents are paired one by one, each pair under one name.
  induction documents with
  | nil => rfl
  | @cons left right _ _ related _ ih =>
    obtain ⟨name, first, second, readLeft, readRight, fails⟩ := related
    rw [← name] at readRight
    have found := Run.findings_of_failAlike holds redact readLeft readRight fails
    rw [List.map_cons, List.map_cons, ih, found, name]

theorem Indistinct.report (alike : run.Indistinct other) (redact : run.config.redact = true) :
    other.report = { run.report with timestamp := other.report.timestamp } := by
  have dated : other.report.timestamp = other.clock.1 := Run.timestamp_reportOn _ _
  rw [dated, Validation.report, Validation.report, alike.assessed redact]
  exact Run.reportOn_timestamp _ _ _

theorem Indistinct.messages (alike : run.Indistinct other) (redact : run.config.redact = true) :
    run.messages = other.messages := by
  simp only [Validation.messages, alike.assessed redact, alike.asked.1, alike.notice, alike.colours,
    alike.validator]

theorem Indistinct.savedNote (alike : run.Indistinct other) : run.savedNote = other.savedNote := by
  obtain ⟨verbose, -, output⟩ := alike.asked
  simp only [Validation.savedNote, verbose, output, alike.colours]

end Indistinct

/-- With redaction, documents that fail the same checks of a validator have the same diagnostics. So
runs over such documents end alike, and show and write the same report up to the time of day. -/
theorem redacted_runs_agree :
    (∀ (config : Config) (submissions : List Submission) (left right : Data),
      config.redact = true →
      ((Session.start config).run submissions).1.finish.FailAlike left right →
      let validator := ((Session.start config).run submissions).1.finish
      ∃ failures, validator.validate left = .ok failures ∧ validator.validate right = .ok failures ∧
        validator.diagnostics failures left = validator.diagnostics failures right) ∧
    ∀ {World World' : Type} (run : Validation World) (other : Validation World'),
      run.config.redact = true → run.Indistinct other →
        run.ending.1.exit = other.ending.1.exit ∧ run.ending.1.err = other.ending.1.err ∧
        other.report = { run.report with timestamp := other.report.timestamp } ∧
        (run.writing.1 = .ok () →
          run.ending.1.out = Display.report run.colours run.report ∧
          other.ending.1.out =
            Display.report run.colours
              { run.report with timestamp := other.report.timestamp }) := by
  refine ⟨fun config submissions left right redact alike => ?_, ?_⟩
  · obtain ⟨entries, holds, -⟩ := Session.holds_run config submissions
    refine holds.finish.diagnostics_of_failAlike ?_ alike
    exact (congrArg Config.redact (Session.run_config (Session.start config) submissions)).trans redact
  · intro World World' run other redact alike
    have report := alike.report redact
    have errors : run.report.hasErrors = other.report.hasErrors := by rw [report]; rfl
    have messages := alike.messages redact
    have note := alike.savedNote
    -- Both runs can write their reports, or both stop with the same message.
    rw [run.ending_eq, other.ending_eq, ← alike.written]
    cases run.writing.1 with
    | error error => exact ⟨rfl, by simp only [Run.failed, messages], report, by simp⟩
    | ok =>
      simp only [Run.reportOutcome, errors, messages, note, ← alike.colours]
      exact ⟨trivial, trivial, report, fun _ => ⟨trivial, by rw [← report]⟩⟩

/-- A run over a document with the given text, in which data values are redacted. -/
def redacted? (now text : String) : Option (Validation Disk) :=
  of? (.ofDisk now) false ["validate", "s.json", "d.json", "--fields", "-v"]
    (.ofFiles
      [("jtdc.toml", .text "redact_sensitive_data = true\n"),
        ("s.json", .text "\x7b\"a\": \x7b\"type\": \"int8\"\x7d, \"b\": \x7b\"type\": \"string\"\x7d\x7d"),
        ("d.json", .text text)])

/-- A number that is too large cannot be told from a list, nor a string from a missing one. -/
theorem redacted_runs_agree_hidden :
    let run := (redacted? "2024-05-01T00:00:00+00:00" "\x7b\"a\": 128, \"b\": \"\"\x7d").get
      (by decide +kernel)
    let other := (redacted? "2025-05-01T00:00:00+00:00" "\x7b\"a\": [2]\x7d").get
      (by decide +kernel)
    run.config.redact = true ∧ run.Indistinct other ∧
      run.ending.1.err = other.ending.1.err ∧
      run.report.diagnostics.map (·.actual) = [some "<redacted>"] := by
  intro run other
  obtain ⟨redact, colours, arguments, config, notice, schema, read, others, written, shown⟩ :
      run.config.redact = true ∧ run.colours = other.colours ∧ run.arguments = other.arguments ∧
        run.config = other.config ∧ run.notice = other.notice ∧
        run.schemaRead.1 = other.schemaRead.1 ∧
        run.contents = [("d.json", .ok "\x7b\"a\": 128, \"b\": \"\"\x7d")] ∧
        other.contents = [("d.json", .ok "\x7b\"a\": [2]\x7d")] ∧
        run.writing.1 = other.writing.1 ∧
        run.report.diagnostics.map (·.actual) = [some "<redacted>"] := by
    decide +kernel
  have fails : run.validator.FailAlike
      (Data.ofJson (.object [("a", .number (.int 128)), ("b", .string "")]))
      (Data.ofJson (.object [("a", .array [.number (.int 2)])])) := by
    unfold Validator.FailAlike
    decide +kernel
  have alike : run.Indistinct other :=
    { colours, arguments, config, notice, schema, written
      documents := by
        rw [read, others]
        exact .cons ⟨rfl, _, _, by decide +kernel, by decide +kernel, fails⟩ .nil }
  exact ⟨redact, alike, (redacted_runs_agree.2 run other redact alike).2.1, shown⟩

end Validation
end TypeForm
