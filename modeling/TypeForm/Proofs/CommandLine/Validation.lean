import TypeForm.CommandLine.Disk
import TypeForm.Proofs.CommandLine.Assessment

/-!
# Runs that validate

A `Validation` is a run of the program whose arguments ask it to validate documents, whose
configuration loads and whose schema compiles. Its host may give any answer to any question, and
each question may change the world that the next answer comes from: files may appear, change and
vanish while the run lasts.
-/
namespace TypeForm

/-- A run of the program that validates documents, as far as the schema. -/
structure Validation (World : Type) where
  host : Host (StateM World)
  colours : Bool
  arguments : List String
  /-- The world in which the run starts. -/
  start : World
  configPath : Option String
  verbose : Bool
  schema : String
  documents : List String
  fields : Bool
  output : Option String
  asked : Arguments.parse? arguments =
    some (.run ⟨configPath, verbose, .validate schema documents fields output⟩)
  config : Config
  notice : String
  loads : ((Run.loadConfig host colours configPath verbose).run start).1 = .ok (config, notice)
  validator : Validator
  compiles : Run.buildValidator config schema fields
    ((host.read schema).run ((Run.loadConfig host colours configPath verbose).run start).2).1 =
      .ok validator

namespace Validation

variable {World : Type}

/-- The run that arguments start, if it is to validate documents and gets as far as the schema. -/
def of? (host : Host (StateM World)) (colours : Bool) (arguments : List String) (start : World) :
    Option (Validation World) :=
  match asked : Arguments.parse? arguments with
  | some (.run ⟨configPath, verbose, .validate schema documents fields output⟩) =>
    match loads : ((Run.loadConfig host colours configPath verbose).run start).1 with
    | .error _ => none
    | .ok (config, notice) =>
      match compiles : Run.buildValidator config schema fields ((host.read schema).run
          ((Run.loadConfig host colours configPath verbose).run start).2).1 with
      | .error _ => none
      | .ok validator =>
        some
          { host, colours, arguments, start, configPath, verbose, schema, documents, fields, output,
            asked, config, notice, loads, validator, compiles }
  | _ => none

variable (run : Validation World)

/-- What the schema file has, when the configuration is loaded. -/
def schemaRead : Except FileError String × World :=
  (run.host.read run.schema).run
    ((Run.loadConfig run.host run.colours run.configPath run.verbose).run run.start).2

/-- The time of day, when the schema is read. -/
def clock : String × World :=
  run.host.now.run run.schemaRead.2

/-- What the files of the documents have, one after the other. -/
def reading : List (String × Except FileError String) × World :=
  (Run.readAll run.host run.documents).run run.clock.2

/-- The documents with the contents of their files. -/
def contents : List (String × Except FileError String) :=
  run.reading.1

/-- The diagnostics of one document, if it can be assessed. -/
def own (document : String × Except FileError String) : List Diagnostic :=
  (Run.assess run.validator document.1 document.2).toOption.getD []

/-- The report on the documents. -/
def report : Report :=
  Run.reportOn run.clock.1 (run.contents.map fun document => (document.1, run.own document))

/-- What comes of writing the report, which is not written unless that is asked for. -/
def writing : Except FileError Unit × World :=
  match run.output with
  | none => (.ok (), run.reading.2)
  | some path => (run.host.write path run.report.text).run run.reading.2

/-- How the run ends. -/
def ending : Outcome × World :=
  (Run.program run.host run.colours run.arguments).run run.start

/-- What the run says besides its report, if that can be written. -/
def messages : String :=
  if run.verbose then
    run.notice ++ Run.progressText run.colours run.validator
      (run.contents.map fun document => (document.1, run.own document))
  else run.notice

/-- A talkative run says where it has put the report. -/
def savedNote : String :=
  match run.output with
  | some path =>
    if run.verbose then
      Display.styled run.colours Display.green "Report saved to:" ++ " " ++ path ++ "\n"
    else ""
  | none => ""

end Validation

/-! ### One document after the other -/

theorem run_bind {σ α β : Type} (first : StateM σ α) (next : α → StateM σ β) (state : σ) :
    (first >>= next).run state = (next (first.run state).1).run (first.run state).2 :=
  rfl

theorem Run.map_fst_readAll {World : Type} (host : Host (StateM World)) (paths : List String)
    (world : World) : ((readAll host paths).run world).1.map (·.1) = paths := by
  induction paths generalizing world with
  | nil => rfl
  | cons path rest ih => exact congrArg (path :: ·) (ih ((host.read path).run world).2)

/-- A validator is built exactly from a schema that can be read and compiles. -/
theorem Run.buildValidator_eq_ok_iff {config : Config} {schema : String} {fields : Bool}
    {content : Except FileError String} {validator : Validator} :
    buildValidator config schema fields content = .ok validator ↔
      ∃ text value, content = .ok text ∧ Json.parse text = .ok value ∧
        if fields then
          ∃ members, value.members? = some members ∧ compileFields config members = .ok validator
        else compile config value = .ok validator := by
  rcases jsonOf_cases schema content with ⟨trouble, read, unread⟩ | ⟨text, value, rfl, parsed, read⟩
  · constructor
    · simp [buildValidator, read, bind, Except.bind]
    · rintro ⟨text, value, same, parsed, -⟩
      exact absurd parsed (unread text value same)
  · -- The text has one value, so the existential is about that value.
    have once (p : Json → Prop) : (∃ text' value', Except.ok (ε := FileError) text = .ok text' ∧
        Json.parse text' = .ok value' ∧ p value') ↔ p value := by
      simp [parsed]
    rw [once]
    cases fields with
    | false =>
      cases compiled : compile config value <;>
        simp [buildValidator, read, bind, Except.bind, compiled]
    | true =>
      cases found : value.members? with
      | none => simp [buildValidator, read, bind, Except.bind, found]
      | some members =>
        cases compiled : compileFields config members <;>
          simp [buildValidator, read, bind, Except.bind, found, compiled]

/-- Under another configuration, and wherever it stands, a schema builds the same validator but for
its configuration. -/
theorem Run.buildValidator_withConfig {config : Config} {schema : String} {fields : Bool}
    {content : Except FileError String} {validator : Validator}
    (built : buildValidator config schema fields content = .ok validator) (other : Config)
    (place : String) :
    buildValidator other place fields content = .ok (validator.withConfig other) := by
  obtain ⟨text, value, same, parsed, compiled⟩ := buildValidator_eq_ok_iff.mp built
  refine buildValidator_eq_ok_iff.mpr ⟨text, value, same, parsed, ?_⟩
  cases fields with
  | false =>
    simp only [Bool.false_eq_true, if_false] at compiled ⊢
    rw [compile_withConfig other config, compiled]
    rfl
  | true =>
    simp only [if_true] at compiled ⊢
    obtain ⟨members, found, compiled⟩ := compiled
    refine ⟨members, found, ?_⟩
    rw [compileFields_withConfig other config, compiled]
    rfl

theorem Run.buildValidator_config {config : Config} {schema : String} {fields : Bool}
    {content : Except FileError String} {validator : Validator}
    (built : buildValidator config schema fields content = .ok validator) :
    validator.config = config := by
  -- Built again under its own configuration, the validator is the one that carries it.
  have again := buildValidator_withConfig built config schema
  rw [built] at again
  exact congrArg Validator.config (Except.ok.inj again)

theorem Run.buildValidator_holds {config : Config} {schema : String} {fields : Bool}
    {content : Except FileError String} {validator : Validator}
    (built : buildValidator config schema fields content = .ok validator) :
    ∃ entries, validator.Holds entries := by
  obtain ⟨text, value, -, -, compiled⟩ := buildValidator_eq_ok_iff.mp built
  cases fields with
  | false => exact compile_holds compiled
  | true =>
    obtain ⟨members, -, compiled⟩ := compiled
    exact compileFields_holds compiled

namespace Validation

variable {World : Type} (run : Validation World)

theorem exists_holds : ∃ entries, run.validator.Holds entries :=
  Run.buildValidator_holds run.compiles

theorem own_eq {entries : List Entry} (holds : run.validator.Holds entries)
    (document : String × Except FileError String) :
    run.own document =
      Run.findings run.validator.config (entries.map Entry.toDemand) document.1 document.2 := by
  rw [own, Run.assess_eq holds]
  rfl

theorem assess_own (document : String × Except FileError String) :
    Run.assess run.validator document.1 document.2 = .ok (run.own document) := by
  obtain ⟨entries, holds⟩ := run.exists_holds
  rw [run.own_eq holds, Run.assess_eq holds]

theorem assessAll_contents :
    Run.assessAll run.validator run.contents =
      .ok (run.contents.map fun document => (document.1, run.own document)) := by
  obtain ⟨entries, holds⟩ := run.exists_holds
  simp only [run.own_eq holds, Run.assessAll_eq holds]

/-- The run ends with the report, or with the reason why it cannot be written. -/
theorem ending_eq :
    run.ending = match run.writing.1 with
      | .error error => (Run.failed run.messages (.plain error.message), run.writing.2)
      | .ok () =>
        (Run.reportOutcome run.colours (run.messages ++ run.savedNote) run.report,
          run.writing.2) := by
  -- The answers of the host, in the order in which it is asked.
  have schema : (run.host.read run.schema).run ((Run.loadConfig run.host run.colours
      run.configPath run.verbose).run run.start).2 = (run.schemaRead.1, run.schemaRead.2) := rfl
  have time : run.host.now.run run.schemaRead.2 = (run.clock.1, run.clock.2) := rfl
  have documents : (Run.readAll run.host run.documents).run run.clock.2 =
      (run.contents, run.reading.2) := rfl
  -- What is made of them.
  have builds : Run.buildValidator run.config run.schema run.fields run.schemaRead.1 =
      .ok run.validator := run.compiles
  have report : Run.reportOn run.clock.1
      (run.contents.map fun document => (document.1, run.own document)) = run.report := rfl
  have messages : (if run.verbose = true then run.notice ++ Run.progressText run.colours
      run.validator (run.contents.map fun document => (document.1, run.own document))
      else run.notice) = run.messages := rfl
  simp only [ending, Run.program, run.asked, Run.invoke, run_bind, run.loads, Run.validateCommand,
    schema, builds, time, documents, run.assessAll_contents, report, messages]
  cases asked : run.output with
  | none => simp [writing, asked, savedNote]; rfl
  | some path =>
    simp only [run_bind, writing, asked, savedNote]
    cases ((run.host.write path run.report.text).run run.reading.2).1 <;> rfl

end Validation
end TypeForm
