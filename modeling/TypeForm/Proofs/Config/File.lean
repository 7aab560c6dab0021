import Mathlib.Data.List.Nodup
import TypeForm.Config.File
import TypeForm.Proofs.Ascending
import TypeForm.Proofs.CommandLine.Disk
import TypeForm.Proofs.Toml.Document

/-!
# Configurations are read back

## Main result

`Config.load_save`: a configuration that is saved to a file is loaded from it again, whatever the
names of its overrides are and in whatever order they are listed.

## Proof strategy

The lines of the file hold statements (`Config.spells_fileLinesIn`), and these build a table of
which every field is read back (`Config.ofToml?_fileTable`). With each of their lines the table of
overrides has one more, as their names differ (`Config.step_override`).
-/
namespace TypeForm

theorem Severity.ofName?_name (severity : Severity) : ofName? severity.name = some severity := by
  cases severity <;> rfl

namespace Config

open Toml Toml.Read

/-! ### Lines -/

theorem holds_bool (b : Bool) {front name : String} (spelled : front = keyText name ++ " = ") :
    Holds (front ++ boolText b) (.assignment [] name (.bool b)) := by
  have denotes : Denotes (boolText b) (.bool b) := by
    cases b with
    | false => exact ⟨⟨_, _, rfl, by decide⟩, fun rest => rfl⟩
    | true => exact ⟨⟨_, _, rfl, by decide⟩, fun rest => rfl⟩
  rw [spelled]
  exact holds_assignment name denotes

theorem holds_overrideLine (entry : String × Severity) :
    Holds (overrideLine entry) (.assignment [] entry.1 (.string entry.2.name)) := by
  have denotes : Denotes ("\"" ++ entry.2.name ++ "\"") (.string entry.2.name) := by
    cases entry.2 with
    | info => exact ⟨⟨_, _, rfl, by decide⟩, fun rest => rfl⟩
    | warn => exact ⟨⟨_, _, rfl, by decide⟩, fun rest => rfl⟩
    | error => exact ⟨⟨_, _, rfl, by decide⟩, fun rest => rfl⟩
  have holds := holds_assignment entry.1 denotes
  have quote : " = \"" = " = " ++ "\"" := rfl
  have line : overrideLine entry = keyText entry.1 ++ " = " ++ ("\"" ++ entry.2.name ++ "\"") := by
    rw [overrideLine, quote]
    simp only [String.append_assoc]
  rwa [line]

/-- What an override sets in its table. -/
def overrideEntry (entry : String × Severity) : String × Toml :=
  (entry.1, .string entry.2.name)

/-- The statements in the file of a configuration. -/
def fileStatements (config : Config) (listed : List (String × Severity)) : List Statement :=
  [.assignment [] "all_errors" (.bool config.allErrors),
    .assignment [] "redact_sensitive_data" (.bool config.redact),
    .table ["severity"] "overrides"]
  ++ (listed.map overrideEntry).map (fun entry => .assignment [] entry.1 entry.2)
  ++ [.table [] "code", .assignment [] "lines" (.bool config.lines)]

theorem spells_fileLinesIn (config : Config) (listed : List (String × Severity)) :
    Spells (config.fileLinesIn listed) (config.fileStatements listed) := by
  have overrides : Spells (listed.map overrideLine)
      ((listed.map overrideEntry).map fun entry => .assignment [] entry.1 entry.2) := by
    induction listed with
    | nil => exact .done
    | cons entry rest ih => exact .line (holds_overrideLine entry) ih
  have severity : Holds "[severity.overrides]" (.table ["severity"] "overrides") :=
    ⟨⟨_, _, rfl, by decide⟩, fun rest => rfl⟩
  have code : Holds "[code]" (.table [] "code") :=
    ⟨⟨_, _, rfl, by decide⟩, fun rest => rfl⟩
  have allErrors : Holds ("all_errors = " ++ boolText config.allErrors) _ :=
    holds_bool config.allErrors (show _ = keyText "all_errors" ++ " = " by decide)
  have redact : Holds ("redact_sensitive_data = " ++ boolText config.redact) _ :=
    holds_bool config.redact (show _ = keyText "redact_sensitive_data" ++ " = " by decide)
  have lines : Holds ("lines = " ++ boolText config.lines) _ :=
    holds_bool config.lines (show _ = keyText "lines" ++ " = " by decide)
  have front := Spells.line allErrors (.line redact (.blank (.line severity .done)))
  have back := Spells.blank (.line code (.line lines .done))
  exact (front.append overrides).append back

/-! ### The table -/

/-- A document of which the table of overrides is open. -/
def inOverrides (config : Config) (overrides : List (String × Toml)) : Progress :=
  ⟨⟨.header, [("all_errors", .value (.bool config.allErrors)),
      ("redact_sensitive_data", .value (.bool config.redact)),
      ("severity", .table .implied [("overrides", .table .header (Entries.ofValues overrides))])]⟩,
    ["severity", "overrides"]⟩

theorem step_override (config : Config) {overrides : List (String × Toml)} {entry : String × Toml}
    (new : entry.1 ∉ overrides.map (·.1)) :
    (inOverrides config overrides).step (.assignment [] entry.1 entry.2) =
      some (inOverrides config (overrides ++ [entry])) := by
  have fresh : entry.1 ∉ (Entries.ofValues overrides).map (·.1) := by
    simpa [Entries.ofValues] using new
  -- The tables around that of the overrides are there already, and only lead to it.
  have added : assign [] entry.1 entry.2 ⟨.header, .ofValues overrides⟩ =
      some ⟨.header, .ofValues (overrides ++ [entry])⟩ := by
    rw [assign_new entry.2 (by simp) fresh]
    simp [Entries.ofValues]
  simp [inOverrides, Progress.step, within, Entries.node?, Entries.put, added]

theorem foldlM_overrides (config : Config) {overrides more : List (String × Toml)}
    (distinct : ((overrides ++ more).map (·.1)).Nodup) :
    (more.map fun entry => Statement.assignment [] entry.1 entry.2).foldlM Progress.step
      (inOverrides config overrides) = some (inOverrides config (overrides ++ more)) := by
  induction more generalizing overrides with
  | nil =>
    rw [List.append_nil]
    rfl
  | cons entry rest ih =>
    have new : entry.1 ∉ overrides.map (·.1) := by
      rw [List.map_append, List.map_cons, List.nodup_middle] at distinct
      have outside := (List.nodup_cons.mp distinct).1
      exact fun inside => outside (List.mem_append_left _ inside)
    have others : ((overrides ++ [entry] ++ rest).map (·.1)).Nodup := by
      rwa [List.append_assoc, List.singleton_append]
    have read := ih others
    rw [List.append_assoc, List.singleton_append] at read
    rw [List.map_cons, List.foldlM_cons, step_override config new]
    exact read

/-- The table in the file of a configuration. -/
def fileTable (config : Config) (listed : List (String × Severity)) : Toml :=
  .table [("all_errors", .bool config.allErrors), ("redact_sensitive_data", .bool config.redact),
    ("severity", .table [("overrides", .table (listed.map overrideEntry))]),
    ("code", .table [("lines", .bool config.lines)])]

theorem build?_fileStatements (config : Config) {listed : List (String × Severity)}
    (distinct : (listed.map (·.1)).Nodup) :
    build? (config.fileStatements listed) = some (config.fileTable listed) := by
  have names : ((([] : List (String × Toml)) ++ listed.map overrideEntry).map (·.1)).Nodup := by
    rwa [List.nil_append, List.map_map]
  have overrides := foldlM_overrides config names
  have front : [Statement.assignment [] "all_errors" (.bool config.allErrors),
    .assignment [] "redact_sensitive_data" (.bool config.redact),
    .table ["severity"] "overrides"].foldlM Progress.step .start = some (inOverrides config []) := rfl
  rw [build?, fileStatements, List.foldlM_append, List.foldlM_append, front]
  simp only [Option.bind_eq_bind, Option.bind_some, overrides]
  -- What is left are the last two lines, and no override has a part in them.
  simp [inOverrides, Progress.step, within, openTable, assign, Entries.node?, Entries.put,
    finishEntries, Node.finish, finishEntries_ofValues, fileTable]

/-! ### The configuration -/

theorem ofToml?_overrides {overrides : Overrides} {listed : List (String × Severity)}
    (order : listed.Perm overrides.entries) :
    Overrides.ofToml? (.table (listed.map overrideEntry)) = some overrides := by
  -- They are put in the order of their names, in whatever order they come.
  have each : (fun entry : String × Toml =>
      (entry.2.choice?.bind Severity.ofName?).map ((entry.1, ·))) ∘ overrideEntry =
      fun entry => pure (id entry) := by
    funext entry
    simp [overrideEntry, choice?, Severity.ofName?_name]
  have sorted := sortByKey_of_perm overrides.ascending order
  rw [Overrides.ofToml?, List.mapM_map, each, List.mapM_pure, List.map_id]
  simp [Overrides.ofList, sorted]

theorem ofToml?_fileTable {config : Config} {listed : List (String × Severity)}
    (order : listed.Perm config.overrides.entries) :
    ofToml? (config.fileTable listed) = some config := by
  have overrides := ofToml?_overrides order
  simp [fileTable, ofToml?, record?, Record.withDefault, Record.field?, severityOfToml?,
    codeOfToml?, bool?, overrides]

/-- The text of a configuration is read back, in whatever order its overrides are listed. -/
theorem parse?_fileTextIn {config : Config} {listed : List (String × Severity)}
    (order : listed.Perm config.overrides.entries) :
    parse? (config.fileTextIn listed) = some config := by
  have distinct : (listed.map (·.1)).Nodup :=
    (order.map _).nodup_iff.mpr config.overrides.ascending.nodup
  rw [parse?, fileTextIn, document?_of_spells (config.spells_fileLinesIn listed),
    build?_fileStatements config distinct]
  exact ofToml?_fileTable order

/-! ### Files -/

/-- A configuration that is saved where the host keeps what is written is loaded from there again,
in whatever order its overrides are listed. -/
theorem load_save {World : Type} {host : Host (StateM World)} {path : String} {world : World}
    (keeps : host.Keeps path world) {config : Config} {listed : List (String × Severity)}
    (order : listed.Perm config.overrides.entries) :
    let saved := (save host path config listed).run world
    saved.1 = .ok () ∧ ((load host path).run saved.2).1 = .ok config := by
  intro saved
  let written := (host.write path (config.fileTextIn listed)).run world
  have outcome : saved = (written.1.mapError .io, written.2) := rfl
  have loaded : ((load host path).run written.2).1 =
      ofContent ((host.read path).run written.2).1 := rfl
  rw [outcome]
  refine ⟨?_, ?_⟩
  · have writes : written.1 = .ok () := keeps.writes _
    rw [writes]
    rfl
  · rw [loaded, keeps.reads, ofContent, parse?_fileTextIn order]

/-- Overrides with any names are loaded again from a disk. -/
theorem load_save_names :
    let listed : List (String × Severity) :=
      [("é.b", .warn), ("", .info), ("it's \"so\"\\\n", .error), ("two words", .warn)]
    let config : Config := ⟨false, true, .ofList listed, false⟩
    let host := Host.ofDisk "2024-05-01T12:00:00Z"
    let saved := (save host "conf/jtdc.toml" config listed).run (.ofFiles [("conf/old", .binary)])
    saved.1 = .ok () ∧ ((load host "conf/jtdc.toml").run saved.2).1 = .ok config := by
  intro listed config host saved
  have leads : (Disk.ofFiles [("conf/old", .binary)]).Leads "conf/jtdc.toml"
      ⟨.above 0, ["conf", "jtdc.toml"]⟩ :=
    @Disk.Leads.walked _ _ _ ⟨.here, ["conf"], some "jtdc.toml"⟩ "jtdc.toml" ⟨.above 0, ["conf"]⟩
      (by decide +kernel) rfl (by decide +kernel) (by decide +kernel) (by decide +kernel)
  have keeps := Host.ofDisk_keeps "2024-05-01T12:00:00Z" leads (by decide +kernel)
  have order : listed.Perm config.overrides.entries :=
    (perm_sortByKey (by decide)).symm
  exact load_save keeps order

end Config
end TypeForm
