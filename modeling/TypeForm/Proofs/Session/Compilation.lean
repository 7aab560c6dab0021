import TypeForm.Proofs.Session.Run

/-!
# Compiled validators

What is true of any validator that a schema compiles to, from one node or from a node for each
field.

## Main results

* `compile_demands`, `compileFields_demands`: the validator has the checks of entries, as the validator
  of a session run does, and these are the demands of the nodes.
* `compile_withConfig`, `compileFields_withConfig`: the configuration is only handed on. Under
  another one the same schemas compile, to the same validator but for its configuration.
-/
namespace TypeForm

/-! ### The configuration is handed on -/

/-- The validator with another configuration. -/
def Validator.withConfig (validator : Validator) (config : Config) : Validator :=
  { validator with config }

namespace Session

/-- The session with another configuration. -/
def withConfig (session : Session) (config : Config) : Session :=
  { session with config }

theorem dataName_withConfig (session : Session) (config : Config) (instancePath : String) :
    (session.withConfig config).dataName instancePath =
      ((session.dataName instancePath).1, (session.dataName instancePath).2.withConfig config) := by
  unfold dataName
  split <;> rfl

theorem add_withConfig (session : Session) (config : Config) (instancePath schemaPath : String)
    (node : Json) :
    (session.withConfig config).add instancePath schemaPath node =
      ((session.add instancePath schemaPath node).1.withConfig config,
        (session.add instancePath schemaPath node).2) := by
  unfold add
  split
  · rfl
  · cases checkNode schemaPath node with
    | error => rfl
    | ok members =>
      rw [dataName_withConfig]
      obtain ⟨data, named⟩ := session.dataName instancePath
      -- The keyword sees the draft of the session and nothing else of it.
      have draft : (named.withConfig config).draft = named.draft := rfl
      dsimp only
      rw [draft]
      rcases typeKeyword.compile members ⟨data, instancePath, schemaPath⟩ named.draft with
        error | _ | compiled
      all_goals rfl

theorem run_withConfig (session : Session) (config : Config) (submissions : List Submission) :
    (session.withConfig config).run submissions =
      ((session.run submissions).1.withConfig config, (session.run submissions).2) := by
  induction submissions generalizing session with
  | nil => rfl
  | cons submission rest ih =>
    have first : (session.withConfig config).submit submission =
        ((session.submit submission).1.withConfig config, (session.submit submission).2) :=
      session.add_withConfig config _ _ _
    simp only [run, first, ih]

theorem addFields_withConfig (session : Session) (config : Config) (fields : Members) :
    (session.withConfig config).addFields fields =
      (session.addFields fields).map fun added => added.withConfig config := by
  induction fields generalizing session with
  | nil => rfl
  | cons field rest ih =>
    obtain ⟨name, node⟩ := field
    simp only [addFields, add_withConfig]
    obtain ⟨next, result⟩ := session.add _ _ node
    cases result with
    | error => rfl
    | ok => exact ih next

end Session

theorem compile_withConfig (config other : Config) (node : Json) :
    compile config node = (compile other node).map fun validator => validator.withConfig config := by
  have start : Session.start config = (Session.start other).withConfig config := rfl
  simp only [compile, start, Session.add_withConfig]
  obtain ⟨next, result⟩ := (Session.start other).add "" "" node
  cases result <;> rfl

theorem compileFields_withConfig (config other : Config) (fields : Members) :
    compileFields config fields =
      (compileFields other fields).map fun validator => validator.withConfig config := by
  have start : Session.start config = (Session.start other).withConfig config := rfl
  rw [compileFields, start, Session.addFields_withConfig, compileFields]
  cases (Session.start other).addFields fields <;> rfl

/-! ### What compiled validators hold -/

theorem Validator.Holds.withConfig {validator : Validator} {entries : List Entry}
    (holds : validator.Holds entries) (config : Config) :
    (validator.withConfig config).Holds entries :=
  ⟨holds.root, holds.checks, holds.bindings, holds.index, holds.ascending⟩

/-- A field is submitted like any other node, under its own name in both places. -/
def Submission.ofField (field : String × Json) : Submission where
  instancePath := "/" ++ Pointer.escape field.1
  schemaPath := "/" ++ Pointer.escape field.1
  node := field.2

/-- Fields that are all added make a run in which every submission succeeds. -/
theorem Session.run_ofField {session next : Session} {fields : Members}
    (added : session.addFields fields = .ok next) :
    session.run (fields.map .ofField) = (next, fields.map fun _ => .ok ()) := by
  induction fields generalizing session with
  | nil =>
    obtain rfl := Except.ok.inj added
    rfl
  | cons field rest ih =>
    obtain ⟨name, node⟩ := field
    have submitted : session.add ("/" ++ Pointer.escape name) ("/" ++ Pointer.escape name) node =
        session.submit (.ofField (name, node)) := rfl
    simp only [Session.addFields, submitted] at added
    simp only [List.map_cons, Session.run]
    generalize session.submit (.ofField (name, node)) = outcome at added ⊢
    obtain ⟨named, result⟩ := outcome
    cases result with
    | error => cases added
    | ok => rw [ih added]

/-- Submissions that all succeed make all their demands. -/
theorem demands_of_ok (submissions : List Submission) :
    demands submissions (submissions.map fun _ => .ok ()) =
      submissions.filterMap Submission.demand? := by
  induction submissions with
  | nil => rfl
  | cons submission rest ih =>
    rw [demands] at ih
    simp only [demands, List.map_cons, List.zip_cons_cons, List.filterMap_cons, ih]

/-- A node compiles to the check of its form, about the whole document. -/
theorem compile_demands {config : Config} {node : Json} {validator : Validator}
    (compiled : compile config node = .ok validator) :
    ∃ entries, validator.Holds entries ∧
      entries.map Entry.toDemand = [Submission.mk "" "" node].filterMap Submission.demand? := by
  obtain ⟨entries, held, made⟩ := (Session.holds_start config).submit ⟨"", "", node⟩
  have submitted : (Session.start config).add "" "" node =
      (Session.start config).submit ⟨"", "", node⟩ := rfl
  rw [compile, submitted] at compiled
  generalize (Session.start config).submit ⟨"", "", node⟩ = outcome at compiled held made
  obtain ⟨next, result⟩ := outcome
  cases result with
  | error => cases compiled
  | ok =>
    obtain rfl := Except.ok.inj compiled
    exact ⟨entries, held.finish, made.trans (demands_of_ok [⟨"", "", node⟩])⟩

theorem compile_holds {config : Config} {node : Json} {validator : Validator}
    (compiled : compile config node = .ok validator) : ∃ entries, validator.Holds entries :=
  have ⟨entries, holds, _⟩ := compile_demands compiled
  ⟨entries, holds⟩

/-- Fields compile to the checks of their nodes, each about the field of its own name. -/
theorem compileFields_demands {config : Config} {fields : Members} {validator : Validator}
    (compiled : compileFields config fields = .ok validator) :
    ∃ entries, validator.Holds entries ∧
      entries.map Entry.toDemand = (fields.map .ofField).filterMap Submission.demand? := by
  rw [compileFields] at compiled
  cases added : (Session.start config).addFields fields with
  | error => simp [added, Except.map] at compiled
  | ok next =>
    obtain ⟨entries, held, made⟩ := Session.holds_run config (fields.map .ofField)
    rw [Session.run_ofField added] at held made
    rw [added] at compiled
    obtain rfl := Except.ok.inj compiled
    have results : (fields.map fun _ => Except.ok ()) =
        (fields.map Submission.ofField).map fun _ => (.ok () : Except CompileError Unit) := by
      rw [List.map_map]
      rfl
    rw [results, demands_of_ok] at made
    exact ⟨entries, held.finish, made⟩

theorem compileFields_holds {config : Config} {fields : Members} {validator : Validator}
    (compiled : compileFields config fields = .ok validator) :
    ∃ entries, validator.Holds entries :=
  have ⟨entries, holds, _⟩ := compileFields_demands compiled
  ⟨entries, holds⟩

end TypeForm
