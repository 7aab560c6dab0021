import TypeForm.Proofs.Session.Node

/-!
# Runs of a session

A session is given any number of submissions, of which some may fail. `Session.submit_step` says
once what a single one can do. From it follows what a run leaves behind (`Session.holds_run`): the
checks are those of the demands that successful submissions made, in order; the checks of the whole
document have the first data name and every other check one of its own; and one helper is bound if
some demand is for a timestamp.
-/
namespace TypeForm

/-- A node to be added to a session, and where it stands in a document and in a schema. -/
structure Submission where
  instancePath : String
  schemaPath : String
  node : Json

/-- What a successful submission asks of documents. -/
structure Demand where
  form : Form
  instancePath : String
  schemaPath : String

/-- The demand of a submission whose node has a type. -/
def Submission.demand? (submission : Submission) : Option Demand :=
  (Form.ofNode? submission.node).map fun form =>
    ⟨form, submission.instancePath, submission.schemaPath⟩

/-- The demands of the submissions that succeeded. -/
def demands (submissions : List Submission) (results : List (Except CompileError Unit)) :
    List Demand :=
  (submissions.zip results).filterMap fun entry =>
    match entry.2 with
    | .ok () => entry.1.demand?
    | .error _ => none

namespace Session

def submit (session : Session) (submission : Submission) : Session × Except CompileError Unit :=
  session.add submission.instancePath submission.schemaPath submission.node

/-- Make submissions one after the other; the results tell which of them succeeded. -/
def run (session : Session) : List Submission → Session × List (Except CompileError Unit)
  | [] => (session, [])
  | submission :: rest =>
    let last := (session.submit submission).1.run rest
    (last.1, (session.submit submission).2 :: last.2)

/-! ### One submission -/

/-- The session with a check for a form, whose data has the given name. -/
def enter (session : Session) (form : Form) (data : Ident) (submission : Submission) : Session :=
  let bound := session.draft.bind "func" dateTimeHelper
  let draft := if form.tag = .timestamp then bound.2 else session.draft
  { session with
    draft := draft.record
      { instancePath := submission.instancePath
        schemaPath := submission.schemaPath ++ "/" ++ "type"
        keyword := "type"
        schema := .string form.tag.name
        data
        condition := form.violated bound.1 data } }

/-- What a submission can do to a session: nothing, draw a name for its data, or enter a form. -/
inductive Step (session : Session) (submission : Submission) :
    Session × Except CompileError Unit → Prop
  | misplaced (invalid : isDataPath submission.instancePath = false) :
      Step session submission (session, .error (.invalidDataPath submission.instancePath))
  | misshapen {error : CompileError}
      (read : readNode submission.schemaPath submission.node = .error error) :
      Step session submission (session, .error error)
  | faulty {error : CompileError}
      (read : readNode submission.schemaPath submission.node = .error error) :
      Step session submission ((session.dataName submission.instancePath).2, .error error)
  | untyped (read : readNode submission.schemaPath submission.node = .ok none) :
      Step session submission ((session.dataName submission.instancePath).2, .ok ())
  | typed {form : Form} (read : readNode submission.schemaPath submission.node = .ok (some form)) :
      Step session submission
        ((session.dataName submission.instancePath).2.enter form
          (session.dataName submission.instancePath).1 submission, .ok ())

/-- The keyword compiles the value that is its own, if there is one. -/
private theorem compile_type (members : Members) (site : Site) (draft : Draft) :
    typeKeyword.compile members site draft =
      match members.value? "type" with
      | none => .ok none
      | some value =>
        match typeKeyword.readValue (site.schemaPath ++ "/" ++ "type") value with
        | .ok tag => .ok (some (typeKeyword.emit ⟨site, "type", value, members⟩ tag draft))
        | .error error => .error error := by
  have same : members.value? typeKeyword.name = members.value? "type" := rfl
  rw [Keyword.compile, Keyword.compileInto, same]
  cases members.value? "type" with
  | none => rfl
  | some value =>
    have path : Occurrence.schemaPath ⟨site, typeKeyword.name, value, members⟩ =
        site.schemaPath ++ "/" ++ "type" := rfl
    simp only [path]
    cases typeKeyword.readValue (site.schemaPath ++ "/" ++ "type") value <;> rfl

theorem submit_step (session : Session) (submission : Submission) :
    session.Step submission (session.submit submission) := by
  unfold submit add
  cases valid : isDataPath submission.instancePath with
  | false => exact .misplaced valid
  | true =>
    cases shape : checkNode submission.schemaPath submission.node with
    | error error => exact .misshapen (by simp [readNode, shape])
    | ok members =>
      -- The shape is right, so a name for the data is drawn before the type is read.
      simp only [Bool.not_true, Bool.false_eq_true, if_false, compile_type]
      cases type : members.value? "type" with
      | none => exact .untyped (by simp [readNode, shape, type])
      | some value =>
        dsimp only
        cases read : typeKeyword.readValue (submission.schemaPath ++ "/" ++ "type") value with
        | error error =>
          have fault : readNode submission.schemaPath submission.node = .error error := by
            simp [readNode, shape, type, read]
          exact .faulty fault
        | ok tag =>
          obtain rfl := string_of_readValue read
          have form : readNode submission.schemaPath submission.node =
              .ok (some ⟨tag, decide (members.value? "nullable" = some (.bool true))⟩) := by
            simp [readNode, shape, type, read]
          rw [← flag_eq ⟨⟨(session.dataName submission.instancePath).1, submission.instancePath,
            submission.schemaPath⟩, "type", .string tag.name, members⟩] at form
          dsimp only
          rw [emit_type]
          exact .typed form

end Session

/-! ### What a session holds -/

/-- The name of the whole document. -/
def rootName : Ident :=
  Scope.numbered "data" 0

/-- The name of the predicate on date-time texts. -/
def helperName : Ident :=
  Scope.numbered "func" 0

/-- A demand with the number of its data name. -/
structure Entry extends Demand where
  index : Nat

namespace Entry

def data (entry : Entry) : Ident :=
  Scope.numbered "data" entry.index

/-- The check for an entry. -/
def check (entry : Entry) : Check where
  instancePath := entry.instancePath
  schemaPath := entry.schemaPath ++ "/" ++ "type"
  keyword := "type"
  schema := .string entry.form.tag.name
  data := entry.data
  condition := entry.form.violated helperName entry.data

end Entry

/-- The entry that entering a form makes. -/
def Submission.entry (submission : Submission) (form : Form) (index : Nat) : Entry :=
  ⟨⟨form, submission.instancePath, submission.schemaPath⟩, index⟩

/-- The bindings that entries need. -/
def bindingsFor (entries : List Entry) : List Binding :=
  if entries.any fun entry => entry.form.tag = .timestamp then [⟨helperName, dateTimeHelper⟩]
  else []

theorem bindingsFor_cases (entries : List Entry) :
    bindingsFor entries = [] ∨ bindingsFor entries = [⟨helperName, dateTimeHelper⟩] := by
  unfold bindingsFor
  split
  · exact .inr rfl
  · exact .inl rfl

theorem bindingsFor_of_mem {entries : List Entry} {entry : Entry} (member : entry ∈ entries)
    (timestamp : entry.form.tag = .timestamp) :
    bindingsFor entries = [⟨helperName, dateTimeHelper⟩] :=
  if_pos (List.any_eq_true.mpr ⟨entry, member, decide_eq_true timestamp⟩)

theorem bindingsFor_append (entries : List Entry) (entry : Entry) :
    bindingsFor (entries ++ [entry]) =
      if entry.form.tag = .timestamp then [⟨helperName, dateTimeHelper⟩]
      else bindingsFor entries := by
  unfold bindingsFor
  by_cases timestamp : entry.form.tag = .timestamp <;> simp [timestamp]

/-- A validator has the checks of entries, with the names that they need. -/
structure Validator.Holds (validator : Validator) (entries : List Entry) : Prop where
  root : validator.root = rootName
  checks : validator.checks = entries.map Entry.check
  bindings : validator.scope.bindings = bindingsFor entries
  /-- The first data name is the root's. -/
  index : ∀ entry ∈ entries, entry.index = 0 ↔ entry.instancePath = ""
  /-- Every other data name is new. -/
  ascending : entries.Pairwise fun first second => second.index ≠ 0 → first.index < second.index

/-- A session has the checks of entries, and has drawn the names that they use. -/
structure Session.Holds (session : Session) (entries : List Entry) : Prop where
  finish : session.finish.Holds entries
  helpers : session.draft.scope.drawn.count "func" = session.draft.scope.bindings.length
  started : 0 < session.draft.scope.drawn.count "data"
  drawn : ∀ entry ∈ entries, entry.index < session.draft.scope.drawn.count "data"

namespace Session

variable {session : Session} {entries : List Entry}

theorem holds_start (config : Config) : (start config).Holds [] where
  finish :=
    { root := rfl
      checks := rfl
      bindings := rfl
      index := by simp
      ascending := .nil }
  helpers := rfl
  started := Nat.one_pos
  drawn := by simp

/-- The name of data at a path is the root's, or one that no entry has. -/
theorem Holds.dataName (holds : session.Holds entries) (instancePath : String) :
    ∃ index, (session.dataName instancePath).1 = Scope.numbered "data" index ∧
      (index = 0 ↔ instancePath = "") ∧
      (∀ entry ∈ entries, index ≠ 0 → entry.index < index) ∧
      index < (session.dataName instancePath).2.draft.scope.drawn.count "data" ∧
      (session.dataName instancePath).2.Holds entries := by
  by_cases whole : instancePath = ""
  · -- The whole document has the name of the root, and none is drawn.
    have same : session.dataName instancePath = (session.root, session) := by
      simp [Session.dataName, whole]
    refine ⟨0, by rw [same]; exact holds.finish.root, by simp [whole], ?_, ?_, ?_⟩
    · exact fun _ _ nonzero => absurd rfl nonzero
    · rw [same]; exact holds.started
    · rw [same]; exact holds
  · -- The number of names drawn so far is above the number of each of them.
    have fresh : session.dataName instancePath =
        (Scope.numbered "data" (session.draft.scope.drawn.count "data"),
          { session with draft := (session.draft.fresh "data").2 }) := by
      simp only [Session.dataName, String.isEmpty_iff, whole, if_false]
      rfl
    have counted : ("data" :: session.draft.scope.drawn).count "data" =
        session.draft.scope.drawn.count "data" + 1 := by simp
    refine ⟨session.draft.scope.drawn.count "data", by rw [fresh], ?_, ?_, ?_, ?_⟩
    · have started := holds.started
      constructor
      · omega
      · exact fun same => absurd same whole
    · exact fun entry member _ => holds.drawn entry member
    · rw [fresh]
      exact counted ▸ Nat.lt_succ_self _
    · rw [fresh]
      exact
        { finish := { holds.finish with }
          helpers := by simpa [Draft.fresh, Scope.fresh] using holds.helpers
          started := by simp [Draft.fresh, Scope.fresh]
          drawn := fun entry member =>
            counted ▸ Nat.lt_succ_of_lt (holds.drawn entry member) }

/-- The helper is bound to its name, at the first use or before. -/
theorem Holds.bind (holds : session.Holds entries) :
    ∃ drawn, session.draft.bind "func" dateTimeHelper =
        (helperName, ⟨⟨[⟨helperName, dateTimeHelper⟩], drawn⟩, session.draft.checks⟩) ∧
      drawn.count "func" = 1 ∧ drawn.count "data" = session.draft.scope.drawn.count "data" := by
  have bound : session.draft.scope.bindings = bindingsFor entries := holds.finish.bindings
  have helpers := holds.helpers
  rcases bindingsFor_cases entries with absent | present
  · -- No name was drawn for a helper before, so this one gets the first.
    rw [absent] at bound
    rw [bound] at helpers
    have unbound : session.draft.scope.findKey? dateTimeHelper.key = none := by
      simp [Scope.findKey?, bound]
    refine ⟨"func" :: session.draft.scope.drawn, ?_, by simpa using helpers, by simp⟩
    simp [Draft.bind, Scope.bind, unbound, Scope.fresh, bound, helpers, helperName]
  · -- The helper is found by its key, and nothing changes.
    rw [present] at bound
    rw [bound] at helpers
    have found : session.draft.scope.findKey? dateTimeHelper.key =
        some ⟨helperName, dateTimeHelper⟩ := by
      simp [Scope.findKey?, bound]
    refine ⟨session.draft.scope.drawn, ?_, helpers, rfl⟩
    simp [Draft.bind, Scope.bind, found, ← bound]

private theorem Holds.enter_eq (holds : session.Holds entries) (form : Form)
    (submission : Submission) (index : Nat) :
    ∃ names, session.enter form (Scope.numbered "data" index) submission =
        { session with draft :=
            ⟨⟨bindingsFor (entries ++ [submission.entry form index]), names⟩,
              session.draft.checks ++ [(submission.entry form index).check]⟩ } ∧
      names.count "func" = (bindingsFor (entries ++ [submission.entry form index])).length ∧
      names.count "data" = session.draft.scope.drawn.count "data" := by
  obtain ⟨names, bound, helpers, counted⟩ := holds.bind
  have bindings : session.draft.scope.bindings = bindingsFor entries := holds.finish.bindings
  have tag : (submission.entry form index).form.tag = form.tag := rfl
  rw [bindingsFor_append, tag]
  by_cases timestamp : form.tag = .timestamp
  · -- Only a timestamp takes over the scope in which the helper is bound.
    refine ⟨names, ?_, by rw [if_pos timestamp]; exact helpers, counted⟩
    simp only [Session.enter, bound, if_pos timestamp]
    rfl
  · refine ⟨session.draft.scope.drawn, ?_, ?_, rfl⟩
    · simp only [Session.enter, bound, if_neg timestamp, ← bindings]
      rfl
    · rw [if_neg timestamp, ← bindings]
      exact holds.helpers

theorem Holds.enter (holds : session.Holds entries) (form : Form) (submission : Submission)
    {index : Nat} (named : index = 0 ↔ submission.instancePath = "")
    (above : ∀ entry ∈ entries, index ≠ 0 → entry.index < index)
    (drawn : index < session.draft.scope.drawn.count "data") :
    (session.enter form (Scope.numbered "data" index) submission).Holds
      (entries ++ [submission.entry form index]) := by
  obtain ⟨names, entered, helpers, counted⟩ := holds.enter_eq form submission index
  -- Only the new entry is left to account for; the others are as before.
  have checks : session.draft.checks = entries.map Entry.check := holds.finish.checks
  rw [entered]
  exact
    { finish :=
        { root := holds.finish.root
          checks := by simp [Session.finish, checks]
          bindings := rfl
          index := by
            intro other member
            rcases List.mem_append.mp member with old | new
            · exact holds.finish.index other old
            · obtain rfl := List.mem_singleton.mp new
              exact named
          ascending := by
            refine List.pairwise_append.mpr ⟨holds.finish.ascending, List.pairwise_singleton .., ?_⟩
            intro other old new member nonzero
            obtain rfl := List.mem_singleton.mp member
            exact above other old nonzero }
      helpers := helpers
      started := counted ▸ holds.started
      drawn := by
        intro other member
        rcases List.mem_append.mp member with old | new
        · exact counted ▸ holds.drawn other old
        · obtain rfl := List.mem_singleton.mp new
          exact counted ▸ drawn }

/-- A submission adds the entry of its demand if it succeeds. -/
theorem Holds.submit (holds : session.Holds entries) (submission : Submission) :
    ∃ added, (session.submit submission).1.Holds (entries ++ added) ∧
      added.map Entry.toDemand = demands [submission] [(session.submit submission).2] := by
  obtain ⟨index, name, named, above, drawn, dataHolds⟩ := holds.dataName submission.instancePath
  have step := session.submit_step submission
  generalize session.submit submission = result at step
  -- A refusal adds no entry, at most a data name was drawn for it.
  cases step with
  | misplaced => exact ⟨[], by simpa using holds, rfl⟩
  | misshapen => exact ⟨[], by simpa using holds, rfl⟩
  | faulty => exact ⟨[], by simpa using dataHolds, rfl⟩
  | untyped read =>
    have absent := ofNode?_of_readNode read
    exact ⟨[], by simpa using dataHolds, by simp [demands, Submission.demand?, absent]⟩
  | typed read =>
    have found := ofNode?_of_readNode read
    rw [name]
    exact ⟨_, dataHolds.enter _ submission named above drawn,
      by simp [demands, Submission.demand?, Submission.entry, found]⟩

/-- What a run leaves behind. -/
theorem Holds.run (holds : session.Holds entries) (submissions : List Submission) :
    ∃ added, (session.run submissions).1.Holds (entries ++ added) ∧
      added.map Entry.toDemand = demands submissions (session.run submissions).2 := by
  induction submissions generalizing session entries with
  | nil => exact ⟨[], by simpa [Session.run] using holds, rfl⟩
  | cons submission rest ih =>
    obtain ⟨first, held, made⟩ := holds.submit submission
    -- The rest of the run starts from what the session holds after the first submission.
    obtain ⟨others, kept, rests⟩ := ih held
    refine ⟨first ++ others, by simpa [Session.run] using kept, ?_⟩
    rw [List.map_append, made, rests]
    simp only [demands, Session.run, List.zip_cons_cons, List.filterMap_cons]
    split <;> rfl

/-- A session from its start holds the demands that its run made. -/
theorem holds_run (config : Config) (submissions : List Submission) :
    ∃ entries, ((start config).run submissions).1.Holds entries ∧
      entries.map Entry.toDemand = demands submissions ((start config).run submissions).2 := by
  simpa using (holds_start config).run submissions

theorem dataName_config (session : Session) (instancePath : String) :
    (session.dataName instancePath).2.config = session.config := by
  unfold Session.dataName
  split <;> rfl

theorem submit_config (session : Session) (submission : Submission) :
    (session.submit submission).1.config = session.config := by
  have step := session.submit_step submission
  generalize session.submit submission = result at step
  cases step with
  | misplaced | misshapen => rfl
  | faulty | untyped => exact session.dataName_config _
  | typed => exact session.dataName_config _

theorem run_config (session : Session) (submissions : List Submission) :
    (session.run submissions).1.config = session.config := by
  induction submissions generalizing session with
  | nil => rfl
  | cons submission rest ih => exact (ih _).trans (session.submit_config submission)

end Session
end TypeForm
