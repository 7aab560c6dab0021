import TypeForm.Proofs.Condition.Names
import TypeForm.Proofs.Session.Acceptance
import TypeForm.Proofs.Session.Validation

/-!
# Refused submissions leave no trace

A submission that a session refuses may use up a data name, so that later names have other numbers
than they would have without it. Nothing else is left of it.

## Main result

`run_succeeded`: the submissions of a run that succeed, made alone, succeed again. They bind the same
helpers and make the same checks in the same order, but for the names of data in them, so that the
two validators report the same on every document.

## Proof strategy

Whether a submission succeeds does not depend on the session (`Session.submit_result`), so that both
runs make the same demands (`demands_succeeded`). The checks and the bindings of a session are those
of its demands, up to the numbers of data names.
-/
namespace TypeForm

/-- What comes of a submission in any session. -/
def Submission.result (submission : Submission) : Except CompileError Unit :=
  if Session.isDataPath submission.instancePath then
    (readNode submission.schemaPath submission.node).map fun _ => ()
  else .error (.invalidDataPath submission.instancePath)

/-- The submissions that succeeded. -/
def succeeded (submissions : List Submission) (results : List (Except CompileError Unit)) :
    List Submission :=
  (submissions.zip results).filterMap fun entry =>
    match entry.2 with
    | .ok () => some entry.1
    | .error _ => none

/-- The check with another name for its data. -/
def Check.renamed (check : Check) (name : Ident) : Check :=
  { check with data := name, condition := check.condition.renamed check.data name }

/-- Two checks are the same up to the names of their data. -/
def Check.Alike (first second : Check) : Prop :=
  second = first.renamed second.data ∧ first = second.renamed first.data

/-! ### The result of a submission -/

namespace Session

theorem submit_result (session : Session) (submission : Submission) :
    (session.submit submission).2 = submission.result := by
  unfold Submission.result
  cases valid : isDataPath submission.instancePath with
  | true => exact session.add_result submission.schemaPath submission.node valid
  | false => simp [submit, add, valid]

theorem run_results (session : Session) (submissions : List Submission) :
    (session.run submissions).2 = submissions.map Submission.result := by
  induction submissions generalizing session with
  | nil => rfl
  | cons submission rest ih => rw [run, session.submit_result, ih, List.map_cons]

/-- A submission that fails records no check and binds no helper. -/
theorem submit_of_error {session : Session} {submission : Submission} {error : CompileError}
    (failed : (session.submit submission).2 = .error error) :
    (session.submit submission).1.draft.checks = session.draft.checks ∧
      (session.submit submission).1.draft.scope.bindings = session.draft.scope.bindings := by
  have step := session.submit_step submission
  generalize session.submit submission = outcome at step failed ⊢
  cases step with
  | misplaced | misshapen => exact ⟨rfl, rfl⟩
  | faulty =>
    -- A name may have been drawn before the fault was found.
    unfold dataName
    split <;> exact ⟨rfl, rfl⟩
  | untyped | typed => cases failed

end Session

/-! ### The submissions that succeed -/

theorem succeeded_cons (submission : Submission) (rest : List Submission) :
    succeeded (submission :: rest) ((submission :: rest).map Submission.result) =
      match submission.result with
      | .ok () => submission :: succeeded rest (rest.map Submission.result)
      | .error _ => succeeded rest (rest.map Submission.result) := by
  simp only [succeeded, List.map_cons, List.zip_cons_cons, List.filterMap_cons]
  cases submission.result <;> rfl

theorem result_of_mem_succeeded {submissions : List Submission} {submission : Submission}
    (member : submission ∈ succeeded submissions (submissions.map Submission.result)) :
    submission.result = .ok () := by
  induction submissions with
  | nil => cases member
  | cons first rest ih =>
    rw [succeeded_cons] at member
    cases result : first.result with
    | error => exact ih (by simpa [result] using member)
    | ok =>
      rw [result] at member
      rcases List.mem_cons.mp member with rfl | member
      · exact result
      · exact ih member

/-- Without the submissions that fail, the same demands are made. -/
theorem demands_succeeded (submissions : List Submission) :
    demands (succeeded submissions (submissions.map Submission.result))
        ((succeeded submissions (submissions.map Submission.result)).map Submission.result) =
      demands submissions (submissions.map Submission.result) := by
  induction submissions with
  | nil => rfl
  | cons first rest ih =>
    rw [demands, demands] at ih
    rw [succeeded_cons]
    cases result : first.result <;>
      simp only [demands, result, List.map_cons, List.zip_cons_cons, List.filterMap_cons, ih]

/-! ### Checks and bindings of the same demands -/

section Demands

variable {entries others : List Entry}

theorem bindingsFor_of_demands (same : entries.map Entry.toDemand = others.map Entry.toDemand) :
    bindingsFor entries = bindingsFor others := by
  have timestamps (entries : List Entry) : (entries.any fun entry => entry.form.tag = .timestamp) =
      (entries.map Entry.toDemand).any fun demand => demand.form.tag = .timestamp := by
    rw [List.any_map]
    rfl
  simp only [bindingsFor, timestamps, same]

/-- The checks of one demand differ in the name of its data only. -/
theorem Entry.alike {entry other : Entry} (same : entry.toDemand = other.toDemand) :
    entry.check.Alike other.check := by
  -- What is left to differ is the number of the data name.
  obtain ⟨demand, index⟩ := entry
  obtain ⟨_, number⟩ := other
  cases same
  simp [Check.Alike, Check.renamed, Entry.check, Form.violated_renamed]

theorem forall₂_alike (same : entries.map Entry.toDemand = others.map Entry.toDemand) :
    List.Forall₂ Check.Alike (entries.map Entry.check) (others.map Entry.check) := by
  induction entries generalizing others with
  | nil =>
    obtain rfl : others = [] := by simpa using same.symm
    exact .nil
  | cons entry rest ih =>
    cases others with
    | nil => cases same
    | cons other more =>
      obtain ⟨first, rests⟩ := List.cons.inj same
      exact .cons (Entry.alike first) (ih rests)

end Demands

/-- The submissions of a run that succeed can be made without those that fail. All of them succeed
again, the same helpers are bound in the same order, the checks are the same up to the names of
their data, and the same is reported on every document. A submission that fails, in whatever
session, adds no check and no helper to it. -/
theorem run_succeeded (config : Config) (submissions : List Submission) :
    let outcome := (Session.start config).run submissions
    let kept := succeeded submissions outcome.2
    let rerun := (Session.start config).run kept
    rerun.2 = kept.map (fun _ => .ok ()) ∧
      rerun.1.finish.scope.bindings = outcome.1.finish.scope.bindings ∧
      List.Forall₂ Check.Alike outcome.1.finish.checks rerun.1.finish.checks ∧
      (∀ document, rerun.1.finish.validate document = outcome.1.finish.validate document) ∧
      ∀ (session : Session) submission error, (session.submit submission).2 = .error error →
        (session.submit submission).1.finish.checks = session.finish.checks ∧
          (session.submit submission).1.finish.scope.bindings = session.finish.scope.bindings := by
  intro outcome kept rerun
  have results : outcome.2 = submissions.map Submission.result := Session.run_results _ _
  have again : rerun.2 = kept.map Submission.result := Session.run_results _ _
  have keeps : kept = succeeded submissions (submissions.map Submission.result) :=
    congrArg (succeeded submissions) results
  obtain ⟨entries, holds, made⟩ := Session.holds_run config submissions
  obtain ⟨others, alike, remade⟩ := Session.holds_run config kept
  -- Both runs make the same demands, and all else follows from that.
  have same : entries.map Entry.toDemand = others.map Entry.toDemand :=
    calc entries.map Entry.toDemand
      _ = demands submissions outcome.2 := made
      _ = demands kept (kept.map Submission.result) := by rw [results, keeps, demands_succeeded]
      _ = demands kept rerun.2 := by rw [again]
      _ = others.map Entry.toDemand := remade.symm
  refine ⟨?_, ?_, ?_, fun document => ?_, fun session submission error failed => ?_⟩
  · rw [again, keeps]
    exact List.map_congr_left fun submission member => result_of_mem_succeeded member
  · exact alike.finish.bindings.trans
      ((bindingsFor_of_demands same).symm.trans holds.finish.bindings.symm)
  · rw [holds.finish.checks, alike.finish.checks]
    exact forall₂_alike same
  · have mode : rerun.1.finish.config = outcome.1.finish.config :=
      (Session.run_config _ kept).trans (Session.run_config _ submissions).symm
    rw [alike.finish.validate, holds.finish.validate, same, mode]
  · exact Session.submit_of_error failed

end TypeForm
