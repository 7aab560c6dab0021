import TypeForm.Proofs.Condition.Names
import TypeForm.Proofs.Scope.Names
import TypeForm.Proofs.Session.Validation

/-!
# Names in a session

Data names and helper names are drawn from one scope, by two stems. However submissions succeed and
fail, the root's name is that of the whole document and of no part of it, every other name is given
once, and conditions use no names but that of their own data and those of bound helpers
(`Validator.WellNamed`, by `Validator.Holds.wellNamed`). So no condition ever meets a name without
a value (`Validator.WellNamed.exists_fails`).
-/
namespace TypeForm

namespace Validator

/-- Names are given and used as they should be. -/
structure WellNamed (validator : Validator) : Prop where
  /-- The root's name is that of the whole document. -/
  root : ∀ check ∈ validator.checks, check.data = validator.root ↔ check.instancePath = ""
  /-- The parts of the document that checks are about have a name for each check. -/
  parts : ((validator.checks.filter fun check => check.instancePath ≠ "").map Check.data).Nodup
  helpers : (validator.scope.bindings.map Binding.name).Nodup
  /-- No helper has the name of data. -/
  apart : ∀ binding ∈ validator.scope.bindings, binding.name ≠ validator.root ∧
    ∀ check ∈ validator.checks, binding.name ≠ check.data
  /-- A condition speaks of no data but its own. -/
  own : ∀ check ∈ validator.checks, ∀ name ∈ check.condition.dataNames, name = check.data
  /-- A condition calls no helper that is not bound. -/
  bound : ∀ check ∈ validator.checks, ∀ name ∈ check.condition.callees,
    ∃ binding ∈ validator.scope.bindings, binding.name = name

theorem numbered_data_ne_func (m n : Nat) : Scope.numbered "data" m ≠ Scope.numbered "func" n := by
  intro same
  have texts := congrArg (fun name => name.text.toList.head?) same
  simp [Scope.toList_numbered] at texts

variable {validator : Validator} {entries : List Entry}

/-- Entries that are not about the whole document have different data names. -/
theorem Holds.parts (holds : validator.Holds entries) :
    ((entries.filter fun entry => entry.instancePath ≠ "").map Entry.data).Nodup := by
  rw [List.Nodup, List.pairwise_map, List.pairwise_filter]
  -- Numbers ascend along the entries but for the whole document, which has number zero.
  refine holds.ascending.imp_of_mem fun {first second} _ member less _ part same => ?_
  have zero : second.index ≠ 0 :=
    (not_congr (holds.index second member)).mpr (of_decide_eq_true part)
  have equal := Scope.numbered_injective same
  have below := less zero
  omega

theorem Holds.wellNamed (holds : validator.Holds entries) : validator.WellNamed where
  root := by
    rw [holds.checks, holds.root]
    intro check member
    obtain ⟨entry, inside, rfl⟩ := List.mem_map.mp member
    have index : entry.data = rootName ↔ entry.index = 0 :=
      ⟨Scope.numbered_injective, congrArg (Scope.numbered "data")⟩
    exact index.trans (holds.index entry inside)
  parts := by
    rw [holds.checks, List.filter_map, List.map_map]
    exact holds.parts
  helpers := by
    rw [holds.bindings]
    rcases bindingsFor_cases entries with none | one <;> simp [*]
  apart := by
    rw [holds.bindings, holds.checks, holds.root]
    intro binding member
    -- The two kinds of names have stems that differ in their first letters.
    have name : binding.name = helperName := by
      rcases bindingsFor_cases entries with none | one <;> simp_all
    rw [name]
    refine ⟨fun same => numbered_data_ne_func 0 0 same.symm, fun check inside same => ?_⟩
    obtain ⟨entry, -, rfl⟩ := List.mem_map.mp inside
    exact numbered_data_ne_func entry.index 0 same.symm
  own := by
    rw [holds.checks]
    intro check member name named
    obtain ⟨entry, -, rfl⟩ := List.mem_map.mp member
    exact entry.form.eq_of_mem_dataNames _ _ named
  bound := by
    rw [holds.checks, holds.bindings]
    intro check member name called
    obtain ⟨entry, inside, rfl⟩ := List.mem_map.mp member
    have callees : entry.check.condition.callees = _ := entry.form.callees_violated helperName _
    rw [callees] at called
    split at called
    · -- The entry that calls the helper is a reason to bind it.
      next timestamp =>
      rw [bindingsFor_of_mem inside timestamp]
      exact ⟨_, List.mem_cons_self, (List.mem_singleton.mp called).symm⟩
    · cases called

/-- Every check has an answer for every document: no name in its condition is unbound. -/
theorem WellNamed.exists_fails (named : validator.WellNamed) {check : Check}
    (member : check ∈ validator.checks) (document : Data) :
    ∃ failed, check.fails validator.scope document = .ok failed := by
  unfold Check.fails
  cases document.pointer check.instancePath with
  | none => exact ⟨false, rfl⟩
  | some value =>
    -- In the environment of a check its own data is bound, and all helpers of the scope.
    refine Condition.exists_evaluate check.condition ⟨fun name inside => ?_, fun name called => ?_⟩
    · rw [named.own check member name inside]
      exact ⟨value, Env.lookup_bind ..⟩
    · obtain ⟨binding, bound, rfl⟩ := named.bound check member name called
      exact ⟨binding.helper, Scope.helper?_of_mem named.helpers bound⟩

end Validator

/-! ### The helper of timestamps -/

/-- The `type` of the submission's node is the name of a tag. -/
def Submission.HasType (submission : Submission) (tag : TypeTag) : Prop :=
  ∃ members : Members, submission.node = .object members ∧
    members.value? "type" = some (.string tag.name)

theorem Submission.hasType_iff (submission : Submission) (tag : TypeTag) :
    submission.HasType tag ↔ ∃ demand, submission.demand? = some demand ∧ demand.form.tag = tag := by
  constructor
  · rintro ⟨members, node, type⟩
    exact ⟨_, by rw [demand?, node, Form.ofNode?_of_type type]; rfl, rfl⟩
  · rintro ⟨demand, made, rfl⟩
    obtain ⟨form, read, rfl⟩ := Option.map_eq_some_iff.mp made
    exact Form.type_of_ofNode? read

/-- The submissions that succeeded are those that are paired with a success. -/
theorem mem_demands_iff {submissions : List Submission}
    {results : List (Except CompileError Unit)} {demand : Demand} :
    demand ∈ demands submissions results ↔
      ∃ submission, (submission, .ok ()) ∈ submissions.zip results ∧
        submission.demand? = some demand := by
  rw [demands, List.mem_filterMap]
  constructor
  · rintro ⟨⟨submission, result⟩, member, made⟩
    cases result with
    | error => cases made
    | ok => exact ⟨submission, member, made⟩
  · rintro ⟨submission, member, made⟩
    exact ⟨(submission, .ok ()), member, made⟩

/-- The helper is bound if a submission with the type of timestamps has succeeded, and nothing is
bound otherwise. -/
theorem Session.bindings_run (config : Config) (submissions : List Submission) :
    let outcome := (start config).run submissions
    let stamped := ∃ submission, (submission, .ok ()) ∈ submissions.zip outcome.2 ∧
      submission.HasType .timestamp
    (stamped → outcome.1.finish.scope.bindings = [⟨helperName, dateTimeHelper⟩]) ∧
      (¬stamped → outcome.1.finish.scope.bindings = []) := by
  intro outcome stamped
  obtain ⟨entries, holds, made⟩ := holds_run config submissions
  have needed : (entries.any fun entry => entry.form.tag = .timestamp) = true ↔ stamped := by
    have demanded : (entries.any fun entry => entry.form.tag = .timestamp) = true ↔
        ∃ demand ∈ entries.map Entry.toDemand, demand.form.tag = .timestamp := by
      simp
    rw [demanded, made]
    constructor
    · rintro ⟨demand, member, timestamp⟩
      obtain ⟨submission, succeeded, asked⟩ := mem_demands_iff.mp member
      exact ⟨submission, succeeded, (submission.hasType_iff _).mpr ⟨demand, asked, timestamp⟩⟩
    · rintro ⟨submission, succeeded, type⟩
      obtain ⟨demand, asked, timestamp⟩ := (submission.hasType_iff _).mp type
      exact ⟨demand, mem_demands_iff.mpr ⟨submission, succeeded, asked⟩, timestamp⟩
  rw [holds.finish.bindings, bindingsFor]
  exact ⟨fun stamp => if_pos (needed.mpr stamp), fun plain => if_neg (plain ∘ needed.mp)⟩

end TypeForm
