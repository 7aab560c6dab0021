import TypeForm.Condition.Evaluation
import TypeForm.Proofs.Keyword.Type

/-!
# Tests within their domains

Some tests have an answer for every value, but are meant for some values only: whether a number is
finite is a question about numbers, comparisons with bounds and wholeness are about finite numbers,
and helpers are for texts. Generated source answers otherwise where a test is misused, since it
converts the value first.

## Main result

`evaluateWith_emitted`: the condition that the `type` keyword emits has the same value, or fails for
the same reason, whatever is answered where a test is misused.

## Proof strategy

`evaluateWith` leaves these answers open. They matter exactly if the evaluation reaches a misused
test (`evaluateWith_eq_iff`), and the emitted conditions ask for the kind of the value, and for
finiteness, before they come to such tests (`Form.meant_violated`).
-/
namespace TypeForm
namespace Condition

/-- The value that a test is applied to, if the test is not meant for such values. -/
def misused? (env : Env) : Condition → Option Data
  | isFinite data => (env.lookup data).toOption.filter fun value => value.number?.isNone
  | compare data _ _ | isWhole data =>
    (env.lookup data).toOption.filter fun value => !value.number?.any Binary64.isFinite
  | call _ data => (env.lookup data).toOption.filter fun value => value.string?.isNone
  | _ => none

/-- The answer to a test, which is the given one if the test is misused. -/
def answered (answer : Condition → Data → Except EvalError Bool) (env : Env) (test : Condition) :
    Except EvalError Bool :=
  match test.misused? env with
  | some value => answer test value
  | none => evaluate env test

mutual

/-- The value of a condition where misused tests are answered in another way. -/
def evaluateWith (answer : Condition → Data → Except EvalError Bool) (env : Env) :
    Condition → Except EvalError Bool
  | not condition => (evaluateWith answer env condition).map (!·)
  | and conditions => evaluateAllWith answer env conditions
  | or conditions => evaluateAnyWith answer env conditions
  | test => answered answer env test

def evaluateAllWith (answer : Condition → Data → Except EvalError Bool) (env : Env) :
    List Condition → Except EvalError Bool
  | [] => .ok true
  | condition :: rest =>
    match evaluateWith answer env condition with
    | .ok true => evaluateAllWith answer env rest
    | other => other

def evaluateAnyWith (answer : Condition → Data → Except EvalError Bool) (env : Env) :
    List Condition → Except EvalError Bool
  | [] => .ok false
  | condition :: rest =>
    match evaluateWith answer env condition with
    | .ok false => evaluateAnyWith answer env rest
    | other => other

end

mutual

/-- The evaluation of a condition reaches no misused test. -/
def Meant (env : Env) : Condition → Prop
  | not condition => Meant env condition
  | and conditions => MeantAll env conditions
  | or conditions => MeantAny env conditions
  | test => test.misused? env = none

def MeantAll (env : Env) : List Condition → Prop
  | [] => True
  | condition :: rest =>
    Meant env condition ∧ (evaluate env condition = .ok true → MeantAll env rest)

def MeantAny (env : Env) : List Condition → Prop
  | [] => True
  | condition :: rest =>
    Meant env condition ∧ (evaluate env condition = .ok false → MeantAny env rest)

end

/-! ### Answers where no test is misused -/

section
variable (answer : Condition → Data → Except EvalError Bool) {env : Env}

theorem answered_of_meant {test : Condition} (meant : test.misused? env = none) :
    answered answer env test = evaluate env test := by
  rw [answered, meant]

mutual

theorem evaluateWith_of_meant (condition : Condition) (meant : Meant env condition) :
    evaluateWith answer env condition = evaluate env condition := by
  cases condition with
  | not condition => rw [evaluateWith, evaluate, evaluateWith_of_meant condition meant]
  | and conditions => rw [evaluateWith, evaluate, evaluateAllWith_of_meant conditions meant]
  | or conditions => rw [evaluateWith, evaluate, evaluateAnyWith_of_meant conditions meant]
  | _ => exact answered_of_meant answer meant

theorem evaluateAllWith_of_meant (conditions : List Condition) (meant : MeantAll env conditions) :
    evaluateAllWith answer env conditions = evaluateAll env conditions := by
  cases conditions with
  | nil => rfl
  | cons condition rest =>
    rw [evaluateAllWith, evaluateAll, evaluateWith_of_meant condition meant.1]
    -- The others are reached only if this one holds.
    cases first : evaluate env condition with
    | error error => rfl
    | ok value =>
      cases value with
      | false => rfl
      | true => exact evaluateAllWith_of_meant rest (meant.2 first)

theorem evaluateAnyWith_of_meant (conditions : List Condition) (meant : MeantAny env conditions) :
    evaluateAnyWith answer env conditions = evaluateAny env conditions := by
  cases conditions with
  | nil => rfl
  | cons condition rest =>
    rw [evaluateAnyWith, evaluateAny, evaluateWith_of_meant condition meant.1]
    cases first : evaluate env condition with
    | error error => rfl
    | ok value =>
      cases value with
      | false => exact evaluateAnyWith_of_meant rest (meant.2 first)
      | true => rfl

end
end

/-! ### Errors where a test is misused -/

section
variable (error : EvalError) {env : Env}

theorem answered_of_not_meant {test : Condition} (misused : ¬test.misused? env = none) :
    answered (fun _ _ => .error error) env test = .error error := by
  obtain ⟨value, outside⟩ := Option.ne_none_iff_exists'.mp misused
  rw [answered, outside]

mutual

/-- If misused tests fail for a reason, so does a condition whose evaluation reaches one. -/
theorem evaluateWith_of_not_meant (condition : Condition) (misused : ¬Meant env condition) :
    evaluateWith (fun _ _ => .error error) env condition = .error error := by
  cases condition with
  | not condition =>
    rw [evaluateWith, evaluateWith_of_not_meant condition misused]
    rfl
  | and conditions => exact evaluateAllWith_of_not_meant conditions misused
  | or conditions => exact evaluateAnyWith_of_not_meant conditions misused
  | _ => exact answered_of_not_meant error misused

theorem evaluateAllWith_of_not_meant (conditions : List Condition)
    (misused : ¬MeantAll env conditions) :
    evaluateAllWith (fun _ _ => .error error) env conditions = .error error := by
  cases conditions with
  | nil => exact absurd trivial misused
  | cons condition rest =>
    rw [evaluateAllWith]
    by_cases meant : Meant env condition
    · -- The first condition holds as it did, so that the misused test is in the rest.
      obtain ⟨holds, later⟩ := Classical.not_imp.mp fun rest => misused ⟨meant, rest⟩
      rw [evaluateWith_of_meant _ condition meant, holds]
      exact evaluateAllWith_of_not_meant rest later
    · rw [evaluateWith_of_not_meant condition meant]

theorem evaluateAnyWith_of_not_meant (conditions : List Condition)
    (misused : ¬MeantAny env conditions) :
    evaluateAnyWith (fun _ _ => .error error) env conditions = .error error := by
  cases conditions with
  | nil => exact absurd trivial misused
  | cons condition rest =>
    rw [evaluateAnyWith]
    by_cases meant : Meant env condition
    · obtain ⟨fails, later⟩ := Classical.not_imp.mp fun rest => misused ⟨meant, rest⟩
      rw [evaluateWith_of_meant _ condition meant, fails]
      exact evaluateAnyWith_of_not_meant rest later
    · rw [evaluateWith_of_not_meant condition meant]

end
end

/-- The answers that misused tests get do not matter exactly if none of these tests is reached. -/
theorem evaluateWith_eq_iff {env : Env} {condition : Condition} :
    (∀ answer, evaluateWith answer env condition = evaluate env condition) ↔
      Meant env condition := by
  constructor
  · intro same
    refine Classical.byContradiction fun misused => ?_
    -- Two errors cannot both be the value.
    have unbound := same fun _ _ => .error (.unboundData ⟨""⟩)
    have unknown := same fun _ _ => .error (.unknownHelper ⟨""⟩)
    rw [evaluateWith_of_not_meant _ condition misused] at unbound unknown
    cases unbound.trans unknown.symm
  · intro meant answer
    exact evaluateWith_of_meant answer condition meant

-- By itself, the test for finiteness may be made to accept a text.
example : evaluateWith (fun _ _ => .ok true) ((Env.ofScope .empty).bind ⟨"data0"⟩ (.string "5"))
    (.isFinite ⟨"data0"⟩) = .ok true :=
  rfl

end Condition

open Condition

/-! ### The conditions of the `type` keyword -/

theorem Condition.lookup_of_test {env : Env} {data : Ident} {holds : Data → Bool}
    (passed : test env data holds = .ok true) :
    ∃ value, env.lookup data = .ok value ∧ holds value = true := by
  rw [test] at passed
  cases found : env.lookup data with
  | error error => simp [found, Except.map] at passed
  | ok value => exact ⟨value, rfl, by simpa [found, Except.map] using passed⟩

theorem TypeTag.meant_violated (tag : TypeTag) (env : Env) (helper data : Ident) :
    (tag.violated helper data).Meant env := by
  cases tag with
  | boolean | string | float32 | float64 => rfl
  | timestamp =>
    -- The helper is called for texts only.
    refine ⟨rfl, fun _ => ⟨⟨rfl, fun isText => ⟨?_, fun _ => trivial⟩⟩, fun _ => trivial⟩⟩
    obtain ⟨value, found, kind⟩ := lookup_of_test isText
    change ((env.lookup data).toOption.filter fun value => value.string?.isNone) = none
    rw [found]
    cases value with
    | string text => rfl
    | _ => cases kind
  | int type =>
    refine ⟨rfl, fun isNumber => ⟨?_, fun isFinite => ?_⟩⟩
    · obtain ⟨value, found, kind⟩ := lookup_of_test isNumber
      change ((env.lookup data).toOption.filter fun value => value.number?.isNone) = none
      rw [found]
      cases value with
      | number x => rfl
      | _ => cases kind
    · -- Finite numbers may be compared, and tested for wholeness.
      obtain ⟨value, found, finite⟩ := lookup_of_test isFinite
      have inside : ((env.lookup data).toOption.filter fun value =>
          !value.number?.any Binary64.isFinite) = none := by
        simp [found, Except.toOption, finite]
      exact ⟨inside, fun _ => ⟨inside, fun _ => ⟨inside, fun _ => trivial⟩⟩⟩

theorem Form.meant_violated (form : Form) (env : Env) (helper data : Ident) :
    (form.violated helper data).Meant env := by
  have meant := form.tag.meant_violated env helper data
  cases nullable : form.nullable with
  | false => rwa [violated, if_neg (by simp [nullable])]
  | true =>
    rw [violated, if_pos nullable]
    exact ⟨meant, fun _ => ⟨rfl, fun _ => trivial⟩⟩

/-- The keyword adds one check, whatever the tag and `nullable` are, and in every scope and for all
values bound to names the check does not depend on how tests are answered where they are
misused. -/
theorem evaluateWith_emitted (occurrence : Occurrence) (tag : TypeTag) (draft : Draft) :
    ∃ check, (typeKeyword.emit occurrence tag draft).checks = draft.checks ++ [check] ∧
      ∀ answer env, check.condition.evaluateWith answer env = check.condition.evaluate env := by
  let form : Form := ⟨tag, occurrence.flag "nullable"⟩
  let helper := (draft.bind "func" dateTimeHelper).1
  have same : (if tag = .timestamp then (draft.bind "func" dateTimeHelper).2 else draft).checks =
      draft.checks := by
    split <;> rfl
  refine ⟨⟨occurrence.site.instancePath, occurrence.schemaPath, occurrence.keyword,
    occurrence.schema, occurrence.site.data, form.violated helper occurrence.site.data⟩, ?_, ?_⟩
  · rw [emit_type]
    exact congrArg (· ++ [_]) same
  · intro answer env
    exact evaluateWith_of_meant answer _ (form.meant_violated env helper occurrence.site.data)

end TypeForm
