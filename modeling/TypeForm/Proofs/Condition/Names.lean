import TypeForm.Condition.Evaluation
import TypeForm.Proofs.Keyword.Type

/-!
# Names in conditions

A condition speaks of data by names, and calls helpers by names. It has a value wherever all of
these are bound (`Condition.exists_evaluate`). The condition that the `type` keyword emits names the
data that it is about and no other, so that renaming this data gives the condition for other data
(`Form.violated_renamed`), and it calls a helper only for timestamps.
-/
namespace TypeForm
namespace Condition

mutual

/-- The names of data in a condition. -/
def dataNames : Condition → List Ident
  | const _ => []
  | kindIs data _ | isMoment data | isFinite data | compare data _ _ | isWhole data | notNull data
  | call _ data => [data]
  | not condition => dataNames condition
  | and conditions | or conditions => dataNamesOf conditions

def dataNamesOf : List Condition → List Ident
  | [] => []
  | condition :: rest => dataNames condition ++ dataNamesOf rest

end

mutual

/-- The names of helpers that a condition calls. -/
def callees : Condition → List Ident
  | const _ | kindIs _ _ | isMoment _ | isFinite _ | compare _ _ _ | isWhole _ | notNull _ => []
  | call helper _ => [helper]
  | not condition => callees condition
  | and conditions | or conditions => calleesOf conditions

def calleesOf : List Condition → List Ident
  | [] => []
  | condition :: rest => callees condition ++ calleesOf rest

end

mutual

/-- The condition with other names for its data. -/
def mapData (rename : Ident → Ident) : Condition → Condition
  | const value => const value
  | kindIs data kind => kindIs (rename data) kind
  | isMoment data => isMoment (rename data)
  | isFinite data => isFinite (rename data)
  | compare data relation bound => compare (rename data) relation bound
  | isWhole data => isWhole (rename data)
  | notNull data => notNull (rename data)
  | call helper data => call helper (rename data)
  | not condition => not (mapData rename condition)
  | and conditions => and (mapDataOf rename conditions)
  | or conditions => or (mapDataOf rename conditions)

def mapDataOf (rename : Ident → Ident) : List Condition → List Condition
  | [] => []
  | condition :: rest => mapData rename condition :: mapDataOf rename rest

end

/-- The condition with another name in the place of one. -/
def renamed (condition : Condition) (old new : Ident) : Condition :=
  condition.mapData fun name => if name = old then new else name

/-! ### Evaluation where names are bound -/

/-- All names of data and of helpers have a meaning. -/
structure Bound (env : Env) (data helpers : List Ident) : Prop where
  data : ∀ name ∈ data, ∃ value, env.lookup name = .ok value
  helpers : ∀ name ∈ helpers, ∃ helper, env.scope.helper? name = some helper

variable {env : Env}

theorem Bound.test {name : Ident} {helpers : List Ident} (bound : Bound env [name] helpers)
    (holds : Data → Bool) : ∃ value, test env name holds = .ok value := by
  obtain ⟨value, found⟩ := bound.data name List.mem_cons_self
  exact ⟨holds value, by rw [Condition.test, found]; rfl⟩

theorem Bound.left {data others helpers more : List Ident}
    (bound : Bound env (data ++ others) (helpers ++ more)) : Bound env data helpers :=
  ⟨fun name member => bound.data name (List.mem_append_left _ member),
    fun name member => bound.helpers name (List.mem_append_left _ member)⟩

theorem Bound.right {data others helpers more : List Ident}
    (bound : Bound env (data ++ others) (helpers ++ more)) : Bound env others more :=
  ⟨fun name member => bound.data name (List.mem_append_right _ member),
    fun name member => bound.helpers name (List.mem_append_right _ member)⟩

mutual

/-- A condition whose names are bound has a value. -/
theorem exists_evaluate (condition : Condition)
    (bound : Bound env condition.dataNames condition.callees) :
    ∃ value, evaluate env condition = .ok value := by
  cases condition with
  | const value => exact ⟨value, rfl⟩
  | kindIs | isMoment | isFinite | compare | isWhole | notNull => exact bound.test _
  | call helper data =>
    obtain ⟨found, is⟩ := bound.helpers helper List.mem_cons_self
    rw [evaluate, is]
    exact bound.test _
  | not condition =>
    obtain ⟨value, evaluated⟩ := exists_evaluate condition bound
    exact ⟨!value, by rw [evaluate, evaluated]; rfl⟩
  | and conditions => exact exists_evaluateAll conditions bound
  | or conditions => exact exists_evaluateAny conditions bound

theorem exists_evaluateAll (conditions : List Condition)
    (bound : Bound env (dataNamesOf conditions) (calleesOf conditions)) :
    ∃ value, evaluateAll env conditions = .ok value := by
  cases conditions with
  | nil => exact ⟨true, rfl⟩
  | cons condition rest =>
    obtain ⟨value, evaluated⟩ := exists_evaluate condition bound.left
    rw [evaluateAll, evaluated]
    -- The others are evaluated only if this one holds.
    cases value with
    | true => exact exists_evaluateAll rest bound.right
    | false => exact ⟨false, rfl⟩

theorem exists_evaluateAny (conditions : List Condition)
    (bound : Bound env (dataNamesOf conditions) (calleesOf conditions)) :
    ∃ value, evaluateAny env conditions = .ok value := by
  cases conditions with
  | nil => exact ⟨false, rfl⟩
  | cons condition rest =>
    obtain ⟨value, evaluated⟩ := exists_evaluate condition bound.left
    rw [evaluateAny, evaluated]
    cases value with
    | false => exact exists_evaluateAny rest bound.right
    | true => exact ⟨true, rfl⟩

end

end Condition

/-! ### Names that the `type` keyword uses -/

namespace Form

variable (form : Form) (helper data : Ident)

theorem violated_mapData (rename : Ident → Ident) :
    (form.violated helper data).mapData rename = form.violated helper (rename data) := by
  obtain ⟨tag, nullable⟩ := form
  cases nullable <;> cases tag <;> rfl

theorem violated_renamed (name : Ident) :
    (form.violated helper data).renamed data name = form.violated helper name := by
  rw [Condition.renamed, violated_mapData, if_pos rfl]

theorem eq_of_mem_dataNames {name : Ident}
    (member : name ∈ (form.violated helper data).dataNames) : name = data := by
  obtain ⟨tag, nullable⟩ := form
  cases nullable <;> cases tag <;>
    simpa [violated, TypeTag.violated, Condition.dataNames, Condition.dataNamesOf] using member

/-- Only the condition for timestamps calls the helper. -/
theorem callees_violated :
    (form.violated helper data).callees = if form.tag = .timestamp then [helper] else [] := by
  obtain ⟨tag, nullable⟩ := form
  cases nullable <;> cases tag <;> rfl

end Form
end TypeForm
