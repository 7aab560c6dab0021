import TypeForm.Proofs.Session.Run

/-!
# Which schemas compile

A schema node compiles exactly if it is one (`IsNode`), and otherwise the error is its first fault
(`NodeFault`); the fields of an object compile if all of them do, and otherwise the error is that
of the least field that does not.

## Main result

`compile_decides` says this of both ways to compile. The session that a node is added to plays no
part: by `Session.add_result` the outcome of adding is that of `readNode`.
-/
namespace TypeForm

/-- A result is a success exactly where something is accepted, and otherwise its fault. -/
def Decides {α : Type} (result : Except CompileError α) (accepted : Prop)
    (fault : CompileError → Prop) : Prop :=
  ((∃ value, result = .ok value) ↔ accepted) ∧ ∀ error, result = .error error ↔ fault error

/-- What becomes of a success does not change when there is one. -/
theorem Decides.map {α β : Type} {result : Except CompileError α} {accepted : Prop}
    {fault : CompileError → Prop} (decides : Decides result accepted fault) (f : α → β) :
    Decides (result.map f) accepted fault := by
  cases result with
  | ok value => exact ⟨by simpa [Except.map] using decides.1, by simpa [Except.map] using decides.2⟩
  | error found =>
    exact ⟨by simpa [Except.map] using decides.1, by simpa [Except.map] using decides.2⟩

/-- The fault of the least field whose node is not accepted. A field stands under its own name. -/
def FieldFault (fields : Members) (error : CompileError) : Prop :=
  ∃ field ∈ fields, (∀ other ∈ fields, other.1 < field.1 → IsNode other.2) ∧
    NodeFault ("/" ++ Pointer.escape field.1) field.2 error

/-! ### One node -/

theorem readNode_decides {node : Json} (schemaPath : String) (ascending : node.ByKey) :
    Decides (readNode schemaPath node) (IsNode node) (NodeFault schemaPath node) := by
  rcases isNode_or_fault schemaPath ascending with accepted | ⟨fault, faulty⟩
  · -- An accepted node is read without an error, so that no fault can be one of it.
    have read := readNode_of_isNode schemaPath accepted
    refine ⟨⟨fun _ => accepted, fun _ => ⟨_, read⟩⟩, fun error => ⟨fun failed => ?_, fun other => ?_⟩⟩
    · rw [read] at failed
      cases failed
    · exact readNode_of_fault schemaPath ascending other
  · -- Reading gives one error, so that every fault is the one that was found.
    have read := readNode_of_fault schemaPath ascending faulty
    refine ⟨⟨fun ⟨found, succeeded⟩ => ?_, fun accepted => ?_⟩, fun error => ⟨fun failed => ?_,
      fun other => readNode_of_fault schemaPath ascending other⟩⟩
    · rw [read] at succeeded
      cases succeeded
    · exact ⟨_, readNode_of_isNode schemaPath accepted⟩
    · rw [read] at failed
      cases failed
      exact faulty

theorem NodeFault.not_isNode {schemaPath : String} {node : Json} {error : CompileError}
    (fault : NodeFault schemaPath node error) (ascending : node.ByKey) : ¬IsNode node := by
  intro accepted
  have read := readNode_of_isNode schemaPath accepted
  rw [readNode_of_fault schemaPath ascending fault] at read
  cases read

theorem NodeFault.unique {schemaPath : String} {node : Json} {a b : CompileError}
    (left : NodeFault schemaPath node a) (right : NodeFault schemaPath node b)
    (ascending : node.ByKey) : a = b := by
  have read := readNode_of_fault schemaPath ascending left
  rw [readNode_of_fault schemaPath ascending right] at read
  exact (Except.error.inj read).symm

/-! ### Fields -/

section Fields

variable {field : String × Json} {rest : Members} {error : CompileError}

/-- A field that is accepted before the others has no fault and hides none. -/
theorem fieldFault_cons_of_isNode (ascending : field.2.ByKey) (accepted : IsNode field.2) :
    FieldFault (field :: rest) error ↔ FieldFault rest error := by
  constructor
  · rintro ⟨faulty, member, before, fault⟩
    rcases List.mem_cons.mp member with rfl | member
    · -- An accepted node has no fault.
      exact absurd accepted (fault.not_isNode ascending)
    · exact ⟨faulty, member, fun other inside => before other (List.mem_cons_of_mem _ inside),
        fault⟩
  · rintro ⟨faulty, member, before, fault⟩
    refine ⟨faulty, List.mem_cons_of_mem _ member, fun other inside less => ?_, fault⟩
    rcases List.mem_cons.mp inside with rfl | inside
    · exact accepted
    · exact before other inside less

/-- A fault of the first field is the fault of the fields, since keys ascend. -/
theorem fieldFault_cons_of_fault {found : CompileError} (ascending : Ascending (field :: rest))
    (node : field.2.ByKey) (fault : NodeFault ("/" ++ Pointer.escape field.1) field.2 found) :
    FieldFault (field :: rest) error ↔ found = error := by
  have above := (List.pairwise_cons.mp ascending).1
  constructor
  · rintro ⟨faulty, member, before, other⟩
    rcases List.mem_cons.mp member with rfl | member
    · exact fault.unique other node
    · have accepted := before field List.mem_cons_self (above faulty member)
      exact absurd accepted (fault.not_isNode node)
  · rintro rfl
    refine ⟨field, List.mem_cons_self, fun other inside less => ?_, fault⟩
    rcases List.mem_cons.mp inside with rfl | inside
    · exact absurd less (String.lt_irrefl _)
    · exact absurd less (String.lt_asymm (above other inside))

end Fields

namespace Session

/-- At a data path, adding a node has the outcome of reading it. -/
theorem add_result (session : Session) {instancePath : String} (schemaPath : String) (node : Json)
    (valid : isDataPath instancePath = true) :
    (session.add instancePath schemaPath node).2 = (readNode schemaPath node).map fun _ => () := by
  -- Every step but the refusal of the path goes by what reading finds.
  have step := session.submit_step ⟨instancePath, schemaPath, node⟩
  change session.Step _ (session.add instancePath schemaPath node) at step
  generalize session.add instancePath schemaPath node = result at step
  cases step with
  | misplaced invalid => exact absurd (valid.symm.trans invalid) (by decide)
  | misshapen read | faulty read | untyped read | typed read => rw [read]; rfl

theorem isDataPath_slash (path : String) : isDataPath ("/" ++ path) = true := by
  simp [isDataPath]

/-- Adding fields succeeds up to the first that is not accepted. -/
theorem addFields_decides (session : Session) {fields : Members} (ascending : Ascending fields)
    (nodes : ∀ field ∈ fields, field.2.ByKey) :
    Decides (session.addFields fields) (∀ field ∈ fields, IsNode field.2) (FieldFault fields) := by
  induction fields generalizing session with
  | nil => simp [Decides, addFields, FieldFault]
  | cons field rest ih =>
    obtain ⟨name, node⟩ := field
    have byKey : node.ByKey := nodes _ List.mem_cons_self
    have outcome := session.add_result ("/" ++ Pointer.escape name) node
      (isDataPath_slash (Pointer.escape name))
    rw [addFields]
    generalize session.add _ _ node = added at outcome ⊢
    obtain ⟨next, result⟩ := added
    rcases isNode_or_fault ("/" ++ Pointer.escape name) byKey with accepted | ⟨fault, faulty⟩
    · -- The field is accepted, so the rest decides.
      rw [readNode_of_isNode _ accepted] at outcome
      obtain rfl : result = .ok () := outcome
      have rests := ih next (List.pairwise_cons.mp ascending).2 fun other member =>
        nodes other (List.mem_cons_of_mem _ member)
      refine ⟨rests.1.trans ?_, fun error => (rests.2 error).trans ?_⟩
      · simp [accepted]
      · exact (fieldFault_cons_of_isNode byKey accepted).symm
    · -- The field is at fault, and none of the rest is looked at.
      rw [readNode_of_fault _ byKey faulty] at outcome
      obtain rfl : result = .error fault := outcome
      refine ⟨?_, fun error => ?_⟩
      · simp [faulty.not_isNode byKey]
      · rw [fieldFault_cons_of_fault ascending byKey faulty]
        simp

end Session

theorem NodeFault.of_schema {schemaPath : String} {node : Json} {error : CompileError}
    (fault : NodeFault schemaPath node error) :
    (∀ keyword reason path, error ≠ .invalidKeywordValue keyword reason path) ∧
      ∀ path, error ≠ .invalidDataPath path := by
  cases fault <;> simp

theorem compile_eq (config : Config) (node : Json) :
    compile config node = ((Session.start config).add "" "" node).2.map fun _ =>
      ((Session.start config).add "" "" node).1.finish := by
  unfold compile
  generalize (Session.start config).add "" "" node = added
  obtain ⟨session, result⟩ := added
  cases result <;> rfl

/-- Compiling a node and compiling fields decide whether these are accepted; with keys in order,
as in any object that was read from a text, the error is the first fault of the least field at
fault. Neither a refused data path nor a value that cannot be decoded is ever the reason. -/
theorem compile_decides (config : Config) {node : Json} {fields : Members} (ascending : node.ByKey)
    (sorted : Ascending fields) (nodes : ∀ field ∈ fields, field.2.ByKey) :
    Decides (compile config node) (IsNode node) (NodeFault "" node) ∧
      Decides (compileFields config fields) (∀ field ∈ fields, IsNode field.2)
        (FieldFault fields) ∧
      ∀ error, compile config node = .error error ∨ compileFields config fields = .error error →
        (∀ keyword reason path, error ≠ .invalidKeywordValue keyword reason path) ∧
          ∀ path, error ≠ .invalidDataPath path := by
  have one : Decides (compile config node) (IsNode node) (NodeFault "" node) := by
    rw [compile_eq, (Session.start config).add_result "" node rfl]
    exact ((readNode_decides "" ascending).map _).map _
  have several : Decides (compileFields config fields) (∀ field ∈ fields, IsNode field.2)
      (FieldFault fields) :=
    ((Session.start config).addFields_decides sorted nodes).map _
  refine ⟨one, several, fun error failed => ?_⟩
  rcases failed with failed | failed
  · exact ((one.2 error).mp failed).of_schema
  · obtain ⟨field, -, -, fault⟩ := (several.2 error).mp failed
    exact fault.of_schema

/-- A node with two faults is reported for the keyword that is not supported, and fields are
reported for the one whose tag is unknown. -/
theorem compile_decides_faulty :
    (Json.object [("shape", .null), ("type", .null)]).ByKey ∧
      Ascending [("at", Json.object []), ("on", .object [("type", .string "date")])] ∧
      NodeFault "" (.object [("shape", .null), ("type", .null)])
        (.unsupportedKeyword "shape" "/shape") ∧
      FieldFault [("at", .object []), ("on", .object [("type", .string "date")])]
        (.keywordEnum "type" TypeTag.names (.string "date") "/on/type") := by
  have ascending : (Json.object [("shape", .null), ("type", .null)]).ByKey :=
    Json.byKey_object.mpr (List.pairwise_pair.mpr (by decide))
  have sorted : Ascending [("at", Json.object []), ("on", .object [("type", .string "date")])] :=
    List.pairwise_pair.mpr (by decide)
  have nodes : ∀ field ∈ [("at", Json.object []), ("on", .object [("type", .string "date")])],
      field.2.ByKey := by
    simp [Json.byKey_object, Ascending]
  obtain ⟨one, several, -⟩ := compile_decides .default ascending sorted nodes
  exact ⟨ascending, sorted, (one.2 _).mp rfl, (several.2 _).mp rfl⟩

end TypeForm
