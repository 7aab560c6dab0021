import TypeForm.Proofs.Data.Pointer
import TypeForm.Proofs.Session.Acceptance
import TypeForm.Proofs.Session.Compilation
import TypeForm.Proofs.Session.Validation

/-!
# Where errors and failures point

Fields are compiled under pointers that are put together from their names. Followed from the object
of all fields, the pointer of a compile error leads to the value at fault, and that of a failure to
the tag that the document failed; the failure's other pointer leads to the value in the document
that failed it. Names and keywords may be any texts, also empty ones and ones with slashes and
tildes.

## Main result

`compileFields_points` says this of compiling fields, for both outcomes.
-/
namespace TypeForm

/-- What an error finds fault with in a node, and by which tokens it is reached from there: the node
itself if it is no object, and otherwise the value of one of its keys. -/
inductive CompileError.Blames : CompileError → Json → List String → Json → Prop
  | shape {path : String} {node : Json} (other : ∀ members, node ≠ .object members) :
      Blames (.notObject path) node [] node
  | kind {keyword path : String} {expected : JsonType} {members : Members} {value : Json}
      (asked : (keyword, expected) ∈
        [("nullable", .boolean), ("metadata", .object), ("type", JsonType.string)])
      (found : members.value? keyword = some value) (wrong : expected.accepts value = false) :
      Blames (.keywordType keyword expected path) (.object members) [keyword] value
  | choice {path text : String} {members : Members}
      (found : members.value? "type" = some (.string text))
      (wrong : ∀ tag : TypeTag, text ≠ tag.name) :
      Blames (.keywordEnum "type" TypeTag.names (.string text) path) (.object members) ["type"]
        (.string text)
  | unsupported {keyword path : String} {members : Members} {value : Json}
      (found : members.value? keyword = some value)
      (wrong : keyword ∉ ["type", "nullable", "metadata"]) :
      Blames (.unsupportedKeyword keyword path) (.object members) [keyword] value

/-- A failure points at the tag of a field's node, and in the document at a value that the node does
not accept. -/
def Failure.PointsInto (failure : Failure) (fields : Members) (document : Data) : Prop :=
  ∃ field ∈ fields, ∃ form value,
    Form.ofNode? field.2 = some form ∧
    failure.schema = .string form.tag.name ∧
    failure.schemaPath = Pointer.ofTokens [field.1, "type"] ∧
    (Data.ofJson (.object fields)).pointer failure.schemaPath = some (.string form.tag.name) ∧
    failure.instancePath = Pointer.ofTokens [field.1] ∧
    document.pointer failure.instancePath = some value ∧ ¬form.Conforms value

/-! ### Following pointers into fields -/

theorem Members.exists_value? {members : Members} {key : String}
    (present : key ∈ members.map (·.1)) : ∃ value, members.value? key = some value := by
  obtain ⟨member, inside, rfl⟩ := List.mem_map.mp present
  have some : (members.find? fun other => other.1 == member.1).isSome :=
    List.find?_isSome.mpr ⟨member, inside, by simp⟩
  obtain ⟨found, is⟩ := Option.isSome_iff_exists.mp some
  exact ⟨found.2, by rw [Members.value?, is, Option.map_some]⟩

/-- Where keys ascend, a member is found by its key. -/
theorem Members.value?_of_mem {members : Members} (ascending : Ascending members)
    {member : String × Json} (inside : member ∈ members) :
    members.value? member.1 = some member.2 := by
  obtain ⟨before, after, rfl⟩ := List.append_of_mem inside
  -- The members before it have lesser keys.
  have less := (List.pairwise_append.mp ascending).2.2
  have earlier : before.find? (fun other => other.1 == member.1) = none := by
    refine List.find?_eq_none.mpr fun other present same => ?_
    have above := less other present member List.mem_cons_self
    rw [beq_iff_eq.mp same] at above
    exact String.lt_irrefl _ above
  simp [Members.value?, List.find?_append, earlier]

/-- What is reached from the fields through the name of one of them is what is reached from its
node. -/
theorem pointer_field {fields : Members} (sorted : Ascending fields) {field : String × Json}
    (member : field ∈ fields) (tokens : List String) :
    (Data.ofJson (.object fields)).pointer (Pointer.ofTokens (field.1 :: tokens)) =
      (Data.ofJson field.2).lookup tokens := by
  rw [Data.pointer_ofTokens, Data.lookup, Data.child?_ofJson, Members.value?_of_mem sorted member]
  rfl

theorem lookup_key {members : Members} {key : String} {value : Json}
    (found : members.value? key = some value) :
    (Data.ofJson (.object members)).lookup [key] = some (Data.ofJson value) := by
  rw [Data.lookup, Data.child?_ofJson, found]
  rfl

namespace Pointer

theorem ofTokens_one (token : String) : ofTokens [token] = "/" ++ escape token := by
  simp [ofTokens, String.join]

theorem ofTokens_two (first second : String) :
    ofTokens [first, second] = "/" ++ escape first ++ "/" ++ escape second := by
  simp [ofTokens, String.join, String.append_assoc]

end Pointer

/-! ### Compile errors -/

/-- The fault of a field's node is where the error points. -/
theorem NodeFault.blames {name : String} {node : Json} {error : CompileError}
    (fault : NodeFault ("/" ++ Pointer.escape name) node error) :
    ∃ tokens value, error.Blames node tokens value ∧
      error.schemaPath? = some (Pointer.ofTokens (name :: tokens)) ∧
      (Data.ofJson node).lookup tokens = some (Data.ofJson value) := by
  -- A path to a keyword, which is its own spelling.
  have path {keyword : String} (plain : Pointer.escape keyword = keyword) :
      "/" ++ Pointer.escape name ++ "/" ++ keyword = Pointer.ofTokens [name, keyword] := by
    rw [Pointer.ofTokens_two, plain]
  cases fault with
  | shape other =>
    exact ⟨[], node, .shape other, congrArg some (Pointer.ofTokens_one name).symm, rfl⟩
  | @keyword members key least =>
    obtain ⟨value, found⟩ := Members.exists_value? least.1
    exact ⟨[key], value, .unsupported found least.2.1,
      congrArg some (Pointer.ofTokens_two name key).symm, lookup_key found⟩
  | @nullable members value _ found wrong =>
    have refused : JsonType.boolean.accepts value = false := by
      rw [← Bool.not_eq_true, JsonType.accepts_boolean]
      exact not_exists.mpr wrong
    exact ⟨["nullable"], value, .kind (by simp) found refused,
      congrArg some (path (by decide)), lookup_key found⟩
  | @metadata members value _ _ found wrong =>
    have refused : JsonType.object.accepts value = false := by
      rw [← Bool.not_eq_true, JsonType.accepts_object]
      exact not_exists.mpr wrong
    exact ⟨["metadata"], value, .kind (by simp) found refused,
      congrArg some (path (by decide)), lookup_key found⟩
  | @typeKind members value _ _ _ found wrong =>
    have refused : JsonType.string.accepts value = false := by
      cases value with
      | string text => exact absurd rfl (wrong text)
      | _ => rfl
    exact ⟨["type"], value, .kind (by simp) found refused,
      congrArg some (path (by decide)), lookup_key found⟩
  | @typeName members text _ _ _ found wrong =>
    exact ⟨["type"], .string text, .choice found wrong, congrArg some (path (by decide)),
      lookup_key found⟩

/-! ### Failures -/

theorem mem_of_mem_reported {allErrors : Bool} {failures : List Failure} {failure : Failure}
    (member : failure ∈ reported allErrors failures) : failure ∈ failures := by
  unfold reported at member
  split at member
  · exact member
  · exact List.mem_of_mem_take member

/-- A document fails a demand at a value that does not conform. -/
theorem Demand.exists_of_failure? {demand : Demand} {document : Data} {failure : Failure}
    (failed : demand.failure? document = some failure) :
    ∃ value, document.pointer demand.instancePath = some value ∧ ¬demand.form.Conforms value ∧
      failure = ⟨demand.instancePath, demand.schemaPath ++ "/" ++ "type", "type",
        .string demand.form.tag.name⟩ := by
  unfold failure? at failed
  split at failed
  · cases failed
  · rename_i value there
    split at failed
    · cases failed
    · rename_i violates
      exact ⟨value, there, violates, (Option.some.inj failed).symm⟩

/-- A document fails the demand of a field at the value of that field. -/
theorem Failure.pointsInto_of_demand {fields : Members} (sorted : Ascending fields)
    {field : String × Json} (member : field ∈ fields) {demand : Demand} {document : Data}
    {failure : Failure} (made : (Submission.ofField field).demand? = some demand)
    (failed : demand.failure? document = some failure) : failure.PointsInto fields document := by
  obtain ⟨form, read, rfl⟩ := Option.map_eq_some_iff.mp made
  obtain ⟨members, node, type⟩ := Form.type_of_ofNode? read
  obtain ⟨value, there, violates, rfl⟩ := Demand.exists_of_failure? failed
  have schemaPath : "/" ++ Pointer.escape field.1 ++ "/" ++ "type" =
      Pointer.ofTokens [field.1, "type"] := by
    rw [Pointer.ofTokens_two]
    rfl
  have leads : (Data.ofJson (.object fields)).pointer (Pointer.ofTokens [field.1, "type"]) =
      some (.string form.tag.name) := by
    have object : field.2 = .object members := node
    rw [pointer_field sorted member, object]
    exact lookup_key type
  exact ⟨field, member, form, value, read, rfl, schemaPath,
    (congrArg (Data.ofJson (.object fields)).pointer schemaPath).trans leads,
    (Pointer.ofTokens_one field.1).symm, there, violates⟩

/-- Fields either have a fault, to which the pointer of the error leads, or compile to a validator
that answers for every document, and each of whose failures points at a tag and at a value that
violates it. -/
theorem compileFields_points (config : Config) {fields : Members} (sorted : Ascending fields)
    (nodes : ∀ field ∈ fields, field.2.ByKey) :
    match compileFields config fields with
    | .error error =>
      ∃ field ∈ fields, ∃ tokens value, error.Blames field.2 tokens value ∧
        error.schemaPath? = some (Pointer.ofTokens (field.1 :: tokens)) ∧
        (Data.ofJson (.object fields)).pointer (Pointer.ofTokens (field.1 :: tokens)) =
          some (Data.ofJson value)
    | .ok validator =>
      ∀ document, ∃ failures, validator.validate document = .ok failures ∧
        ∀ failure ∈ failures, failure.PointsInto fields document := by
  cases compiled : compileFields config fields with
  | error error =>
    have decides := ((Session.start config).addFields_decides sorted nodes).map Session.finish
    obtain ⟨field, member, -, fault⟩ := (decides.2 error).mp compiled
    obtain ⟨tokens, value, blames, path, leads⟩ := fault.blames
    exact ⟨field, member, tokens, value, blames, path,
      (pointer_field sorted member tokens).trans leads⟩
  | ok validator =>
    intro document
    obtain ⟨entries, holds, made⟩ := compileFields_demands compiled
    refine ⟨_, holds.validate document, fun failure reported => ?_⟩
    -- The failure is that of a demand, and the demand that of a field.
    obtain ⟨demand, demanded, failed⟩ := List.mem_filterMap.mp (mem_of_mem_reported reported)
    rw [made] at demanded
    obtain ⟨submission, submitted, asked⟩ := List.mem_filterMap.mp demanded
    obtain ⟨field, member, rfl⟩ := List.mem_map.mp submitted
    exact Failure.pointsInto_of_demand sorted member asked failed

/-- The fault is under a key with a tilde, in the node of a field with a slash. -/
theorem compileFields_points_slash :
    Ascending [("", Json.object []), ("a/b", .object [("~1", .null)])] ∧
      (∀ field ∈ [("", Json.object []), ("a/b", .object [("~1", .null)])], field.2.ByKey) ∧
      compileFields .default [("", .object []), ("a/b", .object [("~1", .null)])] =
        .error (.unsupportedKeyword "~1" "/a~1b/~01") ∧
      ∃ field ∈ [("", Json.object []), ("a/b", .object [("~1", .null)])], ∃ tokens value,
        (CompileError.unsupportedKeyword "~1" "/a~1b/~01").Blames field.2 tokens value ∧
          some "/a~1b/~01" = some (Pointer.ofTokens (field.1 :: tokens)) ∧
          (Data.ofJson (.object [("", .object []), ("a/b", .object [("~1", .null)])])).pointer
            (Pointer.ofTokens (field.1 :: tokens)) = some (Data.ofJson value) := by
  have sorted : Ascending [("", Json.object []), ("a/b", .object [("~1", .null)])] :=
    List.pairwise_pair.mpr (by decide)
  have nodes : ∀ field ∈ [("", Json.object []), ("a/b", .object [("~1", .null)])],
      field.2.ByKey := by
    simp [Json.byKey_object, Ascending]
  have refused : compileFields .default [("", .object []), ("a/b", .object [("~1", .null)])] =
      .error (.unsupportedKeyword "~1" "/a~1b/~01") := rfl
  have points := compileFields_points .default sorted nodes
  rw [refused] at points
  exact ⟨sorted, nodes, refused, points⟩

end TypeForm
