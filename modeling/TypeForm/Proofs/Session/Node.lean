import TypeForm.Proofs.Keyword.Type
import TypeForm.Session

/-!
# What a schema node is

Which nodes are accepted and which fault of another node is reported, said by the members of the
node alone. Compiling looks at a node in two layers, first at its shape and then at the value of
`type`; `readNode` runs both without a session, and it finds the form of an accepted node
(`readNode_of_isNode`) and the first fault of any other (`readNode_of_fault`).
-/
namespace TypeForm

/-- What a schema node asks for: the tag that its `type` names, and whether `nullable` is true. -/
def Form.ofNode? (node : Json) : Option Form := do
  let members ← node.members?
  let value ← members.value? "type"
  let tag ← value.string?.bind TypeTag.ofName?
  some ⟨tag, decide (members.value? "nullable" = some (.bool true))⟩

namespace Members

/-- Every key is a keyword that a node may have. -/
def Supported (members : Members) : Prop :=
  ∀ member ∈ members, member.1 ∈ ["type", "nullable", "metadata"]

/-- A `nullable` is a boolean. -/
def NullableFits (members : Members) : Prop :=
  ∀ value, members.value? "nullable" = some value → ∃ b, value = .bool b

/-- A `metadata` is an object. -/
def MetadataFits (members : Members) : Prop :=
  ∀ value, members.value? "metadata" = some value → ∃ inner, value = .object inner

/-- A `type` is the name of a tag. -/
def TypeFits (members : Members) : Prop :=
  ∀ value, members.value? "type" = some value → ∃ tag : TypeTag, value = .string tag.name

/-- A key that is no keyword of nodes, and the least such key. -/
def LeastUnsupported (members : Members) (key : String) : Prop :=
  key ∈ members.map (·.1) ∧ key ∉ ["type", "nullable", "metadata"] ∧
    ∀ other ∈ members.map (·.1), other ∉ ["type", "nullable", "metadata"] → key ≤ other

end Members

/-- An object lists its members by ascending key, as one that was read from a text does. -/
def Json.ByKey (value : Json) : Prop :=
  ∀ members, value = .object members → Ascending members

theorem Json.byKey_object {members : Members} : (object members).ByKey ↔ Ascending members := by
  constructor
  · exact fun byKey => byKey members rfl
  · rintro ascending _ same
    cases same
    exact ascending

/-- The schema nodes that compile. -/
def IsNode (node : Json) : Prop :=
  ∃ members : Members, node = .object members ∧ members.Supported ∧ members.NullableFits ∧
    members.MetadataFits ∧ members.TypeFits

/-- The first fault of a node that stands at a schema path. Each case presupposes that those
before it do not apply. -/
inductive NodeFault (schemaPath : String) : Json → CompileError → Prop
  | shape {node : Json} (other : ∀ members, node ≠ .object members) :
      NodeFault schemaPath node (.notObject schemaPath)
  | keyword {members : Members} {key : String} (least : members.LeastUnsupported key) :
      NodeFault schemaPath (.object members)
        (.unsupportedKeyword key (schemaPath ++ "/" ++ Pointer.escape key))
  | nullable {members : Members} {value : Json} (supported : members.Supported)
      (found : members.value? "nullable" = some value) (wrong : ∀ b, value ≠ .bool b) :
      NodeFault schemaPath (.object members)
        (.keywordType "nullable" .boolean (schemaPath ++ "/" ++ "nullable"))
  | metadata {members : Members} {value : Json} (supported : members.Supported)
      (nullable : members.NullableFits)
      (found : members.value? "metadata" = some value) (wrong : ∀ inner, value ≠ .object inner) :
      NodeFault schemaPath (.object members)
        (.keywordType "metadata" .object (schemaPath ++ "/" ++ "metadata"))
  | typeKind {members : Members} {value : Json} (supported : members.Supported)
      (nullable : members.NullableFits) (metadata : members.MetadataFits)
      (found : members.value? "type" = some value) (wrong : ∀ text, value ≠ .string text) :
      NodeFault schemaPath (.object members) (.keywordType "type" .string (schemaPath ++ "/" ++ "type"))
  | typeName {members : Members} {text : String} (supported : members.Supported)
      (nullable : members.NullableFits) (metadata : members.MetadataFits)
      (found : members.value? "type" = some (.string text))
      (wrong : ∀ tag : TypeTag, text ≠ tag.name) :
      NodeFault schemaPath (.object members)
        (.keywordEnum "type" TypeTag.names (.string text) (schemaPath ++ "/" ++ "type"))

/-- What compiling finds in a node before it adds anything: a form, no form, or a fault. -/
def readNode (schemaPath : String) (node : Json) : Except CompileError (Option Form) :=
  match Session.checkNode schemaPath node with
  | .error error => .error error
  | .ok members =>
    match members.value? "type" with
    | none => .ok none
    | some value =>
      match typeKeyword.readValue (schemaPath ++ "/" ++ "type") value with
      | .error error => .error error
      | .ok tag => .ok (some ⟨tag, decide (members.value? "nullable" = some (.bool true))⟩)

/-! ### The shape of a node -/

theorem Members.LeastUnsupported.unique {members : Members} {a b : String}
    (left : members.LeastUnsupported a) (right : members.LeastUnsupported b) : a = b :=
  String.le_antisymm (left.2.2 b right.1 right.2.1) (right.2.2 a left.1 left.2.1)

namespace JsonType

theorem accepts_boolean (value : Json) : boolean.accepts value = true ↔ ∃ b, value = .bool b := by
  cases value <;> simp [accepts]

theorem accepts_object (value : Json) :
    object.accepts value = true ↔ ∃ inner, value = .object inner := by
  cases value <;> simp [accepts]

end JsonType

namespace Session

theorem checkMember_of_fits {members : Members} {schemaPath keyword : String}
    {expected : JsonType}
    (fits : ∀ value, members.value? keyword = some value → expected.accepts value = true) :
    checkMember members schemaPath keyword expected = .ok () := by
  unfold checkMember
  cases found : members.value? keyword with
  | none => rfl
  | some value => simp [fits value found]

theorem checkMember_of_wrong {members : Members} {schemaPath keyword : String}
    {expected : JsonType} {value : Json} (found : members.value? keyword = some value)
    (wrong : ¬expected.accepts value = true) :
    checkMember members schemaPath keyword expected =
      .error (.keywordType keyword expected (schemaPath ++ "/" ++ keyword)) := by
  simp [checkMember, found, wrong]

theorem unsupported_iff (key : String) :
    (!supportedKeywords.contains key) = true ↔ key ∉ ["type", "nullable", "metadata"] := by
  rw [Bool.not_eq_true', ← Bool.not_eq_true, List.contains_iff_mem]
  rfl

theorem find_eq_none_iff (members : Members) :
    members.find? (fun member => !supportedKeywords.contains member.1) = none ↔
      members.Supported := by
  simp only [List.find?_eq_none, unsupported_iff, Classical.not_not, Members.Supported]

/-- With supported keywords only, the two members are checked one after the other. -/
theorem checkNode_of_supported {members : Members} (schemaPath : String)
    (supported : members.Supported) :
    checkNode schemaPath (.object members) =
      (checkMember members schemaPath "nullable" .boolean).bind fun _ =>
        (checkMember members schemaPath "metadata" .object).bind fun _ => .ok members := by
  simp only [checkNode, Json.members?, (find_eq_none_iff members).mpr supported]
  rfl

theorem checkNode_of_shape {members : Members} (schemaPath : String)
    (supported : members.Supported) (nullable : members.NullableFits)
    (metadata : members.MetadataFits) :
    checkNode schemaPath (.object members) = .ok members := by
  rw [checkNode_of_supported schemaPath supported,
    checkMember_of_fits fun value found =>
      (JsonType.accepts_boolean value).mpr (nullable value found),
    checkMember_of_fits fun value found =>
      (JsonType.accepts_object value).mpr (metadata value found)]
  rfl

/-- Where keys ascend, the first unsupported keyword is the least. -/
theorem leastUnsupported_of_found {members : Members} {first : String × Json}
    (ascending : Ascending members)
    (found : members.find? (fun member => !supportedKeywords.contains member.1) = some first) :
    members.LeastUnsupported first.1 := by
  obtain ⟨offends, before, after, split, fine⟩ := List.find?_eq_some_iff_append.mp found
  refine ⟨List.mem_map.mpr ⟨first, by simp [split], rfl⟩,
    (unsupported_iff _).mp offends, fun other present offending => ?_⟩
  obtain ⟨member, inside, rfl⟩ := List.mem_map.mp present
  rw [split] at inside ascending
  rcases List.mem_append.mp inside with earlier | later
  · -- What stands before the first unsupported keyword is supported.
    have supported := fine member earlier
    rw [(unsupported_iff _).mpr offending] at supported
    exact absurd supported (by decide)
  · rcases List.mem_cons.mp later with rfl | later
    · exact String.le_refl _
    · have above := (List.pairwise_cons.mp (List.pairwise_append.mp ascending).2.1).1
      exact String.not_lt.mp (String.lt_asymm (above member later))

theorem checkNode_of_unsupported {members : Members} {key : String} (schemaPath : String)
    (ascending : Ascending members) (least : members.LeastUnsupported key) :
    checkNode schemaPath (.object members) =
      .error (.unsupportedKeyword key (schemaPath ++ "/" ++ Pointer.escape key)) := by
  obtain ⟨member, inside, same⟩ := List.mem_map.mp least.1
  have some : (members.find? fun member => !supportedKeywords.contains member.1).isSome := by
    rw [List.find?_isSome]
    exact ⟨member, inside, (unsupported_iff _).mpr (same ▸ least.2.1)⟩
  obtain ⟨first, found⟩ := Option.isSome_iff_exists.mp some
  simp only [checkNode, Json.members?, found,
    (leastUnsupported_of_found ascending found).unique least]

end Session

/-! ### Reading a node -/

theorem Form.ofNode?_of_type {members : Members} {tag : TypeTag}
    (found : members.value? "type" = some (.string tag.name)) :
    ofNode? (.object members) =
      some ⟨tag, decide (members.value? "nullable" = some (.bool true))⟩ := by
  simp [ofNode?, Json.members?, found, Json.string?, TypeTag.ofName?_name]

/-- The tag of a form is in the node that the form was read from. -/
theorem Form.type_of_ofNode? {node : Json} {form : Form} (read : ofNode? node = some form) :
    ∃ members : Members, node = .object members ∧
      members.value? "type" = some (.string form.tag.name) := by
  simp only [ofNode?, Option.bind_eq_bind, Option.bind_eq_some_iff] at read
  obtain ⟨members, object, value, found, tag, named, same⟩ := read
  obtain ⟨text, spelled, known⟩ := named
  cases same
  cases node with
  | object =>
    cases object
    cases value with
    | string =>
      cases spelled
      exact ⟨members, rfl, by rw [found, TypeTag.ofName?_eq_some_iff.mp known]⟩
    | _ => cases spelled
  | _ => cases object

theorem readNode_of_isNode {node : Json} (schemaPath : String) (accepted : IsNode node) :
    readNode schemaPath node = .ok (Form.ofNode? node) := by
  obtain ⟨members, rfl, supported, nullable, metadata, type⟩ := accepted
  simp only [readNode, Session.checkNode_of_shape schemaPath supported nullable metadata]
  cases found : members.value? "type" with
  | none => simp [Form.ofNode?, Json.members?, found]
  | some value =>
    obtain ⟨tag, rfl⟩ := type value found
    simp [readValue_type, TypeTag.ofName?_name, Form.ofNode?, Json.members?, found, Json.string?]

theorem members_of_checkNode {schemaPath : String} {node : Json} {members : Members}
    (returned : Session.checkNode schemaPath node = .ok members) : node = .object members := by
  unfold Session.checkNode at returned
  cases node with
  | object inner =>
    simp only [Json.members?] at returned
    split at returned
    · cases returned
    · cases first : Session.checkMember inner schemaPath "nullable" .boolean with
      | error => simp [first, bind, Except.bind] at returned
      | ok =>
        cases second : Session.checkMember inner schemaPath "metadata" .object with
        | error => simp [first, second, bind, Except.bind] at returned
        | ok => simpa [first, second, bind, Except.bind] using returned
  | _ => simp [Json.members?] at returned

/-- What reading finds in a node does not depend on where the node stands. -/
theorem ofNode?_of_readNode {schemaPath : String} {node : Json} {found : Option Form}
    (read : readNode schemaPath node = .ok found) : Form.ofNode? node = found := by
  unfold readNode at read
  cases shape : Session.checkNode schemaPath node with
  | error => simp [shape] at read
  | ok members =>
    obtain rfl := members_of_checkNode shape
    cases type : members.value? "type" with
    | none => simpa [shape, type, Form.ofNode?, Json.members?] using read
    | some value =>
      simp only [shape, type, readValue_type] at read
      cases value with
      | string text =>
        cases known : TypeTag.ofName? text with
        | none => simp [known] at read
        | some tag => simpa [known, type, Form.ofNode?, Json.members?, Json.string?] using read
      | _ => simp at read

theorem readNode_of_fault {node : Json} {error : CompileError} (schemaPath : String)
    (ascending : node.ByKey)
    (fault : NodeFault schemaPath node error) : readNode schemaPath node = .error error := by
  -- A fault comes with the checks that were passed before it, so that each case runs up to its own.
  cases fault with
  | shape other =>
    cases node with
    | object members => exact absurd rfl (other members)
    | _ => rfl
  | keyword least =>
    simp only [readNode, Session.checkNode_of_unsupported schemaPath (ascending _ rfl) least]
  | nullable supported found wrong =>
    have fails : Session.checkMember _ schemaPath "nullable" .boolean = _ :=
      Session.checkMember_of_wrong found fun accepted =>
        have ⟨b, same⟩ := (JsonType.accepts_boolean _).mp accepted
        wrong b same
    rw [readNode, Session.checkNode_of_supported schemaPath supported, fails]
    rfl
  | metadata supported nullable found wrong =>
    have passes : Session.checkMember _ schemaPath "nullable" .boolean = .ok () :=
      Session.checkMember_of_fits fun value present =>
        (JsonType.accepts_boolean value).mpr (nullable value present)
    have fails : Session.checkMember _ schemaPath "metadata" .object = _ :=
      Session.checkMember_of_wrong found fun accepted =>
        have ⟨inner, same⟩ := (JsonType.accepts_object _).mp accepted
        wrong inner same
    rw [readNode, Session.checkNode_of_supported schemaPath supported, passes, fails]
    rfl
  | @typeKind members value supported nullable metadata found wrong =>
    -- The match on strings is settled by the hypothesis that the value is none.
    simp only [readNode, Session.checkNode_of_shape schemaPath supported nullable metadata, found,
      readValue_type]
  | @typeName members text supported nullable metadata found wrong =>
    have unknown : TypeTag.ofName? text = none := by
      rw [Option.eq_none_iff_forall_ne_some]
      exact fun tag known => wrong tag (TypeTag.ofName?_eq_some_iff.mp known)
    simp only [readNode, Session.checkNode_of_shape schemaPath supported nullable metadata, found,
      readValue_type, unknown]

private theorem exists_misfit {α : Type} {found : Option Json} {make : α → Json}
    (misfit : ¬∀ value, found = some value → ∃ a, value = make a) :
    ∃ value, found = some value ∧ ∀ a, value ≠ make a := by
  obtain ⟨value, wrong⟩ := Classical.not_forall.mp misfit
  obtain ⟨present, wrong⟩ := Classical.not_imp.mp wrong
  exact ⟨value, present, not_exists.mp wrong⟩

/-- A node is accepted or has a first fault. -/
theorem isNode_or_fault {node : Json} (schemaPath : String) (ascending : node.ByKey) :
    IsNode node ∨ ∃ error, NodeFault schemaPath node error := by
  -- Faults are looked for in the order of the cases of `NodeFault`.
  by_cases object : ∃ members, node = .object members
  · obtain ⟨members, rfl⟩ := object
    cases unsupported : members.find? fun member =>
        !Session.supportedKeywords.contains member.1 with
    | some first =>
      have least := Session.leastUnsupported_of_found (ascending _ rfl) unsupported
      exact .inr ⟨_, .keyword least⟩
    | none =>
      have supported := (Session.find_eq_none_iff members).mp unsupported
      by_cases nullable : Members.NullableFits members
      · by_cases metadata : Members.MetadataFits members
        · by_cases type : Members.TypeFits members
          · exact .inl ⟨members, rfl, supported, nullable, metadata, type⟩
          · obtain ⟨value, found, wrong⟩ := exists_misfit type
            by_cases text : ∃ text, value = .string text
            · obtain ⟨text, rfl⟩ := text
              have unknown : ∀ tag : TypeTag, text ≠ tag.name := by simpa using wrong
              exact .inr ⟨_, .typeName supported nullable metadata found unknown⟩
            · exact .inr ⟨_, .typeKind supported nullable metadata found (by simpa using text)⟩
        · obtain ⟨value, found, wrong⟩ := exists_misfit metadata
          exact .inr ⟨_, .metadata supported nullable found wrong⟩
      · obtain ⟨value, found, wrong⟩ := exists_misfit nullable
        exact .inr ⟨_, .nullable supported found wrong⟩
  · exact .inr ⟨_, .shape (not_exists.mp object)⟩

end TypeForm
