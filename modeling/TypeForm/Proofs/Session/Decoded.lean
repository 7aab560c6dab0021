import TypeForm.Proofs.Session.Acceptance

/-!
# Decoded nodes

A node may be read in two ways: as a type form, a record of which other members are ignored, and by
compiling it, where every member is looked at. Both read the same form from a node that compiles.

## Main result

`compile_decoded`: a node that compiles and has a type can be decoded, and the node that the decoded
form is written as compiles to the same validator.
-/
namespace TypeForm

/-! ### Both readings agree -/

/-- A node that passes the first look at its members has a boolean `nullable`, if any. -/
theorem Session.nullableFits_of_checkNode {schemaPath : String} {members : Members}
    (passed : checkNode schemaPath (.object members) = .ok members) : members.NullableFits := by
  intro value found
  rw [← JsonType.accepts_boolean]
  apply Classical.byContradiction
  intro wrong
  have fails : checkMember members schemaPath "nullable" .boolean = _ :=
    checkMember_of_wrong found wrong
  simp only [checkNode, Json.members?, fails, bind, Except.bind] at passed
  split at passed <;> cases passed

namespace Form

/-- An object gives the fields of a form by name. -/
private theorem ofJson?_object (members : Members) :
    ofJson? (.object members) =
      ((members.value? "type").bind tagOfJson?).bind fun tag =>
        ((Record.named members).withDefault 1 "nullable" false Json.bool?).bind fun nullable =>
          some ⟨tag, nullable⟩ :=
  rfl

private theorem tagOfJson?_name (tag : TypeTag) : tagOfJson? (.string tag.name) = some tag :=
  TypeTag.ofName?_name tag

/-- The form that compiling finds is the one that is decoded. -/
theorem ofJson?_of_readNode {schemaPath : String} {node : Json} {form : Form}
    (read : readNode schemaPath node = .ok (some form)) : ofJson? node = some form := by
  have found := ofNode?_of_readNode read
  obtain ⟨members, rfl, type⟩ := type_of_ofNode? found
  have fits : members.NullableFits := by
    cases passed : Session.checkNode schemaPath (.object members) with
    | error => simp [readNode, passed] at read
    | ok same =>
      obtain rfl := Json.object.inj (members_of_checkNode passed)
      exact Session.nullableFits_of_checkNode passed
  rw [ofNode?_of_type type] at found
  rw [ofJson?_object, type, Option.bind_some, tagOfJson?_name, Option.bind_some,
    Record.withDefault, Record.field?_named]
  cases present : members.value? "nullable" with
  | none => simpa [present] using found
  | some value =>
    -- A member that is there is a boolean, and the form is nullable exactly if it is true.
    obtain ⟨b, rfl⟩ := fits value present
    cases b <;> simpa [present, Json.bool?] using found

/-- A form is written as a node that it is found in. -/
theorem readNode_toJson (schemaPath : String) (form : Form) :
    readNode schemaPath form.toJson = .ok (some form) := by
  obtain ⟨tag, nullable⟩ := form
  have accepted : IsNode (toJson ⟨tag, nullable⟩) := by
    refine ⟨_, rfl, ?_, ?_, ?_, ?_⟩
    · cases nullable <;> simp [Members.Supported]
    · cases nullable <;> simp [Members.NullableFits, Members.value?]
    · cases nullable <;> simp [Members.MetadataFits, Members.value?]
    · intro value found
      exact ⟨tag, by cases nullable <;> simpa [Members.value?, eq_comm] using found⟩
  have found : ofNode? (toJson ⟨tag, nullable⟩) = some ⟨tag, nullable⟩ := by
    cases nullable
    · exact ofNode?_of_type rfl
    · exact ofNode?_of_type rfl
  rw [readNode_of_isNode schemaPath accepted, found]

end Form

/-! ### Compiling goes by the form -/

/-- A submission with a form enters this form, and nothing else of its node counts. -/
theorem Session.submit_of_readNode {session : Session} {submission : Submission} {form : Form}
    (valid : isDataPath submission.instancePath = true)
    (read : readNode submission.schemaPath submission.node = .ok (some form)) :
    session.submit submission =
      ((session.dataName submission.instancePath).2.enter form
        (session.dataName submission.instancePath).1 submission, .ok ()) := by
  have step := session.submit_step submission
  generalize session.submit submission = result at step
  -- Every other step presupposes another path or that something else was read.
  cases step with
  | misplaced invalid => simp [valid] at invalid
  | misshapen other | faulty other | untyped other => simp [read] at other
  | typed other =>
    rw [read] at other
    cases other
    rfl

/-- The validator of a form, which is the only part of a node that compiling goes by. -/
def Form.validator (config : Config) (form : Form) : Validator :=
  ((Session.start config).enter form rootName ⟨"", "", form.toJson⟩).finish

theorem compile_of_readNode (config : Config) {node : Json} {form : Form}
    (read : readNode "" node = .ok (some form)) :
    compile config node = .ok (form.validator config) := by
  have valid : Session.isDataPath "" = true := rfl
  have submitted : (Session.start config).submit ⟨"", "", node⟩ = _ :=
    Session.submit_of_readNode valid read
  change (Session.start config).add "" "" node = _ at submitted
  rw [compile, submitted]
  rfl

/-- Reading finds a form or an error in a node that has a type. -/
theorem readNode_ne_none {schemaPath : String} {members : Members}
    (typed : (members.value? "type").isSome) : readNode schemaPath (.object members) ≠ .ok none := by
  intro read
  obtain ⟨value, present⟩ := Option.isSome_iff_exists.mp typed
  unfold readNode at read
  cases passed : Session.checkNode schemaPath (.object members) with
  | error => simp [passed] at read
  | ok same =>
    obtain rfl := Json.object.inj (members_of_checkNode passed)
    simp only [passed, present] at read
    split at read <;> cases read

theorem exists_form_of_compile {config : Config} {members : Members} {validator : Validator}
    (compiled : compile config (.object members) = .ok validator)
    (typed : (members.value? "type").isSome) :
    ∃ form, readNode "" (.object members) = .ok (some form) := by
  have valid : Session.isDataPath "" = true := rfl
  have result := (Session.start config).add_result "" (.object members) valid
  rw [compile_eq, result] at compiled
  cases read : readNode "" (.object members) with
  | error => simp [read, Except.map] at compiled
  | ok found =>
    cases found with
    | none => exact absurd read (readNode_ne_none typed)
    | some form => exact ⟨form, rfl⟩

/-- A node that compiles and has a type can be decoded, whatever its metadata, and what it is
decoded to is written as a node which compiles to the same validator: the same helpers under the
same names, the same checks and the same source. -/
theorem compile_decoded {config : Config} {members : Members} {validator : Validator}
    (compiled : compile config (.object members) = .ok validator)
    (typed : (members.value? "type").isSome) :
    ∃ form, Form.ofJson? (.object members) = some form ∧
      compile config form.toJson = .ok validator := by
  obtain ⟨form, read⟩ := exists_form_of_compile compiled typed
  refine ⟨form, Form.ofJson?_of_readNode read, ?_⟩
  have same := compile_of_readNode config read
  rw [compiled] at same
  rw [same]
  exact compile_of_readNode config (form.readNode_toJson "")

/-- Metadata that looks like the members of a node, and a `nullable` that is written although it is
false, are both gone from the node that the form is written as. -/
theorem compile_decoded_metadata :
    ∃ validator, compile .default (.object [("metadata", .object [("nullable", .bool true)]),
        ("nullable", .bool false), ("type", .string "timestamp")]) = .ok validator ∧
      compile .default (.object [("type", .string "timestamp")]) = .ok validator := by
  have compiled : compile .default (.object [("metadata", .object [("nullable", .bool true)]),
      ("nullable", .bool false), ("type", .string "timestamp")]) =
        .ok (Form.validator .default ⟨.timestamp, false⟩) :=
    compile_of_readNode .default rfl
  obtain ⟨form, decoded, same⟩ := compile_decoded compiled rfl
  cases decoded
  exact ⟨_, compiled, same⟩

end TypeForm
