import TypeForm.Keyword.Basic

/-!
# What a keyword passes before it runs

A keyword asks three things of its value: a JSON type, a choice, and that it can be decoded. They
are asked in this order, whatever the keyword does with the decoded value afterwards.

## Main result

`Keyword.compileInto_gated`: a keyword runs exactly if the node has it with a value that passes
everything, and then on the decoded value. Otherwise the draft is what it was before, and the result
tells that the keyword is absent or is the error of the first thing that its value fails.
-/
namespace TypeForm

/-- The values of a JSON type. -/
inductive JsonType.Has : JsonType → Json → Prop
  | string (text : String) : Has .string (.string text)
  | boolean (b : Bool) : Has .boolean (.bool b)
  | number (n : JsonNumber) : Has .number (.number n)
  | object (members : Members) : Has .object (.object members)
  | array (items : List Json) : Has .array (.array items)

/-- The values that a choice allows: strings from a list, unless there is none. -/
inductive Choice.Allows : Choice → Json → Prop
  | anything (value : Json) : Allows .anything value
  | oneOf {names : List String} {name : String} (member : name ∈ names) :
      Allows (.oneOf names) (.string name)

theorem JsonType.accepts_iff {type : JsonType} {value : Json} :
    type.accepts value = true ↔ type.Has value := by
  constructor
  · intro accepted
    cases type <;> cases value <;> first | constructor | cases accepted
  · intro has
    cases has <;> rfl

theorem Choice.accepts_iff {choice : Choice} {value : Json} :
    choice.accepts value = true ↔ choice.Allows value := by
  constructor
  · intro accepted
    cases choice with
    | anything => exact .anything value
    | oneOf names =>
      cases value with
      | string name => exact .oneOf (List.contains_iff_mem.mp accepted)
      | _ => cases accepted
  · intro allowed
    cases allowed with
    | anything => rfl
    | oneOf member => exact List.contains_iff_mem.mpr member

namespace Keyword

variable {Value : Type} {keyword : Keyword Value} {value : Json} {decoded : Value}
  {schemaPath : String} {error : CompileError}

/-- A value passes everything that a keyword asks for. -/
structure Reads (keyword : Keyword Value) (value : Json) (decoded : Value) : Prop where
  typed : keyword.jsonType.Has value
  chosen : keyword.choice.Allows value
  decodes : keyword.decode value = .ok decoded

/-- The first thing that a value fails, as the error for a keyword at a schema path. -/
inductive Refuses (keyword : Keyword Value) (schemaPath : String) (value : Json) :
    CompileError → Prop
  | type (wrong : ¬keyword.jsonType.Has value) :
      Refuses keyword schemaPath value (.keywordType keyword.name keyword.jsonType schemaPath)
  | choice (typed : keyword.jsonType.Has value) (wrong : ¬keyword.choice.Allows value) :
      Refuses keyword schemaPath value
        (.keywordEnum keyword.name keyword.choice.names value schemaPath)
  | decoding {reason : String} (typed : keyword.jsonType.Has value)
      (chosen : keyword.choice.Allows value) (fails : keyword.decode value = .error reason) :
      Refuses keyword schemaPath value (.invalidKeywordValue keyword.name reason schemaPath)

theorem Refuses.located (refused : keyword.Refuses schemaPath value error) :
    error.schemaPath? = some schemaPath := by
  cases refused <;> rfl

theorem readValue_of_reads (reads : keyword.Reads value decoded) :
    keyword.readValue schemaPath value = .ok decoded := by
  have typed := JsonType.accepts_iff.mpr reads.typed
  have chosen := Choice.accepts_iff.mpr reads.chosen
  simp [readValue, typed, chosen, reads.decodes]

theorem readValue_of_refuses (refused : keyword.Refuses schemaPath value error) :
    keyword.readValue schemaPath value = .error error := by
  cases refused with
  | type wrong =>
    rw [← JsonType.accepts_iff, Bool.not_eq_true] at wrong
    simp [readValue, wrong]
  | choice typed wrong =>
    rw [← JsonType.accepts_iff] at typed
    rw [← Choice.accepts_iff, Bool.not_eq_true] at wrong
    simp [readValue, typed, wrong]
  | decoding typed chosen fails =>
    rw [← JsonType.accepts_iff] at typed
    rw [← Choice.accepts_iff] at chosen
    simp [readValue, typed, chosen, fails]

/-- A value is read or refused. -/
theorem reads_or_refuses (keyword : Keyword Value) (schemaPath : String) (value : Json) :
    (∃ decoded, keyword.Reads value decoded) ∨ ∃ error, keyword.Refuses schemaPath value error := by
  -- The value is asked for its type first, and is decoded only if nothing was wrong before.
  by_cases typed : keyword.jsonType.Has value
  · by_cases chosen : keyword.choice.Allows value
    · cases outcome : keyword.decode value with
      | ok decoded => exact .inl ⟨decoded, typed, chosen, outcome⟩
      | error reason => exact .inr ⟨_, .decoding typed chosen outcome⟩
    · exact .inr ⟨_, .choice typed chosen⟩
  · exact .inr ⟨_, .type typed⟩

/-- What compiling a keyword comes to. Only the last way changes the draft. -/
inductive Outcome (keyword : Keyword Value) (node : Members) (site : Site) (draft : Draft) :
    Draft × Except CompileError Bool → Prop
  | absent (missing : node.value? keyword.name = none) :
      Outcome keyword node site draft (draft, .ok false)
  | refused {value : Json} {error : CompileError} (present : node.value? keyword.name = some value)
      (refused : keyword.Refuses (site.schemaPath ++ "/" ++ keyword.name) value error) :
      Outcome keyword node site draft (draft, .error error)
  | ran {value : Json} {decoded : Value} (present : node.value? keyword.name = some value)
      (reads : keyword.Reads value decoded) :
      Outcome keyword node site draft
        (keyword.emit ⟨site, keyword.name, value, node⟩ decoded draft, .ok true)

theorem compileInto_outcome (keyword : Keyword Value) (node : Members) (site : Site)
    (draft : Draft) : keyword.Outcome node site draft (keyword.compileInto node site draft) := by
  unfold compileInto
  cases present : node.value? keyword.name with
  | none => exact .absent present
  | some value =>
    dsimp only
    have path : Occurrence.schemaPath ⟨site, keyword.name, value, node⟩ =
        site.schemaPath ++ "/" ++ keyword.name := rfl
    rw [path]
    rcases keyword.reads_or_refuses (site.schemaPath ++ "/" ++ keyword.name) value with
      ⟨decoded, reads⟩ | ⟨error, refused⟩
    · rw [readValue_of_reads reads]
      exact .ran present reads
    · rw [readValue_of_refuses refused]
      exact .refused present refused

/-- Compiling has no other outcome than one of these. -/
theorem compileInto_eq_iff {node : Members} {site : Site} {draft : Draft}
    {result : Draft × Except CompileError Bool} :
    keyword.compileInto node site draft = result ↔ keyword.Outcome node site draft result := by
  constructor
  · rintro rfl
    exact keyword.compileInto_outcome node site draft
  · intro outcome
    cases outcome with
    | absent missing => simp [compileInto, missing]
    | refused present refused =>
      have read := readValue_of_refuses refused
      simp only [compileInto, present]
      exact read ▸ rfl
    | ran present reads => simp [compileInto, present, readValue_of_reads reads]

/-- A keyword runs exactly if the node has it with a value that can be read, and then what it was
handed is the decoded value. It is absent or refused with the draft as it was, and an error is that
of the first thing which the value fails, at the keyword's place in the schema. -/
theorem compileInto_gated (keyword : Keyword Value) (node : Members) (site : Site)
    (draft : Draft) :
    (∀ after, keyword.compileInto node site draft = (after, .ok true) ↔
      ∃ value decoded, node.value? keyword.name = some value ∧ keyword.Reads value decoded ∧
        after = keyword.emit ⟨site, keyword.name, value, node⟩ decoded draft) ∧
    (∀ after, keyword.compileInto node site draft = (after, .ok false) ↔
      node.value? keyword.name = none ∧ after = draft) ∧
    ∀ after error, keyword.compileInto node site draft = (after, .error error) ↔
      (∃ value, node.value? keyword.name = some value ∧
        keyword.Refuses (site.schemaPath ++ "/" ++ keyword.name) value error) ∧
      error.schemaPath? = some (site.schemaPath ++ "/" ++ keyword.name) ∧ after = draft := by
  -- The three results exclude one another, so each of them has one outcome only.
  simp only [compileInto_eq_iff]
  refine ⟨fun after => ⟨?_, ?_⟩, fun after => ⟨?_, ?_⟩, fun after error => ⟨?_, ?_⟩⟩
  · intro outcome
    cases outcome with
    | ran present reads => exact ⟨_, _, present, reads, rfl⟩
  · rintro ⟨value, decoded, present, reads, rfl⟩
    exact .ran present reads
  · intro outcome
    cases outcome with
    | absent missing => exact ⟨missing, rfl⟩
  · rintro ⟨missing, rfl⟩
    exact .absent missing
  · intro outcome
    cases outcome with
    | refused present refused => exact ⟨⟨_, present, refused⟩, refused.located, rfl⟩
  · rintro ⟨⟨value, present, refused⟩, -, rfl⟩
    exact .refused present refused

end Keyword
end TypeForm
