import TypeForm.Keyword.Type

/-!
# What the `type` keyword does

The keyword reads a value in one of three ways, whatever its three steps (`readValue_type`), since
decoding never fails on a name that passed the choice. It then records exactly one check, whose
condition depends on the tag, on `nullable` and on two names only (`emit_type`).
-/
namespace TypeForm

namespace TypeTag

/-- The names of the tags, in the order in which messages list them. -/
def names : List String :=
  all.map name

theorem ofName?_name (tag : TypeTag) : ofName? tag.name = some tag := by
  cases tag with
  | int type => cases type <;> decide
  | _ => decide

theorem ofName?_eq_some_iff {text : String} {tag : TypeTag} :
    ofName? text = some tag ↔ text = tag.name := by
  constructor
  · intro found
    have same := List.find?_some found
    exact (beq_iff_eq.mp same).symm
  · rintro rfl
    exact ofName?_name tag

theorem ofName?_isSome (text : String) : (ofName? text).isSome = names.contains text := by
  rw [Bool.eq_iff_iff, ofName?, List.find?_isSome, names, List.contains_iff_mem, List.mem_map]
  simp only [beq_iff_eq]

/-- The condition that data violates a tag, with names for the predicate on texts and the data. -/
def violated (tag : TypeTag) (helper data : Ident) : Condition :=
  match tag with
  | boolean => .not (.kindIs data .boolean)
  | string => .not (.kindIs data .string)
  | timestamp => .not (.or [.isMoment data, .and [.kindIs data .string, .call helper data]])
  | float32 | float64 => .not (.kindIs data .number)
  | int type =>
    .not (.and [.kindIs data .number, .isFinite data, .compare data .atLeast type.range.min,
      .compare data .atMost type.range.max, .isWhole data])

theorem violation_eq (tag : TypeTag) (data : Ident) (draft : Draft) :
    tag.violation data draft =
      (tag.violated (draft.bind "func" dateTimeHelper).1 data,
        if tag = .timestamp then (draft.bind "func" dateTimeHelper).2 else draft) := by
  cases tag <;> rfl

end TypeTag

/-- The condition that data violates a form. -/
def Form.violated (form : Form) (helper data : Ident) : Condition :=
  if form.nullable then .and [form.tag.violated helper data, .notNull data]
  else form.tag.violated helper data

theorem Form.violated_eq (form : Form) (helper data : Ident) :
    form.violated helper data =
      if form.nullable then .both (form.tag.violated helper data) (.notNull data)
      else form.tag.violated helper data := by
  obtain ⟨tag, nullable⟩ := form
  cases tag <;> rfl

/-- The keyword chooses exactly the texts that it can decode. -/
theorem choice_type (text : String) :
    typeKeyword.choice.accepts (.string text) = (TypeTag.ofName? text).isSome :=
  (TypeTag.ofName?_isSome text).symm

theorem decode_type (text : String) :
    typeKeyword.decode (.string text) =
      match TypeTag.ofName? text with
      | some tag => .ok tag
      | none => .error "unknown type tag" :=
  rfl

/-- Reading the keyword's value: a name of a tag is the tag, another string is no choice, and
anything else has the wrong type. -/
theorem readValue_type (schemaPath : String) (value : Json) :
    typeKeyword.readValue schemaPath value =
      match value with
      | .string text =>
        match TypeTag.ofName? text with
        | some tag => .ok tag
        | none => .error (.keywordEnum "type" TypeTag.names value schemaPath)
      | _ => .error (.keywordType "type" .string schemaPath) := by
  cases value with
  | string text =>
    unfold Keyword.readValue
    rw [choice_type, decode_type]
    dsimp only
    cases TypeTag.ofName? text <;> rfl
  | null => rfl
  | bool => rfl
  | number => rfl
  | array => rfl
  | object => rfl

theorem string_of_readValue {schemaPath : String} {value : Json} {tag : TypeTag}
    (read : typeKeyword.readValue schemaPath value = .ok tag) : value = .string tag.name := by
  rw [readValue_type] at read
  cases value with
  | string text =>
    cases known : TypeTag.ofName? text with
    | none => simp [known] at read
    | some other =>
      obtain rfl : other = tag := by simpa [known] using read
      rw [TypeTag.ofName?_eq_some_iff.mp known]
  | _ => simp at read

theorem flag_eq (occurrence : Occurrence) (keyword : String) :
    occurrence.flag keyword = decide (occurrence.node.value? keyword = some (.bool true)) := by
  unfold Occurrence.flag
  cases found : occurrence.node.value? keyword with
  | none => rfl
  | some value =>
    cases value with
    | bool value => cases value <;> rfl
    | _ => rfl

/-- The draft after the keyword has run: one more check, and the helper bound for a timestamp. -/
theorem emit_type (occurrence : Occurrence) (tag : TypeTag) (draft : Draft) :
    typeKeyword.emit occurrence tag draft =
      let bound := draft.bind "func" dateTimeHelper
      let form : Form := ⟨tag, occurrence.flag "nullable"⟩
      occurrence.fail (form.violated bound.1 occurrence.site.data)
        (if tag = .timestamp then bound.2 else draft) := by
  simp only [Form.violated_eq]
  change occurrence.fail (if occurrence.flag "nullable"
    then .both (tag.violation occurrence.site.data draft).1 (.notNull occurrence.site.data)
    else (tag.violation occurrence.site.data draft).1)
    (tag.violation occurrence.site.data draft).2 = _
  rw [TypeTag.violation_eq]

end TypeForm
