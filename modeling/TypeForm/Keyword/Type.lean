import TypeForm.Form
import TypeForm.Keyword.Basic
import TypeForm.Time.Stamp

/-!
# The `type` keyword

The value is a type tag. Data violates a tag if it is of the wrong kind; of a timestamp, if it is
neither a moment nor the text of one; of an integer tag, if it is not a whole number in the tag's
range. A true `nullable` beside the keyword spares null.
-/
namespace TypeForm

/-- The predicate that tells date-time texts, loaded by generated source from a module. -/
def dateTimeHelper : Helper where
  key := "jtdc_core::date::valid_date_time"
  accepts := isDateTime
  source := "require(\"jtdc/valid_date\").default"

namespace TypeTag

/-- The condition that data is not a whole number in a range. -/
def outside (range : IntRange) (data : Ident) : Condition :=
  .negate <| .all
    [.kindIs data .number, .isFinite data, .compare data .atLeast range.min,
      .compare data .atMost range.max, .isWhole data]

/-- The condition that data violates a timestamp, with a name for the predicate on texts. -/
def notTimestamp (helper data : Ident) : Condition :=
  .negate <| .either (.isMoment data) (.both (.kindIs data .string) (.call helper data))

/-- The condition that data violates a tag. Only timestamps bind the helper. -/
def violation (tag : TypeTag) (data : Ident) (draft : Draft) : Condition × Draft :=
  match tag with
  | boolean => (.negate (.kindIs data .boolean), draft)
  | string => (.negate (.kindIs data .string), draft)
  | timestamp =>
    let (helper, draft) := draft.bind "func" dateTimeHelper
    (notTimestamp helper data, draft)
  | float32 | float64 => (.negate (.kindIs data .number), draft)
  | int type => (outside type.range data, draft)

end TypeTag

/-- The keyword `type`. -/
def typeKeyword : Keyword TypeTag where
  name := "type"
  jsonType := .string
  choice := .oneOf (TypeTag.all.map TypeTag.name)
  decode value :=
    match Form.tagOfJson? value with
    | some tag => .ok tag
    | none => .error "unknown type tag"
  emit occurrence tag draft :=
    let data := occurrence.site.data
    let (violated, draft) := tag.violation data draft
    let condition :=
      if occurrence.flag "nullable" then .both violated (.notNull data) else violated
    occurrence.fail condition draft

end TypeForm
