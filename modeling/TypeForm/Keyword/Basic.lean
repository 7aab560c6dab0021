import TypeForm.CompileError
import TypeForm.Scope

/-!
# Keywords

A keyword turns its value into checks. Its value is looked at in three steps, type, choice and
decoding, before any check is recorded; so a keyword that is absent or has a faulty value leaves
the draft as it was.
-/
namespace TypeForm

/-- A condition under which data fails. -/
structure Check where
  /-- Pointer to the checked part of a document. -/
  instancePath : String
  /-- Pointer to the keyword in the schema. -/
  schemaPath : String
  keyword : String
  /-- The keyword's value. -/
  schema : Json
  /-- The name that stands for the checked part in the condition. -/
  data : Ident
  condition : Condition

/-- What has been compiled so far: the names and helpers in use, and the checks in order. -/
structure Draft where
  scope : Scope
  checks : List Check

namespace Draft

def empty : Draft := ⟨.empty, []⟩

def fresh (draft : Draft) (stem : String) : Ident × Draft :=
  let (name, scope) := draft.scope.fresh stem
  (name, { draft with scope })

def bind (draft : Draft) (stem : String) (helper : Helper) : Ident × Draft :=
  let (name, scope) := draft.scope.bind stem helper
  (name, { draft with scope })

def record (draft : Draft) (check : Check) : Draft :=
  { draft with checks := draft.checks ++ [check] }

end Draft

/-- Where a schema node applies: a name for the data, and pointers to the data and the node. -/
structure Site where
  data : Ident
  instancePath : String
  schemaPath : String
deriving DecidableEq, Repr

/-- A keyword at a site. -/
structure Occurrence where
  site : Site
  keyword : String
  /-- The keyword's value. -/
  schema : Json
  /-- The schema node that has the keyword. -/
  node : Members

namespace Occurrence

def schemaPath (occurrence : Occurrence) : String :=
  occurrence.site.schemaPath ++ "/" ++ occurrence.keyword

/-- Whether a keyword beside this one is true. -/
def flag (occurrence : Occurrence) (keyword : String) : Bool :=
  ((occurrence.node.value? keyword).bind Json.bool?).getD false

/-- Record that data fails where a condition holds. -/
def fail (occurrence : Occurrence) (condition : Condition) (draft : Draft) : Draft :=
  draft.record
    { instancePath := occurrence.site.instancePath
      schemaPath := occurrence.schemaPath
      keyword := occurrence.keyword
      schema := occurrence.schema
      data := occurrence.site.data
      condition }

end Occurrence

/-- A keyword whose values are decoded to a type. -/
structure Keyword (Value : Type) where
  name : String
  jsonType : JsonType
  choice : Choice
  /-- The decoded value, or why there is none. -/
  decode : Json → Except String Value
  /-- The draft with the keyword's checks. -/
  emit : Occurrence → Value → Draft → Draft

namespace Keyword

variable {Value : Type}

/-- The decoded value, or the first of the three errors that a value may have. -/
def readValue (keyword : Keyword Value) (schemaPath : String) (value : Json) :
    Except CompileError Value :=
  if !keyword.jsonType.accepts value then
    .error (.keywordType keyword.name keyword.jsonType schemaPath)
  else if !keyword.choice.accepts value then
    .error (.keywordEnum keyword.name keyword.choice.names value schemaPath)
  else
    match keyword.decode value with
    | .ok decoded => .ok decoded
    | .error reason => .error (.invalidKeywordValue keyword.name reason schemaPath)

/-- Compile the keyword of a schema node into a draft. The result tells whether the node has the
keyword; the draft is the one that is left, whatever the result. -/
def compileInto (keyword : Keyword Value) (node : Members) (site : Site) (draft : Draft) :
    Draft × Except CompileError Bool :=
  match node.value? keyword.name with
  | none => (draft, .ok false)
  | some value =>
    let occurrence : Occurrence := ⟨site, keyword.name, value, node⟩
    match keyword.readValue occurrence.schemaPath value with
    | .ok decoded => (keyword.emit occurrence decoded draft, .ok true)
    | .error error => (draft, .error error)

/-- The draft with the keyword of a schema node; `none` where the node does not have it. -/
def compile (keyword : Keyword Value) (node : Members) (site : Site) (draft : Draft) :
    Except CompileError (Option Draft) :=
  match keyword.compileInto node site draft with
  | (draft, .ok true) => .ok (some draft)
  | (_, .ok false) => .ok none
  | (_, .error error) => .error error

end Keyword
end TypeForm
