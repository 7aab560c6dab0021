import TypeForm.Keyword.Type
import TypeForm.Validator

/-!
# Compilation

A session compiles any number of schema nodes, each against a part of the document, into one
validator with shared names and helpers. A node that does not compile leaves no check behind; at
most a data name was drawn for it.
-/
namespace TypeForm

structure Session where
  draft : Draft
  /-- The name of the whole document. -/
  root : Ident
  config : Config

namespace Session

def dataStem : String := "data"

/-- A session without checks, in which the root has the first data name. -/
def start (config : Config) : Session :=
  let (root, draft) := Draft.empty.fresh dataStem
  ⟨draft, root, config⟩

/-- The keywords that a schema node may have. -/
def supportedKeywords : List String := ["type", "nullable", "metadata"]

/-- Check that a keyword that is present has a value of the right type. -/
def checkMember (node : Members) (schemaPath keyword : String) (expected : JsonType) :
    Except CompileError Unit :=
  match node.value? keyword with
  | none => .ok ()
  | some value =>
    if expected.accepts value then .ok ()
    else .error (.keywordType keyword expected (schemaPath ++ "/" ++ keyword))

/-- The members of a schema node, if it is an object that has supported keywords only, a boolean
`nullable` and an object `metadata`. -/
def checkNode (schemaPath : String) (node : Json) : Except CompileError Members :=
  match node.members? with
  | none => .error (.notObject schemaPath)
  | some members =>
    match members.find? fun member => !supportedKeywords.contains member.1 with
    | some (keyword, _) =>
      .error (.unsupportedKeyword keyword (schemaPath ++ "/" ++ Pointer.escape keyword))
    | none => do
      checkMember members schemaPath "nullable" .boolean
      checkMember members schemaPath "metadata" .object
      .ok members

/-- Whether a path is empty or starts with a slash. -/
def isDataPath (path : String) : Bool :=
  match path.toList with
  | [] => true
  | c :: _ => c == '/'

/-- The name for the data at a path: the root's for the whole document, else a fresh one. -/
def dataName (session : Session) (instancePath : String) : Ident × Session :=
  if instancePath.isEmpty then (session.root, session)
  else
    let (name, draft) := session.draft.fresh dataStem
    (name, { session with draft })

/-- Compile a node that stands at `schemaPath` of its schema against the data at
`instancePath`. -/
def add (session : Session) (instancePath schemaPath : String) (node : Json) :
    Session × Except CompileError Unit :=
  if !isDataPath instancePath then (session, .error (.invalidDataPath instancePath))
  else
    match checkNode schemaPath node with
    | .error error => (session, .error error)
    | .ok members =>
      let (data, session) := session.dataName instancePath
      match typeKeyword.compile members ⟨data, instancePath, schemaPath⟩ session.draft with
      | .error error => (session, .error error)
      | .ok none => (session, .ok ())
      | .ok (some draft) => ({ session with draft }, .ok ())

/-- The validator made of the checks so far. -/
def finish (session : Session) : Validator :=
  ⟨session.draft.scope, session.draft.checks, session.root, session.config⟩

/-- Compile nodes one after the other up to the first that does not compile; each stands at the
same pointer in the schema and in the document. -/
def addFields (session : Session) : Members → Except CompileError Session
  | [] => .ok session
  | (field, node) :: rest =>
    let path := "/" ++ Pointer.escape field
    match session.add path path node with
    | (session, .ok ()) => addFields session rest
    | (_, .error error) => .error error

end Session

/-- The validator for a schema node that applies to the whole document. -/
def compile (config : Config) (node : Json) : Except CompileError Validator :=
  match (Session.start config).add "" "" node with
  | (session, .ok ()) => .ok session.finish
  | (_, .error error) => .error error

/-- The validator for an object that has a schema node for each field of the document. -/
def compileFields (config : Config) (fields : Members) : Except CompileError Validator :=
  ((Session.start config).addFields fields).map Session.finish

end TypeForm
