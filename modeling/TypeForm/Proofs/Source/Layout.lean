import TypeForm.Proofs.Session.Compilation
import TypeForm.Proofs.Source.Scoping

/-!
# Two layouts of the source

The source of a validator has a statement to each line, those of the function indented, or all of
its statements on one line. Both are made of the same statements, and the longer text can be turned
into the shorter one without knowing what they say.

## Main result

`source_layouts`: in the source of any session over several lines, the breaks are where a line ends
and the indents where a line of the function starts. Without them it is the source on one line.

## Proof strategy

A line has no break in it (`Validator.Holds.newline_not_mem_line`): names are letters and digits,
and what users give is written as literals, in which a break is escaped. So splitting gives the
lines of the program (`linesOf_render`), and a line shows by its first character whether it has an
indent (`isIndented_text`).
-/
namespace TypeForm

namespace Source

open Condition

/-! ### Texts without line breaks -/

theorem IsName.newline_not_mem {name : Ident} (isName : IsName name) :
    '\n' ∉ name.text.toList := by
  intro member
  cases isName.letters _ member

theorem newline_not_mem_digits (n : Nat) : '\n' ∉ Nat.toDigits 10 n := by
  intro member
  cases Nat.isDigit_of_mem_toDigits (by decide) (by decide) member

theorem newline_not_mem_int (n : Int) : '\n' ∉ n.repr.toList := by
  cases n with
  | ofNat n => simp [Int.repr, newline_not_mem_digits]
  | negSucc n => simp [Int.repr, newline_not_mem_digits]

theorem newline_not_mem_intercalate {separator : String} {texts : List String}
    (between : '\n' ∉ separator.toList) (each : ∀ text ∈ texts, '\n' ∉ text.toList) :
    '\n' ∉ (separator.intercalate texts).toList := by
  cases texts with
  | nil => simp
  | cons first others =>
    obtain ⟨one, rest⟩ := List.forall_mem_cons.mp each
    simpa [String.toList_intercalate, intercalate_cons] using
      ⟨one, fun text member => ⟨between, rest text member⟩⟩

theorem newline_not_mem_bracketed {text : String} (brackets : Bool) (inside : '\n' ∉ text.toList) :
    '\n' ∉ (bracketed brackets text).toList := by
  cases brackets with
  | false => exact inside
  | true => simpa [bracketed] using inside

theorem newline_not_mem_continued {separator : String} {conditions : List Condition}
    (between : '\n' ∉ separator.toList)
    (each : ∀ condition ∈ conditions, '\n' ∉ condition.text.toList) :
    '\n' ∉ (continued separator conditions).toList := by
  induction conditions with
  | nil => simp
  | cons condition others ih =>
    obtain ⟨one, rest⟩ := List.forall_mem_cons.mp each
    simp [between, operandText, newline_not_mem_bracketed _ one, ih rest]

theorem newline_not_mem_joined {separator : String} {conditions : List Condition}
    (between : '\n' ∉ separator.toList)
    (each : ∀ condition ∈ conditions, '\n' ∉ condition.text.toList) :
    '\n' ∉ (joined separator conditions).toList := by
  cases conditions with
  | nil => simp [joined]
  | cons condition others =>
    obtain ⟨one, rest⟩ := List.forall_mem_cons.mp each
    simp [operandText, newline_not_mem_bracketed _ one, newline_not_mem_continued between rest]

theorem newline_not_mem_not {condition : Condition} (inside : '\n' ∉ condition.text.toList) :
    '\n' ∉ (Condition.not condition).text.toList := by
  cases condition with
  | kindIs data kind => simpa using inside
  | notNull data => simpa using inside
  | _ =>
    -- The other conditions have no spelling of their own for the negation.
    rw [text_not (by simp) (by simp)]
    simpa using newline_not_mem_bracketed _ inside

theorem Readable.newline_not_mem {condition : Condition} (readable : Readable condition) :
    '\n' ∉ condition.text.toList := by
  induction readable with
  | const value => cases value <;> simp [Condition.text]
  | kindIs isName kind => cases kind <;> simp [Kind.name, isName.newline_not_mem]
  | compare isName relation bound =>
    cases relation <;> simp [Relation.symbol, isName.newline_not_mem, newline_not_mem_int]
  | call isHelper isName => simp [isHelper.newline_not_mem, isName.newline_not_mem]
  | isMoment isName | isFinite isName | isWhole isName | notNull isName =>
    simp [isName.newline_not_mem]
  | not inner ih => exact newline_not_mem_not ih
  | and several each ih => exact newline_not_mem_joined (by simp) ih
  | or several each ih => exact newline_not_mem_joined (by simp) ih

theorem newline_not_mem_accessText (pointer : String) :
    '\n' ∉ (Pointer.accessText pointer).toList := by
  obtain ⟨tokens, access, -⟩ := accessText_pointer pointer
  simp [access, accessText, String.toList_join]

theorem newline_not_mem_actionText (allErrors : Bool) (check : Check) :
    '\n' ∉ (Validator.actionText allErrors check).toList := by
  unfold Validator.actionText Validator.failureText
  cases allErrors <;> simp

/-- Whatever the paths of a check are, its lines have no break in them. -/
theorem newline_not_mem_testLines {root : Ident} {check : Check} (isRoot : IsName root)
    (readable : IsReadable check) {allErrors : Bool} {line : Line}
    (member : line ∈ testLines root allErrors check) : '\n' ∉ (line.text "").toList := by
  have data := readable.data.newline_not_mem
  have condition := readable.condition.newline_not_mem
  have action := newline_not_mem_actionText allErrors check
  rw [testLines] at member
  split at member
  · obtain rfl := List.mem_singleton.mp member
    unfold Line.text rootLine
    simp [condition, action]
  · rcases List.mem_pair.mp member with rfl | rfl
    · unfold Line.text bindLine
      simp [data, isRoot.newline_not_mem, newline_not_mem_accessText]
    · unfold Line.text partLine
      simp [data, condition, action]

/-! ### Lines and their indents -/

/-- The lines of a text in which each line ends with a break. -/
def linesOf (text : String) : List String :=
  (text.toList.splitOn '\n').dropLast.map String.ofList

theorem linesOf_ended {texts : List String} (some : texts ≠ [])
    (each : ∀ text ∈ texts, '\n' ∉ text.toList) :
    linesOf ("\n".intercalate texts ++ "\n") = texts := by
  -- The break at the end counts as one before an empty line.
  have ended : ("\n".intercalate texts ++ "\n").toList =
      ['\n'].intercalate (texts.map String.toList ++ [[]]) := by
    obtain ⟨first, others, rfl⟩ := List.exists_cons_of_ne_nil some
    simp [String.toList_intercalate, intercalate_cons]
  have pieces : ∀ piece ∈ texts.map String.toList ++ [[]], '\n' ∉ piece := by
    simpa [or_imp, forall_and] using each
  rw [linesOf, ended, List.splitOn_intercalate _ pieces (by simp), List.dropLast_concat]
  simp

/-- A line that has an indent of two spaces. -/
def isIndented (line : String) : Bool :=
  line.toList.take 2 == [' ', ' ']

/-- A line without the indent that it may have. -/
def unindented (line : String) : String :=
  if isIndented line then String.ofList (line.toList.drop 2) else line

namespace Line

/-- The line stands in the function. -/
def isInner : Line → Bool
  | load _ | opening _ | closing => false
  | collect | part _ _ | rootTest _ _ | partTest _ _ | result => true

theorem text_indent (indent : String) (line : Line) :
    line.text indent = (if line.isInner then indent else "") ++ line.text "" := by
  cases line with
  | load | opening | closing => exact String.empty_append.symm
  | _ => exact congrArg (indent ++ ·) String.empty_append.symm

theorem exists_visible (line : Line) :
    ∃ c rest, (line.text "").toList = c :: rest ∧ c ≠ ' ' := by
  cases line <;> unfold text <;>
    simp [Validator.bindingLine, bindLine, rootLine, partLine]

theorem isIndented_text (line : Line) : isIndented (line.text "  ") = line.isInner := by
  obtain ⟨c, rest, spelled, visible⟩ := line.exists_visible
  rw [text_indent, isIndented, String.toList_append, spelled]
  cases line.isInner with
  | true => simp
  | false => simp [visible]

theorem unindented_text (line : Line) : unindented (line.text "  ") = line.text "" := by
  rw [unindented, isIndented_text, text_indent]
  cases line.isInner with
  | true => simp
  | false => simp

end Line

/-! ### Programs in two layouts -/

section Program

variable {program : List Line}

theorem linesOf_render (some : program ≠ [])
    (unbroken : ∀ line ∈ program, '\n' ∉ (line.text "").toList) :
    linesOf (render true program) = program.map (·.text "  ") := by
  refine linesOf_ended (by simpa using some) fun text member => ?_
  obtain ⟨line, inside, rfl⟩ := List.mem_map.mp member
  rw [line.text_indent]
  cases line.isInner <;> simpa using unbroken line inside

theorem unindented_render (some : program ≠ [])
    (unbroken : ∀ line ∈ program, '\n' ∉ (line.text "").toList) :
    " ".intercalate ((linesOf (render true program)).map unindented) = render false program := by
  rw [linesOf_render some unbroken, List.map_map]
  simp only [Function.comp_def, Line.unindented_text]
  rfl

theorem newline_not_mem_render (unbroken : ∀ line ∈ program, '\n' ∉ (line.text "").toList) :
    '\n' ∉ (render false program).toList := by
  refine newline_not_mem_intercalate (by simp) fun text member => ?_
  obtain ⟨line, inside, rfl⟩ := List.mem_map.mp member
  exact unbroken line inside

end Program

/-- Checks of the root are written in one line, and all others in two. -/
theorem map_isInner_checks (root : Ident) (allErrors : Bool) (checks : List Check) :
    (checks.flatMap (testLines root allErrors)).map Line.isInner =
      List.replicate (checks.countP (fun check => check.data = root) +
        2 * checks.countP fun check => check.data ≠ root) true := by
  rw [List.eq_replicate_iff]
  constructor
  · induction checks with
    | nil => rfl
    | cons check rest ih =>
      by_cases whole : check.data = root
      · simp [whole, testLines] at ih ⊢
        omega
      · simp [whole, testLines] at ih ⊢
        omega
  · intro inner member
    obtain ⟨line, inside, rfl⟩ := List.mem_map.mp member
    obtain ⟨check, -, among⟩ := List.mem_flatMap.mp inside
    rw [testLines] at among
    split at among
    · obtain rfl := List.mem_singleton.mp among
      rfl
    · rcases List.mem_pair.mp among with rfl | rfl <;> rfl

theorem map_isInner_program (validator : Validator) :
    (program validator).map Line.isInner =
      List.replicate (validator.scope.bindings.length + 1) false ++
        List.replicate (validator.checks.countP (fun check => check.data = validator.root) +
          2 * validator.checks.countP (fun check => check.data ≠ validator.root) + 2) true ++
        [false] := by
  have loads : (validator.scope.bindings.map Line.load).map Line.isInner =
      List.replicate validator.scope.bindings.length false := by
    simp [Function.comp_def, Line.isInner]
  -- In the function, a line stands before those of the checks and another after them.
  have inner (n : Nat) : List.replicate (n + 2) true = true :: (List.replicate n true ++ [true]) := by
    rw [List.replicate_succ, List.replicate_succ']
  simp only [program, List.map_append, List.map_cons, map_isInner_checks, loads, inner,
    Line.isInner]
  simp [List.replicate_succ']

theorem program_withConfig {validator : Validator} {config : Config}
    (same : config.allErrors = validator.config.allErrors) :
    program (validator.withConfig config) = program validator := by
  simp only [program, Validator.withConfig, same]

end Source

open Source

variable {validator : Validator} {entries : List Entry}

theorem Validator.Holds.newline_not_mem_line (holds : validator.Holds entries) :
    ∀ line ∈ program validator, '\n' ∉ (line.text "").toList := by
  intro line member
  have isRoot : IsName validator.root := holds.root ▸ isName_data 0
  simp only [program, List.mem_append, List.mem_cons, List.mem_map, List.mem_flatMap] at member
  rcases member with (⟨binding, bound, rfl⟩ | rfl | rfl | ⟨check, checked, among⟩) | rfl | rfl | none
  · have named : IsName binding.name :=
      holds.isName _ (List.mem_append_left _ (List.mem_map_of_mem bound))
    have helper : binding.helper = dateTimeHelper := by
      rw [holds.bindings] at bound
      rcases bindingsFor_cases entries with none | one <;> simp_all
    unfold Line.text Validator.bindingLine
    simp [named.newline_not_mem, helper, dateTimeHelper]
  · unfold Line.text
    simp [isRoot.newline_not_mem]
  · unfold Line.text
    simp
  · refine newline_not_mem_testLines isRoot ?_ among
    rw [holds.checks] at checked
    obtain ⟨entry, -, rfl⟩ := List.mem_map.mp checked
    exact entry.isReadable
  · unfold Line.text
    simp
  · unfold Line.text
    simp
  · cases none

/-- The checks of the root are those of the whole document. -/
theorem Validator.Holds.map_isInner (holds : validator.Holds entries) :
    (program validator).map Line.isInner =
      List.replicate (validator.scope.bindings.length + 1) false ++
        List.replicate (validator.checks.countP (fun check => check.instancePath = "") +
          2 * validator.checks.countP (fun check => check.instancePath ≠ "") + 2) true ++
        [false] := by
  have named := holds.wellNamed.root
  have whole : validator.checks.countP (fun check => check.data = validator.root) =
      validator.checks.countP fun check => check.instancePath = "" :=
    List.countP_congr fun check member => by simpa using named check member
  have others : validator.checks.countP (fun check => check.data ≠ validator.root) =
      validator.checks.countP fun check => check.instancePath ≠ "" :=
    List.countP_congr fun check member => by simpa using not_congr (named check member)
  rw [map_isInner_program, whole, others]

/-- The two sources of a session lay out one program. -/
theorem Session.source_eq_render (config : Config) (submissions : List Submission) :
    let validator (lines : Bool) :=
      ((Session.start { config with lines }).run submissions).1.finish
    validator true = (validator false).withConfig { config with lines := true } ∧
      ∀ lines, (validator lines).source = render lines (program (validator false)) := by
  intro validator
  have same : validator true = (validator false).withConfig { config with lines := true } :=
    congrArg (fun outcome => outcome.1.finish)
      ((Session.start { config with lines := false }).run_withConfig { config with lines := true }
        submissions)
  have settings (lines : Bool) : (validator lines).config = { config with lines } :=
    Session.run_config _ _
  refine ⟨same, fun lines => ?_⟩
  rw [source_eq, settings]
  cases lines with
  | false => rfl
  | true => rw [same, program_withConfig (by rw [settings])]

/-- Whatever is submitted to a session and however it is configured, the source on one line has no
line break, and that over several lines ends with one. Its lines are those that helpers need, one
that opens the function, the indented ones and one that closes it; joined by spaces, without their
indents, they are the source on one line. -/
theorem Session.source_layouts (config : Config) (submissions : List Submission) :
    let validator (lines : Bool) :=
      ((Session.start { config with lines }).run submissions).1.finish
    let source (lines : Bool) := (validator lines).source
    let helpers := (validator false).scope.bindings.length
    let roots := (validator false).checks.countP fun check => check.instancePath = ""
    let parts := (validator false).checks.countP fun check => check.instancePath ≠ ""
    validator true = (validator false).withConfig { config with lines := true } ∧
      '\n' ∉ (source false).toList ∧ (source true).toList.getLast? = some '\n' ∧
      " ".intercalate ((linesOf (source true)).map unindented) = source false ∧
      (linesOf (source true)).map isIndented =
        List.replicate (helpers + 1) false ++ List.replicate (roots + 2 * parts + 2) true ++
          [false] ∧
      (linesOf (source true)).length = 4 + helpers + roots + 2 * parts := by
  intro validator source helpers roots parts
  obtain ⟨entries, holds, -⟩ := Session.holds_run { config with lines := false } submissions
  obtain ⟨same, rendered⟩ := Session.source_eq_render config submissions
  have short : source false = render false (program (validator false)) := rendered false
  have long : source true = render true (program (validator false)) := rendered true
  have some : program (validator false) ≠ [] := by simp [program]
  have unbroken := holds.finish.newline_not_mem_line
  have indents : (linesOf (source true)).map isIndented =
      List.replicate (helpers + 1) false ++ List.replicate (roots + 2 * parts + 2) true ++
        [false] := by
    rw [long, linesOf_render some unbroken, List.map_map]
    simp only [Function.comp_def, Line.isIndented_text]
    exact holds.finish.map_isInner
  refine ⟨same, ?_, ?_, ?_, indents, ?_⟩
  · rw [short]
    exact newline_not_mem_render unbroken
  · rw [long]
    simp [render]
  · rw [long, short]
    exact unindented_render some unbroken
  · have count := congrArg List.length indents
    simp only [List.length_map, List.length_append, List.length_replicate, List.length_singleton]
      at count
    omega

end TypeForm
