import TypeForm.Proofs.Source.Condition
import TypeForm.Validator.Source

/-!
# Validators are read back

A reader for the source of validators. It skips the space between lines, so that it does not
depend on how they are laid out, and finds a statement for each check: what is tested, and what is
reported if the test fails.

## Main result

`source?_source`: the source of a validator is read back as the statements of its checks, if their
conditions are readable and their names are as names are drawn.
-/
namespace TypeForm.Source

/-! ### The reader -/

/-- What is reported for a check. -/
structure Report where
  instancePath : String
  schemaPath : String
  keyword : String

/-- What the source of a validator says of a check. -/
structure Statement where
  data : Ident
  condition : Condition
  allErrors : Bool
  report : Report

/-- The text from the next line on. -/
def next (s : List Char) : List Char :=
  s.dropWhile fun c => c == ' ' || c == '\n'

/-- What follows the access to a part of a document. -/
def access? : (steps : Nat) → List Char → Option (List Char)
  | 0, _ => none
  | steps + 1, s =>
    match s with
    | ';' :: rest => some rest
    | _ => do
      let s ← expect? "?.[" s
      let (_, s) ← literal? s
      let s ← expect? "]" s
      access? steps s

/-- What is reported, and whether the report is one of several. -/
def action? (s : List Char) : Option (Bool × Report × List Char) := do
  let allErrors := s.head? == some 'e'
  let s ← expect? (if allErrors then "errors.push(" else "return [") s
  let s ← expect? "\x7binstancePath: " s
  let (instancePath, s) ← literal? s
  let s ← expect? ", schemaPath: " s
  let (schemaPath, s) ← literal? s
  let s ← expect? ", keyword: " s
  let (keyword, s) ← literal? s
  let s ← expect? "\x7d" s
  let s ← expect? (if allErrors then ");" else "];") s
  some (allErrors, ⟨instancePath, schemaPath, keyword⟩, s)

/-- A test of the whole document. -/
def rootTest? (fuel : Nat) (root : Ident) (s : List Char) : Option (Statement × List Char) := do
  let s ← expect? "if (" s
  let (condition, s) ← condition? fuel s
  let s ← expect? ") " s
  let (allErrors, report, s) ← action? s
  some (⟨root, condition, allErrors, report⟩, s)

/-- The binding of a part of the document, and the test of it. -/
def partTest? (fuel : Nat) (s : List Char) : Option (Statement × List Char) := do
  let s ← expect? "const " s
  let (data, s) := word s
  let s ← expect? " = " s
  let (_, s) := word s
  let s ← access? fuel s
  let s ← expect? "if (" (next s)
  let (_, s) := word s
  let s ← expect? " !== undefined && (" s
  let (condition, s) ← condition? fuel s
  let s ← expect? ")) " s
  let (allErrors, report, s) ← action? s
  some (⟨⟨data⟩, condition, allErrors, report⟩, s)

/-- A test, whose first character tells what it is about. -/
def test? (fuel : Nat) (root : Ident) (s : List Char) : Option (Statement × List Char) :=
  match s with
  | 'i' :: _ => rootTest? fuel root s
  | _ => partTest? fuel s

/-- The statements up to the end of the function. -/
def statements? (fuel : Nat) (root : Ident) : (steps : Nat) → List Char → Option (List Statement)
  | 0, _ => none
  | steps + 1, s =>
    match next s with
    | 'r' :: _ => some []
    | rest => do
      let (statement, s) ← test? fuel root rest
      let others ← statements? fuel root steps s
      some (statement :: others)

/-- The statements of a source, in which at most the given helper is bound. -/
def source? (fuel : Nat) (binding : Binding) (s : List Char) : Option (List Statement) := do
  let s := next ((expect? (Validator.bindingLine binding) s).getD s)
  let s ← expect? "function validate(" s
  let (root, s) := word s
  let s ← expect? ") \x7b" s
  let s ← expect? "const errors = [];" (next s)
  statements? fuel ⟨root⟩ fuel s

/-! ### What is read -/

/-- Space between lines. -/
def IsGap (gap : List Char) : Prop :=
  ∀ c ∈ gap, c = ' ' ∨ c = '\n'

theorem next_append {gap : List Char} (isGap : IsGap gap) {c : Char}
    (visible : c ≠ ' ' ∧ c ≠ '\n') (rest : List Char) : next (gap ++ c :: rest) = c :: rest := by
  have inside : ∀ d ∈ gap, (d == ' ' || d == '\n') = true := fun d member => by
    simpa using isGap d member
  have ends : ∀ d ∈ (c :: rest).head?, (d == ' ' || d == '\n') = false := by
    rintro d same
    cases same
    simpa using visible
  exact (cut_append inside ends).2

def statement (allErrors : Bool) (check : Check) : Statement :=
  ⟨check.data, check.condition, allErrors,
    ⟨check.instancePath, check.schemaPath, check.keyword⟩⟩

private theorem isPush (allErrors : Bool) (rest : List Char) :
    (((if allErrors then "errors.push(" else "return [").toList ++ rest).head? == some 'e') =
      allErrors := by
  cases allErrors <;> rfl

theorem action?_append (allErrors : Bool) (check : Check) (rest : List Char) :
    action? ((Validator.actionText allErrors check).toList ++ rest) =
      some (allErrors, ⟨check.instancePath, check.schemaPath, check.keyword⟩, rest) := by
  have split : (Validator.actionText allErrors check).toList ++ rest =
      (if allErrors then "errors.push(" else "return [").toList ++ ("\x7binstancePath: ".toList ++
        ((Json.literal check.instancePath).toList ++ (", schemaPath: ".toList ++
        ((Json.literal check.schemaPath).toList ++ (", keyword: ".toList ++
        ((Json.literal check.keyword).toList ++ ("\x7d".toList ++
        ((if allErrors then ");" else "];").toList ++ rest)))))))) := by
    unfold Validator.actionText Validator.failureText
    cases allErrors <;>
      simp only [if_true, if_false, Bool.false_eq_true, String.toList_append, List.append_assoc]
  rw [split, action?, isPush]
  simp only [expect?_append, literal?_append, bind, Option.bind_some]

/-- The text that accesses one part after the other. -/
def accessText (tokens : List String) : String :=
  String.join (tokens.map fun token => "?.[" ++ Json.literal token ++ "]")

theorem toList_accessText_cons (token : String) (others : List String) :
    (accessText (token :: others)).toList =
      "?.[".toList ++ ((Json.literal token).toList ++
        ("]".toList ++ (accessText others).toList)) := by
  simp [accessText, String.toList_join]

theorem access?_append (tokens : List String) {steps : Nat} (enough : tokens.length < steps)
    (rest : List Char) : access? steps ((accessText tokens).toList ++ ';' :: rest) = some rest := by
  induction tokens generalizing steps with
  | nil =>
    obtain ⟨fewer, rfl⟩ := Nat.exists_eq_succ_of_ne_zero (Nat.ne_zero_of_lt enough)
    rfl
  | cons token others ih =>
    obtain ⟨fewer, rfl⟩ := Nat.exists_eq_succ_of_ne_zero (Nat.ne_zero_of_lt enough)
    simp only [toList_accessText_cons, List.append_assoc]
    rw [access?]
    · simp only [expect?_append, literal?_append, bind, Option.bind_some]
      exact ih (Nat.lt_of_succ_lt_succ enough)
    · intro others same
      cases same

private theorem wordEnds_access (tokens : List String) (rest : List Char) :
    WordEnds ((accessText tokens).toList ++ ';' :: rest) := by
  cases tokens with
  | nil => simp [accessText, WordEnds]
  | cons token others => simp [accessText, WordEnds]

theorem accessText_pointer (pointer : String) :
    ∃ tokens, Pointer.accessText pointer = accessText tokens ∧
      tokens.length ≤ (Text.segments pointer.toList).length := by
  refine ⟨((Text.segments pointer.toList).drop 1).map fun segment =>
    String.ofList (Pointer.unescapeChars segment), ?_, ?_⟩
  · simp only [Pointer.accessText, accessText, List.map_map]
    rfl
  · rw [List.length_map, List.length_drop]
    omega

/-- A limit for what is read of a check. -/
def Fits (fuel : Nat) (check : Check) : Prop :=
  sizeOf check.condition < fuel ∧ (Text.segments check.instancePath.toList).length < fuel

/-- A check as it is read back: the condition is readable, and its data is the root's only if it
is named so. -/
structure IsReadable (check : Check) : Prop where
  condition : Readable check.condition
  data : IsName check.data

/-! ### Lines of a check -/

/-- The test of a check on the whole document. -/
def rootLine (allErrors : Bool) (check : Check) : String :=
  "if (" ++ check.condition.text ++ ") " ++ Validator.actionText allErrors check

/-- The binding of the part of the document that a check is about. -/
def bindLine (root : Ident) (check : Check) : String :=
  "const " ++ check.data.text ++ " = " ++ root.text ++ Pointer.accessText check.instancePath ++ ";"

/-- The test of a check on a part of the document. -/
def partLine (allErrors : Bool) (check : Check) : String :=
  "if (" ++ check.data.text ++ " !== undefined && (" ++ check.condition.text ++ ")) "
    ++ Validator.actionText allErrors check

theorem checkLines_root {root : Ident} {check : Check} (whole : check.data = root)
    (allErrors : Bool) : Validator.checkLines root allErrors check = [rootLine allErrors check] :=
  if_pos whole

theorem checkLines_part {root : Ident} {check : Check} (part : check.data ≠ root)
    (allErrors : Bool) : Validator.checkLines root allErrors check =
      [bindLine root check, partLine allErrors check] :=
  if_neg part

section Tests

variable {fuel : Nat} {check : Check}

theorem rootTest?_append (readable : IsReadable check) (fits : Fits fuel check) (allErrors : Bool)
    (rest : List Char) :
    rootTest? fuel check.data ((rootLine allErrors check).toList ++ rest) =
      some (statement allErrors check, rest) := by
  have split : (rootLine allErrors check).toList ++ rest =
      "if (".toList ++ (check.condition.text.toList ++ (") ".toList ++
        ((Validator.actionText allErrors check).toList ++ rest))) := by
    unfold rootLine
    simp only [String.toList_append, List.append_assoc]
  have closed : Closed (") ".toList ++ ((Validator.actionText allErrors check).toList ++ rest)) := by
    simp [Closed]
  rw [split, rootTest?]
  simp only [expect?_append, condition?_text readable.condition fits.1 closed, action?_append, bind,
    Option.bind_some, statement]

theorem partTest?_append (readable : IsReadable check) (fits : Fits fuel check) {root : Ident}
    (isRoot : IsName root) (allErrors : Bool) {gap : List Char} (isGap : IsGap gap)
    (rest : List Char) :
    partTest? fuel ((bindLine root check).toList ++
        (gap ++ ((partLine allErrors check).toList ++ rest))) =
      some (statement allErrors check, rest) := by
  obtain ⟨tokens, access, count⟩ := accessText_pointer check.instancePath
  have fewer : tokens.length < fuel := Nat.lt_of_le_of_lt count fits.2
  have binding (more : List Char) : (bindLine root check).toList ++ more =
      "const ".toList ++ (check.data.text.toList ++ (" = ".toList ++ (root.text.toList ++
        ((accessText tokens).toList ++ ';' :: more)))) := by
    have semicolon : ";".toList ++ more = ';' :: more := rfl
    unfold bindLine
    simp only [access, String.toList_append, List.append_assoc, semicolon]
  have test : (partLine allErrors check).toList ++ rest =
      "if (".toList ++ (check.data.text.toList ++ (" !== undefined && (".toList ++
        (check.condition.text.toList ++ (")) ".toList ++
        ((Validator.actionText allErrors check).toList ++ rest))))) := by
    unfold partLine
    simp only [String.toList_append, List.append_assoc]
  have skipped (more : List Char) : next (gap ++ ("if (".toList ++ more)) =
      "if (".toList ++ more :=
    next_append isGap (by decide) _
  have closed : Closed (")) ".toList ++ ((Validator.actionText allErrors check).toList ++ rest)) := by
    simp [Closed]
  have blank (more : List Char) : WordEnds (" = ".toList ++ more) := by simp [WordEnds]
  have differs (more : List Char) : WordEnds (" !== undefined && (".toList ++ more) := by
    simp [WordEnds]
  rw [binding, test, partTest?]
  simp only [expect?_append, readable.data.word_eq (blank _),
    isRoot.word_eq (wordEnds_access tokens _), access?_append tokens fewer, skipped,
    readable.data.word_eq (differs _), condition?_text readable.condition fits.1 closed,
    action?_append, bind, Option.bind_some, statement]

end Tests

/-! ### Lines of a validator -/

/-- Lines, each after a gap. -/
def linesAfter (gap : List Char) (lines : List String) : List Char :=
  lines.flatMap fun line => gap ++ line.toList

/-- The lines of a check are read back as its statement. They start with a visible character, and
not like the end of the function. -/
theorem test?_append {fuel : Nat} {root : Ident} (isRoot : IsName root) {check : Check}
    (readable : IsReadable check) (fits : Fits fuel check) (allErrors : Bool) {gap : List Char}
    (isGap : IsGap gap) (rest : List Char) :
    ∃ c more, linesAfter gap (Validator.checkLines root allErrors check) ++ rest =
        gap ++ c :: more ∧ c ≠ 'r' ∧ (c ≠ ' ' ∧ c ≠ '\n') ∧
      test? fuel root (c :: more) = some (statement allErrors check, rest) := by
  by_cases whole : check.data = root
  · have read := rootTest?_append readable fits allErrors rest
    obtain ⟨more, opens⟩ : ∃ more, (rootLine allErrors check).toList ++ rest = 'i' :: more := by
      unfold rootLine
      simp only [String.toList_append, List.append_assoc]
      exact ⟨_, rfl⟩
    rw [opens, whole] at read
    refine ⟨'i', more, ?_, by decide, by decide, read⟩
    rw [checkLines_root whole]
    simp [linesAfter, opens]
  · have read := partTest?_append readable fits isRoot allErrors isGap rest
    obtain ⟨more, opens⟩ : ∃ more, (bindLine root check).toList ++
        (gap ++ ((partLine allErrors check).toList ++ rest)) = 'c' :: more := by
      unfold bindLine
      simp only [String.toList_append, List.append_assoc]
      exact ⟨_, rfl⟩
    rw [opens] at read
    refine ⟨'c', more, ?_, by decide, by decide, read⟩
    rw [checkLines_part whole]
    simp [linesAfter, opens]

/-- The statements of checks are read one after the other, up to the end of the function. -/
theorem statements?_append {fuel : Nat} {root : Ident} (isRoot : IsName root)
    {checks : List Check} (allErrors : Bool)
    (readable : ∀ check ∈ checks, IsReadable check ∧ Fits fuel check) {gap : List Char}
    (isGap : IsGap gap) (rest : List Char) {steps : Nat} (enough : checks.length < steps) :
    statements? fuel root steps
        (linesAfter gap (checks.flatMap (Validator.checkLines root allErrors)) ++ (gap ++
          ("return errors;".toList ++ rest))) =
      some (checks.map (statement allErrors)) := by
  induction checks generalizing steps with
  | nil =>
    obtain ⟨fewer, rfl⟩ := Nat.exists_eq_succ_of_ne_zero (Nat.ne_zero_of_lt enough)
    have last : next (gap ++ ("return errors;".toList ++ rest)) =
        "return errors;".toList ++ rest :=
      next_append isGap (by decide) _
    simp only [linesAfter, List.flatMap_nil, List.nil_append, statements?, last]
    rfl
  | cons check others ih =>
    obtain ⟨fewer, rfl⟩ := Nat.exists_eq_succ_of_ne_zero (Nat.ne_zero_of_lt enough)
    have rests := ih (fun other member => readable other (List.mem_cons_of_mem _ member))
      (Nat.lt_of_succ_lt_succ enough)
    obtain ⟨isReadable, fits⟩ := readable check List.mem_cons_self
    rw [List.flatMap_cons, linesAfter, List.flatMap_append, ← linesAfter, ← linesAfter,
      List.append_assoc]
    generalize linesAfter gap (others.flatMap (Validator.checkLines root allErrors)) ++ (gap ++
      ("return errors;".toList ++ rest)) = tail at rests ⊢
    -- The first character tells that the function is not over yet.
    obtain ⟨c, more, lines, continues, visible, read⟩ :=
      test?_append isRoot isReadable fits allErrors isGap tail
    rw [lines, statements?, next_append isGap visible]
    simp [continues, read, rests]

/-! ### The whole source -/

/-- However lines are laid out, there is only space between them. -/
theorem source_layout (validator : Validator) :
    ∃ separator indent ending : String, IsGap separator.toList ∧ IsGap indent.toList ∧
      validator.source = separator.intercalate (validator.sourceLines indent) ++ ending := by
  unfold Validator.source
  -- Lines are separated by a break and an indent of two spaces, or by a single space.
  cases validator.config.lines with
  | true => exact ⟨"\n", "  ", "\n", by simp [IsGap], by simp [IsGap], rfl⟩
  | false => exact ⟨" ", "", "", by simp [IsGap], by simp [IsGap], by simp⟩

theorem intercalate_cons (separator first : List Char) (others : List (List Char)) :
    separator.intercalate (first :: others) = first ++ others.flatMap (separator ++ ·) := by
  induction others generalizing first with
  | nil => simp
  | cons second others ih => simp [List.intercalate_cons_cons, ih]

/-- The function of a validator, from its first line on. -/
def functionLines (validator : Validator) (indent : String) : List String :=
  ("function validate(" ++ validator.root.text ++ ") \x7b")
    :: validator.bodyLines.map (indent ++ ·) ++ ["\x7d"]

theorem functionLines_text (validator : Validator) (separator indent ending : String) :
    ∃ rest, (separator.intercalate (functionLines validator indent) ++ ending).toList =
      "function validate(".toList ++ (validator.root.text.toList ++ (") \x7b".toList ++
        ((separator.toList ++ indent.toList) ++ ("const errors = [];".toList ++
        (linesAfter (separator.toList ++ indent.toList) (validator.checks.flatMap
          (Validator.checkLines validator.root validator.config.allErrors)) ++
        ((separator.toList ++ indent.toList) ++ ("return errors;".toList ++ rest))))))) := by
  refine ⟨separator.toList ++ "\x7d".toList ++ ending.toList, ?_⟩
  unfold functionLines Validator.bodyLines linesAfter
  simp only [String.toList_append, String.toList_intercalate, List.map_cons, List.map_append,
    List.cons_append, intercalate_cons, List.flatMap_append, List.flatMap_cons, List.flatMap_nil,
    List.map_nil, List.append_assoc, List.append_nil, List.nil_append, List.map_map,
    List.flatMap_map, Function.comp_def]

/-- What is left of the source after the helper that it may bind. -/
theorem next_source {validator : Validator} {binding : Binding} {separator indent ending : String}
    (bindings : validator.scope.bindings = [] ∨ validator.scope.bindings = [binding])
    (separates : IsGap separator.toList)
    (layout : validator.source = separator.intercalate (validator.sourceLines indent) ++ ending) :
    next ((expect? (Validator.bindingLine binding) validator.source.toList).getD
        validator.source.toList) =
      (separator.intercalate (functionLines validator indent) ++ ending).toList := by
  obtain ⟨rest, function⟩ := functionLines_text validator separator indent ending
  have visible (gap more : List Char) (isGap : IsGap gap) :
      next (gap ++ ("function validate(".toList ++ more)) = "function validate(".toList ++ more :=
    next_append isGap (by decide) _
  rcases bindings with unused | one
  · -- Without a helper the source starts with the function.
    have lines : validator.sourceLines indent = functionLines validator indent := by
      simp [Validator.sourceLines, functionLines, unused]
    have unbound (more : List Char) :
        expect? (Validator.bindingLine binding) ("function validate(".toList ++ more) = none := by
      simp [expect?, Validator.bindingLine, List.dropPrefix?]
    rw [layout, lines, function, unbound]
    exact visible [] _ (by simp [IsGap])
  · have lines : (separator.intercalate (validator.sourceLines indent) ++ ending).toList =
        (Validator.bindingLine binding).toList ++ (separator.toList ++
          (separator.intercalate (functionLines validator indent) ++ ending).toList) := by
      simp [Validator.sourceLines, functionLines, one, String.toList_intercalate,
        intercalate_cons]
    rw [layout, lines, expect?_append, Option.getD_some, function]
    exact visible separator.toList _ separates

/-- The source of a validator is read back. -/
theorem source?_source {validator : Validator} {binding : Binding} {fuel : Nat}
    (bindings : validator.scope.bindings = [] ∨ validator.scope.bindings = [binding])
    (isRoot : IsName validator.root)
    (readable : ∀ check ∈ validator.checks, IsReadable check ∧ Fits fuel check)
    (enough : validator.checks.length < fuel) :
    source? fuel binding validator.source.toList =
      some (validator.checks.map (statement validator.config.allErrors)) := by
  obtain ⟨separator, indent, ending, separates, indents, layout⟩ := source_layout validator
  obtain ⟨rest, function⟩ := functionLines_text validator separator indent ending
  have isGap : IsGap (separator.toList ++ indent.toList) := by
    intro c member
    rcases List.mem_append.mp member with member | member
    · exact separates c member
    · exact indents c member
  have errors (more : List Char) : next ((separator.toList ++ indent.toList) ++
      ("const errors = [];".toList ++ more)) = "const errors = [];".toList ++ more :=
    next_append isGap (by decide) _
  have bracket (more : List Char) : WordEnds (") \x7b".toList ++ more) := by simp [WordEnds]
  rw [source?, next_source bindings separates layout, function]
  simp only [expect?_append, isRoot.word_eq (bracket _), errors, bind, Option.bind_some]
  exact statements?_append isRoot _ readable isGap rest enough

end TypeForm.Source
