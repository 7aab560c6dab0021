import TypeForm.Proofs.Toml.Key

/-!
# Documents line by line

A document whose lines hold one statement each, or nothing, is read as these statements in their
order (`Read.document?_of_spells`). An assignment to a plain key puts it at the end of its table,
unless the table has it already (`assign_new`).
-/
namespace TypeForm.Toml

namespace Read

/-! ### Lines -/

/-- A line holds a statement, whatever the lines after it are. -/
structure Holds (line : String) (statement : Statement) : Prop where
  begins : ∃ c more, line.toList = c :: more ∧ Opens c
  back : ∀ rest, statement? (line.toList ++ '\n' :: rest) = some (statement, rest)

/-- Lines hold statements in their order; those that hold none are empty. -/
inductive Spells : List String → List Statement → Prop
  | done : Spells [] []
  | blank {lines statements} (rest : Spells lines statements) : Spells ("" :: lines) statements
  | line {line statement lines statements} (holds : Holds line statement)
      (rest : Spells lines statements) : Spells (line :: lines) (statement :: statements)

theorem Spells.append {lines others : List String} {first second : List Statement}
    (front : Spells lines first) (back : Spells others second) :
    Spells (lines ++ others) (first ++ second) := by
  induction front with
  | done => exact back
  | blank _ ih => exact .blank ih
  | line holds _ ih => exact .line holds ih

/-- The characters of lines, each with a break at its end. -/
def lineChars (lines : List String) : List Char :=
  lines.flatMap fun line => line.toList ++ ['\n']

theorem toList_join_lines (lines : List String) :
    (String.join (lines.map (· ++ "\n"))).toList = lineChars lines := by
  simp [String.toList_join, lineChars, List.flatMap_map]

theorem lineChars_cons (line : String) (lines : List String) :
    lineChars (line :: lines) = line.toList ++ '\n' :: lineChars lines := by
  simp [lineChars]

theorem skipLines_of_opens {c : Char} (opens : Opens c) (steps : Nat) (rest : List Char) :
    skipLines steps (c :: rest) = c :: rest := by
  cases steps with
  | zero => rfl
  | succ steps =>
    have visible := skipBlanks_of_opens opens rest
    have comment : c ≠ '#' := opens.ne (by decide)
    have newline : c ≠ '\n' := opens.ne (by decide)
    have feed : c ≠ '\r' := opens.ne (by decide)
    simp [skipLines, visible, skipComment, lineBreak?, comment, newline, feed]

theorem statements_blank (steps : Nat) (s : List Char) :
    statements (steps + 1) ('\n' :: s) = statements (steps + 1) s := by
  have passed : skipLines (('\n' :: s).length + 1) ('\n' :: s) = skipLines (s.length + 1) s := rfl
  simp only [statements, passed]

theorem statements_line {line : String} {statement : Statement} (holds : Holds line statement)
    (steps : Nat) (rest : List Char) :
    statements (steps + 1) (line.toList ++ '\n' :: rest) =
      (statements steps rest).map (statement :: ·) := by
  obtain ⟨c, more, spelled, opens⟩ := holds.begins
  have back := holds.back rest
  rw [spelled, List.cons_append] at back ⊢
  have comment : c ≠ '#' := opens.ne (by decide)
  rw [statements, skipLines_of_opens opens]
  split
  · contradiction
  · next same => exact absurd (List.cons.inj same).1 comment
  · simp only [back, Option.bind_eq_bind, Option.bind_some]
    cases statements steps rest <;> rfl

theorem statements_lineChars {lines : List String} {found : List Statement}
    (spells : Spells lines found) {steps : Nat} (enough : (lineChars lines).length < steps) :
    statements steps (lineChars lines) = some found := by
  -- Every line takes one step at most, and has a break at least.
  induction spells generalizing steps with
  | done =>
    obtain ⟨fewer, rfl⟩ := Nat.exists_eq_succ_of_ne_zero (Nat.ne_zero_of_lt enough)
    rfl
  | @blank lines found _ ih =>
    obtain ⟨fewer, rfl⟩ := Nat.exists_eq_succ_of_ne_zero (Nat.ne_zero_of_lt enough)
    rw [lineChars_cons] at enough ⊢
    rw [String.toList_empty, List.nil_append] at enough ⊢
    rw [statements_blank]
    exact ih (Nat.lt_of_succ_lt enough)
  | @line line statement lines found holds _ ih =>
    obtain ⟨fewer, rfl⟩ := Nat.exists_eq_succ_of_ne_zero (Nat.ne_zero_of_lt enough)
    rw [lineChars_cons] at enough ⊢
    have fits : (lineChars lines).length < fewer := by
      simp only [List.length_append, List.length_cons] at enough
      omega
    rw [statements_line holds, ih fits]
    rfl

theorem Spells.lineChars_ne {lines : List String} {found : List Statement}
    (spells : Spells lines found) (rest : List Char) : lineChars lines ≠ '\ufeff' :: rest := by
  intro same
  cases spells with
  | done => cases same
  | blank _ =>
    rw [lineChars_cons] at same
    cases same
  | line holds _ =>
    obtain ⟨c, more, spelled, opens⟩ := holds.begins
    rw [lineChars_cons, spelled, List.cons_append] at same
    exact opens.ne (by decide) (List.cons.inj same).1

/-- A document is read as what its lines hold. -/
theorem document?_of_spells {lines : List String} {found : List Statement}
    (spells : Spells lines found) :
    document? (String.join (lines.map (· ++ "\n"))) = build? found := by
  have read := statements_lineChars spells (Nat.lt_succ_self _)
  rw [document?, toList_join_lines]
  -- There is no byte order mark to take off.
  split
  · next rest same => exact absurd same (spells.lineChars_ne rest)
  · simp only [read, Option.bind_eq_bind, Option.bind_some]

/-! ### Assignments -/

/-- A word at the end of a line is read as a value. -/
structure Denotes (word : String) (item : Toml) : Prop where
  begins : ∃ c more, word.toList = c :: more ∧ Opens c
  back : ∀ rest, value maxDepth (word.toList ++ '\n' :: rest) = some (item, '\n' :: rest)

variable {word : String} {item : Toml}

theorem assignment?_of_denotes (denotes : Denotes word item) (key rest : List Char) :
    assignment? (value maxDepth)
        (keyChars key ++ ' ' :: '=' :: ' ' :: (word.toList ++ '\n' :: rest)) =
      some (([], String.ofList key, item), '\n' :: rest) := by
  have path := keyPath?_keyChars key (' ' :: (word.toList ++ '\n' :: rest))
  have blank : skipBlanks (' ' :: (word.toList ++ '\n' :: rest)) = word.toList ++ '\n' :: rest := by
    obtain ⟨c, more, begins, opens⟩ := denotes.begins
    rw [begins]
    exact skipBlanks_of_opens opens (more ++ '\n' :: rest)
  have ends : skipBlanks ('\n' :: rest) = '\n' :: rest := rfl
  simp only [assignment?, path, Option.bind_eq_bind, Option.bind_some, after?, if_true, blank,
    denotes.back, ends]

/-- A line sets any key to a value. -/
theorem holds_assignment (key : String) (denotes : Denotes word item) :
    Holds (keyText key ++ " = " ++ word) (.assignment [] key item) := by
  have spelled : (keyText key ++ " = " ++ word).toList =
      keyChars key.toList ++ ' ' :: '=' :: ' ' :: word.toList := by
    simp [keyText]
  obtain ⟨c, more, first, opens, header⟩ := keyChars_opens key.toList
  refine ⟨⟨c, _, by rw [spelled, first, List.cons_append], opens⟩, ?_⟩
  intro rest
  have read := assignment?_of_denotes denotes key.toList rest
  have last : lineEnd? ('\n' :: rest) = some rest := rfl
  rw [spelled, List.append_assoc, List.cons_append, List.cons_append, List.cons_append]
  rw [first, List.cons_append] at read ⊢
  rw [statement?]
  · simp only [read, Option.bind_eq_bind, Option.bind_some, last, String.ofList_toList]
  -- A key does not begin with the bracket of a header.
  · intro others same
    exact header (List.cons.inj same).1
  · intro others same
    exact header (List.cons.inj same).1

end Read

/-! ### Entries of a table -/

theorem Entries.node?_new {entries : Entries} {key : String}
    (new : key ∉ entries.map (·.1)) : Entries.node? entries key = none := by
  have differs : ∀ entry ∈ entries, (entry.1 == key) = false := by
    intro entry inside
    apply beq_false_of_ne
    rintro rfl
    exact new (List.mem_map_of_mem inside)
  have none : entries.find? (fun entry => entry.1 == key) = none :=
    List.find?_eq_none.mpr (by simpa using differs)
  rw [node?, none]
  rfl

theorem Entries.put_new {entries : Entries} {key : String} (node : Node)
    (new : key ∉ entries.map (·.1)) : Entries.put entries key node = entries ++ [(key, node)] := by
  induction entries with
  | nil => rfl
  | cons first rest ih =>
    rw [List.map_cons, List.mem_cons, not_or] at new
    rw [put, if_neg (Ne.symm new.1), ih new.2]
    rfl

/-- Entries as a document makes them one by one. -/
def Entries.ofValues (values : List (String × Toml)) : Entries :=
  values.map fun entry => (entry.1, .value entry.2)

theorem finishEntries_ofValues (values : List (String × Toml)) :
    finishEntries (Entries.ofValues values) = values := by
  induction values with
  | nil => rfl
  | cons first rest ih =>
    rw [Entries.ofValues] at ih
    rw [Entries.ofValues, List.map_cons, finishEntries, Node.finish, ih]

theorem assign_new {key : String} (value : Toml) {target : Section} (plain : target.origin ≠ .dotted)
    (new : key ∉ target.entries.map (·.1)) :
    assign [] key value target =
      some { target with entries := target.entries ++ [(key, .value value)] } := by
  have other : (target.origin == Origin.dotted) = false := beq_false_of_ne plain
  simp [assign, within, other, Entries.node?_new new, Entries.put_new _ new]

end TypeForm.Toml
