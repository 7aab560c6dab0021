import TypeForm.Proofs.Session.Naming
import TypeForm.Proofs.Source.Determinacy

/-!
# Identifiers in the source

The source of a validator is a program of a few kinds of lines. Each line declares identifiers and
uses others. In the source of any session each identifier is declared once, and used only after
that.

## Main result

`run_wellNamed`: whatever was submitted to a session, names are given and used as they should be,
in the validator and in its source.

## Proof strategy

Uses are followed along the program with a list of what is known so far (`Follows`), which splits
where programs are put together (`follows_append`). That nothing is declared twice is counted over
the names that were drawn (`nodup_drawn`); the two words that the source adds of its own do not end
in a digit, as all drawn names do.
-/
namespace TypeForm
namespace Source

/-! ### Programs -/

inductive Line where
  | load (binding : Binding)
  | opening (root : Ident)
  | collect
  /-- Name the part of the document that a check is about. -/
  | part (root : Ident) (check : Check)
  | rootTest (allErrors : Bool) (check : Check)
  | partTest (allErrors : Bool) (check : Check)
  | result
  | closing

namespace Line

/-- The line as it is written; those of the function are indented. -/
def text (indent : String) : Line → String
  | load binding => Validator.bindingLine binding
  | opening root => "function validate(" ++ root.text ++ ") \x7b"
  | collect => indent ++ "const errors = [];"
  | part root check => indent ++ bindLine root check
  | rootTest allErrors check => indent ++ rootLine allErrors check
  | partTest allErrors check => indent ++ partLine allErrors check
  | result => indent ++ "return errors;"
  | closing => "\x7d"

def function : Ident := ⟨"validate"⟩

/-- The list of failures. -/
def failures : Ident := ⟨"errors"⟩

def declares : Line → List Ident
  | load binding => [binding.name]
  | opening root => [function, root]
  | collect => [failures]
  | part _ check => [check.data]
  | rootTest _ _ | partTest _ _ | result | closing => []

/-- The identifiers in a condition, and the list of failures if the test adds to it. -/
def testUses (allErrors : Bool) (check : Check) : List Ident :=
  check.condition.dataNames ++ check.condition.callees ++ if allErrors then [failures] else []

def uses : Line → List Ident
  | part root _ => [root]
  | rootTest allErrors check => testUses allErrors check
  | partTest allErrors check => check.data :: testUses allErrors check
  | result => [failures]
  | load _ | opening _ | collect | closing => []

end Line

/-- Every identifier is declared once, and used only after that. -/
structure WellScoped (program : List Line) : Prop where
  once : (program.flatMap Line.declares).Nodup
  after : ∀ before line rest, program = before ++ line :: rest →
    ∀ name ∈ line.uses, name ∈ before.flatMap Line.declares

/-- The lines of a check. -/
def testLines (root : Ident) (allErrors : Bool) (check : Check) : List Line :=
  if check.data = root then [.rootTest allErrors check]
  else [.part root check, .partTest allErrors check]

/-- The lines of a validator. -/
def program (validator : Validator) : List Line :=
  validator.scope.bindings.map .load ++ .opening validator.root :: .collect ::
    validator.checks.flatMap (testLines validator.root validator.config.allErrors) ++
      [.result, .closing]

/-- A program over several lines or on one. -/
def render (lines : Bool) (program : List Line) : String :=
  if lines then "\n".intercalate (program.map (·.text "  ")) ++ "\n"
  else " ".intercalate (program.map (·.text ""))

theorem text_testLines (root : Ident) (allErrors : Bool) (check : Check) (indent : String) :
    (testLines root allErrors check).map (·.text indent) =
      (Validator.checkLines root allErrors check).map (indent ++ ·) := by
  by_cases whole : check.data = root
  · rw [testLines, if_pos whole, checkLines_root whole]
    rfl
  · rw [testLines, if_neg whole, checkLines_part whole]
    rfl

theorem sourceLines_eq (validator : Validator) (indent : String) :
    validator.sourceLines indent = (program validator).map (·.text indent) := by
  have loads : (validator.scope.bindings.map Line.load).map (·.text indent) =
      validator.scope.bindings.map Validator.bindingLine := by
    rw [List.map_map]
    rfl
  simp only [program, Validator.sourceLines, Validator.bodyLines, List.map_append, List.map_cons,
    List.map_flatMap, text_testLines, loads, List.cons_append, List.append_assoc]
  rfl

theorem source_eq (validator : Validator) :
    validator.source = render validator.config.lines (program validator) := by
  rw [Validator.source, render, sourceLines_eq, sourceLines_eq]

/-! ### Uses after declarations -/

/-- Lines use only what is known before them or declared by lines before. -/
def Follows (known : List Ident) : List Line → Prop
  | [] => True
  | line :: rest => (∀ name ∈ line.uses, name ∈ known) ∧ Follows (known ++ line.declares) rest

theorem follows_append {known : List Ident} {first others : List Line} :
    Follows known (first ++ others) ↔
      Follows known first ∧ Follows (known ++ first.flatMap Line.declares) others := by
  induction first generalizing known with
  | nil => simp [Follows]
  | cons line rest ih =>
    simp only [List.cons_append, Follows, ih, List.flatMap_cons, List.append_assoc, and_assoc]

theorem Follows.uses {program before rest : List Line} {line : Line}
    (follows : Follows [] program) (split : program = before ++ line :: rest) :
    ∀ name ∈ line.uses, name ∈ before.flatMap Line.declares := by
  rw [split, follows_append] at follows
  exact follows.2.1

theorem follows_of_uses_nil {known : List Ident} {lines : List Line}
    (none : ∀ line ∈ lines, line.uses = []) : Follows known lines := by
  induction lines generalizing known with
  | nil => trivial
  | cons line rest ih =>
    refine ⟨by simp [none line List.mem_cons_self], ih fun other member => ?_⟩
    exact none other (List.mem_cons_of_mem _ member)

/-- What the lines of checks need to know: the root, the helpers that conditions call, and the list
of failures. -/
structure Opened (known : List Ident) (root : Ident) (checks : List Check) : Prop where
  root : root ∈ known
  failures : Line.failures ∈ known
  own : ∀ check ∈ checks, ∀ name ∈ check.condition.dataNames, name = check.data
  callees : ∀ check ∈ checks, ∀ name ∈ check.condition.callees, name ∈ known

theorem Opened.tail {known more : List Ident} {root : Ident} {check : Check}
    {checks : List Check} (opened : Opened known root (check :: checks)) :
    Opened (known ++ more) root checks where
  root := List.mem_append_left _ opened.root
  failures := List.mem_append_left _ opened.failures
  own := fun other member => opened.own other (List.mem_cons_of_mem _ member)
  callees := fun other member name called =>
    List.mem_append_left _ (opened.callees other (List.mem_cons_of_mem _ member) name called)

/-- A test uses what was opened and the data of its check. -/
theorem Opened.testUses {known : List Ident} {root : Ident} {check : Check} {checks : List Check}
    (opened : Opened known root (check :: checks)) (allErrors : Bool) {name : Ident}
    (used : name ∈ Line.testUses allErrors check) : name = check.data ∨ name ∈ known := by
  unfold Line.testUses at used
  rcases List.mem_append.mp used with used | failures
  · rcases List.mem_append.mp used with data | helper
    · exact .inl (opened.own check List.mem_cons_self name data)
    · exact .inr (opened.callees check List.mem_cons_self name helper)
  · cases allErrors with
    | false => cases failures
    | true => exact .inr (List.mem_singleton.mp failures ▸ opened.failures)

theorem Opened.follows {known : List Ident} {root : Ident} {checks : List Check}
    (opened : Opened known root checks) (allErrors : Bool) :
    Follows known (checks.flatMap (testLines root allErrors)) := by
  induction checks generalizing known with
  | nil => trivial
  | cons check rest ih =>
    rw [List.flatMap_cons, follows_append]
    refine ⟨?_, ih opened.tail⟩
    by_cases whole : check.data = root
    · -- The whole document was named by the opening line.
      rw [testLines, if_pos whole]
      refine ⟨fun name used => ?_, trivial⟩
      rcases opened.testUses allErrors used with rfl | known
      · exact whole ▸ opened.root
      · exact known
    · rw [testLines, if_neg whole]
      refine ⟨fun name used => List.mem_singleton.mp used ▸ opened.root, fun name used => ?_,
        trivial⟩
      -- The part of the document was named in the line before.
      have named : check.data ∈ known ++ (Line.part root check).declares :=
        List.mem_append_right _ List.mem_cons_self
      rcases List.mem_cons.mp used with rfl | used
      · exact named
      · rcases opened.testUses allErrors used with rfl | known
        · exact named
        · exact List.mem_append_left _ known

/-! ### Scoping of sessions -/

section Validator

variable {validator : Validator}

theorem declares_checks (root : Ident) (allErrors : Bool) (checks : List Check) :
    (checks.flatMap (testLines root allErrors)).flatMap Line.declares =
      (checks.filter fun check => check.data ≠ root).map Check.data := by
  induction checks with
  | nil => rfl
  | cons check rest ih =>
    rw [List.flatMap_cons, List.flatMap_append, ih, List.filter_cons, testLines]
    by_cases whole : check.data = root <;> simp [whole, Line.declares]

theorem declares_loads (bindings : List Binding) :
    (bindings.map Line.load).flatMap Line.declares = bindings.map Binding.name := by
  rw [List.flatMap_map, List.map_eq_flatMap]
  rfl

theorem declares_program (validator : Validator) :
    (program validator).flatMap Line.declares =
      validator.scope.bindings.map Binding.name ++
        ([Line.function, validator.root, Line.failures] ++
          (validator.checks.filter fun check => check.data ≠ validator.root).map Check.data) := by
  simp only [program, List.flatMap_append, List.flatMap_cons, declares_checks, declares_loads]
  simp [Line.declares]

theorem follows_program (named : validator.WellNamed) : Follows [] (program validator) := by
  -- What is known where the first check is tested.
  let names := validator.scope.bindings.map Binding.name
  let known := names ++ [Line.function, validator.root] ++ [Line.failures]
  have loads : Follows [] (validator.scope.bindings.map Line.load) := by
    refine follows_of_uses_nil fun line member => ?_
    obtain ⟨binding, -, rfl⟩ := List.mem_map.mp member
    rfl
  have opened : Opened known validator.root validator.checks :=
    { root := by simp [known]
      failures := by simp [known]
      own := named.own
      callees := fun check member name called => by
        obtain ⟨binding, bound, rfl⟩ := named.bound check member name called
        have helper : binding.name ∈ names := List.mem_map_of_mem bound
        simp [known, helper] }
  have tests := opened.follows validator.config.allErrors
  have ending (more : List Ident) : Follows (known ++ more) [Line.result, Line.closing] :=
    ⟨fun name used => List.mem_singleton.mp used ▸ List.mem_append_left _ opened.failures,
      by simp [Line.uses], trivial⟩
  rw [program, List.append_assoc, follows_append, declares_loads, List.nil_append]
  -- The opening line and the list of failures use nothing.
  exact ⟨loads, by simp [Line.uses], by simp [Line.uses], follows_append.mpr ⟨tests, ending _⟩⟩

/-- The names that were drawn for a validator, of its helpers, the root and the parts. -/
def drawn (validator : Validator) : List Ident :=
  validator.scope.bindings.map Binding.name ++ validator.root ::
    (validator.checks.filter fun check => check.data ≠ validator.root).map Check.data

theorem nodup_drawn (named : validator.WellNamed) : (drawn validator).Nodup := by
  -- The checks with names of their own are those of parts.
  have paths : validator.checks.filter (fun check => check.data ≠ validator.root) =
      validator.checks.filter fun check => check.instancePath ≠ "" :=
    List.filter_congr fun check member => by simp [named.root check member]
  have parts := named.parts
  rw [← paths] at parts
  refine List.nodup_append.mpr ⟨named.helpers, List.nodup_cons.mpr ⟨?_, parts⟩, ?_⟩
  · simp
  · intro helper isHelper data isData same
    obtain ⟨binding, bound, rfl⟩ := List.mem_map.mp isHelper
    obtain ⟨fromRoot, fromData⟩ := named.apart binding bound
    rcases List.mem_cons.mp isData with root | part
    · exact fromRoot (same.trans root)
    · obtain ⟨check, inside, data⟩ := List.mem_map.mp part
      exact fromData check (List.mem_of_mem_filter inside) (same.trans data.symm)

theorem not_mem_own {name : Ident} (isName : IsName name) :
    name ∉ [Line.function, Line.failures] := by
  -- A drawn name ends in a digit, and neither of these does.
  have function : name ≠ Line.function := fun same =>
    isName.ne_of_letter ⟨['v', 'a', 'l', 'i', 'd', 'a', 't'], rfl⟩ rfl (congrArg Ident.text same)
  have failures : name ≠ Line.failures := fun same =>
    isName.ne_of_letter ⟨['e', 'r', 'r', 'o', 'r'], rfl⟩ rfl (congrArg Ident.text same)
  simp [function, failures]

theorem nodup_declares (named : validator.WellNamed)
    (isName : ∀ name ∈ drawn validator, IsName name) :
    ((program validator).flatMap Line.declares).Nodup := by
  -- The source's own words are moved to the front.
  have reordered : ((program validator).flatMap Line.declares).Perm
      ([Line.function, Line.failures] ++ drawn validator) := by
    refine List.perm_iff_count.mpr fun name => ?_
    simp only [declares_program, drawn, List.count_append, List.count_cons, List.count_nil]
    omega
  rw [reordered.nodup_iff]
  refine List.nodup_append.mpr ⟨by decide, nodup_drawn named, ?_⟩
  rintro name own _ member rfl
  exact not_mem_own (isName name member) own

end Validator

end Source

open Source

/-- The names of a session's validator, each a stem and a numeral. -/
theorem Validator.Holds.isName {validator : Validator} {entries : List Entry}
    (holds : validator.Holds entries) : ∀ name ∈ drawn validator, IsName name := by
  intro name member
  rw [drawn, holds.root, holds.checks, holds.bindings] at member
  rcases List.mem_append.mp member with helper | data
  · rcases bindingsFor_cases entries with none | one
    · simp [none] at helper
    · rw [one] at helper
      exact List.mem_singleton.mp helper ▸ isName_func 0
  · rcases List.mem_cons.mp data with rfl | part
    · exact isName_data 0
    · obtain ⟨check, inside, rfl⟩ := List.mem_map.mp part
      obtain ⟨entry, -, rfl⟩ := List.mem_map.mp (List.mem_of_mem_filter inside)
      exact isName_data entry.index

/-- The source of a validator that a session made declares each identifier once, before its uses. -/
theorem Validator.Holds.wellScoped {validator : Validator} {entries : List Entry}
    (holds : validator.Holds entries) : WellScoped (program validator) where
  once := nodup_declares holds.wellNamed holds.isName
  after := fun _ _ _ split => (follows_program holds.wellNamed).uses split

/-- Whatever is submitted to a session, with whatever success, names are given and used as they
should be: the validator's are well given, the helper of timestamps is bound exactly if a
timestamp's node compiled, and nothing else is bound. So no check meets a name without a value, and
the source declares each identifier once, before its uses. -/
theorem run_wellNamed (config : Config) (submissions : List Submission) :
    let outcome := (Session.start config).run submissions
    let validator := outcome.1.finish
    let stamped := ∃ submission, (submission, .ok ()) ∈ submissions.zip outcome.2 ∧
      submission.HasType .timestamp
    validator.WellNamed ∧
      (stamped → validator.scope.bindings = [⟨helperName, dateTimeHelper⟩]) ∧
      (¬stamped → validator.scope.bindings = []) ∧
      (∀ document, ∀ check ∈ validator.checks,
        ∃ failed, check.fails validator.scope document = .ok failed) ∧
      validator.source = render validator.config.lines (program validator) ∧
      WellScoped (program validator) := by
  intro outcome validator stamped
  obtain ⟨entries, holds, -⟩ := Session.holds_run config submissions
  have named : validator.WellNamed := holds.finish.wellNamed
  obtain ⟨present, absent⟩ := Session.bindings_run config submissions
  exact ⟨named, present, absent, fun document check member => named.exists_fails member document,
    source_eq validator, holds.finish.wellScoped⟩

end TypeForm
