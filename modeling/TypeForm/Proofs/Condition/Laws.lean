import TypeForm.Proofs.Condition.Flat

/-!
# Laws of the folding constructors

On conditions that are built from atoms and constants, conjunction and disjunction are monoids and
negation is its own inverse. These are equations between conditions and not only between their
values: it does not matter in which steps a condition was put together from its parts.

## Main result

`fold_laws`: the conjunction of two lists is the conjunction of their conjunctions, and likewise for
disjunctions; hence both are associative and have their units, and two negations cancel.

## Proof strategy

What a folded node contributes is what its conditions contribute (`operands_fold`), since they are
flat: parts that were brought to the surface by one fold are not taken apart by the next one, and a
single part that takes the place of a node still contributes itself. This gives the law about two
lists (`fold_append`), and associativity from it (`fold_assoc`).
-/
namespace TypeForm.Condition

variable {unit : Bool} {condition : Condition} {conditions : List Condition}

/-! ### Nodes -/

theorem operands_gather (alone : ∀ condition ∈ conditions, IsOperand unit condition) :
    operands unit (gather unit conditions) = conditions := by
  match conditions with
  | [] => exact operands_const unit
  | [condition] => exact operands_of_isOperand (alone condition List.mem_cons_self)
  | _ :: _ :: _ => exact operands_node unit _

theorem operands_fold (flat : ∀ condition ∈ conditions, Flat condition) :
    operands unit (fold unit conditions) = conditions.flatMap (operands unit) := by
  rw [fold_eq]
  exact operands_gather fun part member => (Flat.of_mem_flatMap flat part member).2

theorem fold_append {others : List Condition} (flat : ∀ condition ∈ conditions, Flat condition)
    (also : ∀ condition ∈ others, Flat condition) :
    fold unit (conditions ++ others) = fold unit [fold unit conditions, fold unit others] := by
  rw [fold_eq unit (conditions ++ others), fold_eq unit [_, _], List.flatMap_append,
    List.flatMap_cons, List.flatMap_singleton, operands_fold flat, operands_fold also]

/-- A flat condition alone is left as it is. -/
theorem fold_singleton (flat : Flat condition) : fold unit [condition] = condition := by
  rw [fold_eq, List.flatMap_singleton]
  rcases node_or_unit_or_isOperand unit condition with ⟨others, rfl⟩ | rfl | alone
  · rw [operands_node, gather_of_several (flat_node_iff.mp flat).1]
  · rw [operands_const, gather]
  · rw [operands_of_isOperand alone, gather]

section
variable {first second third : Condition}

theorem fold_assoc (one : Flat first) (two : Flat second) (three : Flat third) :
    fold unit [fold unit [first, second], third] = fold unit [first, fold unit [second, third]] := by
  -- Both are the fold of all three, which may be split after the second or after the first.
  calc
    fold unit [fold unit [first, second], third]
    _ = fold unit [fold unit [first, second], fold unit [third]] := by rw [fold_singleton three]
    _ = fold unit ([first, second] ++ [third]) :=
      (fold_append (one.pair two) (List.forall_mem_singleton.mpr three)).symm
    _ = fold unit [fold unit [first], fold unit [second, third]] :=
      fold_append (List.forall_mem_singleton.mpr one) (two.pair three)
    _ = fold unit [first, fold unit [second, third]] := by rw [fold_singleton one]

theorem fold_unit_left (flat : Flat first) : fold unit [const unit, first] = first := by
  rw [fold_eq, List.flatMap_cons, operands_const, List.nil_append, ← fold_eq, fold_singleton flat]

theorem fold_unit_right (flat : Flat first) : fold unit [first, const unit] = first := by
  rw [fold_eq, List.flatMap_cons, List.flatMap_singleton, operands_const, List.append_nil,
    ← List.flatMap_singleton (operands unit), ← fold_eq, fold_singleton flat]

end

/-! ### Negation -/

theorem negate_negate (flat : Flat condition) : condition.negate.negate = condition := by
  cases condition with
  | const value => exact congrArg const (Bool.not_not value)
  | not inner =>
    cases flat with
    | atom isAtom => exact isAtom.elim
    | not _ noConst noNot => exact negate_eq_not noConst noNot
  | _ => rfl

/-! ### The laws -/

/-- Of conditions built from atoms and constants, joining two lists is joining what each of them is
joined to. So the order of joining makes no difference, units are left out, and two negations
cancel. -/
theorem fold_laws {left right : List Condition} (builtLeft : ∀ condition ∈ left, Built condition)
    (builtRight : ∀ condition ∈ right, Built condition) {first second third : Condition}
    (one : Built first) (two : Built second) (three : Built third) :
    (all (left ++ right) = both (all left) (all right) ∧
        any (left ++ right) = either (any left) (any right)) ∧
      (both (both first second) third = both first (both second third) ∧
        either (either first second) third = either first (either second third)) ∧
      (both (const true) first = first ∧ both first (const true) = first) ∧
      (either (const false) first = first ∧ either first (const false) = first) ∧
      first.negate.negate = first := by
  have flatLeft : ∀ condition ∈ left, Flat condition :=
    fun condition member => (builtLeft condition member).flat
  have flatRight : ∀ condition ∈ right, Flat condition :=
    fun condition member => (builtRight condition member).flat
  refine ⟨⟨?_, ?_⟩, ⟨?_, ?_⟩, ⟨?_, ?_⟩, ⟨?_, ?_⟩, negate_negate one.flat⟩
  · exact @fold_append true _ _ flatLeft flatRight
  · exact @fold_append false _ _ flatLeft flatRight
  · exact @fold_assoc true _ _ _ one.flat two.flat three.flat
  · exact @fold_assoc false _ _ _ one.flat two.flat three.flat
  · exact @fold_unit_left true _ one.flat
  · exact @fold_unit_right true _ one.flat
  · exact @fold_unit_left false _ one.flat
  · exact @fold_unit_right false _ one.flat

/-- A conjunction of two tests, built from three conditions. -/
def wholeNumber : Condition :=
  all [isFinite ⟨"data0"⟩, const true, isWhole ⟨"data0"⟩]

/-- A negation of a disjunction. -/
def absent : Condition :=
  negate (either (notNull ⟨"data0"⟩) (isMoment ⟨"data0"⟩))

theorem fold_laws_absent :
    Built wholeNumber ∧ Built absent ∧
      (all ([wholeNumber, const true] ++ [absent]) =
            both (all [wholeNumber, const true]) (all [absent]) ∧
          any ([wholeNumber, const true] ++ [absent]) =
            either (any [wholeNumber, const true]) (any [absent])) ∧
        (both (both absent wholeNumber) wholeNumber = both absent (both wholeNumber wholeNumber) ∧
          either (either absent wholeNumber) wholeNumber =
            either absent (either wholeNumber wholeNumber)) ∧
        (both (const true) absent = absent ∧ both absent (const true) = absent) ∧
        (either (const false) absent = absent ∧ either absent (const false) = absent) ∧
        absent.negate.negate = absent := by
  have whole : Built wholeNumber := by
    refine .all ?_
    simpa using ⟨Built.atom trivial, Built.const true, Built.atom trivial⟩
  have other : Built absent := .negate (.either (.atom trivial) (.atom trivial))
  have left : ∀ condition ∈ [wholeNumber, const true], Built condition := by
    simpa using ⟨whole, .const true⟩
  have right : ∀ condition ∈ [absent], Built condition := by simpa using other
  exact ⟨whole, other, fold_laws left right other whole whole⟩

/-- Nested conjunctions and negated constants, which the constructors do not build, break the
laws. -/
example : all ([and [and [isFinite ⟨"data0"⟩, isWhole ⟨"data0"⟩]]] ++ [notNull ⟨"data0"⟩]) =
      and [and [isFinite ⟨"data0"⟩, isWhole ⟨"data0"⟩], notNull ⟨"data0"⟩] ∧
    both (all [and [and [isFinite ⟨"data0"⟩, isWhole ⟨"data0"⟩]]]) (all [notNull ⟨"data0"⟩]) =
      and [isFinite ⟨"data0"⟩, isWhole ⟨"data0"⟩, notNull ⟨"data0"⟩] ∧
    negate (negate (not (const true))) = const false :=
  ⟨rfl, rfl, rfl⟩

end TypeForm.Condition
