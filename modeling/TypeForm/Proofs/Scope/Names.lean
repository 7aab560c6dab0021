import Mathlib.Data.List.Nodup
import TypeForm.Proofs.Scope.Run

/-!
# Names that a scope draws

A name is a stem followed by the number of names that were drawn from that stem before. Names of one
stem differ, but names of two stems may be the same, where one stem is the other with digits after
it: the first name of `x1` and the eleventh of `x` are both `x10`.

## Main result

`isSound_iff`: from the empty scope, a run of requests draws each name once and finds every helper by
its name exactly if no stem is drawn from more than `10 * k` times in a run that also draws from that
stem followed by the numeral of `k`.

## Proof strategy

A draw is determined by its stem and its number (`mem_draws_iff`), so that names are the same only
across stems. If they are, the numeral of the longer name's number starts with the numeral that
separates the stems (`exists_numeral_of_append`), and the first such clash is with number zero of
the longer stem.
-/
namespace TypeForm.Scope

/-! ### Numerals -/

theorem toList_numbered (stem : String) (count : Nat) :
    (numbered stem count).text.toList = stem.toList ++ Nat.toDigits 10 count := by
  rw [numbered, String.toList_append, Nat.toString_eq_repr, Nat.toList_repr]

theorem toDigits_injective {m n : Nat} (same : Nat.toDigits 10 m = Nat.toDigits 10 n) : m = n := by
  have read := congrArg (fun digits => Nat.ofDigitChars 10 digits 0) same
  simpa only [Nat.ofDigitChars_ten_toDigits] using read

theorem numbered_injective {stem : String} {m n : Nat} (same : numbered stem m = numbered stem n) :
    m = n := by
  have texts := congrArg (fun name => name.text.toList) same
  simp only [toList_numbered] at texts
  exact toDigits_injective (List.append_cancel_left texts)

/-- What stands before the last digits of a numeral is the numeral of a number that is less than a
tenth. -/
theorem exists_numeral_of_append {n : Nat} {front back : List Char}
    (spelled : Nat.toDigits 10 n = front ++ back) (before : front ≠ []) (after : back ≠ []) :
    ∃ k, 0 < k ∧ front = Nat.toDigits 10 k ∧ 10 * k ≤ n := by
  -- The last digit is cut off the numeral and the text behind, until none is left behind.
  induction n using Nat.strongRecOn generalizing back with
  | ind n ih =>
    obtain ⟨others, last, rfl⟩ : ∃ others last, back = others ++ [last] :=
      ⟨_, _, (List.dropLast_append_getLast after).symm⟩
    rw [Nat.toDigits_eq_if (by decide), ← List.append_assoc] at spelled
    split at spelled
    · -- A single digit is not cut in two.
      have short := congrArg List.length spelled
      have long := List.length_pos_iff.mpr before
      simp only [List.length_append, List.length_singleton] at short
      omega
    · obtain ⟨rest, -⟩ := List.append_inj' spelled rfl
      by_cases whole : others = []
      · exact ⟨n / 10, by omega, by simpa [whole] using rest.symm, by omega⟩
      · obtain ⟨k, positive, numeral, below⟩ := ih (n / 10) (by omega) rest whole
        exact ⟨k, positive, numeral, by omega⟩

/-- If one name spells the other, the longer stem is the shorter one, or that with a numeral after
it, and then the number of the shorter one is at least ten times as large as that. -/
theorem stem_of_append {stem other : String} {m n : Nat} {front : List Char}
    (split : other.toList = stem.toList ++ front)
    (digits : Nat.toDigits 10 m = front ++ Nat.toDigits 10 n) :
    other = stem ∨ ∃ k, 0 < k ∧ other = stem ++ toString k ∧ 10 * k ≤ m := by
  by_cases equal : front = []
  · exact .inl (String.toList_injective (by simpa [equal] using split))
  · obtain ⟨k, positive, numeral, below⟩ :=
      exists_numeral_of_append digits equal Nat.toDigits_ne_nil
    refine .inr ⟨k, positive, String.toList_injective ?_, below⟩
    rw [split, numeral, String.toList_append, Nat.toString_eq_repr, Nat.toList_repr]

/-- Names of two stems are the same only if one of the stems is the other with a numeral after
it. -/
theorem stems_of_numbered_eq {stem other : String} {m n : Nat}
    (same : numbered stem m = numbered other n) (differ : stem ≠ other) :
    ∃ k, 0 < k ∧ (other = stem ++ toString k ∧ 10 * k ≤ m ∨
      stem = other ++ toString k ∧ 10 * k ≤ n) := by
  have texts := congrArg (fun name => name.text.toList) same
  simp only [toList_numbered] at texts
  rcases List.append_eq_append_iff.mp texts with ⟨front, split, digits⟩ | ⟨front, split, digits⟩
  · obtain ⟨k, positive, found⟩ := (stem_of_append split digits).resolve_left fun equal =>
      differ equal.symm
    exact ⟨k, positive, .inl found⟩
  · obtain ⟨k, positive, found⟩ := (stem_of_append split digits).resolve_left differ
    exact ⟨k, positive, .inr found⟩

/-- The first name of a stem that has a numeral at its end is a name of the stem before that. -/
theorem numbered_zero_of_append (stem : String) {k : Nat} (positive : 0 < k) :
    numbered (stem ++ toString k) 0 = numbered stem (10 * k) := by
  have digits := Nat.toDigits_append_toDigits (b := 10) (n := k) (d := 0) (by decide) positive
    (by decide)
  rw [numbered, numbered, Ident.mk.injEq]
  apply String.toList_injective
  simp only [String.toList_append, Nat.toString_eq_repr, Nat.toList_repr, List.append_assoc, digits,
    Nat.add_zero]

/-! ### The names of a run -/

section Draws

variable (scope : Scope)

/-- From every stem the names are drawn in the order of their numbers, without a gap. -/
theorem mem_draws_iff (requests : List Request) (stem : String) (name : Ident) :
    (stem, name) ∈ scope.draws requests ↔
      ∃ count, scope.drawn.count stem ≤ count ∧
        count < scope.drawn.count stem + ((scope.draws requests).map (·.1)).count stem ∧
        name = numbered stem count := by
  induction requests generalizing scope with
  | nil =>
    simp only [draws, List.not_mem_nil, List.map_nil, List.count_nil, false_iff]
    rintro ⟨count, least, below, -⟩
    omega
  | cons request rest ih =>
    cases drawn : scope.stem? request with
    | none =>
      rw [scope.draws_of_stem?_eq_none drawn]
      exact ih scope
    | some other =>
      have counted := (scope.serve_of_stem?_eq_some drawn).2
      rw [scope.draws_of_stem?_eq_some drawn, List.mem_cons, ih, counted, List.map_cons,
        Prod.mk.injEq, next]
      by_cases same : other = stem
      · -- The number drawn now is the least, and those drawn later follow it.
        subst same
        simp only [List.count_cons_self, true_and]
        constructor
        · rintro (rfl | ⟨count, least, below, rfl⟩)
          · exact ⟨_, Nat.le_refl _, by omega, rfl⟩
          · exact ⟨count, by omega, by omega, rfl⟩
        · rintro ⟨count, least, below, rfl⟩
          rcases Nat.eq_or_lt_of_le least with first | later
          · exact .inl (by rw [first])
          · exact .inr ⟨count, by omega, by omega, rfl⟩
      · -- A draw from another stem does not count.
        have differ : stem ≠ other := fun equal => same equal.symm
        simp [List.count_cons_of_ne same, differ]

theorem draws_nodup (requests : List Request) : (scope.draws requests).Nodup := by
  induction requests generalizing scope with
  | nil => exact List.nodup_nil
  | cons request rest ih =>
    cases drawn : scope.stem? request with
    | none =>
      rw [scope.draws_of_stem?_eq_none drawn]
      exact ih scope
    | some stem =>
      rw [scope.draws_of_stem?_eq_some drawn, List.nodup_cons]
      refine ⟨fun again => ?_, ih _⟩
      -- What is drawn later has a higher number.
      obtain ⟨count, least, -, named⟩ := (mem_draws_iff _ _ _ _).mp again
      rw [(scope.serve_of_stem?_eq_some drawn).2, List.count_cons_self] at least
      have same := numbered_injective named
      omega

end Draws

/-- From the empty scope, a stem gives the names with as many numbers as it is drawn from. -/
theorem mem_draws_empty_iff (requests : List Request) (stem : String) (name : Ident) :
    (stem, name) ∈ empty.draws requests ↔
      ∃ count, count < ((empty.draws requests).map (·.1)).count stem ∧
        name = numbered stem count := by
  have none : empty.drawn.count stem = 0 := rfl
  simpa only [none, Nat.zero_le, Nat.zero_add, true_and] using empty.mem_draws_iff requests stem name

/-- No stem is drawn from so often that its names meet those of a drawn stem with a numeral at its
end. -/
def IsClear (stems : List String) : Prop :=
  ∀ stem k, 0 < k → stem ++ toString k ∈ stems → stems.count stem ≤ 10 * k

theorem IsClear.stem_eq {stems : List String} (clear : IsClear stems) {stem other : String}
    {m n : Nat} (drawn : m < stems.count stem) (also : n < stems.count other)
    (same : numbered stem m = numbered other n) : stem = other := by
  by_contra differ
  have left : stem ∈ stems := List.count_pos_iff.mp (Nat.zero_lt_of_lt drawn)
  have right : other ∈ stems := List.count_pos_iff.mp (Nat.zero_lt_of_lt also)
  obtain ⟨k, positive, ⟨rfl, below⟩ | ⟨rfl, below⟩⟩ := stems_of_numbered_eq same differ
  · have few := clear stem k positive right
    omega
  · have few := clear other k positive left
    omega

/-- The names of a run from the empty scope are all different exactly if its stems are clear of one
another. -/
theorem names_nodup_iff (requests : List Request) :
    ((empty.draws requests).map (·.2)).Nodup ↔ IsClear ((empty.draws requests).map (·.1)) := by
  rw [List.nodup_map_iff_inj_on (empty.draws_nodup requests)]
  constructor
  · intro injective stem k positive member
    by_contra above
    -- Otherwise the first name of the longer stem was drawn from the shorter one, too.
    have longer := (mem_draws_empty_iff requests (stem ++ toString k) _).mpr
      ⟨0, List.count_pos_iff.mpr member, rfl⟩
    have shorter := (mem_draws_empty_iff requests stem _).mpr
      ⟨10 * k, Nat.lt_of_not_le above, rfl⟩
    have same := injective _ longer _ shorter (numbered_zero_of_append stem positive)
    -- But their stems are not of one length.
    have lengths := congrArg (fun draw => draw.1.length) same
    simp at lengths
  · rintro clear ⟨stem, name⟩ first ⟨other, _⟩ second rfl
    obtain ⟨m, drawn, named⟩ := (mem_draws_empty_iff requests stem name).mp first
    obtain ⟨n, also, renamed⟩ := (mem_draws_empty_iff requests other name).mp second
    rw [clear.stem_eq drawn also (named.symm.trans renamed)]

/-! ### Helpers and their names -/

/-- Where bindings have different names, each is found by its own. -/
theorem helper?_of_mem {scope : Scope} (distinct : (scope.bindings.map Binding.name).Nodup)
    {binding : Binding} (member : binding ∈ scope.bindings) :
    scope.helper? binding.name = some binding.helper := by
  have found : scope.bindings.find? (fun other => other.name == binding.name) = some binding := by
    cases first : scope.bindings.find? (fun other => other.name == binding.name) with
    | none => simpa using List.find?_eq_none.mp first binding member
    | some other =>
      -- The first with that name is the binding itself, as no other has it.
      have named : other.name = binding.name := by simpa using List.find?_some first
      rw [List.inj_on_of_nodup_map distinct (List.mem_of_find?_eq_some first) member named]
  rw [helper?, found, Option.map_some]

/-- What is asked of a scope: each name that is drawn in a run differs from those drawn before, and
at its end a helper's name, whenever it was given, leads to the helper that was first asked for
under the same key. -/
structure IsSound (requests : List Request) : Prop where
  distinct : ((empty.draws requests).map (·.2)).Nodup
  lookup : ∀ stem helper name,
    (Request.bind stem helper, name) ∈ requests.zip (empty.run requests).1 →
      (empty.run requests).2.helper? name = firstHelper? requests helper.key

/-- Different names are all that it takes to find helpers by them. -/
theorem isSound_of_nodup {requests : List Request}
    (distinct : ((empty.draws requests).map (·.2)).Nodup) : IsSound requests := by
  refine ⟨distinct, fun stem helper name answer => ?_⟩
  obtain ⟨added, bound, named⟩ := empty.bindings_run requests
  obtain ⟨binding, found, rfl⟩ := empty.findKey?_of_answer answer
  -- The names of bindings are among those drawn.
  have names : ((empty.run requests).2.bindings.map Binding.name).Nodup := by
    rw [bound]
    exact distinct.sublist named
  have first := empty.findKey?_run requests helper.key
  rw [found] at first
  exact (helper?_of_mem names (List.mem_of_find?_eq_some found)).trans first

/-- A run from the empty scope is sound exactly if its stems are clear of one another: none is drawn
from more than `10 * k` times together with the same stem followed by the numeral of `k`. -/
theorem isSound_iff (requests : List Request) :
    IsSound requests ↔ IsClear ((empty.draws requests).map (·.1)) :=
  ⟨fun sound => (names_nodup_iff requests).mp sound.distinct,
    fun clear => isSound_of_nodup ((names_nodup_iff requests).mpr clear)⟩

/-- Stems that end in no digit are clear of one another, however often they are drawn from. -/
theorem isSound_of_letters {requests : List Request}
    (letters : ∀ stem ∈ (empty.draws requests).map (·.1), ∀ c ∈ stem.toList.getLast?,
      c.isDigit = false) : IsSound requests := by
  refine isSound_of_nodup ((names_nodup_iff requests).mpr fun stem k _ member => ?_)
  -- A stem with a numeral at its end ends in a digit.
  have last : (stem ++ toString k).toList.getLast? =
      some ((Nat.toDigits 10 k).getLast Nat.toDigits_ne_nil) := by
    rw [String.toList_append, Nat.toString_eq_repr, Nat.toList_repr,
      List.getLast?_append_of_ne_nil _ Nat.toDigits_ne_nil, List.getLast?_eq_some_getLast]
  have digit : ((Nat.toDigits 10 k).getLast Nat.toDigits_ne_nil).isDigit = true :=
    Nat.isDigit_of_mem_toDigits (by decide) (by decide) (List.getLast_mem _)
  rw [letters _ member _ last] at digit
  cases digit

/-- A helper of the stem `func1`, ten names of the stem `func`, and another helper of that. -/
def clash : List Request :=
  .bind "func1" ⟨"empty", String.isEmpty, "isEmpty"⟩ :: List.replicate 10 (.fresh "func")
    ++ [.bind "func" ⟨"ascii", fun s => s.toList.all (·.toNat < 128), "isAscii"⟩]

/-- The second helper gets the name of the first, and the first is found under it. -/
theorem clash_not_isSound :
    ¬IsSound clash ∧ (empty.run clash).1.head? = (empty.run clash).1.getLast? ∧
      ((empty.run clash).2.helper? ⟨"func10"⟩).map Helper.key = some "empty" := by
  have again : ¬((empty.draws clash).map (·.2)).Nodup := by decide +kernel
  exact ⟨fun sound => again sound.distinct, by decide +kernel, by decide +kernel⟩

end TypeForm.Scope
