import TypeForm.Proofs.Number.Range
import TypeForm.Proofs.Session.Acceptance
import TypeForm.Proofs.Session.Settings

/-!
# Integers in documents

A document that is an integer is rounded before it is validated. If the integer has 64 bits, it is
nevertheless accepted exactly if it lies in the range of its type.

## Main result

`isValid_integer`: whatever node names an integer type, with or without `nullable`, compiles to a
validator that answers so.
-/
namespace TypeForm

/-- What a demand about the whole document finds fails to conform. -/
theorem Demand.failure?_whole (form : Form) (schemaPath : String) (document : Data) :
    ((Demand.mk form "" schemaPath).failure? document).isNone =
      decide (form.Conforms document) := by
  have whole : document.pointer "" = some document := rfl
  simp only [Demand.failure?, whole]
  by_cases conforms : form.Conforms document <;> simp [conforms]

/-- An accepted node with a type compiles, to a validator that decides whether documents conform. -/
theorem compile_isValid (config : Config) {node : Json} {form : Form} (accepted : IsNode node)
    (read : Form.ofNode? node = some form) :
    ∃ validator, compile config node = .ok validator ∧
      ∀ document, validator.isValid document = .ok (decide (form.Conforms document)) := by
  obtain ⟨validator, compiled⟩ : ∃ validator, compile config node = .ok validator := by
    have added : ((Session.start config).add "" "" node).2 = _ :=
      (Session.start config).add_result "" node rfl
    rw [compile_eq, added, readNode_of_isNode "" accepted]
    exact ⟨_, rfl⟩
  refine ⟨validator, compiled, fun document => ?_⟩
  -- The only check of the validator is that of the node's form, about the whole document.
  obtain ⟨entries, holds, made⟩ := compile_demands compiled
  have demand : Submission.demand? ⟨"", "", node⟩ = some ⟨form, "", ""⟩ := by
    rw [Submission.demand?, read]
    rfl
  have answer : validator.isValid document = _ :=
    holds.isValid_withConfig validator.config document
  rw [answer, made, ← Demand.failure?_whole form "" document]
  cases found : (Demand.mk form "" "").failure? document with
  | none => simp [demand, found]
  | some failure => simp [demand, found]

/-- An integer of 64 bits conforms to an integer type if it is in its range. -/
theorem Form.conforms_integer {type : IntType} {nullable : Bool} {n : ℤ}
    (small : n.natAbs < 2 ^ 64) :
    (Form.mk (.int type) nullable).Conforms (.ofJson (.number (.int n))) ↔
      type.range.min ≤ n ∧ n ≤ type.range.max := by
  rw [← type.contains_ofInt small, type.contains_iff]
  have data : Data.ofJson (.number (.int n)) = .number (.ofInt n) := rfl
  simp [Conforms, TypeTag.Admits, data]

/-- The validator of a node that names an integer type, whatever else the node says, accepts of the
integers of 64 bits those in the range of the type. They are converted to numbers that are nearest
to them before they are compared with the bounds. -/
theorem isValid_integer (config : Config) {node : Json} {type : IntType} {nullable : Bool}
    (accepted : IsNode node) (read : Form.ofNode? node = some ⟨.int type, nullable⟩) {n : ℤ}
    (fits : -2 ^ 63 ≤ n ∧ n < 2 ^ 64) :
    ∃ validator, compile config node = .ok validator ∧
      (∃ (x : Binary64) (k : ℤ), Data.ofJson (.number (.int n)) = .number x ∧ x.IsNearest k n) ∧
      validator.isValid (.ofJson (.number (.int n))) =
        .ok (decide (type.range.min ≤ n ∧ n ≤ type.range.max)) := by
  have small : n.natAbs < 2 ^ 64 := by omega
  obtain ⟨validator, compiled, decides⟩ := compile_isValid config accepted read
  obtain ⟨k, nearest⟩ := Binary64.exists_isNearest_ofInt small
  refine ⟨validator, compiled, ⟨.ofInt n, k, rfl, nearest⟩, ?_⟩
  rw [decides]
  simp only [Form.conforms_integer small]

/-- The largest integer of 64 bits is rounded up to the next power of two, and refused. -/
theorem isValid_integer_largest :
    IsNode (.object [("nullable", .bool true), ("type", .string "uint32")]) ∧
      Form.ofNode? (.object [("nullable", .bool true), ("type", .string "uint32")]) =
        some ⟨.int .uint32, true⟩ ∧
      (-2 ^ 63 ≤ (18446744073709551615 : ℤ) ∧ (18446744073709551615 : ℤ) < 2 ^ 64) ∧
      ∃ validator, compile .default
          (.object [("nullable", .bool true), ("type", .string "uint32")]) = .ok validator ∧
        (∃ (x : Binary64) (k : ℤ),
          Data.ofJson (.number (.int 18446744073709551615)) = .number x ∧
            x.IsNearest k (18446744073709551615 : ℤ)) ∧
        validator.isValid (.ofJson (.number (.int 18446744073709551615))) = .ok false := by
  have accepted : IsNode (.object [("nullable", .bool true), ("type", .string "uint32")]) := by
    refine ⟨_, rfl, by simp [Members.Supported], ?_, ?_, ?_⟩
    · rintro value found
      exact ⟨true, (Option.some.inj found).symm⟩
    · rintro value found
      cases found
    · rintro value found
      exact ⟨.int .uint32, (Option.some.inj found).symm⟩
  have read : Form.ofNode? (.object [("nullable", .bool true), ("type", .string "uint32")]) =
      some ⟨.int .uint32, true⟩ := by
    decide
  have fits : -2 ^ 63 ≤ (18446744073709551615 : ℤ) ∧ (18446744073709551615 : ℤ) < 2 ^ 64 := by
    decide
  exact ⟨accepted, read, fits, isValid_integer .default accepted read fits⟩

end TypeForm
