import TypeForm.Ascending
import TypeForm.Json.Basic

/-!
# Entries in any order

Where every key occurs once, putting entries in their places only reorders them (`perm_sortByKey`).
So it does not matter in which order entries are listed (`sortByKey_of_perm`), and the members of an
object are found by their keys as before (`Members.value?_sortByKey`).
-/
namespace TypeForm

variable {α : Type} {entries listed : List (String × α)}

theorem perm_putByKey {key : String} (value : α) (new : key ∉ entries.map (·.1)) :
    (putByKey key value entries).Perm ((key, value) :: entries) := by
  fun_induction putByKey key value entries with
  | case1 => exact .refl _
  | case2 kept rest => simp at new
  | case3 => exact .refl _
  | case4 other kept rest _ _ ih =>
    have further : key ∉ rest.map (·.1) := by
      intro member
      exact new (List.mem_cons_of_mem other member)
    exact ((ih further).cons (other, kept)).trans (.swap ..)

private theorem perm_foldl_putByKey (sorted : List (String × α))
    (distinct : ((entries ++ sorted).map (·.1)).Nodup) :
    (entries.foldl (fun sorted entry => putByKey entry.1 entry.2 sorted) sorted).Perm
      (entries ++ sorted) := by
  induction entries generalizing sorted with
  | nil => exact .refl _
  | cons entry rest ih =>
    rw [List.cons_append, List.map_cons, List.nodup_cons, List.map_append, List.mem_append,
      not_or] at distinct
    obtain ⟨⟨notRest, notSorted⟩, others⟩ := distinct
    have put := perm_putByKey entry.2 notSorted
    have moved : (rest ++ putByKey entry.1 entry.2 sorted).Perm (entry :: (rest ++ sorted)) :=
      (put.append_left rest).trans List.perm_middle
    have fresh : ((rest ++ putByKey entry.1 entry.2 sorted).map (·.1)).Nodup := by
      rw [(moved.map _).nodup_iff, List.map_cons, List.map_append, List.nodup_cons,
        List.mem_append, not_or]
      exact ⟨⟨notRest, notSorted⟩, others⟩
    exact (ih _ fresh).trans moved

/-- Entries with distinct keys are only reordered. -/
theorem perm_sortByKey (distinct : (entries.map (·.1)).Nodup) :
    (sortByKey entries).Perm entries := by
  have moved : (sortByKey entries).Perm (entries ++ []) :=
    perm_foldl_putByKey [] (by rwa [List.append_nil])
  rwa [List.append_nil] at moved

theorem Ascending.nodup (ascending : Ascending entries) : (entries.map (·.1)).Nodup := by
  rw [List.Nodup, List.pairwise_map]
  refine ascending.imp ?_
  intro first second less same
  exact String.lt_irrefl _ (same ▸ less)

/-- Entries come into the same order, however they are listed. -/
theorem sortByKey_of_perm (ascending : Ascending entries) (same : listed.Perm entries) :
    sortByKey listed = entries := by
  have distinct : (listed.map (·.1)).Nodup := (same.map _).nodup_iff.mpr ascending.nodup
  refine ((perm_sortByKey distinct).trans same).eq_of_pairwise ?_ (ascending_sortByKey listed)
    ascending
  intro first second _ _ less greater
  exact absurd greater (String.lt_asymm less)

namespace Members

variable {members others : Members} {key : String} {value : Json}

@[simp] theorem value?_nil (key : String) : value? [] key = none :=
  rfl

@[simp] theorem value?_cons (first : String × Json) (rest : Members) (key : String) :
    value? (first :: rest) key = if first.1 = key then some first.2 else rest.value? key := by
  by_cases same : first.1 = key <;> simp [value?, same]

theorem value?_eq_some_iff (distinct : (members.map (·.1)).Nodup) :
    members.value? key = some value ↔ (key, value) ∈ members := by
  induction members with
  | nil => simp [value?]
  | cons first rest ih =>
    obtain ⟨notRest, others⟩ := List.nodup_cons.mp distinct
    rw [value?_cons, List.mem_cons, ← ih others]
    split
    · next same =>
      -- The rest has no member with the key of the first.
      have absent : ¬value? rest key = some value := by
        rw [ih others]
        intro member
        exact notRest (List.mem_map.mpr ⟨(key, value), member, same.symm⟩)
      simp [absent, Prod.ext_iff, same, eq_comm]
    · next differs => simp [Prod.ext_iff, Ne.symm differs]

/-- The order of members with distinct keys does not matter. -/
theorem value?_of_perm (distinct : (members.map (·.1)).Nodup) (same : members.Perm others)
    (key : String) : members.value? key = others.value? key := by
  have distinct' : (others.map (·.1)).Nodup := (same.map _).nodup_iff.mp distinct
  ext value
  rw [value?_eq_some_iff distinct, value?_eq_some_iff distinct', same.mem_iff]

theorem value?_sortByKey (distinct : (members.map (·.1)).Nodup) (key : String) :
    Members.value? (sortByKey members) key = members.value? key :=
  (value?_of_perm distinct (perm_sortByKey distinct).symm key).symm

theorem value?_map (f : Json → Json) (members : Members) (key : String) :
    Members.value? (members.map fun member => (member.1, f member.2)) key =
      (members.value? key).map f := by
  induction members with
  | nil => rfl
  | cons first rest ih =>
    rw [List.map_cons, value?_cons, value?_cons, ih]
    split <;> rfl

end Members
end TypeForm
