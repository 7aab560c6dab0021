/-!
# Entries with ascending keys

Lists of entries in which keys ascend, so that each key occurs once. Putting an entry in its place
keeps the order (`Ascending.put`), so entries put in place one after the other ascend
(`ascending_sortByKey`).
-/
namespace TypeForm

variable {α : Type}

/-- Keys ascend. -/
def Ascending (entries : List (String × α)) : Prop :=
  entries.Pairwise fun first second => first.1 < second.1

/-- Put a value in its place by key, replacing the one with the same key. -/
def putByKey (key : String) (value : α) : List (String × α) → List (String × α)
  | [] => [(key, value)]
  | (other, kept) :: rest =>
    if key = other then (key, value) :: rest
    else if key < other then (key, value) :: (other, kept) :: rest
    else (other, kept) :: putByKey key value rest

theorem mem_of_mem_putByKey {key : String} {value : α} {entries : List (String × α)}
    {entry : String × α} (member : entry ∈ putByKey key value entries) :
    entry = (key, value) ∨ entry ∈ entries := by
  fun_induction putByKey key value entries with
  | case1 => simpa using member
  | case2 => grind
  | case3 => grind
  | case4 => grind

theorem Ascending.put {entries : List (String × α)} (ascending : Ascending entries)
    (key : String) (value : α) : Ascending (putByKey key value entries) := by
  fun_induction putByKey key value entries with
  | case1 => exact List.pairwise_singleton ..
  | case2 kept rest =>
    have ⟨above, ascends⟩ := List.pairwise_cons.mp ascending
    exact List.pairwise_cons.mpr ⟨above, ascends⟩
  | case3 other kept rest _ less =>
    have ⟨above, _⟩ := List.pairwise_cons.mp ascending
    refine List.pairwise_cons.mpr ⟨fun entry member => ?_, ascending⟩
    rcases List.mem_cons.mp member with rfl | member
    · exact less
    · exact String.lt_trans less (above entry member)
  | case4 other kept rest _ _ rec =>
    have ⟨above, ascends⟩ := List.pairwise_cons.mp ascending
    refine List.pairwise_cons.mpr ⟨fun entry member => ?_, rec ascends⟩
    rcases mem_of_mem_putByKey member with rfl | member
    · grind
    · exact above entry member

/-- Entries in their places; of those with one key the last counts. -/
def sortByKey (entries : List (String × α)) : List (String × α) :=
  entries.foldl (fun sorted entry => putByKey entry.1 entry.2 sorted) []

theorem mem_of_mem_sortByKey {entries : List (String × α)} {entry : String × α}
    (member : entry ∈ sortByKey entries) : entry ∈ entries := by
  refine List.foldlRecOn (motive := fun sorted => entry ∈ sorted → entry ∈ entries) entries _
    (fun none => absurd none List.not_mem_nil) ?_ member
  intro sorted inside put new inPlace
  rcases mem_of_mem_putByKey inPlace with rfl | before
  · exact new
  · exact inside before

theorem ascending_sortByKey (entries : List (String × α)) : Ascending (sortByKey entries) :=
  List.foldlRecOn entries _ List.Pairwise.nil fun _ ascending entry _ =>
    ascending.put entry.1 entry.2

end TypeForm
