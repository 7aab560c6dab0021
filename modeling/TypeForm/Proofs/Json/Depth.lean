import Mathlib.Order.Nat
import TypeForm.Proofs.Ascending
import TypeForm.Proofs.Json.Text

/-!
# The limit of nesting

A reader finds only values that are nested within its limit, and a reader with a larger limit finds
the same (`Read.value_finds`). So a text is read back exactly if its value keeps to the limit
(`Read.text_pretty_eq_ok_iff`).
-/
namespace TypeForm.Json

namespace Read

theorem bind_eq_ok_iff {α β : Type} {first : Except Defect α} {next : α → Except Defect β}
    {result : β} : first >>= next = .ok result ↔ ∃ x, first = .ok x ∧ next x = .ok result := by
  cases first with
  | error defect => simp [bind, Except.bind]
  | ok x => simp [bind, Except.bind]

/-- What a reader finds satisfies a property, and another reader finds it too. -/
def Finds (read further : List Char → Except Defect (Json × List Char)) (Is : Json → Prop) : Prop :=
  ∀ s v rest, read s = .ok (v, rest) → further s = .ok (v, rest) ∧ Is v

/-- A part and the parts after it are found together. -/
private theorem cons_finds {α : Type} {one one' : Except Defect (α × List Char)}
    {more more' : List Char → Except Defect (List α × List Char)} {Is : α → Prop}
    (oneFinds : ∀ x rest, one = .ok (x, rest) → one' = .ok (x, rest) ∧ Is x)
    (moreFinds : ∀ s xs rest, more s = .ok (xs, rest) →
      more' s = .ok (xs, rest) ∧ ∀ x ∈ xs, Is x)
    {all : List α} {rest : List Char}
    (found : (do
      let (x, rest) ← one
      let (xs, rest) ← more rest
      .ok (x :: xs, rest)) = .ok (all, rest)) :
    (do
      let (x, rest) ← one'
      let (xs, rest) ← more' rest
      .ok (x :: xs, rest)) = Except.ok (all, rest) ∧ ∀ x ∈ all, Is x := by
  obtain ⟨⟨x, after⟩, first, found⟩ := bind_eq_ok_iff.mp found
  obtain ⟨⟨others, last⟩, second, same⟩ := bind_eq_ok_iff.mp found
  cases same
  obtain ⟨first, is⟩ := oneFinds x after first
  obtain ⟨second, each⟩ := moreFinds after others _ second
  simp only [first, second, bind, Except.bind, List.forall_mem_cons]
  exact ⟨trivial, is, each⟩

section Parts

variable {read further : List Char → Except Defect (Json × List Char)} {Is : Json → Prop}
  (finds : Finds read further Is) {s : List Char} {rest : List Char}
include finds

theorem moreItems_finds {steps : Nat} {xs : List Json}
    (found : moreItems read steps s = .ok (xs, rest)) :
    moreItems further steps s = .ok (xs, rest) ∧ ∀ x ∈ xs, Is x := by
  induction steps generalizing s xs rest with
  | zero => cases found
  | succ steps ih =>
    rw [moreItems] at found ⊢
    split at found
    · cases found
    · cases found
      simp
    · split at found
      · cases found
      · cases found
      · have others : ∀ s xs rest, moreItems read steps s = .ok (xs, rest) →
            moreItems further steps s = .ok (xs, rest) ∧ ∀ x ∈ xs, Is x := fun s xs rest => ih
        exact cons_finds (finds _) others found
    · cases found

theorem items_finds {xs : List Json} (found : items read s = .ok (xs, rest)) :
    items further s = .ok (xs, rest) ∧ ∀ x ∈ xs, Is x := by
  rw [items] at found ⊢
  split at found
  · cases found
  · cases found
    simp
  · have others : ∀ s xs rest, moreItems read (s.length + 1) s = .ok (xs, rest) →
        moreItems further (s.length + 1) s = .ok (xs, rest) ∧ ∀ x ∈ xs, Is x :=
      fun s xs rest => moreItems_finds finds
    exact cons_finds (finds _) others found

theorem member_finds {x : String × Json} (found : member read s = .ok (x, rest)) :
    member further s = .ok (x, rest) ∧ Is x.2 := by
  rw [member] at found ⊢
  obtain ⟨⟨key, after⟩, named, found⟩ := bind_eq_ok_iff.mp found
  simp only [named, bind, Except.bind] at found ⊢
  split at found
  · cases found
  · obtain ⟨⟨v, last⟩, value, same⟩ := bind_eq_ok_iff.mp found
    cases same
    obtain ⟨value, is⟩ := finds _ _ _ value
    simp only [value]
    exact ⟨trivial, is⟩
  · cases found

theorem moreMembers_finds {steps : Nat} {xs : Members}
    (found : moreMembers read steps s = .ok (xs, rest)) :
    moreMembers further steps s = .ok (xs, rest) ∧ ∀ x ∈ xs, Is x.2 := by
  induction steps generalizing s xs rest with
  | zero => cases found
  | succ steps ih =>
    rw [moreMembers] at found ⊢
    split at found
    · cases found
    · cases found
      simp
    · split at found
      · cases found
      · have others : ∀ s xs rest, moreMembers read steps s = .ok (xs, rest) →
            moreMembers further steps s = .ok (xs, rest) ∧ ∀ x ∈ xs, Is x.2 := fun s xs rest => ih
        exact cons_finds (fun x rest => member_finds finds) others found
      · cases found
      · cases found
    · cases found

theorem members_finds {xs : Members} (found : members read s = .ok (xs, rest)) :
    members further s = .ok (xs, rest) ∧ ∀ x ∈ xs, Is x.2 := by
  rw [members] at found ⊢
  split at found
  · cases found
  · cases found
    simp
  · have others : ∀ s xs rest, moreMembers read (s.length + 1) s = .ok (xs, rest) →
        moreMembers further (s.length + 1) s = .ok (xs, rest) ∧ ∀ x ∈ xs, Is x.2 :=
      fun s xs rest => moreMembers_finds finds
    exact cons_finds (fun x rest => member_finds finds) others found
  · cases found

end Parts

theorem word_value {letters : List Char} {v w : Json} {s rest : List Char}
    (found : word letters v s = .ok (w, rest)) : w = v := by
  fun_induction word letters v s with
  | case1 =>
    cases found
    rfl
  | case2 => cases found
  | case3 letter letters rest ih => exact ih found
  | case4 => cases found

/-- Values are found within the limit, and a larger limit finds them too. -/
theorem value_finds {depth deeper : Nat} (le : depth ≤ deeper) :
    Finds (value depth) (value deeper) (·.nesting ≤ depth) := by
  induction depth using Nat.strongRecOn generalizing deeper with
  | ind depth ih =>
    intro s v rest found
    -- Only lists and objects are read with what is left of the limit.
    unfold value at found ⊢
    split at found
    · cases found
    iterate 3
      · obtain rfl := word_value found
        exact ⟨found, Nat.zero_le depth⟩
    iterate 2
      · obtain ⟨⟨part, after⟩, -, same⟩ := bind_eq_ok_iff.mp found
        cases same
        exact ⟨found, Nat.zero_le depth⟩
    · cases depth with
      | zero => cases found
      | succ depth =>
        obtain ⟨deeper, rfl⟩ := Nat.exists_eq_succ_of_ne_zero (Nat.ne_zero_of_lt le)
        obtain ⟨⟨xs, after⟩, parts, same⟩ := bind_eq_ok_iff.mp found
        have inner := ih depth (Nat.lt_succ_self depth) (Nat.le_of_succ_le_succ le)
        obtain ⟨parts, each⟩ := items_finds inner parts
        cases same
        simp only [parts, bind, Except.bind]
        exact ⟨trivial, Nat.succ_le_succ (nestingItems_le_iff.mpr each)⟩
    · cases depth with
      | zero => cases found
      | succ depth =>
        obtain ⟨deeper, rfl⟩ := Nat.exists_eq_succ_of_ne_zero (Nat.ne_zero_of_lt le)
        obtain ⟨⟨xs, after⟩, parts, same⟩ := bind_eq_ok_iff.mp found
        have inner := ih depth (Nat.lt_succ_self depth) (Nat.le_of_succ_le_succ le)
        obtain ⟨parts, each⟩ := members_finds inner parts
        cases same
        simp only [parts, bind, Except.bind]
        refine ⟨trivial, Nat.succ_le_succ (nestingMembers_le_iff.mpr ?_)⟩
        intro member inside
        exact each member (mem_of_mem_sortByKey inside)
    · next c rest start =>
      split at found
      · next numeral =>
        rw [if_pos numeral]
        obtain ⟨⟨part, after⟩, -, same⟩ := bind_eq_ok_iff.mp found
        cases same
        exact ⟨found, Nat.zero_le depth⟩
      · cases found

theorem text_finds {depth deeper : Nat} (le : depth ≤ deeper) {s : List Char} {v : Json}
    (found : text depth s = .ok v) : text deeper s = .ok v ∧ v.nesting ≤ depth := by
  rw [text] at found ⊢
  obtain ⟨⟨w, rest⟩, first, last⟩ := bind_eq_ok_iff.mp found
  obtain ⟨first, within⟩ := value_finds le s w rest first
  simp only [first, bind, Except.bind] at last ⊢
  split at last
  · cases last
    exact ⟨rfl, within⟩
  · cases last

end Read

theorem nesting_sorted {v : Json} (integral : v.Integral) : v.sorted.nesting = v.nesting := by
  induction integral with
  | null => rfl
  | bool b => rfl
  | string text => rfl
  | integer least most => rfl
  | @array items each ih =>
    rw [sorted, sortedItems_eq, nesting, nesting]
    refine congrArg (· + 1) (eq_of_forall_ge_iff fun depth => ?_)
    rw [nestingItems_le_iff, nestingItems_le_iff, List.forall_mem_map]
    exact forall₂_congr fun item inside => by rw [ih item inside]
  | @object members distinct each ih =>
    have keys : ((sortedMembers members).map (·.1)).Nodup := by rwa [keys_sortedMembers]
    rw [sorted, nesting, nesting]
    refine congrArg (· + 1) (eq_of_forall_ge_iff fun depth => ?_)
    simp only [nestingMembers_le_iff, (perm_sortByKey keys).mem_iff]
    rw [sortedMembers_eq, List.forall_mem_map]
    exact forall₂_congr fun member inside => by rw [ih member inside]

/-- A text of a value is read exactly if the value keeps to the limit. -/
theorem Read.text_pretty_eq_ok_iff {v w : Json} (integral : v.Integral) {depth : Nat} :
    text depth v.pretty.toList = .ok w ↔ v.nesting ≤ depth ∧ w = v.sorted := by
  constructor
  · intro found
    -- A limit that is large enough for both tells what was found.
    obtain ⟨found, within⟩ := text_finds (Nat.le_max_left depth v.nesting) found
    rw [text_pretty integral (Nat.le_max_right depth v.nesting)] at found
    cases found
    exact ⟨nesting_sorted integral ▸ within, rfl⟩
  · rintro ⟨within, rfl⟩
    exact text_pretty integral within

end TypeForm.Json
