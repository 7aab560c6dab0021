/-!
# Segments of a text

A text is cut at every slash. There is one more segment than there are slashes, and no segment has
a slash in it.
-/
namespace TypeForm.Text

/-- The stretches of a text between its slashes, at least one. -/
def segments : List Char → List (List Char)
  | [] => [[]]
  | '/' :: rest => [] :: segments rest
  | c :: rest =>
    match segments rest with
    | [] => [[c]]
    | first :: others => (c :: first) :: others

theorem segments_ne_nil (text : List Char) : segments text ≠ [] := by
  fun_cases segments text <;> simp [*]

theorem length_segments (text : List Char) : (segments text).length = text.count '/' + 1 := by
  fun_induction segments text with
  | case1 => rfl
  | case2 rest rec => simp [rec]
  | case3 c rest _ none => exact absurd none (segments_ne_nil rest)
  | case4 c rest slash first others found rec =>
    have other : c ≠ '/' := slash
    rw [found] at rec
    simpa [List.count_cons_of_ne other] using rec

theorem slash_not_mem_segment {text segment : List Char} (member : segment ∈ segments text) :
    '/' ∉ segment := by
  fun_induction segments text generalizing segment with
  | case1 => simp_all
  | case2 rest rec =>
    rcases List.mem_cons.mp member with rfl | member
    · simp
    · exact rec member
  | case3 c rest _ none => exact absurd none (segments_ne_nil rest)
  | case4 c rest slash first others found rec =>
    rcases List.mem_cons.mp member with rfl | member
    · have inner := rec (found ▸ List.mem_cons_self)
      have other : '/' ≠ c := fun same => slash same.symm
      exact List.not_mem_cons_of_ne_of_not_mem other inner
    · exact rec (found ▸ List.mem_cons_of_mem first member)

end TypeForm.Text
