import TypeForm.Proofs.Data.Pointer

/-!
# Escaping by replacement

Reference tokens are spelled, and spellings read, in a single pass. The same is got by replacing
everywhere first one mark and then the other (`Pointer.escape_eq_replace`,
`Pointer.unescape_eq_replace`). The order counts: tildes are the first to be escaped and the last to
be read, so that what one replacement writes is no mark of the other.
-/
namespace TypeForm

namespace Text

/-- The text with each occurrence of a mark replaced, from left to right. Of an occurrence that was
replaced, `skip` characters are still to be left out. -/
def replaceFrom (mark new : List Char) : (skip : Nat) → List Char → List Char
  | _, [] => []
  | skip + 1, _ :: rest => replaceFrom mark new skip rest
  | 0, c :: rest =>
    if mark.isPrefixOf (c :: rest) then new ++ replaceFrom mark new (mark.length - 1) rest
    else c :: replaceFrom mark new 0 rest

/-- The text with each occurrence of a mark replaced. -/
def replace (mark new text : String) : String :=
  String.ofList (replaceFrom mark.toList new.toList 0 text.toList)

end Text

namespace Pointer

open Text

theorem escapeChars_eq_replaceFrom (token : List Char) :
    escapeChars token = replaceFrom ['/'] ['~', '1'] 0 (replaceFrom ['~'] ['~', '0'] 0 token) := by
  fun_induction escapeChars token with
  | case1 => rfl
  | case2 rest ih => simpa [replaceFrom] using ih
  | case3 rest ih => simpa [replaceFrom] using ih
  | case4 c rest tilde slash ih =>
    have notTilde : '~' ≠ c := fun same => tilde same.symm
    have notSlash : '/' ≠ c := fun same => slash same.symm
    simpa [replaceFrom, notTilde, notSlash] using ih

theorem isPrefixOf_pair_iff {a b c : Char} {rest : List Char} :
    [a, b].isPrefixOf (c :: rest) = true ↔ a = c ∧ rest.head? = some b := by
  cases rest with
  | nil => simp
  | cons d others => simpa using fun _ => eq_comm

/-- Where a mark does not start, its replacement keeps the character. -/
theorem replaceFrom_pair {a b c : Char} {new rest : List Char}
    (other : ¬(a = c ∧ rest.head? = some b)) :
    replaceFrom [a, b] new 0 (c :: rest) = c :: replaceFrom [a, b] new 0 rest := by
  rw [replaceFrom, if_neg (mt isPrefixOf_pair_iff.mp other)]

/-- Reading slashes puts no zero at the start. -/
theorem head?_of_replaceFrom {text : List Char}
    (zero : (replaceFrom ['~', '1'] ['/'] 0 text).head? = some '0') : text.head? = some '0' := by
  cases text with
  | nil => exact zero
  | cons c rest =>
    rw [replaceFrom] at zero
    split at zero
    · cases zero
    · exact zero

theorem unescapeChars_eq_replaceFrom (text : List Char) :
    unescapeChars text = replaceFrom ['~', '0'] ['~'] 0 (replaceFrom ['~', '1'] ['/'] 0 text) := by
  fun_induction unescapeChars text with
  | case1 => rfl
  | case2 rest ih => simpa [replaceFrom] using ih
  | case3 rest ih => simpa [replaceFrom] using ih
  | case4 c rest zero one ih =>
    -- A tilde that is kept is followed by neither digit, before and after slashes are read.
    have notOne : ¬('~' = c ∧ rest.head? = some '1') := by
      rintro ⟨rfl, digit⟩
      obtain ⟨others, rfl⟩ := List.head?_eq_some_iff.mp digit
      exact one others rfl rfl
    have notZero : ¬('~' = c ∧ (replaceFrom ['~', '1'] ['/'] 0 rest).head? = some '0') := by
      rintro ⟨rfl, digit⟩
      obtain ⟨others, rfl⟩ := List.head?_eq_some_iff.mp (head?_of_replaceFrom digit)
      exact zero others rfl rfl
    rw [replaceFrom_pair notOne, replaceFrom_pair notZero, ih]

/-- A token is spelled by replacing tildes, and then slashes. -/
theorem escape_eq_replace (token : String) :
    escape token = replace "/" "~1" (replace "~" "~0" token) := by
  simp [escape, replace, escapeChars_eq_replaceFrom]

/-- A spelling is read by replacing the spellings of slashes, and then those of tildes. -/
theorem unescape_eq_replace (text : String) :
    String.ofList (unescapeChars text.toList) = replace "~0" "~" (replace "~1" "/" text) := by
  simp [replace, unescapeChars_eq_replaceFrom]

/-- In the other order a tilde and a digit would be taken for a slash. -/
example : replace "~0" "~" (replace "~1" "/" "~01") = "~1" ∧
    replace "~1" "/" (replace "~0" "~" "~01") = "/" := by decide

end Pointer
end TypeForm
