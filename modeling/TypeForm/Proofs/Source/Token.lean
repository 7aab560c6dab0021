import Mathlib.Data.List.Basic
import TypeForm.Proofs.Json.Literal
import TypeForm.Scope

/-!
# Reading tokens back

Readers for the smallest parts of generated source: fixed texts, names, integers and literals. Each
takes the characters that are left and returns the part with what follows it, and each finds what
was written, provided that what follows cannot be taken for more of it.
-/
namespace TypeForm.Source

/-- The text after a fixed one. -/
def expect? (text : String) (s : List Char) : Option (List Char) :=
  s.dropPrefix? text.toList

@[simp] theorem expect?_append (text : String) (rest : List Char) :
    expect? text (text.toList ++ rest) = some rest := by
  simp [expect?, List.dropPrefix?_eq_some_iff]

/-- A text of characters of one class is cut off where the class ends. -/
theorem cut_append {holds : Char → Bool} {text rest : List Char}
    (inside : ∀ c ∈ text, holds c = true) (ends : ∀ c ∈ rest.head?, holds c = false) :
    (text ++ rest).takeWhile holds = text ∧ (text ++ rest).dropWhile holds = rest := by
  rw [List.takeWhile_append_of_pos inside, List.dropWhile_append_of_pos inside]
  cases rest with
  | nil => simp
  | cons c others =>
    have stop : holds c = false := ends c rfl
    simp [stop]

/-! ### Words -/

/-- A text does not go on with a letter or a digit. -/
def WordEnds (rest : List Char) : Prop :=
  ∀ c ∈ rest.head?, c.isAlphanum = false

/-- The longest word at the start, and what follows it. -/
def word (s : List Char) : String × List Char :=
  (String.ofList (s.takeWhile Char.isAlphanum), s.dropWhile Char.isAlphanum)

theorem word_append {text : String} {rest : List Char}
    (letters : text.toList.all Char.isAlphanum = true) (ends : WordEnds rest) :
    word (text.toList ++ rest) = (text, rest) := by
  obtain ⟨taken, dropped⟩ := cut_append (List.all_eq_true.mp letters) ends
  rw [word, taken, dropped, String.ofList_toList]

/-- The names that are drawn: ASCII letters and digits, the first a letter and the last a digit. -/
structure IsName (name : Ident) : Prop where
  letters : ∀ c ∈ name.text.toList, c.isAlphanum = true
  first : ∃ c rest, name.text.toList = c :: rest ∧ c.isAlpha = true
  last : ∃ front c, name.text.toList = front ++ [c] ∧ c.isDigit = true

/-- Names drawn from a stem of letters are such names. -/
theorem isName_numbered {stem : String} (some : stem.toList ≠ [])
    (isAlpha : stem.toList.all Char.isAlpha = true) (count : Nat) :
    IsName (Scope.numbered stem count) := by
  have letters := List.all_eq_true.mp isAlpha
  have text : (Scope.numbered stem count).text.toList = stem.toList ++ Nat.toDigits 10 count := by
    rw [Scope.numbered, String.toList_append, Nat.toString_eq_repr, Nat.toList_repr]
  -- The stem gives the first character, and the numeral the last.
  refine ⟨?_, ?_, ?_⟩
  · intro c member
    rw [text] at member
    rcases List.mem_append.mp member with letter | numeral
    · exact Bool.or_eq_true_iff.mpr (.inl (letters c letter))
    · have digit := Nat.isDigit_of_mem_toDigits (by decide) (by decide) numeral
      exact Bool.or_eq_true_iff.mpr (.inr digit)
  · obtain ⟨first, others, spelled⟩ := List.exists_cons_of_ne_nil some
    refine ⟨first, others ++ Nat.toDigits 10 count, by rw [text, spelled]; rfl, ?_⟩
    exact letters first (by simp [spelled])
  · have digits : Nat.toDigits 10 count ≠ [] := Nat.toDigits_ne_nil
    refine ⟨stem.toList ++ (Nat.toDigits 10 count).dropLast, (Nat.toDigits 10 count).getLast digits,
      ?_, Nat.isDigit_of_mem_toDigits (by decide) (by decide) (List.getLast_mem digits)⟩
    rw [text, List.append_assoc, List.dropLast_append_getLast]

theorem IsName.word_eq {name : Ident} (isName : IsName name) {rest : List Char}
    (ends : WordEnds rest) : word (name.text.toList ++ rest) = (name.text, rest) :=
  word_append (List.all_eq_true.mpr isName.letters) ends

/-- No name ends with a letter, as the words of the language do. -/
theorem IsName.ne_of_letter {name : Ident} (isName : IsName name) {text : String} {c : Char}
    (spelled : ∃ front, text.toList = front ++ [c]) (letter : c.isDigit = false) :
    name.text ≠ text := by
  rintro rfl
  obtain ⟨_, spelled⟩ := spelled
  obtain ⟨_, _, same, numeral⟩ := isName.last
  rw [spelled] at same
  obtain ⟨-, same⟩ := List.append_inj' same rfl
  cases same
  rw [letter] at numeral
  cases numeral

/-! ### Integers -/

/-- A text does not go on with a digit. -/
def NumberEnds (rest : List Char) : Prop :=
  ∀ c ∈ rest.head?, c.isDigit = false

def integer (s : List Char) : Int × List Char :=
  match s with
  | '-' :: rest =>
    (-(Nat.ofDigitChars 10 (rest.takeWhile Char.isDigit) 0 : Int), rest.dropWhile Char.isDigit)
  | rest => (Nat.ofDigitChars 10 (rest.takeWhile Char.isDigit) 0, rest.dropWhile Char.isDigit)

private theorem digits_append (n : Nat) {rest : List Char} (ends : NumberEnds rest) :
    Nat.ofDigitChars 10 (((toString n).toList ++ rest).takeWhile Char.isDigit) 0 = n ∧
      ((toString n).toList ++ rest).dropWhile Char.isDigit = rest := by
  have text : (toString n).toList = Nat.toDigits 10 n := by
    rw [Nat.toString_eq_repr, Nat.toList_repr]
  have numerals : ∀ c ∈ Nat.toDigits 10 n, c.isDigit = true :=
    fun c member => Nat.isDigit_of_mem_toDigits (by decide) (by decide) member
  obtain ⟨taken, dropped⟩ := cut_append numerals ends
  rw [text, taken]
  exact ⟨Nat.ofDigitChars_ten_toDigits, dropped⟩

private theorem digits_unsigned (n : Nat) (rest others : List Char) :
    (toString n).toList ++ rest ≠ '-' :: others := by
  intro same
  rw [Nat.toString_eq_repr, Nat.toList_repr] at same
  cases spelled : Nat.toDigits 10 n with
  | nil => exact Nat.toDigits_ne_nil spelled
  | cons c more =>
    have numeral : c.isDigit = true :=
      Nat.isDigit_of_mem_toDigits (by decide) (by decide) (spelled ▸ List.mem_cons_self)
    rw [spelled] at same
    cases same
    cases numeral

theorem integer_append (n : Int) {rest : List Char} (ends : NumberEnds rest) :
    integer ((toString n).toList ++ rest) = (n, rest) := by
  cases n with
  | ofNat n =>
    have text : toString (Int.ofNat n) = toString n := rfl
    obtain ⟨value, after⟩ := digits_append n ends
    rw [text, integer]
    · rw [value, after]
      rfl
    · intro others
      exact digits_unsigned n rest others
  | negSucc n =>
    have text : toString (Int.negSucc n) = "-" ++ toString (n + 1) := rfl
    obtain ⟨value, after⟩ := digits_append (n + 1) ends
    rw [text, String.toList_append, List.append_assoc]
    change (-(Nat.ofDigitChars 10 (((toString (n + 1)).toList ++ rest).takeWhile Char.isDigit) 0 : Int),
      ((toString (n + 1)).toList ++ rest).dropWhile Char.isDigit) = _
    rw [value, after]
    rfl

/-! ### Literals -/

/-- The string whose literal is at the start. -/
def literal? (s : List Char) : Option (String × List Char) :=
  match s with
  | '"' :: rest => (Json.Read.stringAfterQuote rest).toOption
  | _ => none

@[simp] theorem literal?_append (text : String) (rest : List Char) :
    literal? ((Json.literal text).toList ++ rest) = some (text, rest) := by
  have written : (Json.literal text).toList ++ rest =
      '"' :: (text.toList.flatMap Json.escapeChar ++ '"' :: rest) := by
    simp [Json.literal, Json.literalChars]
  rw [written, literal?, Json.Read.stringAfterQuote_literal]
  rfl

end TypeForm.Source
