import TypeForm.Json.Reader
import TypeForm.Json.Writer

/-!
# String literals are read back

Reading what `Json.literal` writes gives the string again, with whatever follows the literal
(`Json.Read.stringAfterQuote_literal`). So a literal ends where its closing quote is, and literals
of different strings differ. None of them has a line break in it (`Json.newline_not_mem_literal`).
-/
namespace TypeForm

/-- Where each part is written with characters of its own, there are no more parts than characters. -/
theorem length_le_flatMap {α β : Type} {text : α → List β} (filled : ∀ part, text part ≠ [])
    (parts : List α) : parts.length ≤ (parts.flatMap text).length := by
  induction parts with
  | nil => exact Nat.le_refl _
  | cons part rest ih =>
    have some := List.length_pos_iff.mpr (filled part)
    rw [List.flatMap_cons, List.length_append, List.length_cons]
    omega

namespace Json

open Read

/-- A control character without a letter of its own is read back from its code. -/
private theorem escape_control {n : Nat} (control : n < 0x20) (rest : List Char) :
    escape (['u', '0', '0'] ++ hexPair n ++ rest) = .ok (Char.ofNat n, rest) := by
  have spelled : ∀ n : Fin 0x20, hexFour? '0' '0' (Nat.digitChar (n / 16 % 16))
      (Nat.digitChar (n % 16)) = some n := by decide
  have value := spelled ⟨n, control⟩
  dsimp only at value
  have high : ¬(0xDC00 ≤ n ∧ n ≤ 0xDFFF) := by omega
  have low : n < 0xD800 ∨ 0xDBFF < n := by omega
  simp [escape, hexPair, unicodeEscape, hexEscape, value, high, low, bind, Except.bind]

/-- A character is written as itself or as an escape that is read back. -/
theorem escapeChar_cases (c : Char) :
    (∃ tail, escapeChar c = '\\' :: tail ∧ ∀ rest, escape (tail ++ rest) = .ok (c, rest)) ∨
      (escapeChar c = [c] ∧ c ≠ '"' ∧ c ≠ '\\' ∧ ¬c.toNat < 0x20) := by
  unfold escapeChar
  split
  iterate 7 exact .inl ⟨_, rfl, fun rest => rfl⟩
  next quote backslash _ _ _ _ _ =>
    split
    · next control =>
      refine .inl ⟨_, rfl, fun rest => ?_⟩
      have read := escape_control control rest
      rw [Char.ofNat_toNat] at read
      exact read
    · next visible => exact .inr ⟨rfl, quote, backslash, visible⟩

/-- The characters of a literal are read back up to its closing quote. -/
theorem stringBody_literal (text rest : List Char) {steps : Nat} (enough : text.length < steps) :
    stringBody steps (text.flatMap escapeChar ++ '"' :: rest) = .ok (text, rest) := by
  induction text generalizing steps with
  | nil =>
    obtain ⟨steps, rfl⟩ := Nat.exists_eq_add_of_lt enough
    rfl
  | cons c others ih =>
    -- A step reads one character, however long its escape is.
    obtain ⟨fewer, rfl⟩ := Nat.exists_eq_succ_of_ne_zero (Nat.ne_zero_of_lt enough)
    have read := ih (Nat.lt_of_succ_lt_succ enough)
    rcases escapeChar_cases c with ⟨tail, written, back⟩ | ⟨written, quote, backslash, visible⟩
    · simp [stringBody, written, back, read, bind, Except.bind]
    · simp [stringBody, written, visible, read, bind, Except.bind]

theorem escapeChar_ne_nil (c : Char) : escapeChar c ≠ [] := by
  rcases escapeChar_cases c with ⟨tail, same, -⟩ | ⟨same, -⟩ <;> simp [same]

/-- What is written as a literal is read back, with what follows it. -/
theorem Read.stringAfterQuote_literal (text : String) (rest : List Char) :
    stringAfterQuote (text.toList.flatMap escapeChar ++ '"' :: rest) = .ok (text, rest) := by
  have enough : text.toList.length <
      (text.toList.flatMap escapeChar ++ '"' :: rest).length + 1 := by
    have bound := length_le_flatMap escapeChar_ne_nil text.toList
    rw [List.length_append]
    omega
  rw [stringAfterQuote, stringBody_literal text.toList rest enough]
  simp [bind, Except.bind]

theorem newline_not_mem_escapeChar (c : Char) : '\n' ∉ escapeChar c := by
  unfold escapeChar
  split
  -- The characters that have an escape of their own come first.
  iterate 7 simp
  next _ _ _ _ other _ _ =>
    split
    · next control =>
      have hex : ∀ n : Fin 0x20, '\n' ∉ ['\\', 'u', '0', '0'] ++ hexPair n := by decide
      exact hex ⟨c.toNat, control⟩
    · simpa using Ne.symm other

@[simp] theorem newline_not_mem_literal (text : String) : '\n' ∉ (literal text).toList := by
  simp [literal, literalChars, newline_not_mem_escapeChar]

end Json
end TypeForm
