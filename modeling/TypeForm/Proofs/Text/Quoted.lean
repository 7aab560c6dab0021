import TypeForm.Proofs.Source.Token
import TypeForm.Text.Quoted
import TypeForm.Toml.Reader

/-!
# Quoted texts are told apart

Between quotes every character has a spelling that shows where it ends, so that the characters are
found one after the other, and the closing quote cannot be taken for one of them. Two quoted texts
with anything behind them are therefore the same only if the same text is quoted and the same
follows (`quoted_append_inj`).

Nothing depends on which characters have a visible form, as long as the others are spelled by their
code points.
-/
namespace TypeForm.Text

open Toml.Read (digitValue isHexDigit numberIn)

/-! ### Hexadecimal numerals -/

private theorem digitChar_hex : ∀ d : Fin 16,
    isHexDigit (Nat.digitChar d) = true ∧ digitValue (Nat.digitChar d) = d := by
  decide

theorem hex_of_lt {d : Nat} (small : d < 16) : hex d = [Nat.digitChar d] :=
  Nat.toDigits_of_lt_base small

/-- A numeral is that of all but the last digit, and the last digit. -/
theorem hex_append {n d : Nat} (positive : 0 < n) (small : d < 16) :
    hex (16 * n + d) = hex n ++ [Nat.digitChar d] := by
  rw [hex, ← Nat.toDigits_append_toDigits (by decide) positive small,
    Nat.toDigits_of_lt_base small, hex]

theorem isHexDigit_of_mem_hex (n : Nat) : ∀ c ∈ hex n, isHexDigit c = true := by
  induction n using Nat.base_induction 16 (by decide) with
  | single d small =>
    rw [hex_of_lt small, List.forall_mem_singleton]
    exact (digitChar_hex ⟨d, small⟩).1
  | digit n d small positive ih =>
    rw [hex_append positive small, List.forall_mem_append, List.forall_mem_singleton]
    exact ⟨ih, (digitChar_hex ⟨d, small⟩).1⟩

/-- A numeral is read back. -/
theorem numberIn_hex (n : Nat) : numberIn 16 (hex n) = n := by
  induction n using Nat.base_induction 16 (by decide) with
  | single d small =>
    have value := (digitChar_hex ⟨d, small⟩).2
    rw [hex_of_lt small]
    simpa [numberIn] using value
  | digit n d small positive ih =>
    have value := (digitChar_hex ⟨d, small⟩).2
    rw [numberIn] at ih
    rw [hex_append positive small, numberIn, List.foldl_append, ih, Nat.mul_comm]
    simpa using value

/-! ### Characters between quotes -/

/-- The character that is spelled first, and what follows it; none where the closing quote is. -/
def spelled? : List Char → Option (Char × List Char)
  | '\\' :: 'u' :: '\x7b' :: rest =>
    some (Char.ofNat (numberIn 16 (rest.takeWhile isHexDigit)), (rest.dropWhile isHexDigit).tail)
  | '\\' :: 't' :: rest => some ('\t', rest)
  | '\\' :: 'r' :: rest => some ('\r', rest)
  | '\\' :: 'n' :: rest => some ('\n', rest)
  | '\\' :: '0' :: rest => some ('\x00', rest)
  | '\\' :: c :: rest => some (c, rest)
  | '"' :: _ | [] => none
  | c :: rest => some (c, rest)

theorem spelled?_plain {c : Char} (quote : c ≠ '"') (backslash : c ≠ '\\') (rest : List Char) :
    spelled? (c :: rest) = some (c, rest) := by
  unfold spelled?
  split <;> simp_all

theorem spelled?_codePoint (c : Char) (rest : List Char) :
    spelled? (['\\', 'u', '\x7b'] ++ hex c.toNat ++ ['\x7d'] ++ rest) = some (c, rest) := by
  have ends : ∀ d ∈ ('\x7d' :: rest).head?, isHexDigit d = false := by simp +decide
  obtain ⟨taken, dropped⟩ := Source.cut_append (isHexDigit_of_mem_hex c.toNat) ends
  simp only [List.cons_append, List.nil_append, List.append_assoc, spelled?, taken, dropped,
    numberIn_hex, Char.ofNat_toNat, List.tail_cons]

/-- The written form of a character is read back, with anything behind it. -/
theorem spelled?_quoteChar (c : Char) (rest : List Char) :
    spelled? (quoteChar c ++ rest) = some (c, rest) := by
  unfold quoteChar
  split
  -- The characters that have a letter of their own come first.
  iterate 6 rfl
  next quote backslash _ _ _ _ =>
    split
    · exact spelled?_plain quote backslash rest
    · exact spelled?_codePoint c rest

/-! ### Quoted texts -/

/-- Characters up to a quote are found one by one, and the quote is none of them. -/
theorem flatMap_quoteChar_inj {s t rest others : List Char}
    (same : s.flatMap quoteChar ++ '"' :: rest = t.flatMap quoteChar ++ '"' :: others) :
    s = t ∧ rest = others := by
  induction s generalizing t with
  | nil =>
    cases t with
    | nil => exact ⟨rfl, List.tail_eq_of_cons_eq same⟩
    | cons d t =>
      -- Where one text ends the other would go on with a character.
      have read := congrArg spelled? same
      rw [List.flatMap_cons, List.append_assoc, spelled?_quoteChar] at read
      cases read
  | cons c s ih =>
    have read := congrArg spelled? same
    rw [List.flatMap_cons, List.append_assoc, spelled?_quoteChar] at read
    cases t with
    | nil => cases read
    | cons d t =>
      rw [List.flatMap_cons, List.append_assoc, spelled?_quoteChar] at read
      obtain ⟨rfl, rests⟩ := Prod.mk.inj (Option.some.inj read)
      obtain ⟨rfl, rfl⟩ := ih rests
      exact ⟨rfl, rfl⟩

theorem toList_quoted (s : String) :
    (quoted s).toList = '"' :: (s.toList.flatMap quoteChar ++ ['"']) :=
  String.toList_ofList

/-- A quoted text with something behind it shows what is quoted and what is behind it. -/
theorem quoted_append_inj {s t : String} {rest others : List Char}
    (same : (quoted s).toList ++ rest = (quoted t).toList ++ others) : s = t ∧ rest = others := by
  rw [toList_quoted, toList_quoted] at same
  simp only [List.cons_append, List.append_assoc, List.nil_append, List.cons.injEq, true_and]
    at same
  obtain ⟨characters, rests⟩ := flatMap_quoteChar_inj same
  exact ⟨String.toList_inj.mp characters, rests⟩

end TypeForm.Text
