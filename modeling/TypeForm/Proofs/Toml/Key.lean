import TypeForm.Proofs.Source.Token
import TypeForm.Toml.Reader
import TypeForm.Toml.Writer

/-!
# Keys and strings are read back

A key of any characters is read back from the spelling that is chosen for it, bare or in quotes
(`Read.simpleKey?_keyChars`). What follows it only has to be none of the characters of a bare key.
-/
namespace TypeForm.Toml

open Read

/-! ### Characters -/

/-- A character that only an escape can spell is no text, and every other is. -/
theorem isText_eq (c : Char) : isText c = !needsEscape c := by
  have same : (0x20 ≤ c.toNat ∧ c.toNat ≠ 0x7f) ↔ ¬(c.toNat < 0x20 ∨ c.toNat = 0x7f) := by omega
  rw [isText, needsEscape, decide_eq_decide.mpr same, decide_not, Bool.not_and, bne, Bool.not_not]

theorem codePoint?_append {spelled : List Char} (hex : spelled.all isHexDigit = true)
    (valid : (numberIn 16 spelled).isValidChar) (rest : List Char) :
    codePoint? spelled.length (spelled ++ rest) =
      some (Char.ofNat (numberIn 16 spelled), rest) := by
  simp only [codePoint?, List.take_left, List.drop_left, hex, valid, and_self, if_true]

private theorem escape?_control {n : Nat} (control : n < 0x20 ∨ n = 0x7f) (rest : List Char) :
    escape? (['u', '0', '0', (Nat.digitChar (n / 16)).toUpper, (Nat.digitChar (n % 16)).toUpper]
      ++ rest) = some (Char.ofNat n, rest) := by
  -- Two zeros and two digits spell every code that needs them.
  have digits : ∀ n : Fin 0x80,
      let spelled := ['0', '0', (Nat.digitChar (n / 16)).toUpper, (Nat.digitChar (n % 16)).toUpper]
      numberIn 16 spelled = n ∧ spelled.all isHexDigit = true := by decide
  have small : n < 0x80 := by omega
  obtain ⟨value, hex⟩ := digits ⟨n, small⟩
  have valid : n.isValidChar := .inl (by omega)
  have read := codePoint?_append hex (value.symm ▸ valid) rest
  rw [value] at read
  exact read

/-- A character is written as itself or as an escape that is read back. -/
theorem escapeChar_cases (c : Char) :
    (∃ tail, escapeChar c = '\\' :: tail ∧ ∀ rest, escape? (tail ++ rest) = some (c, rest)) ∨
      (escapeChar c = [c] ∧ c ≠ '"' ∧ c ≠ '\\' ∧ isText c = true) := by
  unfold escapeChar
  split
  -- The characters that have a letter of their own come first.
  iterate 7 exact .inl ⟨_, rfl, fun rest => rfl⟩
  next tab _ _ _ quote backslash =>
    split
    · next escaped =>
      refine .inl ⟨_, rfl, fun rest => ?_⟩
      have control : c.toNat < 0x20 ∨ c.toNat = 0x7f := by
        rw [needsEscape, Bool.and_eq_true, decide_eq_true_eq] at escaped
        exact escaped.2
      have read := escape?_control control rest
      rw [Char.ofNat_toNat] at read
      exact read
    · next visible =>
      refine .inr ⟨rfl, quote, backslash, ?_⟩
      rw [isText_eq]
      simpa using visible

theorem basicBody_escaped (text rest : List Char) {steps : Nat} (enough : text.length < steps) :
    basicBody steps (text.flatMap escapeChar ++ '"' :: rest) = some (text, rest) := by
  induction text generalizing steps with
  | nil =>
    obtain ⟨steps, rfl⟩ := Nat.exists_eq_add_of_lt enough
    rfl
  | cons c others ih =>
    -- A step reads one character, however long its escape is.
    obtain ⟨fewer, rfl⟩ := Nat.exists_eq_succ_of_ne_zero (Nat.ne_zero_of_lt enough)
    have read := ih (Nat.lt_of_succ_lt_succ enough)
    rcases escapeChar_cases c with ⟨tail, written, back⟩ | ⟨written, quote, backslash, visible⟩
    · simp [basicBody, written, back, read]
    · simp [basicBody, written, visible, read]

theorem escapeChar_ne_nil (c : Char) : escapeChar c ≠ [] := by
  rcases escapeChar_cases c with ⟨tail, same, -⟩ | ⟨same, -⟩ <;> simp [same]

namespace Read

/-! ### Strings -/

theorem basicString?_escaped (text rest : List Char) :
    basicString? (text.flatMap escapeChar ++ '"' :: rest) = some (String.ofList text, rest) := by
  have enough : text.length < (text.flatMap escapeChar ++ '"' :: rest).length + 1 := by
    have bound := length_le_flatMap escapeChar_ne_nil text
    rw [List.length_append]
    omega
  rw [basicString?, basicBody_escaped text rest enough]
  rfl

theorem literalString?_plain {text : List Char} (plain : text.any needsEscape = false)
    (apostrophe : '\x27' ∉ text) (rest : List Char) :
    literalString? (text ++ '\x27' :: rest) = some (String.ofList text, rest) := by
  have inside : ∀ c ∈ text, (isText c && c != '\x27') = true := by
    intro c member
    have visible : needsEscape c = false := by
      simpa using List.any_eq_false.mp plain c member
    have other : c ≠ '\x27' := fun same => apostrophe (same ▸ member)
    simp [isText_eq, visible, other]
  have stops : ∀ c ∈ ('\x27' :: rest).head?, (isText c && c != '\x27') = false := by simp
  obtain ⟨taken, dropped⟩ := Source.cut_append inside stops
  rw [literalString?, taken, dropped]
  rfl

/-! ### Keys -/

/-- What follows a key does not go on with it. -/
def KeyStops (rest : List Char) : Prop :=
  ∀ c ∈ rest.head?, isKeyChar c = false

theorem isKeyChar_of_isBareKey {key : List Char} (bare : isBareKey key = true) :
    ∀ c ∈ key, isKeyChar c = true := by
  rw [isBareKey, Bool.and_eq_true] at bare
  exact List.all_eq_true.mp bare.2

theorem isBareKey_begins {key : List Char} (bare : isBareKey key = true) :
    ∃ c others, isKeyChar c = true ∧ key = c :: others := by
  cases key with
  | nil => cases bare
  | cons c others => exact ⟨c, others, isKeyChar_of_isBareKey bare c List.mem_cons_self, rfl⟩

theorem simpleKey?_bare {key rest : List Char} (bare : isBareKey key = true)
    (stops : KeyStops rest) : simpleKey? (key ++ rest) = some (String.ofList key, rest) := by
  obtain ⟨taken, dropped⟩ := Source.cut_append (isKeyChar_of_isBareKey bare) stops
  obtain ⟨c, others, letter, rfl⟩ := isBareKey_begins bare
  rw [simpleKey?]
  · rw [taken, dropped]
    rfl
  -- What begins a string in quotes is no letter.
  · rintro more same
    obtain ⟨rfl, -⟩ := List.cons.inj same
    cases letter
  · rintro more same
    obtain ⟨rfl, -⟩ := List.cons.inj same
    cases letter

theorem keyChars_cases (key : List Char) :
    (isBareKey key = true ∧ keyChars key = key) ∨ keyChars key = basicKey key ∨
      (key.any needsEscape = false ∧ '\x27' ∉ key ∧ keyChars key = '\x27' :: key ++ ['\x27']) := by
  unfold keyChars
  split
  · next bare => exact .inl ⟨bare, rfl⟩
  split
  · exact .inr (.inl rfl)
  next plain =>
  split
  · exact .inr (.inl rfl)
  split
  · next apostrophe => exact .inr (.inr ⟨by simpa using plain, by simpa using apostrophe, rfl⟩)
  · exact .inr (.inl rfl)

/-- A key is read back, however it is spelled. -/
theorem simpleKey?_keyChars (key : List Char) {rest : List Char} (stops : KeyStops rest) :
    simpleKey? (keyChars key ++ rest) = some (String.ofList key, rest) := by
  rcases keyChars_cases key with ⟨bare, spelled⟩ | spelled | ⟨plain, apostrophe, spelled⟩
  · rw [spelled]
    exact simpleKey?_bare bare stops
  · have read := basicString?_escaped key rest
    simp only [spelled, basicKey, List.cons_append, List.append_assoc, List.nil_append, simpleKey?,
      read]
  · have read := literalString?_plain plain apostrophe rest
    simp only [spelled, List.cons_append, List.append_assoc, List.nil_append, simpleKey?, read]

/-- A character that neither goes before a statement nor begins a comment. -/
def Opens (c : Char) : Prop :=
  c ∉ [' ', '\t', '\n', '\r', '#', '\ufeff']

instance (c : Char) : Decidable (Opens c) :=
  inferInstanceAs (Decidable (c ∉ [' ', '\t', '\n', '\r', '#', '\ufeff']))

theorem Opens.ne {c d : Char} (opens : Opens c) (other : ¬Opens d) : c ≠ d := by
  rintro rfl
  exact other opens

theorem opens_of_isKeyChar {c : Char} (letter : isKeyChar c = true) : Opens c := by
  intro member
  simp only [List.mem_cons, List.not_mem_nil, or_false] at member
  rcases member with rfl | rfl | rfl | rfl | rfl | rfl <;> cases letter

theorem keyChars_opens (key : List Char) :
    ∃ c more, keyChars key = c :: more ∧ Opens c ∧ c ≠ '[' := by
  rcases keyChars_cases key with ⟨bare, spelled⟩ | spelled | ⟨-, -, spelled⟩
  · obtain ⟨c, others, letter, rfl⟩ := isBareKey_begins bare
    refine ⟨c, others, spelled, opens_of_isKeyChar letter, ?_⟩
    rintro rfl
    cases letter
  · exact ⟨_, _, spelled, by decide, by decide⟩
  · exact ⟨_, _, spelled, by decide, by decide⟩

theorem skipBlanks_of_opens {c : Char} (opens : Opens c) (rest : List Char) :
    skipBlanks (c :: rest) = c :: rest := by
  have visible : isBlank c = false := by
    rw [Opens] at opens
    simp only [List.mem_cons, not_or] at opens
    simp [isBlank, opens]
  exact List.dropWhile_cons_of_neg (by simp [visible])

theorem keyPath?_keyChars (key rest : List Char) :
    keyPath? (keyChars key ++ ' ' :: '=' :: rest) = some ([], String.ofList key, '=' :: rest) := by
  have stops : KeyStops (' ' :: '=' :: rest) := by
    intro c first
    cases first
    rfl
  have read := simpleKey?_keyChars key stops
  have begins : skipBlanks (keyChars key ++ ' ' :: '=' :: rest) =
      keyChars key ++ ' ' :: '=' :: rest := by
    obtain ⟨c, more, spelled, opens, -⟩ := keyChars_opens key
    rw [spelled, List.cons_append, skipBlanks_of_opens opens]
  -- No dot follows, so the path has no other key.
  rw [keyPath?, dottedKeys, begins, read]
  rfl

end Read
end TypeForm.Toml
