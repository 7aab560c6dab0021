import TypeForm.Proofs.Data.Escaping
import TypeForm.Proofs.Source.Validator

/-!
# Access to what a pointer addresses

A pointer is followed when a document is validated, and in generated source it is written as an
access to one member after the other. For pointers that are put together from tokens both go by
exactly these tokens, whatever characters they have.

## Main result

`Pointer.ofTokens_addresses`: a pointer from tokens is followed token by token, its access text
spells these tokens and no others, and other tokens give another pointer.
-/
namespace TypeForm

namespace Source

theorem accessText_cons_ne_nil (token : String) (others : List String) :
    accessText (token :: others) ≠ accessText [] := by
  intro same
  have texts := congrArg String.toList same
  rw [toList_accessText_cons] at texts
  cases texts

/-- An access text tells which members are accessed. -/
theorem accessText_injective : Function.Injective accessText := by
  intro tokens keys same
  induction tokens generalizing keys with
  | nil =>
    cases keys with
    | nil => rfl
    | cons key keys => exact absurd same.symm (accessText_cons_ne_nil key keys)
  | cons token tokens ih =>
    cases keys with
    | nil => exact absurd same (accessText_cons_ne_nil token tokens)
    | cons key keys =>
      have texts := congrArg String.toList same
      rw [toList_accessText_cons, toList_accessText_cons] at texts
      -- The first literals are read back, and what follows them is left.
      have read := congrArg literal? (List.append_cancel_left texts)
      rw [literal?_append, literal?_append] at read
      obtain ⟨rfl, after⟩ := Prod.mk.inj (Option.some.inj read)
      rw [ih (String.toList_inj.mp (List.append_cancel_left after))]

end Source

namespace Pointer

theorem accessText_ofTokens (tokens : List String) :
    accessText (ofTokens tokens) = Source.accessText tokens := by
  cases tokens with
  | nil => rfl
  | cons token others =>
    rw [accessText, toList_ofTokens_cons, Text.segments, List.drop_one, List.tail_cons,
      segments_ofTokens, Source.accessText, List.map_map]
    simp only [Function.comp_def, unescapeChars_escapeChars, String.ofList_toList]

theorem ofTokens_injective : Function.Injective ofTokens := by
  intro tokens others same
  have read := congrArg tokens? same
  rw [tokens?_ofTokens, tokens?_ofTokens] at read
  exact Option.some.inj read

/-- A pointer in which every token stands after a slash, its tildes replaced and then its slashes,
is followed token by token. The source accesses the members that these tokens name, and no other
tokens have that pointer or that source. -/
theorem ofTokens_addresses (tokens : List String) :
    ofTokens tokens = String.join (tokens.map fun token =>
        "/" ++ Text.replace "/" "~1" (Text.replace "~" "~0" token)) ∧
      (∀ document : Data,
        document.pointer (ofTokens tokens) = tokens.foldlM Data.child? document) ∧
      (∀ keys, accessText (ofTokens tokens) = Source.accessText keys ↔ tokens = keys) ∧
      ∀ others, ofTokens tokens = ofTokens others ↔ tokens = others := by
  refine ⟨?_, fun document => ?_, fun keys => ?_, fun others => ofTokens_injective.eq_iff⟩
  · rw [ofTokens]
    simp only [escape_eq_replace]
  · rw [Data.pointer_ofTokens, Data.lookup_eq_foldlM]
  · rw [accessText_ofTokens, Source.accessText_injective.eq_iff]

end Pointer
end TypeForm
