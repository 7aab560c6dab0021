import TypeForm.Data.Basic

/-!
# Pointers from tokens

A pointer that is put together from reference tokens is taken apart into the same tokens, whatever
characters they have (`Pointer.tokens?_ofTokens`), so that following it is looking up one token
after the other (`Data.pointer_ofTokens`). Looking up a key in the data of a JSON object finds the
data of the member with that key (`Data.child?_ofJson`).
-/
namespace TypeForm

namespace Pointer

theorem unescapeChars_cons {c : Char} (other : c ≠ '~') (rest : List Char) :
    unescapeChars (c :: rest) = c :: unescapeChars rest := by
  rw [unescapeChars]
  all_goals
    rintro _ rfl
    exact absurd rfl other

theorem unescapeChars_escapeChars (token : List Char) :
    unescapeChars (escapeChars token) = token := by
  fun_induction escapeChars token with
  | case1 => rfl
  | case2 rest ih => rw [unescapeChars, ih]
  | case3 rest ih => rw [unescapeChars, ih]
  | case4 c rest tilde slash ih => rw [unescapeChars_cons tilde, ih]

theorem slash_not_mem_escapeChars (token : List Char) : '/' ∉ escapeChars token := by
  fun_induction escapeChars token with
  | case1 => simp
  | case2 rest ih => simpa using ih
  | case3 rest ih => simpa using ih
  | case4 c rest tilde slash ih =>
    have differ : '/' ≠ c := fun same => slash same.symm
    exact List.not_mem_cons_of_ne_of_not_mem differ ih

end Pointer

namespace Text

theorem segments_of_not_mem {text : List Char} (plain : '/' ∉ text) : segments text = [text] := by
  fun_induction segments text with
  | case1 => rfl
  | case2 rest => simp at plain
  | case3 c rest _ none => exact absurd none (segments_ne_nil rest)
  | case4 c rest slash first others found ih =>
    have rests := ih (fun member => plain (List.mem_cons_of_mem c member))
    rw [found] at rests
    obtain ⟨rfl, rfl⟩ := List.cons.inj rests
    rfl

/-- The text up to the first slash is a segment. -/
theorem segments_append {text : List Char} (plain : '/' ∉ text) (rest : List Char) :
    segments (text ++ '/' :: rest) = text :: segments rest := by
  induction text with
  | nil => rfl
  | cons c text ih =>
    have other : c ≠ '/' := fun same => plain (same ▸ List.mem_cons_self)
    have rests := ih fun member => plain (List.mem_cons_of_mem c member)
    rw [List.cons_append, segments, rests]
    exact other

end Text

namespace Pointer

theorem toList_ofTokens_cons (token : String) (others : List String) :
    (ofTokens (token :: others)).toList =
      '/' :: (escapeChars token.toList ++ (ofTokens others).toList) := by
  simp [ofTokens, escape, String.toList_join]

/-- The segments of what stands after the first slash. -/
theorem segments_ofTokens (token : String) (others : List String) :
    Text.segments (escapeChars token.toList ++ (ofTokens others).toList) =
      (token :: others).map fun token => escapeChars token.toList := by
  induction others generalizing token with
  | nil => simp [ofTokens, Text.segments_of_not_mem (slash_not_mem_escapeChars token.toList)]
  | cons next others ih =>
    rw [toList_ofTokens_cons, Text.segments_append (slash_not_mem_escapeChars token.toList), ih]
    rfl

/-- A pointer has the tokens that it was made from. -/
theorem tokens?_ofTokens (tokens : List String) : tokens? (ofTokens tokens) = some tokens := by
  cases tokens with
  | nil => rfl
  | cons token others =>
    rw [tokens?, toList_ofTokens_cons]
    simp only [segments_ofTokens, List.map_map, Function.comp_def, unescapeChars_escapeChars,
      String.ofList_toList, List.map_id']

end Pointer

namespace Data

theorem pointer_ofTokens (data : Data) (tokens : List String) :
    data.pointer (Pointer.ofTokens tokens) = data.lookup tokens := by
  rw [pointer, Pointer.tokens?_ofTokens, Option.bind_some]

theorem lookup_eq_foldlM (data : Data) (tokens : List String) :
    data.lookup tokens = tokens.foldlM child? data := by
  induction tokens generalizing data with
  | nil => rfl
  | cons token rest ih =>
    rw [lookup, List.foldlM_cons]
    exact congrArg _ (funext ih)

theorem find?_ofMembers (members : Members) (key : String) :
    ((ofMembers members).find? fun field => field.1 == key).map (·.2) =
      (members.value? key).map ofJson := by
  induction members with
  | nil => rfl
  | cons member rest ih =>
    obtain ⟨name, value⟩ := member
    simp only [ofMembers, Members.value?, List.find?_cons] at ih ⊢
    cases name == key with
    | true => rfl
    | false => exact ih

theorem child?_ofJson (members : Members) (key : String) :
    (ofJson (.object members)).child? key = (members.value? key).map ofJson := by
  rw [ofJson, child?, find?_ofMembers]

end Data
end TypeForm
