import TypeForm.Text.Segments

/-!
# JSON Pointers

A pointer is empty or a slash before each of its reference tokens. In a token a tilde is spelled
`~0` and a slash `~1`; reading undoes this from left to right.
-/
namespace TypeForm.Pointer

/-- A reference token as a pointer spells it. -/
def escapeChars : List Char → List Char
  | [] => []
  | '~' :: rest => '~' :: '0' :: escapeChars rest
  | '/' :: rest => '~' :: '1' :: escapeChars rest
  | c :: rest => c :: escapeChars rest

/-- The reference token that a spelling stands for. A tilde before any other character is kept. -/
def unescapeChars : List Char → List Char
  | [] => []
  | '~' :: '0' :: rest => '~' :: unescapeChars rest
  | '~' :: '1' :: rest => '/' :: unescapeChars rest
  | c :: rest => c :: unescapeChars rest

def escape (token : String) : String :=
  String.ofList (escapeChars token.toList)

/-- The reference tokens of a pointer; `none` for a text that is neither empty nor starts with a
slash. -/
def tokens? (pointer : String) : Option (List String) :=
  match pointer.toList with
  | [] => some []
  | '/' :: rest =>
    some ((Text.segments rest).map fun segment => String.ofList (unescapeChars segment))
  | _ => none

/-- A pointer from its reference tokens. -/
def ofTokens (tokens : List String) : String :=
  String.join (tokens.map fun token => "/" ++ escape token)

/-- The array position that a token names: digits after an optional plus sign, where a token of
several characters does not start with zero. -/
def arrayIndex? (token : String) : Option Nat :=
  let chars := token.toList
  let digits := match chars with
    | '+' :: rest => rest
    | rest => rest
  if chars.length > 1 ∧ chars.head? = some '0' then none
  else if digits.isEmpty ∨ !digits.all Char.isDigit then none
  else some (digits.foldl (fun n c => n * 10 + (c.toNat - '0'.toNat)) 0)

end TypeForm.Pointer
