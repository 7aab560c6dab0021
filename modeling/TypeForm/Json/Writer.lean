import TypeForm.Json.Basic
import TypeForm.Number.Shortest
import TypeForm.Text.Quoted

/-!
# JSON text

`Json.compact` writes a value without any space, `Json.pretty` one item to a line with two spaces
for each level. Strings keep every character but quote, backslash and the controls below U+0020.
-/
namespace TypeForm
namespace Json

/-- Two hexadecimal digits. -/
def hexPair (n : Nat) : List Char :=
  [Nat.digitChar (n / 16 % 16), Nat.digitChar (n % 16)]

/-- The written form of one character in a JSON string. -/
def escapeChar (c : Char) : List Char :=
  match c with
  | '"' => ['\\', '"']
  | '\\' => ['\\', '\\']
  | '\x08' => ['\\', 'b']
  | '\x09' => ['\\', 't']
  | '\x0a' => ['\\', 'n']
  | '\x0c' => ['\\', 'f']
  | '\x0d' => ['\\', 'r']
  | c => if c.toNat < 0x20 then ['\\', 'u', '0', '0'] ++ hexPair c.toNat else [c]

/-- The characters of a string literal. -/
def literalChars (s : String) : List Char :=
  '"' :: s.toList.flatMap escapeChar ++ ['"']

/-- A string as a JSON literal. -/
def literal (s : String) : String :=
  String.ofList (literalChars s)

end Json

/-- A number as JSON text, a tie between shortest numerals going to the even one; a number that is
not finite has none and is written as null. -/
def JsonNumber.text : JsonNumber → String
  | .int n => toString n
  | .real (.finite negative magnitude) =>
    (if negative then "-" else "") ++ (magnitude.shortest .toEven).pointed
  | .real _ => "null"

namespace Json

mutual

/-- A value as JSON text without spaces. -/
def compact : Json → String
  | .null => "null"
  | .bool b => if b then "true" else "false"
  | .number n => n.text
  | .string s => literal s
  | .array [] => "[]"
  | .array (item :: rest) => "[" ++ compact item ++ compactItems rest ++ "]"
  | .object [] => "\x7b\x7d"
  | .object ((key, value) :: rest) =>
    "\x7b" ++ literal key ++ ":" ++ compact value ++ compactMembers rest ++ "\x7d"

/-- Every item after a comma. -/
def compactItems : List Json → String
  | [] => ""
  | item :: rest => "," ++ compact item ++ compactItems rest

/-- Every member after a comma. -/
def compactMembers : List (String × Json) → String
  | [] => ""
  | (key, value) :: rest => "," ++ literal key ++ ":" ++ compact value ++ compactMembers rest

end

/-- A line break followed by two spaces for each level. -/
def lineBreak (level : Nat) : String :=
  String.ofList ('\n' :: List.replicate (2 * level) ' ')

mutual

/-- A value as JSON text with one item or member to a line, at the given level. -/
def prettyAt (level : Nat) : Json → String
  | .null => "null"
  | .bool b => if b then "true" else "false"
  | .number n => n.text
  | .string s => literal s
  | .array [] => "[]"
  | .array (item :: rest) =>
    "[" ++ lineBreak (level + 1) ++ prettyAt (level + 1) item ++ prettyItems (level + 1) rest
      ++ lineBreak level ++ "]"
  | .object [] => "\x7b\x7d"
  | .object ((key, value) :: rest) =>
    "\x7b" ++ lineBreak (level + 1) ++ literal key ++ ": " ++ prettyAt (level + 1) value
      ++ prettyMembers (level + 1) rest ++ lineBreak level ++ "\x7d"

/-- Every item after a comma, on its own line. -/
def prettyItems (level : Nat) : List Json → String
  | [] => ""
  | item :: rest => "," ++ lineBreak level ++ prettyAt level item ++ prettyItems level rest

/-- Every member after a comma, on its own line. -/
def prettyMembers (level : Nat) : List (String × Json) → String
  | [] => ""
  | (key, value) :: rest =>
    "," ++ lineBreak level ++ literal key ++ ": " ++ prettyAt level value
      ++ prettyMembers level rest

end

/-- A value as JSON text over several lines. -/
def pretty (value : Json) : String :=
  prettyAt 0 value

end Json
end TypeForm
