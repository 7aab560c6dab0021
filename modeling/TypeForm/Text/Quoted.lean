import TypeForm.Text.Unprintable

/-!
# Quoted text for messages

A string is shown between double quotes. Quote, backslash, tab, carriage return, line feed and NUL
are written with a backslash and a letter; every other character without a visible form of its own
is written as its code point in braces.
-/
namespace TypeForm.Text

/-- Lower-case hexadecimal digits without leading zeros. -/
def hex (n : Nat) : List Char :=
  Nat.toDigits 16 n

/-- Whether a character is shown as itself between the quotes. -/
def isVisible (c : Char) : Bool :=
  if c.toNat < 0x7f then decide (0x20 ≤ c.toNat)
  else
    [unprintable, fillers, graphemeExtend].all fun ranges => !inRanges ranges c.toNat

/-- The written form of one character between the quotes. -/
def quoteChar (c : Char) : List Char :=
  match c with
  | '"' => ['\\', '"']
  | '\\' => ['\\', '\\']
  | '\t' => ['\\', 't']
  | '\r' => ['\\', 'r']
  | '\n' => ['\\', 'n']
  | '\x00' => ['\\', '0']
  | c => if isVisible c then [c] else ['\\', 'u', '\x7b'] ++ hex c.toNat ++ ['\x7d']

/-- A string as messages show it. -/
def quoted (s : String) : String :=
  String.ofList ('"' :: s.toList.flatMap quoteChar ++ ['"'])

end TypeForm.Text
