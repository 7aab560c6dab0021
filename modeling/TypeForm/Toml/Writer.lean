/-!
# Writing TOML keys

A key is written bare if it can be. Otherwise it stands between quotes, between apostrophes if it
holds quotes or backslashes, and with escapes if nothing else will do.
-/
namespace TypeForm.Toml

/-- Whether a key needs neither quotes nor apostrophes. -/
def isBareKey (key : List Char) : Bool :=
  !key.isEmpty && key.all fun c => c.isAlphanum || c == '-' || c == '_'

/-- Control characters that only an escape can spell; a tab is not one of them. -/
def needsEscape (c : Char) : Bool :=
  c != '\t' && decide (c.toNat < 0x20 ∨ c.toNat = 0x7f)

/-- The written form of one character between quotes. -/
def escapeChar (c : Char) : List Char :=
  match c with
  | '\x08' => ['\\', 'b']
  | '\t' => ['\\', 't']
  | '\n' => ['\\', 'n']
  | '\x0c' => ['\\', 'f']
  | '\r' => ['\\', 'r']
  | '"' => ['\\', '"']
  | '\\' => ['\\', '\\']
  | c =>
    if needsEscape c then
      ['\\', 'u', '0', '0', (Nat.digitChar (c.toNat / 16)).toUpper,
        (Nat.digitChar (c.toNat % 16)).toUpper]
    else [c]

/-- A key between quotes. -/
def basicKey (key : List Char) : List Char :=
  '"' :: key.flatMap escapeChar ++ ['"']

/-- A key as it is written. -/
def keyChars (key : List Char) : List Char :=
  if isBareKey key then key
  else if key.any needsEscape then basicKey key
  else if !key.contains '"' && !key.contains '\\' then basicKey key
  else if !key.contains '\x27' then '\x27' :: key ++ ['\x27']
  else basicKey key

def keyText (key : String) : String :=
  String.ofList (keyChars key.toList)

end TypeForm.Toml
