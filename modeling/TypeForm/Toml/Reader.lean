import TypeForm.Number.Binary64
import TypeForm.Time.Calendar
import TypeForm.Toml.Basic

/-!
# Reading TOML

Each reader takes the characters that are left and gives back a result with the characters after
it, or nothing if the text is not TOML.
-/
namespace TypeForm.Toml.Read

/-! ## Blanks -/

def isBlank (c : Char) : Bool :=
  c == ' ' || c == '\t'

def skipBlanks (s : List Char) : List Char :=
  s.dropWhile isBlank

/-- Characters of comments and strings: a tab or any that is not a control character. -/
def isText (c : Char) : Bool :=
  c == '\t' || decide (0x20 ≤ c.toNat ∧ c.toNat ≠ 0x7f)

/-- The text after a line break. -/
def lineBreak? : List Char → Option (List Char)
  | '\n' :: rest => some rest
  | '\r' :: '\n' :: rest => some rest
  | _ => none

/-- The text after a comment, if one starts here. -/
def skipComment : List Char → List Char
  | '#' :: rest => rest.dropWhile isText
  | s => s

/-- The text after what may end a line: blanks and a comment before a line break or the end. -/
def lineEnd? (s : List Char) : Option (List Char) :=
  match skipComment (skipBlanks s) with
  | [] => some []
  | rest => lineBreak? rest

/-- The text after blanks, comments and line breaks. -/
def skipLines : (steps : Nat) → List Char → List Char
  | 0, s => s
  | steps + 1, s =>
    match lineBreak? (skipComment (skipBlanks s)) with
    | some rest => skipLines steps rest
    | none => skipBlanks s

/-! ## Strings -/

def isHexDigit (c : Char) : Bool :=
  c.isDigit || ('a' ≤ c && c ≤ 'f') || ('A' ≤ c && c ≤ 'F')

/-- The value of a digit in a base up to sixteen. -/
def digitValue (c : Char) : Nat :=
  if c.isDigit then c.toNat - '0'.toNat
  else if 'a' ≤ c then c.toNat - 'a'.toNat + 10
  else c.toNat - 'A'.toNat + 10

def numberIn (base : Nat) (digits : List Char) : Nat :=
  digits.foldl (fun n c => n * base + digitValue c) 0

/-- A character given by a number of hexadecimal digits; surrogates are none. -/
def codePoint? (digits : Nat) (s : List Char) : Option (Char × List Char) :=
  let spelled := s.take digits
  let code := numberIn 16 spelled
  if spelled.length = digits ∧ spelled.all isHexDigit ∧ code.isValidChar then
    some (Char.ofNat code, s.drop digits)
  else none

/-- The rest of an escape after its backslash. -/
def escape? : List Char → Option (Char × List Char)
  | 'b' :: rest => some ('\x08', rest)
  | 't' :: rest => some ('\t', rest)
  | 'n' :: rest => some ('\n', rest)
  | 'f' :: rest => some ('\x0c', rest)
  | 'r' :: rest => some ('\r', rest)
  | '"' :: rest => some ('"', rest)
  | '\\' :: rest => some ('\\', rest)
  | 'u' :: rest => codePoint? 4 rest
  | 'U' :: rest => codePoint? 8 rest
  | _ => none

/-- The characters of a string with escapes up to its closing quote. -/
def basicBody : (steps : Nat) → List Char → Option (List Char × List Char)
  | 0, _ => none
  | steps + 1, s =>
    match s with
    | [] => none
    | '"' :: rest => some ([], rest)
    | '\\' :: rest => do
      let (c, rest) ← escape? rest
      let (cs, rest) ← basicBody steps rest
      some (c :: cs, rest)
    | c :: rest =>
      if isText c then do
        let (cs, rest) ← basicBody steps rest
        some (c :: cs, rest)
      else none

/-- A string with escapes after its opening quote. -/
def basicString? (s : List Char) : Option (String × List Char) := do
  let (cs, rest) ← basicBody (s.length + 1) s
  some (String.ofList cs, rest)

/-- A string without escapes after its opening apostrophe. -/
def literalString? (s : List Char) : Option (String × List Char) :=
  let isPlain (c : Char) : Bool := isText c && c != '\x27'
  match s.dropWhile isPlain with
  | '\x27' :: rest => some (String.ofList (s.takeWhile isPlain), rest)
  | _ => none

/-- The number of times a character stands at the start. -/
def runLength (c : Char) (s : List Char) : Nat :=
  (s.takeWhile (· == c)).length

/-- The text after blanks and line breaks. -/
def skipSpace (s : List Char) : List Char :=
  s.dropWhile fun c => isBlank c || c == '\n' || c == '\r'

/-- Whether every carriage return in a stretch of space belongs to a line break. -/
def breaksOnly : List Char → Bool
  | [] => true
  | '\r' :: '\n' :: rest => breaksOnly rest
  | '\r' :: _ => false
  | c :: rest => if isBlank c || c == '\n' then breaksOnly rest else true

/-- The characters of a string of several lines up to its closing quotes. Up to two quotes may
stand anywhere, also before the closing ones. With escapes, a backslash at the end of a line drops
the space up to the next character. -/
def linesBody (quote : Char) (escapes : Bool) :
    (steps : Nat) → List Char → Option (List Char × List Char)
  | 0, _ => none
  | steps + 1, s =>
    let quotes := runLength quote s
    if 3 ≤ quotes then
      let kept := min (quotes - 3) 2
      some (List.replicate kept quote, s.drop (kept + 3))
    else if 0 < quotes then do
      let (cs, rest) ← linesBody quote escapes steps (s.drop quotes)
      some (List.replicate quotes quote ++ cs, rest)
    else
      match s with
      | [] => none
      | '\n' :: rest | '\r' :: '\n' :: rest => do
        let (cs, rest) ← linesBody quote escapes steps rest
        some ('\n' :: cs, rest)
      | c :: rest =>
        if escapes && c == '\\' then
          match lineBreak? (skipBlanks rest) with
          | some after =>
            if breaksOnly after then linesBody quote escapes steps (skipSpace after) else none
          | none => do
            let (c, rest) ← escape? rest
            let (cs, rest) ← linesBody quote escapes steps rest
            some (c :: cs, rest)
        else if isText c then do
          let (cs, rest) ← linesBody quote escapes steps rest
          some (c :: cs, rest)
        else none

/-- A string of several lines after its opening quotes; a line break right after them does not
count. -/
def linesString? (quote : Char) (escapes : Bool) (s : List Char) :
    Option (String × List Char) := do
  let s := (lineBreak? s).getD s
  let (cs, rest) ← linesBody quote escapes (s.length + 1) s
  some (String.ofList cs, rest)

/-! ## Keys -/

def isKeyChar (c : Char) : Bool :=
  c.isAlphanum || c == '-' || c == '_'

/-- One key: bare, or a string of one line. -/
def simpleKey? : List Char → Option (String × List Char)
  | '"' :: rest => basicString? rest
  | '\x27' :: rest => literalString? rest
  | s =>
    let bare := s.takeWhile isKeyChar
    if bare.isEmpty then none else some (String.ofList bare, s.dropWhile isKeyChar)

/-- Keys with dots between, and the text after them and the blanks that follow. -/
def dottedKeys : (steps : Nat) → List Char → Option (List String × List Char)
  | 0, _ => none
  | steps + 1, s => do
    let (key, rest) ← simpleKey? (skipBlanks s)
    match skipBlanks rest with
    | '.' :: rest => do
      let (keys, rest) ← dottedKeys steps rest
      some (key :: keys, rest)
    | rest => some ([key], rest)

/-- Values may be nested and keys dotted this deep. -/
def maxDepth : Nat := 79

/-- A path and the key at its end. -/
def keyPath? (s : List Char) : Option (List String × String × List Char) := do
  let (keys, rest) ← dottedKeys (s.length + 1) s
  let key ← keys.getLast?
  if maxDepth < keys.length then none else some (keys.dropLast, key, rest)

/-! ## Times -/

/-- The value of exactly so many digits. -/
def fixedDigits? (digits : Nat) (s : List Char) : Option (Nat × List Char) :=
  let spelled := s.take digits
  if spelled.length = digits ∧ spelled.all Char.isDigit then
    some (numberIn 10 spelled, s.drop digits)
  else none

def after? (c : Char) : List Char → Option (List Char)
  | d :: rest => if d = c then some rest else none
  | [] => none

def date? (s : List Char) : Option (List Char) := do
  let (year, rest) ← fixedDigits? 4 s
  let (month, rest) ← fixedDigits? 2 (← after? '-' rest)
  let (day, rest) ← fixedDigits? 2 (← after? '-' rest)
  if Date.exists ⟨year, month, day⟩ then some rest else none

def clock? (s : List Char) : Option (List Char) := do
  let (hour, rest) ← fixedDigits? 2 s
  let (minute, rest) ← fixedDigits? 2 (← after? ':' rest)
  let (second, rest) ← fixedDigits? 2 (← after? ':' rest)
  if hour ≤ 23 ∧ minute ≤ 59 ∧ second ≤ 60 then
    match rest with
    | '.' :: c :: fraction =>
      if c.isDigit then some (fraction.dropWhile Char.isDigit) else some rest
    | rest => some rest
  else none

def zoneMinutes? (s : List Char) : Option (List Char) := do
  let (hour, rest) ← fixedDigits? 2 s
  let (minute, rest) ← fixedDigits? 2 (← after? ':' rest)
  if hour ≤ 23 ∧ minute ≤ 59 then some rest else none

/-- The text after an optional zone. -/
def skipZone (s : List Char) : List Char :=
  match s with
  | 'Z' :: rest | 'z' :: rest => rest
  | '+' :: rest | '-' :: rest => (zoneMinutes? rest).getD s
  | s => s

/-- The text after a date, a time of day, or both with an optional zone. -/
def time? (s : List Char) : Option (List Char) :=
  match date? s with
  | none => clock? s
  | some rest =>
    match rest with
    | 'T' :: after | 't' :: after | ' ' :: after =>
      match clock? after with
      | some rest => some (skipZone rest)
      | none => some rest
    | rest => some rest

/-! ## Numbers -/

/-- The longest run of digits in which single underscores stand between digits. -/
def digitRun (isDigit : Char → Bool) : List Char → List Char × List Char
  | [] => ([], [])
  | c :: rest =>
    if isDigit c then
      let (digits, after) := digitRun isDigit rest
      (c :: digits, after)
    else if c = '_' then
      match rest with
      | d :: after =>
        if isDigit d then
          let (digits, after) := digitRun isDigit after
          (d :: digits, after)
        else ([], c :: rest)
      | [] => ([], c :: rest)
    else ([], c :: rest)

/-- A run that starts with a digit. -/
def digits? (isDigit : Char → Bool) (s : List Char) : Option (List Char × List Char) :=
  match s with
  | c :: _ => if isDigit c then some (digitRun isDigit s) else none
  | [] => none

/-- A sign and the text after it. -/
def sign (s : List Char) : Bool × List Char :=
  match s with
  | '-' :: rest => (true, rest)
  | '+' :: rest => (false, rest)
  | s => (false, s)

/-- Digits of a decimal integer; none but zero itself starts with zero. -/
def decimalDigits? (s : List Char) : Option (List Char × List Char) :=
  match s with
  | '0' :: rest => some (['0'], rest)
  | s => digits? Char.isDigit s

/-- Whether a decimal numeral is rounded to infinity. Numerals that are far from the limit are
told by the place of their first digit. -/
def isTooLarge (digits : List Char) (exponent : Int) : Bool :=
  let digits := digits.dropWhile (· == '0')
  let place := digits.length + exponent
  if digits.isEmpty || place < 308 then false
  else if 310 < place then true
  else
    let n := numberIn 10 digits
    let units := n * pow10 exponent.toNat * unitsPerOne
    (Magnitude.nearest? units (pow10 (-exponent).toNat)).isNone

/-- The exponent after `e`. -/
def exponent? (s : List Char) : Option (Int × List Char) := do
  let (down, rest) := sign s
  let (digits, rest) ← digits? Char.isDigit rest
  let n : Int := numberIn 10 digits
  some (if down then -n else n, rest)

/-- The text after a numeral with a fraction or an exponent. A numeral must not be so large that
it is read as positive infinity. -/
def decimal? (s : List Char) : Option (List Char) := do
  let (negative, rest) := sign s
  let (whole, rest) ← decimalDigits? rest
  let (fraction, rest) ← match rest with
    | '.' :: rest => digits? Char.isDigit rest
    | 'e' :: _ | 'E' :: _ => some ([], rest)
    | _ => none
  let (exponent, rest) ← match rest with
    | 'e' :: rest | 'E' :: rest => exponent? rest
    | rest => some (0, rest)
  if !negative && isTooLarge (whole ++ fraction) (exponent - fraction.length) then none
  else some rest

/-- The text after the name of a number that is not finite. -/
def special? (s : List Char) : Option (List Char) :=
  match (sign s).2 with
  | 'i' :: 'n' :: 'f' :: rest | 'n' :: 'a' :: 'n' :: rest => some rest
  | _ => none

/-- The text after digits in a base that stand for an integer of 63 bits. -/
def based? (base : Nat) (isDigit : Char → Bool) (s : List Char) : Option (List Char) := do
  let (digits, rest) ← digits? isDigit s
  if numberIn base digits < pow2 63 then some rest else none

/-- The text after an integer of 64 bits. -/
def integer? (s : List Char) : Option (List Char) :=
  match s with
  | '0' :: 'x' :: rest => based? 16 isHexDigit rest
  | '0' :: 'o' :: rest => based? 8 (fun c => '0' ≤ c && c ≤ '7') rest
  | '0' :: 'b' :: rest => based? 2 (fun c => c == '0' || c == '1') rest
  | s => do
    let (negative, rest) := sign s
    let (digits, rest) ← decimalDigits? rest
    let n := numberIn 10 digits
    if n < pow2 63 ∨ (negative ∧ n = pow2 63) then some rest else none

/-- The part of a text before one of its ends. -/
def spelledBefore (s rest : List Char) : String :=
  String.ofList (s.take (s.length - rest.length))

/-- A time or a number. -/
def scalar? (s : List Char) : Option (Toml × List Char) :=
  match time? s with
  | some rest => some (.time (spelledBefore s rest), rest)
  | none =>
    match (decimal? s <|> special? s <|> integer? s) with
    | some rest => some (.number (spelledBefore s rest), rest)
    | none => none

/-! ## Values -/

/-- The text after a word. -/
def word? (letters s : List Char) : Option (List Char) :=
  if s.take letters.length = letters then some (s.drop letters.length) else none

/-- The items of an array up to its closing bracket, with a comma after all but the last. -/
def items (value : List Char → Option (Toml × List Char)) :
    (steps : Nat) → List Char → Option (List Toml × List Char)
  | 0, _ => none
  | steps + 1, s =>
    match skipLines (s.length + 1) s with
    | ']' :: rest => some ([], rest)
    | start => do
      let (item, rest) ← value start
      match skipLines (rest.length + 1) rest with
      | ',' :: rest => do
        let (others, rest) ← items value steps rest
        some (item :: others, rest)
      | ']' :: rest => some ([item], rest)
      | _ => none

/-- A key path, a value and the blanks after them. -/
def assignment? (value : List Char → Option (Toml × List Char)) (s : List Char) :
    Option ((List String × String × Toml) × List Char) := do
  let (path, key, rest) ← keyPath? s
  let (item, rest) ← value (skipBlanks (← after? '=' rest))
  some ((path, key, item), skipBlanks rest)

/-- The assignments between braces, of which there is at least one, up to the closing brace. -/
def assignments (value : List Char → Option (Toml × List Char)) :
    (steps : Nat) → List Char → Option (List (List String × String × Toml) × List Char)
  | 0, _ => none
  | steps + 1, s => do
    let (first, rest) ← assignment? value s
    match rest with
    | ',' :: rest => do
      let (others, rest) ← assignments value steps rest
      some (first :: others, rest)
    | '\x7d' :: rest => some ([first], rest)
    | _ => none

/-- A value in which arrays and tables may be nested `depth` deep. -/
def value (depth : Nat) (s : List Char) : Option (Toml × List Char) :=
  match s with
  | '"' :: '"' :: '"' :: rest => do
    let (text, rest) ← linesString? '"' true rest
    some (.string text, rest)
  | '\x27' :: '\x27' :: '\x27' :: rest => do
    let (text, rest) ← linesString? '\x27' false rest
    some (.string text, rest)
  | '"' :: rest => do
    let (text, rest) ← basicString? rest
    some (.string text, rest)
  | '\x27' :: rest => do
    let (text, rest) ← literalString? rest
    some (.string text, rest)
  | 't' :: rest => (word? ['r', 'u', 'e'] rest).map ((.bool true, ·))
  | 'f' :: rest => (word? ['a', 'l', 's', 'e'] rest).map ((.bool false, ·))
  | '[' :: rest =>
    match depth with
    | 0 => none
    | depth + 1 => do
      let (xs, rest) ← items (value depth) (rest.length + 1) rest
      some (.array xs, rest)
  | '\x7b' :: rest =>
    match depth with
    | 0 => none
    | depth + 1 =>
      match skipBlanks rest with
      | '\x7d' :: rest => some (.table [], rest)
      | start => do
        let (pairs, rest) ← assignments (value depth) (start.length + 1) start
        some (← buildInline? pairs, rest)
  | s => scalar? s

/-! ## Documents -/

/-- The statement at the start of a line that is not blank, and the lines after it. -/
def statement? (s : List Char) : Option (Statement × List Char) :=
  match s with
  | '[' :: '[' :: rest => do
    let (path, key, rest) ← keyPath? rest
    let rest ← lineEnd? (← after? ']' (← after? ']' rest))
    some (.element path key, rest)
  | '[' :: rest => do
    let (path, key, rest) ← keyPath? rest
    let rest ← lineEnd? (← after? ']' rest)
    some (.table path key, rest)
  | s => do
    let ((path, key, item), rest) ← assignment? (value maxDepth) s
    some (.assignment path key item, ← lineEnd? rest)

/-- The statements of a document. -/
def statements : (steps : Nat) → List Char → Option (List Statement)
  | 0, _ => none
  | steps + 1, s =>
    match skipLines (s.length + 1) s with
    | [] => some []
    | '#' :: rest => if (rest.dropWhile isText).isEmpty then some [] else none
    | start => do
      let (first, rest) ← statement? start
      let others ← statements steps rest
      some (first :: others)

/-- The table that a text describes. A byte order mark at its start does not count. -/
def document? (text : String) : Option Toml := do
  let s := match text.toList with
    | '\ufeff' :: rest => rest
    | s => s
  build? (← statements (s.length + 1) s)

end TypeForm.Toml.Read
