import TypeForm.Ascending
import TypeForm.Json.Basic
import TypeForm.Number.Decimal

/-!
# Reading JSON text

Each reader takes the characters that are left and gives back a result with the characters after
it, or the first defect of the text. A defect remembers what was left when it was found and how
many bytes beyond that point had been looked at; from these `Json.Defect.place` computes its line
and column.
-/
namespace TypeForm
namespace Json

/-- What can be wrong with a text. -/
inductive Cause where
  | endInValue
  | endInList
  | endInObject
  | endInString
  | expectedColon
  | expectedListEnd
  | expectedObjectEnd
  | expectedIdent
  | expectedValue
  | invalidEscape
  | invalidNumber
  | numberOutOfRange
  | loneSurrogate
  | unfinishedPair
  | controlCharacter
  | keyNotString
  | trailingComma
  | trailingCharacters
  | tooDeep
deriving DecidableEq, Repr

def Cause.message : Cause → String
  | endInValue => "EOF while parsing a value"
  | endInList => "EOF while parsing a list"
  | endInObject => "EOF while parsing an object"
  | endInString => "EOF while parsing a string"
  | expectedColon => "expected `:`"
  | expectedListEnd => "expected `,` or `]`"
  | expectedObjectEnd => "expected `,` or `\x7d`"
  | expectedIdent => "expected ident"
  | expectedValue => "expected value"
  | invalidEscape => "invalid escape"
  | invalidNumber => "invalid number"
  | numberOutOfRange => "number out of range"
  | loneSurrogate => "lone leading surrogate in hex escape"
  | unfinishedPair => "unexpected end of hex escape"
  | controlCharacter => "control character (\\u0000-\\u001F) found while parsing a string"
  | keyNotString => "key must be a string"
  | trailingComma => "trailing comma"
  | trailingCharacters => "trailing characters"
  | tooDeep => "recursion limit exceeded"

/-- A defect found when `rest` was left, after looking at `ahead` bytes of it. -/
structure Defect where
  cause : Cause
  rest : List Char
  ahead : Nat
deriving DecidableEq, Repr

namespace Read

/-- A defect at the next character, which has been looked at. -/
def atNext (cause : Cause) (rest : List Char) : Except Defect α :=
  .error ⟨cause, rest, 1⟩

/-- A defect before the next character. -/
def before (cause : Cause) (rest : List Char) : Except Defect α :=
  .error ⟨cause, rest, 0⟩

/-- Length of a text in bytes. -/
def byteLength (s : List Char) : Nat :=
  s.foldl (fun n c => n + c.utf8Size) 0

def isSpace (c : Char) : Bool :=
  c == ' ' || c == '\n' || c == '\t' || c == '\r'

def skipSpace (s : List Char) : List Char :=
  s.dropWhile isSpace

/-! ## Strings -/

/-- The value of a hexadecimal digit in either case. -/
def hexValue? (c : Char) : Option Nat :=
  if '0' ≤ c ∧ c ≤ '9' then some (c.toNat - '0'.toNat)
  else if 'a' ≤ c ∧ c ≤ 'f' then some (c.toNat - 'a'.toNat + 10)
  else if 'A' ≤ c ∧ c ≤ 'F' then some (c.toNat - 'A'.toNat + 10)
  else none

/-- The number that four hexadecimal digits spell. -/
def hexFour? (a b c d : Char) : Option Nat :=
  match hexValue? a, hexValue? b, hexValue? c, hexValue? d with
  | some a, some b, some c, some d => some (((a * 16 + b) * 16 + c) * 16 + d)
  | _, _, _, _ => none

/-- Read the four digits after a backslash and `u`. -/
def hexEscape (s : List Char) : Except Defect (Nat × List Char) :=
  match s with
  | a :: b :: c :: d :: rest =>
    match hexFour? a b c d with
    | some n => .ok (n, rest)
    | none => .error ⟨.invalidEscape, s, 4⟩
  | _ => if byteLength s < 4 then before .endInString [] else .error ⟨.invalidEscape, s, 4⟩

/-- Read an escape after backslash and `u`: one code unit, or a pair of surrogates. -/
def unicodeEscape (s : List Char) : Except Defect (Char × List Char) := do
  let (high, rest) ← hexEscape s
  if 0xDC00 ≤ high ∧ high ≤ 0xDFFF then before .loneSurrogate rest
  else if high < 0xD800 ∨ 0xDBFF < high then .ok (Char.ofNat high, rest)
  else
    match rest with
    | [] => before .endInString []
    | '\\' :: [] => before .endInString []
    | '\\' :: 'u' :: rest => do
      let (low, rest) ← hexEscape rest
      if low < 0xDC00 ∨ 0xDFFF < low then before .loneSurrogate rest
      else .ok (Char.ofNat ((high - 0xD800) * 0x400 + (low - 0xDC00) + 0x10000), rest)
    | '\\' :: rest => atNext .unfinishedPair rest
    | rest => atNext .unfinishedPair rest

/-- Read the rest of an escape after its backslash. -/
def escape (s : List Char) : Except Defect (Char × List Char) :=
  match s with
  | [] => before .endInString []
  | '"' :: rest => .ok ('"', rest)
  | '\\' :: rest => .ok ('\\', rest)
  | '/' :: rest => .ok ('/', rest)
  | 'b' :: rest => .ok ('\x08', rest)
  | 'f' :: rest => .ok ('\x0c', rest)
  | 'n' :: rest => .ok ('\n', rest)
  | 'r' :: rest => .ok ('\r', rest)
  | 't' :: rest => .ok ('\t', rest)
  | 'u' :: rest => unicodeEscape rest
  | rest => atNext .invalidEscape rest

/-- Read the characters of a string up to its closing quote. Each step uses up a character, so
as many steps as there are characters suffice. -/
def stringBody : (steps : Nat) → List Char → Except Defect (List Char × List Char)
  | 0, _ => before .endInString []
  | steps + 1, s =>
    match s with
    | [] => before .endInString []
    | '"' :: rest => .ok ([], rest)
    | '\\' :: rest => do
      let (c, rest) ← escape rest
      let (cs, rest) ← stringBody steps rest
      .ok (c :: cs, rest)
    | c :: rest =>
      if c.toNat < 0x20 then atNext .controlCharacter s
      else do
        let (cs, rest) ← stringBody steps rest
        .ok (c :: cs, rest)

/-- Read a string after its opening quote. -/
def stringAfterQuote (s : List Char) : Except Defect (String × List Char) := do
  let (cs, rest) ← stringBody (s.length + 1) s
  .ok (String.ofList cs, rest)

/-! ## Numbers -/

def digitValue (c : Char) : Nat :=
  c.toNat - '0'.toNat

/-- Append decimal digits to a number while it stays below `limit`; the first digit that does not
fit ends this, and is returned with those after it. -/
def appendDigits (limit : Nat) (n : Nat) : List Char → Nat × List Char
  | [] => (n, [])
  | c :: rest =>
    let next := n * 10 + digitValue c
    if next < limit then appendDigits limit next rest else (n, c :: rest)

/-- An exponent of more than 31 bits is out of range at the digit that makes it so. -/
def exponentLimit : Nat := pow2 31

/-- The number `significand * 10 ^ exponent`, out of range when it is too large. -/
def realNumber (negative : Bool) (significand : Nat) (exponent : Int) (rest : List Char) :
    Except Defect (JsonNumber × List Char) :=
  match Magnitude.ofDecimal? significand exponent with
  | some magnitude => .ok (.real (.finite negative magnitude), rest)
  | none => before .numberOutOfRange rest

/-- Read an exponent after its `e`, for a number with the given digits so far. -/
def exponentPart (negative : Bool) (significand : Nat) (exponent : Int) (s : List Char) :
    Except Defect (JsonNumber × List Char) :=
  let (down, s) := match s with
    | '+' :: rest => (false, rest)
    | '-' :: rest => (true, rest)
    | s => (false, s)
  match s with
  | [] => before .endInValue []
  | c :: _ =>
    if !c.isDigit then atNext .invalidNumber s
    else
      let digits := s.takeWhile Char.isDigit
      let rest := s.dropWhile Char.isDigit
      match appendDigits exponentLimit 0 digits with
      | (n, []) =>
        realNumber negative significand (if down then exponent - n else exponent + n) rest
      | (_, _ :: unread) =>
        if significand = 0 ∨ down then .ok (.real (.finite negative .zero), rest)
        else before .numberOutOfRange (unread ++ rest)

/-- Read what may follow the fraction digits. -/
def afterFraction (negative : Bool) (significand : Nat) (exponent : Int) (s : List Char) :
    Except Defect (JsonNumber × List Char) :=
  match s with
  | 'e' :: rest | 'E' :: rest => exponentPart negative significand exponent rest
  | rest => realNumber negative significand exponent rest

/-- Digits of a significand are kept while it fits 64 bits. -/
def significandLimit : Nat := pow2 64

/-- Read a number whose integer part has the given digits. Without fraction and exponent it is an
integer if it fits 64 bits, signed or not; minus zero is not an integer. -/
def afterInteger (negative : Bool) (digits : List Char) (s : List Char) :
    Except Defect (JsonNumber × List Char) :=
  let (significand, dropped) := appendDigits significandLimit 0 digits
  match s with
  | '.' :: rest =>
    let fraction := rest.takeWhile Char.isDigit
    let after := rest.dropWhile Char.isDigit
    if fraction.isEmpty then
      if rest.isEmpty then before .endInValue [] else atNext .invalidNumber rest
    else
      let (significand, unused) := appendDigits significandLimit significand fraction
      let places : Int := fraction.length - unused.length
      afterFraction negative significand (dropped.length - places) after
  | 'e' :: rest | 'E' :: rest => exponentPart negative significand dropped.length rest
  | rest =>
    if !dropped.isEmpty then realNumber negative significand dropped.length rest
    else if !negative then .ok (.int significand, rest)
    else if significand = 0 ∨ pow2 63 < significand then realNumber true significand 0 rest
    else .ok (.int (-(significand : Int)), rest)

/-- Read a number after its sign. -/
def number (negative : Bool) (s : List Char) : Except Defect (JsonNumber × List Char) :=
  match s with
  | [] => before .endInValue []
  | '0' :: rest =>
    match rest with
    | c :: _ => if c.isDigit then atNext .invalidNumber rest else afterInteger negative ['0'] rest
    | [] => afterInteger negative ['0'] rest
  | c :: _ =>
    if c.isDigit then afterInteger negative (s.takeWhile Char.isDigit) (s.dropWhile Char.isDigit)
    else atNext .invalidNumber s

/-! ## Values -/

/-- Read the given characters of a word. -/
def word (letters : List Char) (value : Json) (s : List Char) : Except Defect (Json × List Char) :=
  match letters, s with
  | [], s => .ok (value, s)
  | _ :: _, [] => before .endInValue []
  | l :: letters, c :: rest => if l = c then word letters value rest else atNext .expectedIdent s

/-- Read the items of a list after one of them, each after a comma. -/
def moreItems (item : List Char → Except Defect (Json × List Char)) :
    (steps : Nat) → List Char → Except Defect (List Json × List Char)
  | 0, _ => before .endInList []
  | steps + 1, s =>
    match skipSpace s with
    | [] => before .endInList []
    | ']' :: rest => .ok ([], rest)
    | ',' :: rest =>
      match skipSpace rest with
      | [] => before .endInValue []
      | ']' :: rest => atNext .trailingComma (']' :: rest)
      | start => do
        let (x, rest) ← item start
        let (xs, rest) ← moreItems item steps rest
        .ok (x :: xs, rest)
    | rest => atNext .expectedListEnd rest

/-- Read the items of a list after its opening bracket. -/
def items (item : List Char → Except Defect (Json × List Char)) (s : List Char) :
    Except Defect (List Json × List Char) :=
  match skipSpace s with
  | [] => before .endInList []
  | ']' :: rest => .ok ([], rest)
  | start => do
    let (x, rest) ← item start
    let (xs, rest) ← moreItems item (rest.length + 1) rest
    .ok (x :: xs, rest)

/-- Read a member of an object after the opening quote of its key. -/
def member (value : List Char → Except Defect (Json × List Char)) (s : List Char) :
    Except Defect ((String × Json) × List Char) := do
  let (key, rest) ← stringAfterQuote s
  match skipSpace rest with
  | [] => before .endInObject []
  | ':' :: rest => do
    let (v, rest) ← value rest
    .ok ((key, v), rest)
  | rest => atNext .expectedColon rest

/-- Read the members of an object after one of them, each after a comma. -/
def moreMembers (value : List Char → Except Defect (Json × List Char)) :
    (steps : Nat) → List Char → Except Defect (List (String × Json) × List Char)
  | 0, _ => before .endInObject []
  | steps + 1, s =>
    match skipSpace s with
    | [] => before .endInObject []
    | '\x7d' :: rest => .ok ([], rest)
    | ',' :: rest =>
      match skipSpace rest with
      | [] => before .endInValue []
      | '"' :: rest => do
        let (x, rest) ← member value rest
        let (xs, rest) ← moreMembers value steps rest
        .ok (x :: xs, rest)
      | '\x7d' :: rest => atNext .trailingComma ('\x7d' :: rest)
      | rest => atNext .keyNotString rest
    | rest => atNext .expectedObjectEnd rest

/-- Read the members of an object after its opening brace. -/
def members (value : List Char → Except Defect (Json × List Char)) (s : List Char) :
    Except Defect (List (String × Json) × List Char) :=
  match skipSpace s with
  | [] => before .endInObject []
  | '\x7d' :: rest => .ok ([], rest)
  | '"' :: rest => do
    let (x, rest) ← member value rest
    let (xs, rest) ← moreMembers value (rest.length + 1) rest
    .ok (x :: xs, rest)
  | rest => atNext .keyNotString rest

/-- Read a value in which lists and objects may be nested `depth` deep. -/
def value (depth : Nat) (s : List Char) : Except Defect (Json × List Char) :=
  match skipSpace s with
  | [] => before .endInValue []
  | 'n' :: rest => word ['u', 'l', 'l'] .null rest
  | 't' :: rest => word ['r', 'u', 'e'] (.bool true) rest
  | 'f' :: rest => word ['a', 'l', 's', 'e'] (.bool false) rest
  | '"' :: rest => do
    let (text, rest) ← stringAfterQuote rest
    .ok (.string text, rest)
  | '-' :: rest => do
    let (n, rest) ← number true rest
    .ok (.number n, rest)
  | '[' :: rest =>
    match depth with
    | 0 => atNext .tooDeep ('[' :: rest)
    | depth + 1 => do
      let (xs, rest) ← items (value depth) rest
      .ok (.array xs, rest)
  | '\x7b' :: rest =>
    match depth with
    | 0 => atNext .tooDeep ('\x7b' :: rest)
    | depth + 1 => do
      let (xs, rest) ← members (value depth) rest
      .ok (.object (sortByKey xs), rest)
  | c :: rest =>
    if c.isDigit then do
      let (n, rest) ← number false (c :: rest)
      .ok (.number n, rest)
    else atNext .expectedValue (c :: rest)

/-- Lists and objects may be nested this deep. -/
def maxDepth : Nat := 127

/-- The value that a whole text spells, in which lists and objects may be nested `depth` deep. -/
def text (depth : Nat) (s : List Char) : Except Defect Json := do
  let (v, rest) ← value depth s
  match skipSpace rest with
  | [] => .ok v
  | rest => atNext .trailingCharacters rest

end Read

/-! ## Places of defects -/

/-- Line and column after the given number of bytes; lines count from one, and the column counts
the bytes since the last line break. -/
def placeAfter (line column : Nat) : (bytes : Nat) → List Char → Nat × Nat
  | _, [] => (line, column)
  | bytes, c :: rest =>
    if bytes < c.utf8Size then (line, column + bytes)
    else if c = '\n' then placeAfter (line + 1) 0 (bytes - 1) rest
    else placeAfter line (column + c.utf8Size) (bytes - c.utf8Size) rest

/-- Line and column of a defect of the text. -/
def Defect.place (defect : Defect) (text : List Char) : Nat × Nat :=
  let left := Read.byteLength defect.rest
  placeAfter 1 0 (Read.byteLength text - left + min defect.ahead left) text

/-- A defect with its place. -/
def Defect.message (defect : Defect) (text : List Char) : String :=
  let (line, column) := defect.place text
  s!"{defect.cause.message} at line {line} column {column}"

/-- The value of a text, or what is wrong with it and where. -/
def parse (text : String) : Except String Json :=
  match Read.text Read.maxDepth text.toList with
  | .ok value => .ok value
  | .error defect => .error (defect.message text.toList)

end Json
end TypeForm
