import TypeForm.Condition.Source
import TypeForm.Proofs.Source.Token

/-!
# Conditions are read back

A reader for the text of conditions. It finds every condition whose names are as names are drawn,
and whose conjunctions and disjunctions have at least two operands, so that such conditions have
different texts.

## Main results

`condition?_text`: the text of a readable condition is read back, with what follows it, if that is
a closing bracket or nothing. `text_eq_iff`: readable conditions have one text only if they are one
condition.

## Proof strategy

The proof follows the condition. Its statement is about two texts at once, that of the condition
and that of the condition as an operand, which has brackets if it is compound. A condition that
is not compound is read in one way wherever it stands (`reads_of_simple`); one that is compound is
read operand by operand (`more?_continued`).
-/
namespace TypeForm.Source

open Condition

/-! ### The reader -/

def kinds : List Kind :=
  [.null, .boolean, .number, .string, .dateTime, .array, .object]

def kind? (s : List Char) : Option (Kind × List Char) :=
  kinds.findSome? fun kind => (expect? ("\"" ++ kind.name ++ "\"") s).map (kind, ·)

/-- A name between brackets. -/
def argument? (s : List Char) : Option (Ident × List Char) :=
  match s with
  | '(' :: rest =>
    match word rest with
    | (name, ')' :: rest) => some (⟨name⟩, rest)
    | _ => none
  | _ => none

/-- What follows `typeof`. -/
def kindTest? (s : List Char) : Option (Condition × List Char) :=
  match s with
  | ' ' :: rest =>
    match word rest with
    | (name, ' ' :: '=' :: '=' :: ' ' :: rest) =>
      (kind? rest).map fun found => (.kindIs ⟨name⟩ found.1, found.2)
    | (name, ' ' :: '!' :: '=' :: '=' :: ' ' :: rest) =>
      (kind? rest).map fun found => (.not (.kindIs ⟨name⟩ found.1), found.2)
    | _ => none
  | _ => none

/-- What follows a name at the start of a condition. -/
def named? (name : Ident) (s : List Char) : Option (Condition × List Char) :=
  match s with
  | '(' :: _ => (argument? s).map fun found => (.call name found.1, found.2)
  | ' ' :: 'i' :: rest => (expect? "nstanceof Date" rest).map (.isMoment name, ·)
  | ' ' :: '>' :: '=' :: ' ' :: rest =>
    some (.compare name .atLeast (integer rest).1, (integer rest).2)
  | ' ' :: '<' :: '=' :: ' ' :: rest =>
    some (.compare name .atMost (integer rest).1, (integer rest).2)
  | ' ' :: '!' :: rest => (expect? "== null" rest).map (.notNull name, ·)
  | ' ' :: '=' :: rest => (expect? "== null" rest).map (.not (.notNull name), ·)
  | _ => none

/-- A condition that starts with a word. -/
def atom? (s : List Char) : Option (Condition × List Char) :=
  let (name, rest) := word s
  if !s.head?.any Char.isAlpha then none
  else if name = "typeof" then kindTest? rest
  else if name = "true" then some (.const true, rest)
  else if name = "false" then some (.const false, rest)
  else if name = "isFinite" then
    (argument? rest).map fun found => (.isFinite found.1, found.2)
  else named? ⟨name⟩ rest

/-- What follows the opening bracket of a test for whole numbers. -/
def remainder? (s : List Char) : Option (Condition × List Char) :=
  (expect? " % 1)" (word s).2).map (.isWhole ⟨(word s).1⟩, ·)

/-- What was read with a negation sign before it. -/
def negated (found : Condition × List Char) : Condition × List Char :=
  (.not found.1, found.2)

/-- What was read if a closing bracket follows. -/
def closed? : Option (Condition × List Char) → Option (Condition × List Char)
  | some (condition, ')' :: rest) => some (condition, rest)
  | _ => none

/-- A condition that is not compound, with a reader for those between brackets. -/
def simple? (inner : List Char → Option (Condition × List Char)) (s : List Char) :
    Option (Condition × List Char) :=
  match s with
  | '!' :: '(' :: rest => (closed? (inner rest)).map negated <|> remainder? rest
  | '!' :: '!' :: '(' :: rest => (remainder? rest).map negated
  | '!' :: rest => (atom? rest).map negated
  | rest => atom? rest

/-- An operand, which is simple or stands between brackets. -/
def operand? (inner : List Char → Option (Condition × List Char)) (s : List Char) :
    Option (Condition × List Char) :=
  match s with
  | '(' :: rest => closed? (inner rest)
  | rest => simple? inner rest

/-- As many operands as there are after separators. -/
def more? (inner : List Char → Option (Condition × List Char)) (separator : String) :
    (steps : Nat) → List Char → Option (List Condition × List Char)
  | 0, _ => none
  | steps + 1, s =>
    match expect? separator s with
    | none => some ([], s)
    | some rest =>
      match operand? inner rest with
      | none => none
      | some (condition, rest) =>
        (more? inner separator steps rest).map fun found => (condition :: found.1, found.2)

/-- A condition of limited size. -/
def condition? : (fuel : Nat) → List Char → Option (Condition × List Char)
  | 0, _ => none
  | fuel + 1, s =>
    match operand? (condition? fuel) s with
    | none => none
    | some (first, rest) =>
      match rest with
      | ' ' :: '&' :: _ =>
        (more? (condition? fuel) " && " fuel rest).map fun found =>
          (.and (first :: found.1), found.2)
      | ' ' :: '|' :: _ =>
        (more? (condition? fuel) " || " fuel rest).map fun found =>
          (.or (first :: found.1), found.2)
      | rest => some (first, rest)

/-! ### What is read -/

/-- The conditions that are found: names are as they are drawn, and conjunctions and disjunctions
have several operands. -/
inductive Readable : Condition → Prop
  | const (value : Bool) : Readable (.const value)
  | kindIs {data : Ident} (isName : IsName data) (kind : Kind) : Readable (.kindIs data kind)
  | isMoment {data : Ident} (isName : IsName data) : Readable (.isMoment data)
  | isFinite {data : Ident} (isName : IsName data) : Readable (.isFinite data)
  | compare {data : Ident} (isName : IsName data) (relation : Relation) (bound : Int) :
      Readable (.compare data relation bound)
  | isWhole {data : Ident} (isName : IsName data) : Readable (.isWhole data)
  | notNull {data : Ident} (isName : IsName data) : Readable (.notNull data)
  | call {helper data : Ident} (isHelper : IsName helper) (isName : IsName data) :
      Readable (.call helper data)
  | not {condition : Condition} (inner : Readable condition) : Readable (.not condition)
  | and {conditions : List Condition} (several : 2 ≤ conditions.length)
      (each : ∀ condition ∈ conditions, Readable condition) : Readable (.and conditions)
  | or {conditions : List Condition} (several : 2 ≤ conditions.length)
      (each : ∀ condition ∈ conditions, Readable condition) : Readable (.or conditions)

/-- What may follow a condition as a whole. -/
def Closed (rest : List Char) : Prop :=
  ∀ c ∈ rest.head?, c = ')'

/-- What may follow an operand. -/
def Stops (rest : List Char) : Prop :=
  ∀ c ∈ rest.head?, c = ')' ∨ c = ' '

theorem Closed.stops {rest : List Char} (closed : Closed rest) : Stops rest :=
  fun c member => .inl (closed c member)

theorem Stops.wordEnds {rest : List Char} (stops : Stops rest) : WordEnds rest := by
  intro c member
  rcases stops c member with rfl | rfl <;> rfl

theorem Stops.numberEnds {rest : List Char} (stops : Stops rest) : NumberEnds rest := by
  intro c member
  rcases stops c member with rfl | rfl <;> rfl

def operandText (condition : Condition) : String :=
  bracketed condition.isCompound condition.text

/-! ### The text of conditions, by their shape -/

@[simp] theorem text_kindIs (data : Ident) (kind : Kind) :
    (kindIs data kind).text = "typeof " ++ data.text ++ " == \"" ++ kind.name ++ "\"" :=
  rfl

@[simp] theorem text_isMoment (data : Ident) :
    (isMoment data).text = data.text ++ " instanceof Date" :=
  rfl

@[simp] theorem text_isFinite (data : Ident) :
    (isFinite data).text = "isFinite(" ++ data.text ++ ")" :=
  rfl

@[simp] theorem text_compare (data : Ident) (relation : Relation) (bound : Int) :
    (compare data relation bound).text =
      data.text ++ " " ++ relation.symbol ++ " " ++ toString bound :=
  rfl

@[simp] theorem text_isWhole (data : Ident) :
    (isWhole data).text = "!(" ++ data.text ++ " % 1)" :=
  rfl

@[simp] theorem text_notNull (data : Ident) : (notNull data).text = data.text ++ " !== null" :=
  rfl

@[simp] theorem text_call (helper data : Ident) :
    (call helper data).text = helper.text ++ "(" ++ data.text ++ ")" :=
  rfl

@[simp] theorem text_kindIsNot (data : Ident) (kind : Kind) :
    (Condition.not (kindIs data kind)).text =
      "typeof " ++ data.text ++ " !== \"" ++ kind.name ++ "\"" :=
  rfl

@[simp] theorem text_null (data : Ident) :
    (Condition.not (notNull data)).text = data.text ++ " === null" :=
  rfl

theorem text_not {condition : Condition} (kind : ∀ data kind, condition ≠ .kindIs data kind)
    (notNull : ∀ data, condition ≠ .notNull data) :
    (Condition.not condition).text = "!" ++ bracketed (!condition.isUnary) condition.text := by
  cases condition with
  | kindIs data found => exact absurd rfl (kind data found)
  | notNull data => exact absurd rfl (notNull data)
  | _ => rfl

theorem text_and (conditions : List Condition) :
    (Condition.and conditions).text = joined " && " conditions :=
  rfl

theorem text_or (conditions : List Condition) :
    (Condition.or conditions).text = joined " || " conditions :=
  rfl

@[simp] theorem joined_cons (separator : String) (condition : Condition)
    (others : List Condition) : joined separator (condition :: others) =
      operandText condition ++ continued separator others :=
  rfl

@[simp] theorem continued_nil (separator : String) : continued separator [] = "" :=
  rfl

@[simp] theorem continued_cons (separator : String) (condition : Condition)
    (others : List Condition) : continued separator (condition :: others) =
      separator ++ operandText condition ++ continued separator others :=
  rfl

/-! ### Conditions that start with a word -/

theorem kind?_append (kind : Kind) (rest : List Char) :
    kind? (("\"" ++ kind.name ++ "\"").toList ++ rest) = some (kind, rest) := by
  cases kind <;> simp [kind?, kinds, expect?, Kind.name, List.dropPrefix?]

theorem argument?_append {name : Ident} (isName : IsName name) (rest : List Char) :
    argument? ('(' :: (name.text.toList ++ ')' :: rest)) = some (name, rest) := by
  have ends : WordEnds (')' :: rest) := by simp [WordEnds]
  simp [argument?, isName.word_eq ends]

/-- A name is taken for no word of the language. -/
theorem atom?_name {name : Ident} (isName : IsName name) {rest : List Char}
    (ends : WordEnds rest) : atom? (name.text.toList ++ rest) = named? name rest := by
  have notTypeof : name.text ≠ "typeof" := isName.ne_of_letter ⟨['t', 'y', 'p', 'e', 'o'], rfl⟩ rfl
  have notTrue : name.text ≠ "true" := isName.ne_of_letter ⟨['t', 'r', 'u'], rfl⟩ rfl
  have notFalse : name.text ≠ "false" := isName.ne_of_letter ⟨['f', 'a', 'l', 's'], rfl⟩ rfl
  have notFinite : name.text ≠ "isFinite" :=
    isName.ne_of_letter ⟨['i', 's', 'F', 'i', 'n', 'i', 't'], rfl⟩ rfl
  obtain ⟨c, others, spelled, letter⟩ := isName.first
  have starts : (name.text.toList ++ rest).head?.any Char.isAlpha = true := by
    rw [spelled]
    exact letter
  simp only [atom?, isName.word_eq ends, starts, notTypeof, notTrue, notFalse, notFinite,
    Bool.not_true, Bool.false_eq_true, if_false]

theorem atom?_kindTest (rest : List Char) :
    atom? ("typeof ".toList ++ rest) = kindTest? (' ' :: rest) := by
  have read : word ("typeof".toList ++ ' ' :: rest) = ("typeof", ' ' :: rest) :=
    word_append rfl (by simp [WordEnds])
  have split : "typeof ".toList ++ rest = "typeof".toList ++ ' ' :: rest := rfl
  rw [split, atom?, read]
  rfl

theorem atom?_kindIs {data : Ident} (isName : IsName data) (kind : Kind) (rest : List Char) :
    atom? ((kindIs data kind).text.toList ++ rest) = some (.kindIs data kind, rest) := by
  have split : (kindIs data kind).text.toList ++ rest = "typeof ".toList ++ (data.text.toList ++
      ' ' :: '=' :: '=' :: ' ' :: (("\"" ++ kind.name ++ "\"").toList ++ rest)) := by
    simp
  rw [split, atom?_kindTest, kindTest?, isName.word_eq (by simp [WordEnds])]
  exact congrArg (Option.map fun found => (kindIs data found.1, found.2)) (kind?_append kind rest)

theorem atom?_kindIsNot {data : Ident} (isName : IsName data) (kind : Kind) (rest : List Char) :
    atom? ((Condition.not (kindIs data kind)).text.toList ++ rest) =
      some (.not (.kindIs data kind), rest) := by
  have split : (Condition.not (kindIs data kind)).text.toList ++ rest =
      "typeof ".toList ++ (data.text.toList ++
        ' ' :: '!' :: '=' :: '=' :: ' ' :: (("\"" ++ kind.name ++ "\"").toList ++ rest)) := by
    simp
  rw [split, atom?_kindTest, kindTest?, isName.word_eq (by simp [WordEnds])]
  exact congrArg (Option.map fun found => (Condition.not (kindIs data found.1), found.2))
    (kind?_append kind rest)

theorem atom?_const (value : Bool) {rest : List Char} (ends : WordEnds rest) :
    atom? ((const value).text.toList ++ rest) = some (.const value, rest) := by
  cases value with
  | false =>
    have spelled : (const false).text = "false" := rfl
    rw [spelled, atom?, word_append rfl ends]
    dsimp only
    rw [if_neg (by simp), if_neg (by decide), if_neg (by decide), if_pos rfl]
  | true =>
    have spelled : (const true).text = "true" := rfl
    rw [spelled, atom?, word_append rfl ends]
    dsimp only
    rw [if_neg (by simp), if_neg (by decide), if_pos rfl]

theorem atom?_isFinite {data : Ident} (isName : IsName data) (rest : List Char) :
    atom? ((isFinite data).text.toList ++ rest) = some (.isFinite data, rest) := by
  have split : (isFinite data).text.toList ++ rest =
      "isFinite".toList ++ '(' :: (data.text.toList ++ ')' :: rest) := by
    simp
  rw [split, atom?, word_append rfl (by simp [WordEnds])]
  dsimp only
  rw [if_neg (by simp), if_neg (by decide), if_neg (by decide), if_neg (by decide), if_pos rfl,
    argument?_append isName]
  rfl

theorem atom?_isMoment {data : Ident} (isName : IsName data) (rest : List Char) :
    atom? ((isMoment data).text.toList ++ rest) = some (.isMoment data, rest) := by
  have split : (isMoment data).text.toList ++ rest =
      data.text.toList ++ ' ' :: 'i' :: ("nstanceof Date".toList ++ rest) := by
    simp
  rw [split, atom?_name isName (by simp [WordEnds]), named?, expect?_append]
  rfl

theorem atom?_compare {data : Ident} (isName : IsName data) (relation : Relation) (bound : Int)
    {rest : List Char} (ends : NumberEnds rest) :
    atom? ((compare data relation bound).text.toList ++ rest) =
      some (.compare data relation bound, rest) := by
  cases relation with
  | atLeast =>
    have split : (compare data .atLeast bound).text.toList ++ rest =
        data.text.toList ++ ' ' :: '>' :: '=' :: ' ' :: ((toString bound).toList ++ rest) := by
      simp [Relation.symbol]
    rw [split, atom?_name isName (by simp [WordEnds]), named?, integer_append bound ends]
  | atMost =>
    have split : (compare data .atMost bound).text.toList ++ rest =
        data.text.toList ++ ' ' :: '<' :: '=' :: ' ' :: ((toString bound).toList ++ rest) := by
      simp [Relation.symbol]
    rw [split, atom?_name isName (by simp [WordEnds]), named?, integer_append bound ends]

theorem atom?_notNull {data : Ident} (isName : IsName data) (rest : List Char) :
    atom? ((notNull data).text.toList ++ rest) = some (.notNull data, rest) := by
  have split : (notNull data).text.toList ++ rest =
      data.text.toList ++ ' ' :: '!' :: ("== null".toList ++ rest) := by
    simp
  rw [split, atom?_name isName (by simp [WordEnds]), named?, expect?_append]
  rfl

theorem atom?_null {data : Ident} (isName : IsName data) (rest : List Char) :
    atom? ((Condition.not (notNull data)).text.toList ++ rest) =
      some (.not (.notNull data), rest) := by
  have split : (Condition.not (notNull data)).text.toList ++ rest =
      data.text.toList ++ ' ' :: '=' :: ("== null".toList ++ rest) := by
    simp
  rw [split, atom?_name isName (by simp [WordEnds]), named?, expect?_append]
  rfl

theorem atom?_call {helper data : Ident} (isHelper : IsName helper) (isName : IsName data)
    (rest : List Char) : atom? ((call helper data).text.toList ++ rest) =
      some (.call helper data, rest) := by
  have split : (call helper data).text.toList ++ rest =
      helper.text.toList ++ '(' :: (data.text.toList ++ ')' :: rest) := by
    simp
  rw [split, atom?_name isHelper (by simp [WordEnds]), named?, argument?_append isName]
  rfl

/-! ### Conditions that are not compound -/

theorem letter_of_atom? {s : List Char} {found : Condition × List Char} (read : atom? s = some found) :
    ∃ c rest, s = c :: rest ∧ c.isAlpha = true := by
  cases s with
  | nil => simp [atom?] at read
  | cons c rest =>
    refine ⟨c, rest, rfl, ?_⟩
    by_cases letter : c.isAlpha = true
    · exact letter
    · simp [atom?, letter] at read

section Simple

variable {inner : List Char → Option (Condition × List Char)} {s rest : List Char}
  {found : Condition × List Char}

/-- A letter is neither a bracket nor a sign. -/
private theorem operand?_letter {c : Char} (letter : c.isAlpha = true) :
    operand? inner (c :: s) = atom? (c :: s) ∧
      operand? inner ('!' :: c :: s) = (atom? (c :: s)).map negated := by
  have bracket : c ≠ '(' := by rintro rfl; cases letter
  have sign : c ≠ '!' := by rintro rfl; cases letter
  simp [operand?, simple?, bracket, sign]

theorem operand?_of_atom? (read : atom? s = some found) : operand? inner s = some found := by
  obtain ⟨c, others, rfl, letter⟩ := letter_of_atom? read
  rw [(operand?_letter letter).1, read]

theorem operand?_not_of_atom? (read : atom? s = some found) :
    operand? inner ('!' :: s) = some (negated found) := by
  obtain ⟨c, others, rfl, letter⟩ := letter_of_atom? read
  rw [(operand?_letter letter).2, read]
  rfl

theorem operand?_brackets {condition : Condition}
    (read : inner s = some (condition, ')' :: rest)) :
    operand? inner ('(' :: s) = some (condition, rest) :=
  congrArg closed? read

theorem operand?_not {condition : Condition}
    (read : inner s = some (condition, ')' :: rest)) :
    operand? inner ('!' :: '(' :: s) = some (.not condition, rest) :=
  congrArg (fun found => (closed? found).map negated <|> remainder? s) read

theorem operand?_remainder (unread : inner s = none) :
    operand? inner ('!' :: '(' :: s) = remainder? s :=
  congrArg (fun found => (closed? found).map negated <|> remainder? s) unread

theorem operand?_not_remainder :
    operand? inner ('!' :: '!' :: '(' :: s) = (remainder? s).map negated :=
  rfl

end Simple

/-- A test for whole numbers is no condition between brackets after a negation sign. -/
theorem condition?_remainder {data : Ident} (isName : IsName data) (fuel : Nat)
    (rest : List Char) : condition? fuel (data.text.toList ++ ' ' :: '%' :: rest) = none := by
  cases fuel with
  | zero => rfl
  | succ fuel =>
    -- No test of a named value goes on with a remainder sign.
    have unread : atom? (data.text.toList ++ ' ' :: '%' :: rest) = none := by
      rw [atom?_name isName (by simp [WordEnds])]
      rfl
    obtain ⟨c, others, spelled, letter⟩ := isName.first
    rw [spelled, List.cons_append] at unread ⊢
    rw [condition?, (operand?_letter letter).1, unread]

theorem remainder?_append {data : Ident} (isName : IsName data) (rest : List Char) :
    remainder? (data.text.toList ++ (" % 1)".toList ++ rest)) = some (.isWhole data, rest) := by
  rw [remainder?, isName.word_eq (by simp [WordEnds]), expect?_append]
  rfl

/-! ### All conditions -/

/-- A condition is read back as a whole and as an operand. -/
structure Reads (condition : Condition) : Prop where
  whole : ∀ fuel rest, sizeOf condition < fuel → Closed rest →
    condition? fuel (condition.text.toList ++ rest) = some (condition, rest)
  operand : ∀ fuel rest, sizeOf condition < fuel → Stops rest →
    operand? (condition? fuel) ((operandText condition).toList ++ rest) = some (condition, rest)

/-- A condition that is not compound is the same text in both places. -/
theorem reads_of_simple {condition : Condition} (simple : condition.isCompound = false)
    (read : ∀ fuel rest, sizeOf condition ≤ fuel → Stops rest →
      operand? (condition? fuel) (condition.text.toList ++ rest) = some (condition, rest)) :
    Reads condition where
  whole fuel rest enough closed := by
    obtain ⟨fuel, rfl⟩ := Nat.exists_eq_succ_of_ne_zero (Nat.ne_zero_of_lt enough)
    have first := read fuel rest (Nat.le_of_lt_succ enough) closed.stops
    -- No separator follows, so that the first operand is the condition.
    rw [condition?, first]
    cases rest with
    | nil => rfl
    | cons c others =>
      obtain rfl : c = ')' := closed c rfl
      rfl
  operand fuel rest enough stops := by
    rw [operandText, simple]
    exact read fuel rest (Nat.le_of_lt enough) stops

/-- A condition that starts with a word is not looked into. -/
theorem reads_of_atom? {condition : Condition} (simple : condition.isCompound = false)
    (read : ∀ rest, Stops rest →
      atom? (condition.text.toList ++ rest) = some (condition, rest)) : Reads condition :=
  reads_of_simple simple fun _ rest _ stops => operand?_of_atom? (read rest stops)

/-- A compound condition as an operand stands between brackets. -/
theorem reads_of_compound {condition : Condition} (compound : condition.isCompound = true)
    (whole : ∀ fuel rest, sizeOf condition < fuel → Closed rest →
      condition? fuel (condition.text.toList ++ rest) = some (condition, rest)) :
    Reads condition where
  whole := whole
  operand fuel rest enough stops := by
    have closed : Closed (')' :: rest) := by simp [Closed]
    have split : (operandText condition).toList ++ rest =
        '(' :: (condition.text.toList ++ ')' :: rest) := by
      simp [operandText, compound, bracketed]
    rw [split]
    exact operand?_brackets (whole fuel _ enough closed)

theorem reads_isWhole {data : Ident} (isName : IsName data) : Reads (.isWhole data) := by
  refine reads_of_simple rfl fun fuel rest _ _ => ?_
  have split : (isWhole data).text.toList ++ rest =
      '!' :: '(' :: (data.text.toList ++ (" % 1)".toList ++ rest)) := by
    simp
  have unread : condition? fuel (data.text.toList ++ (" % 1)".toList ++ rest)) = none :=
    condition?_remainder isName fuel _
  rw [split, operand?_remainder unread]
  exact remainder?_append isName rest

/-- A negation sign may stand before a condition that starts with a word. -/
private theorem reads_not_unary {condition : Condition}
    (spelled : (Condition.not condition).text = "!" ++ condition.text)
    (read : ∀ rest, Stops rest → atom? (condition.text.toList ++ rest) = some (condition, rest)) :
    Reads (.not condition) := by
  refine reads_of_simple rfl fun fuel rest _ stops => ?_
  have split : (Condition.not condition).text.toList ++ rest =
      '!' :: (condition.text.toList ++ rest) := by
    simp [spelled]
  rw [split]
  exact operand?_not_of_atom? (read rest stops)

/-- Any other condition that is negated stands between brackets. -/
private theorem reads_not_brackets {condition : Condition}
    (spelled : (Condition.not condition).text = "!" ++ ("(" ++ condition.text ++ ")"))
    (reads : Reads condition) : Reads (.not condition) := by
  refine reads_of_simple rfl fun fuel rest enough stops => ?_
  have split : (Condition.not condition).text.toList ++ rest =
      '!' :: '(' :: (condition.text.toList ++ ')' :: rest) := by
    simp [spelled]
  have smaller : sizeOf condition < fuel := by
    rw [Condition.not.sizeOf_spec] at enough
    omega
  rw [split]
  exact operand?_not (reads.whole fuel _ smaller (by simp [Closed]))

private theorem reads_not_isWhole {data : Ident} (isName : IsName data) :
    Reads (.not (.isWhole data)) := by
  refine reads_of_simple rfl fun fuel rest _ _ => ?_
  have split : (Condition.not (isWhole data)).text.toList ++ rest =
      '!' :: '!' :: '(' :: (data.text.toList ++ (" % 1)".toList ++ rest)) := by
    rw [text_not (by simp) (by simp)]
    simp [bracketed, isUnary]
  rw [split, operand?_not_remainder, remainder?_append isName]
  rfl

theorem reads_not {condition : Condition} (readable : Readable condition)
    (reads : Reads condition) : Reads (.not condition) := by
  cases readable with
  | const value =>
    exact reads_not_unary (text_not (by simp) (by simp)) fun rest stops =>
      atom?_const value stops.wordEnds
  | isFinite isName =>
    exact reads_not_unary (text_not (by simp) (by simp)) fun rest _ => atom?_isFinite isName rest
  | call isHelper isName =>
    exact reads_not_unary (text_not (by simp) (by simp)) fun rest _ =>
      atom?_call isHelper isName rest
  | isWhole isName => exact reads_not_isWhole isName
  -- These two negations have a spelling of their own.
  | kindIs isName kind => exact reads_of_atom? rfl fun rest _ => atom?_kindIsNot isName kind rest
  | notNull isName => exact reads_of_atom? rfl fun rest _ => atom?_null isName rest
  | isMoment | compare | not | and | or =>
    exact reads_not_brackets (text_not (by simp) (by simp)) reads

/-- Operands after separators are read back one after the other. -/
theorem more?_continued {separator : String} {tail : List Char}
    (spelled : separator.toList = ' ' :: tail) {conditions : List Condition} {fuel : Nat}
    (each : ∀ condition ∈ conditions, Reads condition ∧ sizeOf condition < fuel)
    {rest : List Char} (closed : Closed rest) {steps : Nat} (enough : conditions.length < steps) :
    more? (condition? fuel) separator steps ((continued separator conditions).toList ++ rest) =
      some (conditions, rest) := by
  induction conditions generalizing steps with
  | nil =>
    obtain ⟨fewer, rfl⟩ := Nat.exists_eq_succ_of_ne_zero (Nat.ne_zero_of_lt enough)
    -- What follows the last operand does not start like a separator.
    have ended : expect? separator rest = none := by
      cases rest with
      | nil => simp [expect?, spelled, List.dropPrefix?]
      | cons c others =>
        obtain rfl : c = ')' := closed c rfl
        simp [expect?, spelled, List.dropPrefix?]
    simp [more?, ended]
  | cons condition others ih =>
    obtain ⟨fewer, rfl⟩ := Nat.exists_eq_succ_of_ne_zero (Nat.ne_zero_of_lt enough)
    have rests := ih (fun other member => each other (List.mem_cons_of_mem _ member))
      (Nat.lt_of_succ_lt_succ enough)
    obtain ⟨reads, smaller⟩ := each condition List.mem_cons_self
    -- An operand is followed by the next separator, or by what follows the last one.
    have stops : Stops ((continued separator others).toList ++ rest) := by
      cases others with
      | nil => simpa using closed.stops
      | cons => simp [spelled, Stops]
    have split : (continued separator (condition :: others)).toList ++ rest =
        separator.toList ++ ((operandText condition).toList ++
          ((continued separator others).toList ++ rest)) := by
      simp
    simp only [split, more?, expect?_append, reads.operand fuel _ smaller stops, rests,
      Option.map_some]

private theorem length_lt_sizeOf (conditions : List Condition) :
    conditions.length < sizeOf conditions := by
  induction conditions with
  | nil => simp
  | cons condition others ih =>
    rw [List.length_cons, List.cons.sizeOf_spec]
    omega

/-- Several joined conditions are read as a first operand and others after separators. -/
private theorem operands_joined {separator : String} {tail : List Char}
    (spelled : separator.toList = ' ' :: tail) {conditions : List Condition}
    (several : 2 ≤ conditions.length) (each : ∀ condition ∈ conditions, Reads condition)
    {fuel : Nat} (enough : sizeOf conditions < fuel) {rest : List Char} (closed : Closed rest) :
    ∃ first others more, conditions = first :: others ∧
      operand? (condition? fuel) ((joined separator conditions).toList ++ rest) =
        some (first, separator.toList ++ more) ∧
      more? (condition? fuel) separator fuel (separator.toList ++ more) = some (others, rest) := by
  match conditions, several with
  | first :: second :: others, _ =>
    have smaller : ∀ condition ∈ first :: second :: others, sizeOf condition < fuel :=
      fun condition member => Nat.lt_trans (List.sizeOf_lt_of_mem member) enough
    have some := length_lt_sizeOf (first :: second :: others)
    have fewer : (second :: others).length < fuel := by
      rw [List.length_cons] at some
      omega
    have rests := more?_continued spelled
      (fun condition member => ⟨each condition (List.mem_cons_of_mem _ member),
        smaller condition (List.mem_cons_of_mem _ member)⟩) closed fewer
    have split : (continued separator (second :: others)).toList ++ rest = separator.toList ++
        ((operandText second).toList ++ ((continued separator others).toList ++ rest)) := by
      simp
    rw [split] at rests
    refine ⟨first, second :: others, _, rfl, ?_, rests⟩
    have stops : Stops (separator.toList ++
        ((operandText second).toList ++ ((continued separator others).toList ++ rest))) := by
      simp [Stops, spelled]
    rw [← (each first List.mem_cons_self).operand fuel _ (smaller first List.mem_cons_self) stops,
      ← split]
    simp

/-- A compound condition is read back if the mark of its separator leads to its constructor. -/
private theorem reads_joined {make : List Condition → Condition} {separator : String}
    {tail : List Char} (spelled : separator.toList = ' ' :: tail) {conditions : List Condition}
    (compound : (make conditions).isCompound = true)
    (written : (make conditions).text = joined separator conditions)
    (size : sizeOf (make conditions) = 1 + sizeOf conditions)
    (made : ∀ fuel s first more,
      operand? (condition? fuel) s = some (first, separator.toList ++ more) →
        condition? (fuel + 1) s =
          (more? (condition? fuel) separator fuel (separator.toList ++ more)).map
            fun found => (make (first :: found.1), found.2))
    (several : 2 ≤ conditions.length) (each : ∀ condition ∈ conditions, Reads condition) :
    Reads (make conditions) := by
  refine reads_of_compound compound fun fuel rest enough closed => ?_
  obtain ⟨fuel, rfl⟩ := Nat.exists_eq_succ_of_ne_zero (Nat.ne_zero_of_lt enough)
  have smaller : sizeOf conditions < fuel := by omega
  obtain ⟨first, others, more, rfl, operand, operands⟩ :=
    operands_joined spelled several each smaller closed
  rw [written, made fuel _ first more operand, operands]
  rfl

theorem reads_and {conditions : List Condition} (several : 2 ≤ conditions.length)
    (each : ∀ condition ∈ conditions, Reads condition) : Reads (.and conditions) := by
  refine reads_joined rfl rfl (text_and conditions) (Condition.and.sizeOf_spec conditions) ?_
    several each
  intro fuel s first more read
  rw [condition?, read]
  rfl

theorem reads_or {conditions : List Condition} (several : 2 ≤ conditions.length)
    (each : ∀ condition ∈ conditions, Reads condition) : Reads (.or conditions) := by
  refine reads_joined rfl rfl (text_or conditions) (Condition.or.sizeOf_spec conditions) ?_
    several each
  intro fuel s first more read
  rw [condition?, read]
  rfl

theorem reads_of_readable {condition : Condition} (readable : Readable condition) :
    Reads condition := by
  induction readable with
  | const value => exact reads_of_atom? rfl fun rest stops => atom?_const value stops.wordEnds
  | kindIs isName kind => exact reads_of_atom? rfl fun rest _ => atom?_kindIs isName kind rest
  | isMoment isName => exact reads_of_atom? rfl fun rest _ => atom?_isMoment isName rest
  | isFinite isName => exact reads_of_atom? rfl fun rest _ => atom?_isFinite isName rest
  | compare isName relation bound =>
    exact reads_of_atom? rfl fun rest stops =>
      atom?_compare isName relation bound stops.numberEnds
  | isWhole isName => exact reads_isWhole isName
  | notNull isName => exact reads_of_atom? rfl fun rest _ => atom?_notNull isName rest
  | call isHelper isName => exact reads_of_atom? rfl fun rest _ => atom?_call isHelper isName rest
  | not inner reads => exact reads_not inner reads
  | and several _ reads => exact reads_and several reads
  | or several _ reads => exact reads_or several reads

/-- The text of a readable condition is read back, with what follows it. -/
theorem condition?_text {condition : Condition} (readable : Readable condition) {fuel : Nat}
    (enough : sizeOf condition < fuel) {rest : List Char} (closed : Closed rest) :
    condition? fuel (condition.text.toList ++ rest) = some (condition, rest) :=
  (reads_of_readable readable).whole fuel rest enough closed

/-! ### Texts tell conditions apart -/

/-- A text is that of one readable condition at most. -/
theorem text_eq_iff {first second : Condition} (readable : Readable first)
    (also : Readable second) : first.text = second.text ↔ first = second := by
  refine ⟨fun same => ?_, congrArg text⟩
  -- Both are read back within a limit for either of them.
  let fuel := sizeOf first + sizeOf second + 1
  have closed : Closed [] := by simp [Closed]
  have read : condition? fuel (first.text.toList ++ []) = some (first, []) :=
    condition?_text readable (by omega) closed
  have reread : condition? fuel (second.text.toList ++ []) = some (second, []) :=
    condition?_text also (by omega) closed
  rw [same, reread] at read
  exact (congrArg Prod.fst (Option.some.inj read)).symm

/-- The negation of a conjunction that ends with a disjunction. -/
def disjunctionInside : Condition :=
  .not (.and [.isWhole ⟨"data0"⟩,
    .or [.compare ⟨"data0"⟩ .atLeast (-128), .not (.isWhole ⟨"data0"⟩)]])

/-- The negation of a disjunction that starts with a conjunction. -/
def conjunctionInside : Condition :=
  .not (.or [.and [.isWhole ⟨"data0"⟩, .compare ⟨"data0"⟩ .atLeast (-128)],
    .not (.isWhole ⟨"data0"⟩)])

/-- Two conditions whose texts differ only in where brackets stand. -/
theorem text_eq_iff_brackets :
    Readable disjunctionInside ∧ Readable conjunctionInside ∧
      disjunctionInside.text = "!(!(data0 % 1) && (data0 >= -128 || !!(data0 % 1)))" ∧
      conjunctionInside.text = "!((!(data0 % 1) && data0 >= -128) || !!(data0 % 1))" ∧
      (disjunctionInside.text = conjunctionInside.text ↔
        disjunctionInside = conjunctionInside) := by
  have isName : IsName ⟨"data0"⟩ := @isName_numbered "data" (by simp) rfl 0
  have whole : Readable (.isWhole ⟨"data0"⟩) := .isWhole isName
  have least : Readable (.compare ⟨"data0"⟩ .atLeast (-128)) := .compare isName _ _
  have either : Readable (.or [.compare ⟨"data0"⟩ .atLeast (-128), .not (.isWhole ⟨"data0"⟩)]) :=
    .or (by simp) (by simpa using ⟨least, .not whole⟩)
  have both : Readable (.and [.isWhole ⟨"data0"⟩, .compare ⟨"data0"⟩ .atLeast (-128)]) :=
    .and (by simp) (by simpa using ⟨whole, least⟩)
  have left : Readable disjunctionInside := .not (.and (by simp) (by simpa using ⟨whole, either⟩))
  have right : Readable conjunctionInside :=
    .not (.or (by simp) (by simpa using ⟨both, .not whole⟩))
  exact ⟨left, right, rfl, rfl, text_eq_iff left right⟩

/-- Other conditions share texts: a single operand is written as if it stood alone, and a helper may
be named like a word of the language. -/
example : (Condition.and [.isFinite ⟨"data0"⟩]).text = (Condition.isFinite ⟨"data0"⟩).text ∧
    (Condition.call ⟨"isFinite"⟩ ⟨"data0"⟩).text = (Condition.isFinite ⟨"data0"⟩).text :=
  ⟨rfl, rfl⟩

end TypeForm.Source
