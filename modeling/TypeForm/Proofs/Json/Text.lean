import TypeForm.Proofs.Json.Number

/-!
# Values are read back

A value whose numbers are integers of 64 bits is read back from the text that `Json.pretty` writes,
with the members of every object by ascending key (`Read.text_pretty`).

## Proof strategy

Readers of lists and objects take the reader of what is in them as a parameter. So they are followed
once for any such reader that is known to read each part back (`Read.moreItems_written`,
`Read.moreMembers_written`), and the induction over values has only to put these together. Each
part is read with whatever follows it, as long as that does not go on with a number.
-/
namespace TypeForm.Json

/-- Every number is an integer that fits into 64 bits, with or without a sign, and no object repeats
a key. -/
inductive Integral : Json → Prop
  | null : Integral .null
  | bool (b : Bool) : Integral (.bool b)
  | string (text : String) : Integral (.string text)
  | integer {n : Int} (least : -(pow2 63 : Int) ≤ n) (most : n < pow2 64) :
      Integral (.number (.int n))
  | array {items : List Json} (each : ∀ item ∈ items, Integral item) : Integral (.array items)
  | object {members : Members} (distinct : (members.map (·.1)).Nodup)
      (each : ∀ member ∈ members, Integral member.2) : Integral (.object members)

mutual

/-- The value with the members of every object by ascending key. -/
def sorted : Json → Json
  | .array items => .array (sortedItems items)
  | .object members => .object (sortByKey (sortedMembers members))
  | value => value

def sortedItems : List Json → List Json
  | [] => []
  | item :: rest => item.sorted :: sortedItems rest

def sortedMembers : List (String × Json) → List (String × Json)
  | [] => []
  | (key, value) :: rest => (key, value.sorted) :: sortedMembers rest

end

mutual

/-- How deeply lists and objects are nested. -/
def nesting : Json → Nat
  | .array items => nestingItems items + 1
  | .object members => nestingMembers members + 1
  | _ => 0

def nestingItems : List Json → Nat
  | [] => 0
  | item :: rest => max item.nesting (nestingItems rest)

def nestingMembers : List (String × Json) → Nat
  | [] => 0
  | (_, value) :: rest => max value.nesting (nestingMembers rest)

end

theorem sortedItems_eq (items : List Json) : sortedItems items = items.map sorted := by
  induction items with
  | nil => rfl
  | cons item rest ih => rw [sortedItems, ih, List.map_cons]

theorem sortedMembers_eq (members : Members) :
    sortedMembers members = members.map fun member => (member.1, member.2.sorted) := by
  induction members with
  | nil => rfl
  | cons member rest ih => rw [sortedMembers, ih, List.map_cons]

theorem keys_sortedMembers (members : Members) :
    (sortedMembers members).map (·.1) = members.map (·.1) := by
  rw [sortedMembers_eq, List.map_map]
  rfl

theorem nestingItems_le_iff {items : List Json} {depth : Nat} :
    nestingItems items ≤ depth ↔ ∀ item ∈ items, item.nesting ≤ depth := by
  induction items with
  | nil => simp [nestingItems]
  | cons first rest ih => rw [nestingItems, Nat.max_le, ih, List.forall_mem_cons]

theorem nestingMembers_le_iff {members : Members} {depth : Nat} :
    nestingMembers members ≤ depth ↔ ∀ member ∈ members, member.2.nesting ≤ depth := by
  induction members with
  | nil => simp [nestingMembers]
  | cons first rest ih => rw [nestingMembers, Nat.max_le, ih, List.forall_mem_cons]

/-! ### Texts as characters -/

/-- The characters of a value on several lines, at a level. -/
def prettyChars (level : Nat) (value : Json) : List Char :=
  (prettyAt level value).toList

/-- Every part on a line of its own, after a comma. -/
def listed {α : Type} (level : Nat) (text : α → List Char) (parts : List α) : List Char :=
  parts.flatMap fun part => ',' :: ((lineBreak level).toList ++ text part)

/-- A member as it is written, with its value as a given text. -/
def memberChars (text : Json → List Char) (member : String × Json) : List Char :=
  '"' :: (member.1.toList.flatMap escapeChar ++ '"' :: ':' :: ' ' :: text member.2)

theorem listed_cons {α : Type} (level : Nat) (text : α → List Char) (part : α) (rest : List α) :
    listed level text (part :: rest) =
      ',' :: ((lineBreak level).toList ++ (text part ++ listed level text rest)) := by
  simp [listed]

theorem toList_prettyItems (level : Nat) (items : List Json) :
    (prettyItems level items).toList =
      listed level (prettyChars level) items := by
  induction items with
  | nil => simp [prettyItems, listed]
  | cons item rest ih => simp [prettyItems, listed_cons, prettyChars, ih]

theorem toList_prettyMembers (level : Nat) (members : Members) :
    (prettyMembers level members).toList =
      listed level (memberChars (prettyChars level)) members := by
  induction members with
  | nil => simp [prettyMembers, listed]
  | cons member rest ih =>
    simp [prettyMembers, listed_cons, prettyChars, memberChars, literal, literalChars, ih]

theorem length_le_listed {α : Type} (level : Nat) (text : α → List Char) (parts : List α) :
    parts.length ≤ (listed level text parts).length :=
  length_le_flatMap (fun _ => List.cons_ne_nil _ _) parts

namespace Read

/-- Breaks and indents are passed over up to the first visible character. -/
theorem skipSpace_lineBreak (level : Nat) {c : Char} (visible : isSpace c = false)
    (rest : List Char) : skipSpace ((lineBreak level).toList ++ c :: rest) = c :: rest := by
  have spaces : ∀ d ∈ (lineBreak level).toList, isSpace d = true := by
    intro d member
    rw [lineBreak, String.toList_ofList, List.mem_cons, List.mem_replicate] at member
    rcases member with rfl | ⟨-, rfl⟩ <;> rfl
  rw [skipSpace, List.dropWhile_append_of_pos spaces]
  exact List.dropWhile_cons_of_neg (by simp [visible])

/-- Where one part ends, no number goes on: another part or a break follows. -/
theorem numberStops_listed {α : Type} (level outer : Nat) (text : α → List Char) (parts : List α)
    (rest : List Char) :
    NumberStops (listed level text parts ++ ((lineBreak outer).toList ++ rest)) := by
  intro c first
  cases parts with
  | nil =>
    rw [listed, List.flatMap_nil, List.nil_append, lineBreak, String.toList_ofList] at first
    obtain rfl := Option.some.inj first
    decide
  | cons part others =>
    obtain rfl := Option.some.inj first
    decide

/-- A reader finds a value in a text, whatever follows the text that does not go on with a number.
The text begins with a visible character that closes nothing. -/
structure Written (read : List Char → Except Defect (Json × List Char)) (text : List Char)
    (result : Json) : Prop where
  begins : ∃ c more, text = c :: more ∧ isSpace c = false ∧ c ≠ ']'
  back : ∀ rest, NumberStops rest → read (text ++ rest) = .ok (result, rest)

variable {read : List Char → Except Defect (Json × List Char)} {text : Json → List Char}
  {result : Json → Json}

/-! ### Lists -/

/-- Behind a comma, an item is read before the others. -/
private theorem moreItems_comma (level : Nat) {c : Char} (visible : isSpace c = false)
    (open_ : c ≠ ']') (rest : List Char) (steps : Nat) :
    moreItems read (steps + 1) (',' :: ((lineBreak level).toList ++ c :: rest)) =
      (read (c :: rest)).bind fun first =>
        (moreItems read steps first.2).bind fun others => .ok (first.1 :: others.1, others.2) := by
  have comma : skipSpace (',' :: ((lineBreak level).toList ++ c :: rest)) =
      ',' :: ((lineBreak level).toList ++ c :: rest) := rfl
  simp only [moreItems, comma, skipSpace_lineBreak level visible]
  split
  · contradiction
  · next same => exact absurd (List.cons.inj same).1 open_
  · rfl

theorem moreItems_written (level outer : Nat) {items : List Json}
    (written : ∀ item ∈ items, Written read (text item) (result item)) (rest : List Char)
    {steps : Nat} (enough : items.length < steps) :
    moreItems read steps
        (listed level text items ++ ((lineBreak outer).toList ++ ']' :: rest)) =
      .ok (items.map result, rest) := by
  induction items generalizing steps with
  | nil =>
    -- One more step than there are items finds the bracket.
    obtain ⟨steps, rfl⟩ := Nat.exists_eq_add_of_lt enough
    have bracket : isSpace ']' = false := rfl
    simp [moreItems, listed, skipSpace_lineBreak outer bracket]
  | cons item others ih =>
    obtain ⟨fewer, rfl⟩ := Nat.exists_eq_succ_of_ne_zero (Nat.ne_zero_of_lt enough)
    obtain ⟨⟨c, more, spelled, visible, open_⟩, back⟩ := written item List.mem_cons_self
    have rests := ih (fun other inside => written other (List.mem_cons_of_mem item inside))
      (Nat.lt_of_succ_lt_succ enough)
    have first := back _ (numberStops_listed level outer text others (']' :: rest))
    rw [spelled, List.cons_append] at first
    simp only [listed_cons, spelled, List.cons_append, List.append_assoc]
    rw [moreItems_comma level visible open_]
    simp only [first, Except.bind, rests, List.map_cons]

theorem items_written (level outer : Nat) {item : Json} {others : List Json}
    (written : ∀ x ∈ item :: others, Written read (text x) (result x)) (rest : List Char) :
    items read ((lineBreak level).toList ++ (text item ++
        (listed level text others ++ ((lineBreak outer).toList ++ ']' :: rest)))) =
      .ok ((item :: others).map result, rest) := by
  obtain ⟨⟨c, more, spelled, visible, open_⟩, back⟩ := written item List.mem_cons_self
  have first := back _ (numberStops_listed level outer text others (']' :: rest))
  have enough : others.length <
      (listed level text others ++ ((lineBreak outer).toList ++ ']' :: rest)).length + 1 := by
    have bound := length_le_listed level text others
    rw [List.length_append]
    omega
  have rests := moreItems_written level outer
    (fun other inside => written other (List.mem_cons_of_mem item inside)) rest enough
  rw [spelled, List.cons_append] at first ⊢
  simp only [items, skipSpace_lineBreak level visible]
  split
  · contradiction
  · next same => exact absurd (List.cons.inj same).1 open_
  · simp only [first, bind, Except.bind, rests, List.map_cons]

/-! ### Objects -/

section Objects

variable (spaced : ∀ s, read (' ' :: s) = read s)
include spaced

/-- A member is read behind the quote that it begins with. -/
theorem member_written {item : String × Json} (written : Written read (text item.2) (result item.2))
    {rest : List Char} (stops : NumberStops rest) :
    member read ((memberChars text item).tail ++ rest) = .ok ((item.1, result item.2), rest) := by
  have key := stringAfterQuote_literal item.1 (':' :: ' ' :: (text item.2 ++ rest))
  have colon : skipSpace (':' :: ' ' :: (text item.2 ++ rest)) =
      ':' :: ' ' :: (text item.2 ++ rest) := rfl
  simp only [memberChars, List.tail_cons, List.append_assoc, List.cons_append, member, key, bind,
    Except.bind, colon, spaced, written.back rest stops]

theorem moreMembers_written (level outer : Nat) {members : Members}
    (written : ∀ member ∈ members, Written read (text member.2) (result member.2))
    (rest : List Char) {steps : Nat} (enough : members.length < steps) :
    moreMembers read steps
        (listed level (memberChars text) members ++ ((lineBreak outer).toList ++ '\x7d' :: rest)) =
      .ok (members.map fun member => (member.1, result member.2), rest) := by
  induction members generalizing steps with
  | nil =>
    obtain ⟨steps, rfl⟩ := Nat.exists_eq_add_of_lt enough
    have brace : isSpace '\x7d' = false := rfl
    simp [moreMembers, listed, skipSpace_lineBreak outer brace]
  | cons first others ih =>
    obtain ⟨fewer, rfl⟩ := Nat.exists_eq_succ_of_ne_zero (Nat.ne_zero_of_lt enough)
    have rests := ih (fun other inside => written other (List.mem_cons_of_mem first inside))
      (Nat.lt_of_succ_lt_succ enough)
    have front := member_written spaced (written first List.mem_cons_self)
      (numberStops_listed level outer (memberChars text) others ('\x7d' :: rest))
    have quote : isSpace '"' = false := rfl
    have comma (s : List Char) : skipSpace (',' :: s) = ',' :: s := rfl
    have begins : memberChars text first = '"' :: (memberChars text first).tail := rfl
    rw [listed_cons, begins]
    simp only [List.cons_append, List.append_assoc, moreMembers, comma,
      skipSpace_lineBreak level quote, front, bind, Except.bind, rests, List.map_cons]

theorem members_written (level outer : Nat) {first : String × Json} {others : Members}
    (written : ∀ member ∈ first :: others, Written read (text member.2) (result member.2))
    (rest : List Char) :
    members read ((lineBreak level).toList ++ (memberChars text first ++
        (listed level (memberChars text) others ++ ((lineBreak outer).toList ++ '\x7d' :: rest)))) =
      .ok ((first :: others).map fun member => (member.1, result member.2), rest) := by
  have front := member_written spaced (written first List.mem_cons_self)
    (numberStops_listed level outer (memberChars text) others ('\x7d' :: rest))
  have enough : others.length <
      (listed level (memberChars text) others ++
        ((lineBreak outer).toList ++ '\x7d' :: rest)).length + 1 := by
    have bound := length_le_listed level (memberChars text) others
    rw [List.length_append]
    omega
  have rests := moreMembers_written spaced level outer
    (fun other inside => written other (List.mem_cons_of_mem first inside)) rest enough
  have quote : isSpace '"' = false := rfl
  have begins : memberChars text first = '"' :: (memberChars text first).tail := rfl
  rw [begins, List.cons_append]
  simp only [members, skipSpace_lineBreak level quote, front, bind, Except.bind, rests,
    List.map_cons]

end Objects

/-! ### Values -/

theorem value_space (depth : Nat) (s : List Char) : value depth (' ' :: s) = value depth s := by
  have skipped : skipSpace (' ' :: s) = skipSpace s := rfl
  unfold value
  rw [skipped]

private theorem ne_of_isDigit {c d : Char} (numeral : c.isDigit = true) (other : d.isDigit = false) :
    c ≠ d := by
  rintro rfl
  rw [numeral] at other
  cases other

private theorem isSpace_of_isDigit {c : Char} (numeral : c.isDigit = true) : isSpace c = false := by
  have space := ne_of_isDigit numeral (show ' '.isDigit = false from rfl)
  have newline := ne_of_isDigit numeral (show '\n'.isDigit = false from rfl)
  have tab := ne_of_isDigit numeral (show '\t'.isDigit = false from rfl)
  have feed := ne_of_isDigit numeral (show '\r'.isDigit = false from rfl)
  simp [isSpace, space, newline, tab, feed]

/-- A digit begins a number. -/
theorem value_digit (depth : Nat) {c : Char} (numeral : c.isDigit = true) (s : List Char) :
    value depth (c :: s) =
      (number false (c :: s)).map fun found => (.number found.1, found.2) := by
  have visible : skipSpace (c :: s) = c :: s :=
    List.dropWhile_cons_of_neg (by simp [isSpace_of_isDigit numeral])
  unfold value
  rw [visible]
  -- None of the characters that begin anything else is a digit.
  split
  · contradiction
  iterate 7
    next same =>
      obtain ⟨rfl, -⟩ := List.cons.inj same
      cases numeral
  · next same =>
    obtain ⟨rfl, rfl⟩ := List.cons.inj same
    simp only [numeral, if_true]
    cases number false (c :: s) <;> rfl

/-- What is written for a number is found by the reader of values. -/
theorem value_integer (depth : Nat) {n : Int} (least : -(pow2 63 : Int) ≤ n) (most : n < pow2 64) :
    Written (value depth) (toString n).toList (.number (.int n)) := by
  cases n with
  | ofNat n =>
    have text : (toString (Int.ofNat n)).toList = Nat.toDigits 10 n := Nat.toList_repr
    have fits : n < pow2 64 := Int.ofNat_lt.mp most
    obtain ⟨c, more, spelled⟩ :=
      List.exists_cons_of_ne_nil (Nat.toDigits_ne_nil : Nat.toDigits 10 n ≠ [])
    have numeral : c.isDigit = true :=
      Nat.isDigit_of_mem_toDigits (by decide) (by decide) (spelled ▸ List.mem_cons_self)
    rw [text]
    refine ⟨⟨c, more, spelled, isSpace_of_isDigit numeral, ne_of_isDigit numeral rfl⟩, ?_⟩
    intro rest stops
    have found := number_append fits stops
    rw [spelled, List.cons_append] at found ⊢
    rw [value_digit depth numeral, found]
    rfl
  | negSucc n =>
    have text : (toString (Int.negSucc n)).toList = '-' :: Nat.toDigits 10 (n + 1) := by
      change ("-" ++ Nat.repr (n + 1)).toList = _
      rw [String.toList_append, Nat.toList_repr]
      rfl
    have fits : n + 1 ≤ pow2 63 := by omega
    rw [text]
    refine ⟨⟨'-', _, rfl, rfl, by decide⟩, ?_⟩
    intro rest stops
    have found := number_append_neg (Nat.succ_pos n) fits stops
    have minus (s : List Char) : skipSpace ('-' :: s) = '-' :: s := rfl
    rw [List.cons_append]
    unfold value
    simp only [minus, found, bind, Except.bind]
    rfl

theorem value_null (depth level : Nat) : Written (value depth) (prettyChars level .null) .null := by
  have spelled : prettyChars level .null = ['n', 'u', 'l', 'l'] := by simp [prettyChars, prettyAt]
  rw [spelled]
  refine ⟨⟨'n', _, rfl, rfl, by decide⟩, fun rest _ => ?_⟩
  unfold value
  rfl

theorem value_bool (depth level : Nat) (b : Bool) :
    Written (value depth) (prettyChars level (.bool b)) (.bool b) := by
  cases b with
  | false =>
    have spelled : prettyChars level (.bool false) = ['f', 'a', 'l', 's', 'e'] := by
      simp [prettyChars, prettyAt]
    rw [spelled]
    refine ⟨⟨'f', _, rfl, rfl, by decide⟩, fun rest _ => ?_⟩
    unfold value
    rfl
  | true =>
    have spelled : prettyChars level (.bool true) = ['t', 'r', 'u', 'e'] := by
      simp [prettyChars, prettyAt]
    rw [spelled]
    refine ⟨⟨'t', _, rfl, rfl, by decide⟩, fun rest _ => ?_⟩
    unfold value
    rfl

theorem value_string (depth level : Nat) (text : String) :
    Written (value depth) (prettyChars level (.string text)) (.string text) := by
  have spelled : prettyChars level (.string text) =
      '"' :: (text.toList.flatMap escapeChar ++ ['"']) := by
    simp [prettyChars, prettyAt, literal, literalChars]
  have quote (s : List Char) : skipSpace ('"' :: s) = '"' :: s := rfl
  rw [spelled]
  refine ⟨⟨'"', _, rfl, rfl, by decide⟩, fun rest _ => ?_⟩
  have found := stringAfterQuote_literal text rest
  unfold value
  simp only [List.cons_append, List.append_assoc, List.nil_append, quote, found, bind, Except.bind]

/-- A list takes one level, and its items have the others. -/
theorem value_array {depth : Nat} (level : Nat) {items : List Json}
    (written : ∀ item ∈ items, Written (value depth) (prettyChars (level + 1) item) (result item)) :
    Written (value (depth + 1)) (prettyChars level (.array items)) (.array (items.map result)) := by
  have bracket (s : List Char) : skipSpace ('[' :: s) = '[' :: s := rfl
  cases items with
  | nil =>
    have spelled : prettyChars level (.array []) = ['[', ']'] := by simp [prettyChars, prettyAt]
    rw [spelled]
    refine ⟨⟨'[', _, rfl, rfl, by decide⟩, fun rest _ => ?_⟩
    unfold value
    rfl
  | cons first others =>
    have spelled : prettyChars level (.array (first :: others)) =
        '[' :: ((lineBreak (level + 1)).toList ++ (prettyChars (level + 1) first ++
          (listed (level + 1) (prettyChars (level + 1)) others ++
            ((lineBreak level).toList ++ [']'])))) := by
      simp [prettyChars, prettyAt, toList_prettyItems]
    rw [spelled]
    refine ⟨⟨'[', _, rfl, rfl, by decide⟩, fun rest _ => ?_⟩
    have found := items_written (level + 1) level written rest
    unfold value
    simp only [List.cons_append, List.append_assoc, List.nil_append, bracket, found, bind,
      Except.bind]

theorem value_object {depth : Nat} (level : Nat) {members : Members}
    (written : ∀ member ∈ members,
      Written (value depth) (prettyChars (level + 1) member.2) (result member.2)) :
    Written (value (depth + 1)) (prettyChars level (.object members))
      (.object (sortByKey (members.map fun member => (member.1, result member.2)))) := by
  have brace (s : List Char) : skipSpace ('\x7b' :: s) = '\x7b' :: s := rfl
  cases members with
  | nil =>
    have spelled : prettyChars level (.object []) = ['\x7b', '\x7d'] := by
      simp [prettyChars, prettyAt]
    rw [spelled]
    refine ⟨⟨'\x7b', _, rfl, rfl, by decide⟩, fun rest _ => ?_⟩
    unfold value
    rfl
  | cons first others =>
    have spelled : prettyChars level (.object (first :: others)) =
        '\x7b' :: ((lineBreak (level + 1)).toList ++
          (memberChars (prettyChars (level + 1)) first ++
            (listed (level + 1) (memberChars (prettyChars (level + 1))) others ++
              ((lineBreak level).toList ++ ['\x7d'])))) := by
      simp [prettyChars, prettyAt, toList_prettyMembers, memberChars, literal, literalChars]
    rw [spelled]
    refine ⟨⟨'\x7b', _, rfl, rfl, by decide⟩, fun rest _ => ?_⟩
    have found := members_written (value_space depth) (level + 1) level written rest
    unfold value
    simp only [List.cons_append, List.append_assoc, List.nil_append, brace, found, bind,
      Except.bind]

/-- A value is read back from its text, where parts may be nested deeply enough. -/
theorem value_written {v : Json} (integral : v.Integral) {depth : Nat} (within : v.nesting ≤ depth)
    (level : Nat) : Written (value depth) (prettyChars level v) v.sorted := by
  induction integral generalizing depth level with
  | null => exact value_null depth level
  | bool b => exact value_bool depth level b
  | string text => exact value_string depth level text
  | @integer n least most =>
    have spelled : prettyChars level (.number (.int n)) = (toString n).toList := by
      simp [prettyChars, prettyAt, JsonNumber.text]
    rw [spelled]
    exact value_integer depth least most
  | @array items each ih =>
    -- A list takes one level of the limit and its items have the rest.
    obtain ⟨inner, rfl⟩ := Nat.exists_eq_succ_of_ne_zero (Nat.ne_zero_of_lt within)
    rw [sorted, sortedItems_eq]
    apply value_array level
    intro item inside
    have deepest := nestingItems_le_iff.mp (Nat.le_of_succ_le_succ within) item inside
    exact ih item inside deepest (level + 1)
  | @object members distinct each ih =>
    obtain ⟨inner, rfl⟩ := Nat.exists_eq_succ_of_ne_zero (Nat.ne_zero_of_lt within)
    rw [sorted, sortedMembers_eq]
    apply value_object level
    intro member inside
    have deepest := nestingMembers_le_iff.mp (Nat.le_of_succ_le_succ within) member inside
    exact ih member inside deepest (level + 1)

end Read

/-- The text of a value is read as the value, where parts may be nested as deeply as in it. -/
theorem Read.text_pretty {v : Json} (integral : v.Integral) {depth : Nat}
    (within : v.nesting ≤ depth) : Read.text depth v.pretty.toList = .ok v.sorted := by
  have stops : NumberStops [] := by
    intro c first
    cases first
  have found := (value_written integral within 0).back [] stops
  rw [List.append_nil, prettyChars] at found
  simp only [Read.text, pretty, found, bind, Except.bind]
  rfl

end TypeForm.Json
