import TypeForm.Condition.Basic

/-!
# Source text of conditions

Conjunctions and disjunctions are put in brackets when they stand inside one another or under a
negation; the negations of the commonest tests have a spelling of their own.
-/
namespace TypeForm.Condition

def isCompound : Condition → Bool
  | and _ | or _ => true
  | _ => false

/-- Conditions that a negation sign may precede without brackets. -/
def isUnary : Condition → Bool
  | const _ | isFinite _ | call _ _ | isWhole _ => true
  | _ => false

/-- Text in brackets if asked for. -/
def bracketed (brackets : Bool) (text : String) : String :=
  if brackets then "(" ++ text ++ ")" else text

mutual

/-- A condition as source text. -/
def text : Condition → String
  | const value => if value then "true" else "false"
  | kindIs data kind => "typeof " ++ data.text ++ " == \"" ++ kind.name ++ "\""
  | isMoment data => data.text ++ " instanceof Date"
  | isFinite data => "isFinite(" ++ data.text ++ ")"
  | compare data relation bound =>
    data.text ++ " " ++ relation.symbol ++ " " ++ toString bound
  | isWhole data => "!(" ++ data.text ++ " % 1)"
  | notNull data => data.text ++ " !== null"
  | call helper data => helper.text ++ "(" ++ data.text ++ ")"
  | not (kindIs data kind) => "typeof " ++ data.text ++ " !== \"" ++ kind.name ++ "\""
  | not (notNull data) => data.text ++ " === null"
  | not condition => "!" ++ bracketed (!condition.isUnary) (text condition)
  | and conditions => joined " && " conditions
  | or conditions => joined " || " conditions

/-- Conditions with a separator between them. -/
def joined (separator : String) : List Condition → String
  | [] => ""
  | condition :: rest =>
    bracketed condition.isCompound (text condition) ++ continued separator rest

/-- Conditions with a separator before each. -/
def continued (separator : String) : List Condition → String
  | [] => ""
  | condition :: rest =>
    separator ++ bracketed condition.isCompound (text condition) ++ continued separator rest

end

end TypeForm.Condition
