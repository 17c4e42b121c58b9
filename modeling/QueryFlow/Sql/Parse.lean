import QueryFlow.Sql.Lexer
import QueryFlow.Sql.Syntax

/-!
# Reading lexemes

A grammar is written as steps that take lexemes from a list. A step reads the setting it runs in,
answers with a value and the lexemes that are left, or is refused. There are two kinds of refusal:
an ordinary one, which `attempt` takes back, and the one for phrases that are nested too deeply,
which ends the reading of the whole text.

## Steps and the words of refusals

What a refusal says is as much part of a step as what the step takes, because a text that cannot be
read is reported in these words. `expected` quotes the next lexeme and takes its place; `unexpected`
quotes one that has been taken already. A refusal without a place says nothing of where it was met,
and steps that raise one are written so on purpose.

## Repetition and nesting

Lists are repeated steps. A repetition ends at the latest when as many steps were made as there were
lexemes, so that every step is a total function; `many` stops where a step answers nothing, `chain`
goes on from the value that the step before gave, and `items` asks after each item whether another
one follows. `deeper` counts the phrases that are nested in each other, and refuses for good where
there are too many of them.
-/

namespace QueryFlow.Sql

/-- Why a step is refused. -/
inductive Reject
  /-- The next lexemes do not fit, for a reason and at a place, if they have one. -/
  | refused (reason : String) (place : Option Position)
  /-- Phrases are nested too deeply. -/
  | tooDeep
deriving DecidableEq

/-- The setting that a step runs in. -/
structure Setting where
  /-- The dialect that is being read. -/
  dialect : Dialect
  /-- How many more phrases may be nested. -/
  depth : Nat
  /-- The definition of a column is being read. -/
  inColumn : Bool
  /-- A hierarchy of rows is being read. -/
  inHierarchy : Bool

/-- How many phrases may be nested. -/
def nestingLimit : Nat := 50

/-- A step of a grammar. -/
abbrev Parse := ReaderT Setting (StateT (List Lexeme) (Except Reject))

namespace Parse

variable {α β : Type}

/-- Runs a step on lexemes. -/
def runOn (p : Parse α) (setting : Setting) (lexemes : List Lexeme) :
    Except Reject (α × List Lexeme) :=
  (p.run setting).run lexemes

/-! ### Looking ahead -/

/-- The token after `n` others. -/
def tokenAt (n : Nat) : Parse (Option Token) := do return (← get)[n]?.map Lexeme.token

/-- The next token. -/
def peek : Parse (Option Token) := tokenAt 0

/-- There is no further lexeme. -/
def atEnd : Parse Bool := do return (← get).isEmpty

/-- The mark `sign` stands after `n` others. -/
def isMarkAt (n : Nat) (sign : String) : Parse Bool := do
  return (← tokenAt n).any (Token.isMark sign)

/-- The mark `sign` is next. -/
def atMark (sign : String) : Parse Bool := isMarkAt 0 sign

/-- The keyword `word` stands after `n` others. -/
def isKeywordAt (n : Nat) (word : String) : Parse Bool := do
  return (← tokenAt n).any (Token.isKeyword word)

/-- The keyword `word` is next. -/
def atKeyword (word : String) : Parse Bool := isKeywordAt 0 word

/-- One of the keywords is next. -/
def atOneOf (words : List String) : Parse Bool := do
  return (← peek).any fun t => words.any t.isKeyword

/-- The keyword that stands after `n` others, if it is a word without quotes. -/
def keywordAt (n : Nat) : Parse String := do
  match ← tokenAt n with
  | some (.word _ none spelling) => return spelling
  | _ => return ""

/-- The next keyword. -/
def nextKeyword : Parse String := keywordAt 0

/-- A query starts next: `SELECT` or `WITH`. -/
def atQuery : Parse Bool := atOneOf ["SELECT", "WITH"]

/-! ### Taking lexemes -/

/-- Takes the next lexeme, if there is one. -/
def take : Parse (Option Lexeme) := do
  match ← get with
  | [] => return none
  | l :: rest =>
    set rest
    return some l

/-- Leaves out the next lexeme. -/
def skip : Parse Unit := do
  let _ ← take

/-- Takes the mark `sign`, if it is next. -/
def accept (sign : String) : Parse Bool := do
  if ← atMark sign then
    skip
    return true
  else return false

/-- Takes the marks, if all of them are next. -/
def acceptMarks (signs : List String) : Parse Bool := do
  let lexemes ← get
  let shown := (lexemes.take signs.length).map Lexeme.token
  if shown == signs.map Token.mark then
    set (lexemes.drop signs.length)
    return true
  else return false

/-- Takes the keyword `word`, if it is next. -/
def acceptWord (word : String) : Parse Bool := do
  if ← atKeyword word then
    skip
    return true
  else return false

/-- The lexemes start with the keywords. -/
def startsWith : List String → List Lexeme → Bool
  | [], _ => true
  | _ :: _, [] => false
  | w :: words, l :: rest => l.token.isKeyword w && startsWith words rest

/-- Takes the keywords, if all of them are next. -/
def acceptWords (words : List String) : Parse Bool := do
  let lexemes ← get
  if startsWith words lexemes then
    set (lexemes.drop words.length)
    return true
  else return false

/-- Takes the first of the phrases that is next, each of which is one or more keywords. -/
def acceptPhrase (phrases : List (List String)) : Parse (Option (List String)) := do
  let lexemes ← get
  match phrases.find? fun words => startsWith words lexemes with
  | some words =>
    set (lexemes.drop words.length)
    return some words
  | none => return none

/-- Takes one of the keywords, if one is next. -/
def acceptOneOf (words : List String) : Parse (Option String) := do
  let lexemes ← get
  match words.find? fun w => startsWith [w] lexemes with
  | some w =>
    skip
    return some w
  | none => return none

/-! ### Refusals -/

/-- Refuses for a reason, without a place. -/
def refuse (reason : String) : Parse α := throw (.refused reason none)

/-- Refuses for a reason, at the next lexeme. -/
def refuseHere (reason : String) : Parse α := do
  throw (.refused reason ((← get).head?.map Lexeme.place))

/-- Refuses because `found` stands where `what` should stand. -/
def unexpected (what : String) (found : Option Lexeme) : Parse α :=
  throw (.refused
    ("Expected: " ++ what ++ ", found: " ++ (found.map fun l => l.token.shown).getD "EOF")
    (found.map Lexeme.place))

/-- Refuses because the next lexeme is not `what`. -/
def expected (what : String) : Parse α := do unexpected what (← get).head?

/-- Takes the mark `sign`, which has to be next. -/
def expect (sign : String) : Parse Unit := do
  unless ← accept sign do expected sign

/-- Takes the keyword `word`, which has to be next. -/
def expectWord (word : String) : Parse Unit := do
  unless ← acceptWord word do expected word

/-- Takes the keywords, which have to be next. -/
def expectWords : List String → Parse Unit
  | [] => return
  | w :: words => do
    expectWord w
    expectWords words

/-- Takes one of the keywords, of which one has to be next. -/
def expectOneOf (words : List String) : Parse String := do
  match ← acceptOneOf words with
  | some w => return w
  | none => expected ("one of " ++ String.intercalate " or " words)

/-! ### Combining steps -/

/-- Takes the step, or nothing if it is refused. A refusal for too deep a nesting is not taken back.
-/
def attempt (p : Parse α) : Parse (Option α) := fun setting start =>
  match p setting start with
  | .ok (a, rest) => .ok (some a, rest)
  | .error (.refused ..) => .ok (none, start)
  | .error .tooDeep => .error .tooDeep

/-- Takes the step; a refusal of any kind is an answer. -/
def outcome (p : Parse α) : Parse (Except Reject α) := fun setting start =>
  match p setting start with
  | .ok (a, rest) => .ok (.ok a, rest)
  | .error reject => .ok (.error reject, start)

/-- Takes the step inside one more phrase. -/
def deeper (p : Parse α) : Parse α := do
  match (← read).depth with
  | 0 => throw .tooDeep
  | depth + 1 => withReader (fun s => { s with depth }) p

/-- The dialect that is being read. -/
def dialect : Parse Dialect := do return (← read).dialect

/-- The dialect has a property. -/
def has (property : Dialect → Bool) : Parse Bool := do return property (← dialect)

/-- The dialect is one of `ds`. -/
def isIn (ds : List Dialect) : Parse Bool := do return (← dialect).isOneOf ds

/-- The definition of a column is being read. -/
def inColumn : Parse Bool := do return (← read).inColumn

/-- A hierarchy of rows is being read. -/
def inHierarchy : Parse Bool := do return (← read).inHierarchy

/-- Both, where the second is asked only if the first holds. -/
def both (p q : Parse Bool) : Parse Bool := do
  if ← p then q else return false

/-- At least one, where the second is asked only if the first does not hold. -/
def either (p q : Parse Bool) : Parse Bool := do
  if ← p then return true else q

/-- The step, if the condition holds. -/
def given (condition : Parse Bool) (p : Parse α) : Parse (Option α) := do
  if ← condition then return some (← p) else return none

/-- The expressions of a step, if the condition holds. -/
def listIf (condition : Parse Bool) (p : Parse (List α)) : Parse (List α) := do
  if ← condition then p else return []

/-- At most `n` answers of a step, up to its first refusal to answer. -/
def manyUpTo (p : Parse (Option α)) : Nat → Parse (List α)
  | 0 => return []
  | n + 1 => do
    match ← p with
    | none => return []
    | some a => return a :: (← manyUpTo p n)

/-- The answers of a step, up to its first refusal to answer. -/
def many (p : Parse (Option α)) : Parse (List α) := do manyUpTo p ((← get).length + 1)

/-- At most `n` steps from a value, up to the first that answers nothing. -/
def chainUpTo (step : α → Parse (Option α)) : Nat → α → Parse α
  | 0, a => return a
  | n + 1, a => do
    match ← step a with
    | none => return a
    | some b => chainUpTo step n b

/-- Steps from a value, up to the first that answers nothing. -/
def chain (step : α → Parse (Option α)) (a : α) : Parse α := do
  chainUpTo step ((← get).length + 1) a

/-- A comma is next, and does not end the list that it stands in. Where commas may trail, it does
so before a closing bracket, a semicolon, the end of the text and the words `ends`. -/
def anotherFollows (trailing : Bool) (ends : Token → Parse Bool) : Parse Bool := do
  if ← accept "," then
    if trailing then
      match ← peek with
      | none => return false
      | some t =>
        if [")", ";", "]", "\x7d"].any t.isMark then return false
        else return !(← ends t)
    else return true
  else return false

/-- At most `n + 1` items, with what decides whether another one follows. -/
def itemsUpTo (another : Parse Bool) (item : Parse α) : Nat → Parse (List α)
  | 0 => return [← item]
  | n + 1 => do
    let a ← item
    if ← another then return a :: (← itemsUpTo another item n) else return [a]

/-- Items, with what decides whether another one follows. -/
def items (another : Parse Bool) (item : Parse α) : Parse (List α) := do
  itemsUpTo another item ((← get).length + 1)

/-- The token is a word that ends a list behind a comma. -/
def endsList (words : List String) (t : Token) : Parse Bool := return words.any t.isKeyword

/-- Items with commas between them. -/
def commas (item : Parse α) : Parse (List α) := do
  let trailing ← has Dialect.hasTrailingCommas
  items (anotherFollows trailing (endsList Keyword.reservedForColumns)) item

/-- Items with commas between them, or nothing before the mark `sign`. -/
def commasBefore (sign : String) (item : Parse α) : Parse (List α) := do
  if ← atMark sign then return []
  else if ← both (has Dialect.hasTrailingCommas) (both (atMark ",") (isMarkAt 1 sign)) then
    skip
    return []
  else commas item

/-- A step in brackets. -/
def bracketed (p : Parse α) : Parse α := do
  expect "("
  let a ← p
  expect ")"
  return a

end Parse

end QueryFlow.Sql
