import QueryFlow.Sql.Lexer.Text
import QueryFlow.Sql.Keyword

/-!
# The lexer

`lex` reads a text as lexemes. Blank space and comments are left out; what remains of them is the
place of each lexeme and the note that blank space stood before it. The first character decides how
a token is read, and the token is then as long as it can be.

## Where a text stops

A text that cannot be read stops at a place: where an unclosed quote opens, or where the text ends
inside a comment. A `Stop` keeps the characters from that place on, and the place is counted from
their number, so a reader of tokens need not know where it is.

## What a token depends on

Besides the characters in front, a token may depend on the one before it: a point behind a word
separates the parts of a name, where it would start a number elsewhere. Blank space and comments
clear that memory. Which characters make names, numbers and operators is asked of the dialect.

Every token takes at least one character. The recursion of `lexFrom` rests on this by a test of the
lengths, since the readers of tokens are too many to prove it of each.
-/

namespace QueryFlow.Sql

open QueryFlow.Text

/-- Why a text cannot be read further: the reason, and the characters from there on. -/
structure Stop where
  /-- Why the text cannot be read further, as a message says it. -/
  reason : String
  /-- The characters from the place on at which the text stops. -/
  rest : List Char

/-- What is read at one place: a token, or nothing for blank space and comments, and what follows
it. -/
abbrev Scan := Except Stop (Option Token × List Char)

namespace Lexer

/-- The word with this text, without quotes. -/
def wordOf (cs : List Char) : Token :=
  let text := String.ofList cs
  .word text none (Keyword.spelling text)

/-- A token has been read. -/
def found (token : Token) (rest : List Char) : Scan := .ok (some token, rest)

/-- The mark `sign`, or the longer operator that starts with it. -/
def sign (d : Dialect) (s : String) (rest : List Char) : Scan :=
  match rest.takeWhile d.continuesOperator with
  | [] => found (.mark s) rest
  | more =>
    found (.operator (s ++ String.ofList more)) (rest.dropWhile d.continuesOperator)

/-- An operator that starts with `s`, which is none by itself. -/
def longSign (d : Dialect) (s : String) (rest : List Char) : Scan :=
  match rest.takeWhile d.continuesOperator with
  | [] => .error ⟨"Expected a valid binary operator after '" ++ s ++ "'", rest⟩
  | more =>
    found (.operator (s ++ String.ofList more)) (rest.dropWhile d.continuesOperator)

/-- A word that starts with the characters `first`, or a number if only digits and points are in
it. -/
def name (d : Dialect) (first rest : List Char) : Scan :=
  let word := first ++ rest.takeWhile d.continuesName
  let rest := rest.dropWhile d.continuesName
  let isNumeral (c : Char) : Bool := c.isDigit || c == '.'
  if word.all isNumeral then
    found (.number (String.ofList (word ++ rest.takeWhile isNumeral)) false)
      (rest.dropWhile isNumeral)
  else found (wordOf word) rest

/-- The token of a text, or a stop where its quote opens. -/
def closed (style : TextStyle) (opening : List Char) :
    Option (List Char × List Char) → Scan
  | some (body, rest) => found (.text style (String.ofList body)) rest
  | none => .error ⟨"Unterminated string literal", opening⟩

/-- A text from its opening quote on. -/
def textFrom (d : Dialect) (style : TextStyle) (quote : Char) (escapes : Bool)
    (body : List Char) : Scan :=
  closed style (quote :: body) (quoted quote escapes d.keepsWildcardEscapes body)

/-- A text from its opening quote on, where three quotes open as well. -/
def textOrTriple (d : Dialect) (style triple : TextStyle) (quote : Char) (escapes : Bool)
    (body : List Char) : Scan :=
  match body with
  | a :: b :: rest =>
    if a == quote then
      if b == quote then closed triple rest (tripled quote escapes 0 rest)
      else found (.text style "") (b :: rest)
    else closed style body (quoted quote escapes d.keepsWildcardEscapes body)
  | [a] =>
    if a == quote then found (.text style "") []
    else closed style body (quoted quote escapes d.keepsWildcardEscapes body)
  | [] => closed style body none

/-- A quoted name from its opening quote on. -/
def quotedWord (quote : Char) (body : List Char) : Scan :=
  match quotedName (Token.closing quote) body with
  | some (text, rest) => found (.word (String.ofList text) (some quote) "") rest
  | none =>
    .error ⟨"Expected close delimiter '" ++ (Token.closing quote).toString ++ "' before EOF.",
      quote :: body⟩

/-- A name in brackets that holds a quoted name. -/
def nestedWord (body : List Char) : Scan :=
  let stop (c : Char) (place : List Char) : Scan :=
    .error ⟨"Expected close delimiter '" ++ c.toString ++ "' before EOF.", place⟩
  match trimStart body with
  | '"' :: inner =>
    match quotedName '"' inner with
    | none => stop '"' ('"' :: inner)
    | some (text, rest) =>
      match trimStart rest with
      | ']' :: rest =>
        found (.word (String.ofList ('"' :: text ++ ['"'])) (some '[') "") rest
      | _ => stop ']' ('[' :: body)
  | _ => stop '"' ('[' :: body)

/-- A bracket opens a name: a quoted name or the start of a name follows it. -/
def opensBracketName (d : Dialect) (body : List Char) : Bool :=
  d.hasBracketNames &&
    match trimStart body with
    | c :: _ => c == '"' || d.startsName c
    | [] => false

/-- A bracket holds a quoted name. -/
def holdsQuotedName (body : List Char) : Bool :=
  match trimStart body with
  | c :: _ => c == '"'
  | [] => false

/-! ### Numbers -/

/-- A run of digits of a class; where the dialect groups digits, an underscore may stand before one
in base sixteen. -/
def digitRun (d : Dialect) (isIn : Char → Bool) : List Char → List Char × List Char
  | [] => ([], [])
  | c :: rest =>
    let next := match rest with
      | e :: _ => (hexValue? e).isSome
      | [] => false
    if isIn c || (d.hasDigitGroups && c == '_' && next) then
      let (run, rest) := digitRun d isIn rest
      (c :: run, rest)
    else ([], c :: rest)

/-- An exponent with its mark and sign. -/
def exponent : List Char → List Char × List Char
  | [] => ([], [])
  | e :: rest =>
    if e == 'e' || e == 'E' then
      match rest with
      | s :: more =>
        if s == '+' || s == '-' then
          match more.takeWhile Char.isDigit with
          | [] => ([], e :: rest)
          | digits => (e :: s :: digits, more.dropWhile Char.isDigit)
        else
          match rest.takeWhile Char.isDigit with
          | [] => ([], e :: rest)
          | digits => (e :: digits, rest.dropWhile Char.isDigit)
      | [] => ([], [e])
    else ([], e :: rest)

/-- The token directly before is a word. -/
def followsWord (previous : Option Token) : Bool := previous.any Token.isWord

/-- The rest of a number after its whole part and its fraction. -/
def numberTail (d : Dialect) (previous : Option Token) (digits rest : List Char) : Scan :=
  let (power, rest) := exponent rest
  let word := rest.takeWhile d.continuesName
  if d.hasDigitNames && power.isEmpty && !word.isEmpty then
    found (wordOf (digits ++ word)) (rest.dropWhile d.continuesName)
  else if d.hasDigitNames && !power.isEmpty && previous.any (Token.isMark ".") then
    found (wordOf (digits ++ power)) rest
  else
    match rest with
    | 'L' :: rest => found (.number (String.ofList (digits ++ power)) true) rest
    | _ => found (.number (String.ofList (digits ++ power)) false) rest

/-- A number, or the point that separates the parts of a name. -/
def number (d : Dialect) (previous : Option Token) (cs : List Char) : Scan :=
  match cs with
  | '.' :: '_' :: rest =>
    if followsWord previous then found (.mark ".") ('_' :: rest)
    else .error ⟨"Unexpected character '_'", cs⟩
  | _ =>
    match digitRun d Char.isDigit cs with
    | (['0'], 'x' :: rest) =>
      let (run, rest) := digitRun d (fun c => (hexValue? c).isSome) rest
      found (.text .hexadecimal (String.ofList run)) rest
    | (whole, '.' :: rest) =>
      if whole.isEmpty && d.hasDigitNames && followsWord previous then found (.mark ".") rest
      else
        let (fraction, rest) := digitRun d Char.isDigit rest
        if whole.isEmpty && fraction.isEmpty then found (.mark ".") rest
        else numberTail d previous (whole ++ '.' :: fraction) rest
    | (whole, rest) => numberTail d previous whole rest

/-! ### Comments -/

/-- What follows a comment that ends with its line. -/
def afterLine (d : Dialect) (cs : List Char) : List Char :=
  (cs.dropWhile fun c => c != '\n' && !(c == '\r' && d == .postgres)).drop 1

/-- What follows a comment that is closed explicitly, inside of which `depth` more are open. -/
def afterBlock (nests : Bool) (depth : Nat) : List Char → Option (List Char)
  | [] => none
  | [_] => none
  | a :: b :: rest =>
    if nests && a == '/' && b == '*' then afterBlock nests (depth + 1) rest
    else if a == '*' && b == '/' then
      match depth with
      | 0 => some rest
      | depth + 1 => afterBlock nests depth rest
    else afterBlock nests depth (b :: rest)

/-- A comment that is closed explicitly. -/
def blockComment (d : Dialect) (body : List Char) : Scan :=
  match afterBlock d.nestsComments 0 body with
  | some rest => .ok (none, rest)
  | none => .error ⟨"Unexpected EOF while in a multi-line comment", []⟩

/-! ### Dollar signs -/

/-- A text between dollar signs, or a placeholder. -/
def dollar (d : Dialect) (rest : List Char) : Scan :=
  match rest with
  | '$' :: body =>
    if d.hasDollarPlaceholders then placeholder rest
    else
      match dollarBody ['$', '$'] body with
      | some (text, rest) => found (.text (.dollar "") (String.ofList text)) rest
      | none => .error ⟨"Unterminated dollar-quoted string", []⟩
  | _ => placeholder rest
where
  /-- A name behind the dollar sign. -/
  placeholder (rest : List Char) : Scan :=
    let isTag (c : Char) : Bool :=
      isLetter c || isDigit c || c == '_' || (c == '$' && d.hasDollarPlaceholders)
    let tag := rest.takeWhile isTag
    match rest.dropWhile isTag with
    | '$' :: body =>
      if d.hasDollarPlaceholders then
        found (.placeholder (String.ofList ('$' :: tag))) ('$' :: body)
      else
        match dollarBody ('$' :: tag ++ ['$']) body with
        | some (text, rest) =>
          found (.text (.dollar (String.ofList tag)) (String.ofList text)) rest
        | none => .error ⟨"Unterminated dollar-quoted, expected $", []⟩
    | rest => found (.placeholder (String.ofList ('$' :: tag))) rest

/-! ### Marks -/

/-- The marks that start with a minus sign, and comments. -/
def dash (d : Dialect) (rest : List Char) : Scan :=
  match rest with
  | '-' :: more =>
    if !d.needsSpaceInComments || more.head? == some ' ' then .ok (none, afterLine d more)
    else sign d "-" rest
  | '>' :: '>' :: rest => sign d "->>" rest
  | '>' :: rest => sign d "->" rest
  | _ => sign d "-" rest

/-- The marks that start with a slash, and comments. -/
def slash (d : Dialect) (rest : List Char) : Scan :=
  match rest with
  | '*' :: body => blockComment d body
  | '/' :: more =>
    if d.hasSlashComments then .ok (none, afterLine d more)
    else if d.isOneOf [.duckdb, .generic] then found (.mark "//") more
    else found (.mark "/") rest
  | _ => found (.mark "/") rest

/-- The marks that start with a per cent sign. -/
def percent (d : Dialect) (rest : List Char) : Scan :=
  match rest with
  | c :: _ => if isBlank c then found (.mark "%") rest else sign d "%" rest
  | [] => sign d "%" rest

/-- The marks that start with a bar. -/
def bar (d : Dialect) (rest : List Char) : Scan :=
  match rest with
  | '/' :: rest => sign d "|/" rest
  | '|' :: '/' :: rest => sign d "||/" rest
  | '|' :: rest => sign d "||" rest
  | '&' :: more =>
    if d.hasGeometry then
      match more with
      | '>' :: rest => sign d "|&>" rest
      | _ => longSign d "|&" more
    else sign d "|" rest
  | '>' :: more =>
    if d.hasGeometry then
      match more with
      | '>' :: rest => sign d "|>>" rest
      | _ => longSign d "|>" more
    else if d.hasPipes then sign d "|>" more
    else sign d "|" rest
  | _ => sign d "|" rest

/-- The marks that start with an exclamation mark. -/
def bang (rest : List Char) : Scan :=
  match rest with
  | '=' :: rest => found (.mark "<>") rest
  | '!' :: rest => found (.mark "!!") rest
  | '~' :: '*' :: rest => found (.mark "!~*") rest
  | '~' :: '~' :: '*' :: rest => found (.mark "!~~*") rest
  | '~' :: '~' :: rest => found (.mark "!~~") rest
  | '~' :: rest => found (.mark "!~") rest
  | _ => found (.mark "!") rest

/-- The marks that start with a sign for "less". -/
def less (d : Dialect) (rest : List Char) : Scan :=
  match rest with
  | '=' :: '>' :: rest => sign d "<=>" rest
  | '=' :: rest => sign d "<=" rest
  | '|' :: more =>
    if d.hasGeometry then
      match more with
      | '>' :: '>' :: rest => sign d "<|>>" rest
      | _ => longSign d "<|" more
    else sign d "<" rest
  | '>' :: rest => sign d "<>" rest
  | '<' :: '|' :: more =>
    if d.hasGeometry then sign d "<<|" more else sign d "<<" ('|' :: more)
  | '<' :: rest => sign d "<<" rest
  | '-' :: more =>
    if d.hasGeometry then
      match more with
      | '>' :: rest => sign d "<->" rest
      | _ => longSign d "<-" more
    else sign d "<" rest
  | '^' :: more => if d.hasGeometry then sign d "<^" more else sign d "<" rest
  | '@' :: rest => sign d "<@" rest
  | _ => sign d "<" rest

/-- The marks that start with a sign for "greater". -/
def greater (d : Dialect) (rest : List Char) : Scan :=
  match rest with
  | '=' :: rest => sign d ">=" rest
  | '>' :: rest => sign d ">>" rest
  | '^' :: more => if d.hasGeometry then sign d ">^" more else sign d ">" rest
  | _ => sign d ">" rest

/-- The marks that start with an ampersand. -/
def ampersand (d : Dialect) (rest : List Char) : Scan :=
  match rest with
  | '>' :: more => if d.hasGeometry then found (.mark "&>") (more.drop 1) else sign d "&" rest
  | '<' :: more =>
    if d.hasGeometry then
      match more with
      | '|' :: rest => found (.mark "&<|") rest
      | _ => sign d "&<" more
    else sign d "&" rest
  | '&' :: rest => sign d "&&" rest
  | _ => sign d "&" rest

/-- The marks that start with a tilde. -/
def tilde (d : Dialect) (rest : List Char) : Scan :=
  match rest with
  | '*' :: rest => sign d "~*" rest
  | '=' :: more => if d.hasGeometry then sign d "~=" more else sign d "~" rest
  | '~' :: '*' :: rest => sign d "~~*" rest
  | '~' :: rest => sign d "~~" rest
  | _ => sign d "~" rest

/-- The marks that start with a number sign, comments, and names that it starts. -/
def numberSign (d : Dialect) (rest : List Char) : Scan :=
  if d.hasNumberSignComments then .ok (none, afterLine d rest)
  else
    match rest with
    | '-' :: rest => sign d "#-" rest
    | '>' :: '>' :: rest => sign d "#>>" rest
    | '>' :: rest => sign d "#>" rest
    | ' ' :: _ => found (.mark "#") rest
    | c :: more =>
      if c == '#' && d.hasGeometry then sign d "##" more
      else if d.startsName '#' then name d ['#', c] more
      else sign d "#" rest
    | [] => sign d "#" rest

/-- The marks that start with an at sign, and names that it starts. -/
def atSign (d : Dialect) (rest : List Char) : Scan :=
  match rest with
  | [] => found (.mark "@") rest
  | c :: more =>
    if d.hasGeometry && c == '@' then found (.mark "@@") more
    else if d.hasGeometry && c == '-' then
      match more with
      | '@' :: rest => found (.mark "@-@") rest
      | _ => longSign d "@-" more
    else if c == '>' then found (.mark "@>") more
    else if c == '?' then found (.mark "@?") more
    else if c == '@' then
      match more with
      | e :: rest =>
        if e != ' ' && d.startsName '@' then name d ['@', '@', e] rest
        else found (.mark "@@") more
      | [] => found (.mark "@@") more
    else if c == ' ' || c == '\'' || c == '"' || c == '\x60' then found (.mark "@") rest
    else if d.startsName '@' then name d ['@', c] more
    else found (.mark "@") rest

/-- The marks that start with a question mark, and numbered placeholders. -/
def question (d : Dialect) (rest : List Char) : Scan :=
  if d.hasGeometry then
    match rest with
    | '|' :: '|' :: rest => found (.mark "?||") rest
    | '|' :: rest => found (.mark "?|") rest
    | '&' :: rest => found (.mark "?&") rest
    | '-' :: '|' :: rest => found (.mark "?-|") rest
    | '-' :: rest => found (.mark "?-") rest
    | '#' :: rest => found (.mark "?#") rest
    | _ => found (.mark "?") rest
  else
    found (.placeholder (String.ofList ('?' :: rest.takeWhile isDigit))) (rest.dropWhile isDigit)

/-- A text whose style a letter names, if one follows the letter. -/
def styledText? (d : Dialect) (c : Char) (rest : List Char) : Option Scan :=
  match c, rest with
  | 'b', '\'' :: body | 'B', '\'' :: body =>
    if d.hasByteTexts then
      some (if d.hasTripleQuotes then
        textOrTriple d .singleBytes .tripleSingleBytes '\'' false body
      else textFrom d .singleBytes '\'' false body)
    else none
  | 'b', '"' :: body | 'B', '"' :: body =>
    if d.hasByteTexts then
      some (if d.hasTripleQuotes then
        textOrTriple d .doubleBytes .tripleDoubleBytes '"' false body
      else textFrom d .doubleBytes '"' false body)
    else none
  | 'r', '\'' :: body | 'R', '\'' :: body =>
    if d.hasRawTexts then some (textOrTriple d .singleRaw .tripleSingleRaw '\'' false body)
    else none
  | 'r', '"' :: body | 'R', '"' :: body =>
    if d.hasRawTexts then some (textOrTriple d .doubleRaw .tripleDoubleRaw '"' false body)
    else none
  | 'n', '\'' :: body | 'N', '\'' :: body =>
    some (textFrom d .national '\'' d.hasBackslashEscapes body)
  | 'e', '\'' :: body | 'E', '\'' :: body =>
    if d.hasEscapeTexts then
      some (match escaped 0 body with
        | some (text, rest) => found (.text .escaped (String.ofList text)) rest
        | none => .error ⟨"Unterminated encoded string literal", c :: rest⟩)
    else none
  | 'u', '&' :: '\'' :: body | 'U', '&' :: '\'' :: body =>
    if d.hasCodePointTexts then
      some (match codePoints 0 body with
        | some (text, rest) => found (.text .codePoints (String.ofList text)) rest
        | none => .error ⟨"Unterminated unicode encoded string literal", '\'' :: body⟩)
    else none
  | 'x', '\'' :: body | 'X', '\'' :: body => some (textFrom d .hexadecimal '\'' true body)
  | _, _ => none

/-- What is read from the character `c` on, which `rest` follows. -/
def scan (d : Dialect) (previous : Option Token) (c : Char) (rest : List Char) : Scan :=
  match styledText? d c rest with
  | some read => read
  | none =>
    if c == ' ' || c == '\t' || c == '\n' || c == '\r' then .ok (none, rest)
    else if c == '\'' then
      if d.hasTripleQuotes then
        textOrTriple d .single .tripleSingle '\'' d.hasBackslashEscapes rest
      else textFrom d .single '\'' d.hasBackslashEscapes rest
    else if c == '"' && !d.opensName c then
      if d.hasTripleQuotes then
        textOrTriple d .double .tripleDouble '"' d.hasBackslashEscapes rest
      else textFrom d .double '"' d.hasBackslashEscapes rest
    else if d.opensName c then quotedWord c rest
    else if c == '[' && opensBracketName d rest then
      if holdsQuotedName rest then nestedWord rest else quotedWord c rest
    else if c.isDigit || c == '.' then number d previous (c :: rest)
    else if "(),+*;\\[]\x7b\x7d".toList.contains c then found (.mark c.toString) rest
    else if c == '-' then dash d rest
    else if c == '/' then slash d rest
    else if c == '%' then percent d rest
    else if c == '|' then bar d rest
    else if c == '=' then
      match rest with
      | '>' :: rest => found (.mark "=>") rest
      | '=' :: rest => found (.mark "==") rest
      | _ => found (.mark "=") rest
    else if c == '!' then bang rest
    else if c == '<' then less d rest
    else if c == '>' then greater d rest
    else if c == ':' then
      match rest with
      | ':' :: rest => found (.mark "::") rest
      | '=' :: rest => found (.mark ":=") rest
      | _ => found (.mark ":") rest
    else if c == '&' then ampersand d rest
    else if c == '^' then
      match rest with
      | '@' :: rest => found (.mark "^@") rest
      | _ => found (.mark "^") rest
    else if c == '~' then tilde d rest
    else if c == '#' then numberSign d rest
    else if c == '@' then atSign d rest
    else if c == '?' then question d rest
    else if d.startsName c then name d [c] rest
    else if c == '$' then dollar d rest
    else if isBlank c then .ok (none, rest)
    else found (.stray c) rest

/-- The lexemes of a text from a place on. -/
def lexFrom (d : Dialect) (place : Position) (previous : Option Token) (spaced : Bool) :
    List Char → Except (String × Position) (List Lexeme)
  | [] => .ok []
  | c :: tail =>
    let behind (suffix : List Char) : Position :=
      place.afterAll ((c :: tail).take (tail.length + 1 - suffix.length))
    match scan d previous c tail with
    | .error stop => .error (stop.reason, behind stop.rest)
    | .ok (token, rest) =>
      if _ : rest.length < tail.length + 1 then
        match token with
        | none => lexFrom d (behind rest) none true rest
        | some t =>
          (lexFrom d (behind rest) (some t) false rest).map (⟨t, place, spaced⟩ :: ·)
      else .ok []
termination_by cs => cs.length

end Lexer

/-- The lexemes of a text. -/
def lex (d : Dialect) (text : String) : Except (String × Position) (List Lexeme) :=
  Lexer.lexFrom d .start none false text.toList

end QueryFlow.Sql
