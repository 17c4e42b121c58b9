import QueryFlow.Sql.Dialect
import QueryFlow.Sql.Token
import QueryFlow.Text.Blank

/-!
# Texts and quoted names

Readers for what stands between quotes. Each takes the characters behind the opening quote and
answers with the body and with what follows the closing quote, or with nothing if the quote is never
closed.

* `quoted` — a quote inside is written twice, and a backslash may escape;
* `tripled` — three quotes in a row close;
* `escaped` — backslashes name characters by their codes as well;
* `codePoints` — a backslash is followed by the number of a character;
* `dollarBody` — everything up to the mark that opened it.

All of them recurse on the characters. Where a code takes several characters at once, the number of
characters that are still to be passed over is an argument, so the recursion stays structural. What
stands behind a backslash differs between the readers, and so does what a code must not be: zero is
no character, and codes of bytes stop at ASCII.
-/

namespace QueryFlow.Sql

open QueryFlow.Text

/-- The character that a letter behind a backslash stands for. -/
def escapedChar (c : Char) : Char :=
  if c == '0' then '\x00'
  else if c == 'a' then '\x07'
  else if c == 'b' then '\x08'
  else if c == 'f' then '\x0c'
  else if c == 'n' then '\n'
  else if c == 'r' then '\r'
  else if c == 't' then '\t'
  else if c == 'Z' then '\x1a'
  else c

/-- The body of a text up to its closing quote. Where `escapes` holds, a backslash escapes the
character behind it; where `keepsWildcards` holds, it stays before a wildcard. -/
def quoted (quote : Char) (escapes keepsWildcards : Bool) :
    List Char → Option (List Char × List Char)
  | [] => none
  | c :: rest =>
    if c == quote then
      match rest with
      | d :: rest' =>
        if d == quote then
          (quoted quote escapes keepsWildcards rest').map fun (body, rest) => (c :: body, rest)
        else some ([], d :: rest')
      | [] => some ([], [])
    else if c == '\\' && escapes then
      match rest with
      | [] => none
      | d :: rest' =>
        (quoted quote escapes keepsWildcards rest').map fun (body, rest) =>
          if keepsWildcards && (d == '%' || d == '_') then (c :: d :: body, rest)
          else (escapedChar d :: body, rest)
    else (quoted quote escapes keepsWildcards rest).map fun (body, rest) => (c :: body, rest)

/-- The body of a text up to three quotes in a row, of which `run` stand directly before. -/
def tripled (quote : Char) (escapes : Bool) (run : Nat) :
    List Char → Option (List Char × List Char)
  | [] => none
  | c :: rest =>
    if c == quote then
      if run = 2 then some ([], rest)
      else (tripled quote escapes (run + 1) rest).map fun (body, rest) => (c :: body, rest)
    else if c == '\\' && escapes then
      match rest with
      | [] => none
      | d :: rest' =>
        (tripled quote escapes 0 rest').map fun (body, rest) => (escapedChar d :: body, rest)
    else (tripled quote escapes 0 rest).map fun (body, rest) => (c :: body, rest)

/-- The value of a digit in base sixteen. -/
def hexValue? (c : Char) : Option Nat :=
  if c.isDigit then some (c.toNat - 48)
  else if 'a' ≤ c && c ≤ 'f' then some (c.toNat - 87)
  else if 'A' ≤ c && c ≤ 'F' then some (c.toNat - 55)
  else none

/-- The character of a code point, unless it is zero or no character. -/
def charOf? (n : Nat) : Option Char :=
  if n = 0 then none else if n.isValidChar then some (Char.ofNat n) else none

/-- The number that `count` digits in base sixteen write. -/
def hexNumber? (count : Nat) (cs : List Char) : Option Nat :=
  let digits := (cs.take count).filterMap hexValue?
  if digits.length = count then some (digits.foldl (fun n d => n * 16 + d) 0) else none

/-- The number that up to `count` digits of a base write. -/
def shortNumber (base count : Nat) (cs : List Char) : Nat × Nat :=
  let digits := ((cs.take count).map hexValue?).takeWhile fun d => d.any (· < base)
  (digits.length, digits.foldl (fun n d => n * base + d.getD 0) 0)

/-- The character that stands behind a backslash, and how many characters write it. -/
def codedChar? : List Char → Option (Char × Nat)
  | [] => none
  | c :: rest =>
    if c == 'b' then some ('\x08', 1)
    else if c == 'f' then some ('\x0c', 1)
    else if c == 'n' then some ('\n', 1)
    else if c == 'r' then some ('\r', 1)
    else if c == 't' then some ('\t', 1)
    else if c == 'u' then ((hexNumber? 4 rest).bind charOf?).map (·, 5)
    else if c == 'U' then ((hexNumber? 8 rest).bind charOf?).map (·, 9)
    else if c == 'x' then
      let (count, n) := shortNumber 16 2 rest
      if count = 0 then some ('x', 1)
      else if n < 128 then (charOf? n).map (·, count + 1) else none
    else if '0' ≤ c && c ≤ '7' then
      let (count, n) := shortNumber 8 3 (c :: rest)
      if n < 128 then (charOf? n).map (·, count) else none
    else if c == '\x00' then none
    else some (c, 1)

/-- The body of a text in which backslashes name characters; `skip` characters have been read
already as part of a name. -/
def escaped (skip : Nat) : List Char → Option (List Char × List Char)
  | [] => none
  | c :: rest =>
    if skip ≠ 0 then escaped (skip - 1) rest
    else if c == '\'' then
      match rest with
      | d :: rest' =>
        if d == '\'' then (escaped 0 rest').map fun (body, rest) => (c :: body, rest)
        else some ([], d :: rest')
      | [] => some ([], [])
    else if c == '\\' then
      (codedChar? rest).bind fun (d, count) =>
        (escaped count rest).map fun (body, rest) => (d :: body, rest)
    else (escaped 0 rest).map fun (body, rest) => (c :: body, rest)

/-- The body of a text in which a backslash is followed by a code point in four digits, or by a
plus sign and six digits. -/
def codePoints (skip : Nat) : List Char → Option (List Char × List Char)
  | [] => none
  | c :: rest =>
    if skip ≠ 0 then codePoints (skip - 1) rest
    else if c == '\'' then
      match rest with
      | d :: rest' =>
        if d == '\'' then (codePoints 0 rest').map fun (body, rest) => (c :: body, rest)
        else some ([], d :: rest')
      | [] => some ([], [])
    else if c == '\\' then
      let point : Option (Char × Nat) :=
        match rest with
        | d :: more =>
          if d == '\\' then some ('\\', 1)
          else if d == '+' then ((hexNumber? 6 more).bind charOf?).map (·, 7)
          else ((hexNumber? 4 rest).bind charOf?).map (·, 4)
        | [] => none
      point.bind fun (d, count) =>
        (codePoints count rest).map fun (body, rest) => (d :: body, rest)
    else (codePoints 0 rest).map fun (body, rest) => (c :: body, rest)

/-- The body of a quoted name; the closing quote is written twice inside. -/
def quotedName (closing : Char) (cs : List Char) : Option (List Char × List Char) :=
  quoted closing false false cs

/-- Everything before the first `t`, and what follows it. -/
def dollarBody (t : List Char) : List Char → Option (List Char × List Char)
  | [] => none
  | c :: rest =>
    if t.isPrefixOf (c :: rest) then some ([], (c :: rest).drop t.length)
    else (dollarBody t rest).map fun (body, rest) => (c :: body, rest)

end QueryFlow.Sql
