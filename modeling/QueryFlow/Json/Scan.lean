import QueryFlow.Json.Flaw

/-!
# Reading JSON

A reader takes the rest of the text and gives a value and what follows it. Flaws are raised either
*here*, at the place reached, or at the *next* character, which is then counted in. Which of the two
it is is part of every reader, because the columns of flaws are.

* `string` — what a string stands for, after its opening quote;
* `number` — an integer of 64 bits, or a double;
* `skipValue` — passes over any value without building it.

## Numbers

A number is read digit by digit, as long as 64 bits hold what has been read. Further digits of the
whole part are counted and not read, and digits of the fraction that no longer fit are dropped. What
has been read becomes a double, which is then multiplied or divided by a power of ten that is a
double as well. So a number is rounded more than once, and a numeral of many digits need not become
the double that is nearest to it: what comes out is what this way of reading gives.

## Values that are passed over

A field that nothing asks for is still looked at, since it must be a value. `skipOpen` keeps a stack
of open brackets in place of recursion, so a value may be nested as deep as the text is long; every
step takes a character or closes the first value, hence the fuel of twice the length. Strings that
are passed over need not have their surrogates paired, unlike strings that are read.

That strings and whole numbers are read as they were written is proved in `Proofs.Json.Written`.
-/

namespace QueryFlow.Json

/-- A reader of a value. -/
abbrev Scan (α : Type) := List Char → Except Flaw (α × List Char)

/-- The number of bytes of a text. -/
def byteSize (cs : List Char) : Nat := cs.foldl (fun n c => n + c.utf8Size) 0

/-- A flaw at the place reached. -/
def flawHere (cause : Cause) (rest : List Char) : Flaw := ⟨cause, byteSize rest⟩

/-- A flaw at the next byte, which is counted in. -/
def flawNext (cause : Cause) (rest : List Char) : Flaw := ⟨cause, byteSize rest - 1⟩

/-- White space between the parts of a value. -/
def isGap (c : Char) : Bool := c == ' ' || c == '\t' || c == '\n' || c == '\r'

/-- What follows white space. -/
def skipGap (cs : List Char) : List Char := cs.dropWhile isGap

/-! ### Literal names -/

/-- Passes over the rest of a literal name. -/
def name : (expected : List Char) → Scan Unit
  | [], rest => .ok ((), rest)
  | _ :: _, [] => .error (flawHere .endInValue [])
  | e :: expected, c :: rest =>
    if c == e then name expected rest else .error ⟨.nameExpected, byteSize (c :: rest) - 1⟩

/-! ### Strings -/

/-- The value of a hexadecimal digit. -/
def hexValue? (c : Char) : Option Nat :=
  if c.isDigit then some (c.toNat - 48)
  else if 'a' ≤ c && c ≤ 'f' then some (c.toNat - 87)
  else if 'A' ≤ c && c ≤ 'F' then some (c.toNat - 55)
  else none

/-- Four hexadecimal digits. -/
def hexEscape (cs : List Char) : Except Flaw (Nat × List Char) :=
  match cs with
  | a :: b :: c :: d :: rest =>
    match hexValue? a, hexValue? b, hexValue? c, hexValue? d with
    | some a, some b, some c, some d => .ok (((a * 16 + b) * 16 + c) * 16 + d, rest)
    | _, _, _, _ => .error (tooShort cs)
  | cs => .error (tooShort cs)
where
  /-- Four bytes are read before they are looked at. -/
  tooShort (cs : List Char) : Flaw :=
    if byteSize cs < 4 then ⟨.endInString, 0⟩ else ⟨.badEscape, byteSize cs - 4⟩

/-- The character that a backslash and this character stand for. -/
def shortEscape? (c : Char) : Option Char :=
  if c == '"' || c == '\\' || c == '/' then some c
  else if c == 'b' then some '\x08'
  else if c == 'f' then some '\x0c'
  else if c == 'n' then some '\n'
  else if c == 'r' then some '\r'
  else if c == 't' then some '\t'
  else none

/-- The character that the hexadecimal escape after `\u` stands for. Characters outside the basic
plane are written as a pair of surrogates. -/
def unicodeEscape (cs : List Char) : Except Flaw (Char × List Char) := do
  let (n, rest) ← hexEscape cs
  if 0xDC00 ≤ n && n ≤ 0xDFFF then .error (flawHere .loneSurrogate rest)
  else if n < 0xD800 || 0xDBFF < n then .ok (Char.ofNat n, rest)
  else
    match rest with
    | [] => .error (flawHere .endInString [])
    | '\\' :: [] => .error (flawHere .endInString [])
    | '\\' :: 'u' :: rest =>
      let (m, rest) ← hexEscape rest
      if m < 0xDC00 || 0xDFFF < m then .error (flawHere .loneSurrogate rest)
      else .ok (Char.ofNat ((n - 0xD800) * 0x400 + (m - 0xDC00) + 0x10000), rest)
    | '\\' :: rest => .error (flawNext .surrogateExpected rest)
    | rest => .error (flawNext .surrogateExpected rest)

/-- One escape, after its backslash. -/
def escape (cs : List Char) : Except Flaw (Char × List Char) :=
  match cs with
  | [] => .error (flawHere .endInString [])
  | 'u' :: rest => unicodeEscape rest
  | c :: rest =>
    match shortEscape? c with
    | some meant => .ok (meant, rest)
    | none => .error ⟨.badEscape, byteSize cs - 1⟩

/-- The characters of a string and what follows its closing quote, within `fuel` characters. Every
character takes at least one, so the length of the text is enough. -/
def stringChars : (fuel : Nat) → Scan (List Char)
  | _, [] => .error (flawHere .endInString [])
  | 0, rest => .error (flawHere .endInString rest)
  | fuel + 1, c :: rest =>
    if c == '"' then .ok ([], rest)
    else if c == '\\' then
      match escape rest with
      | .error f => .error f
      | .ok (meant, rest) =>
        match stringChars fuel rest with
        | .error f => .error f
        | .ok (more, rest) => .ok (meant :: more, rest)
    else if c.toNat < 32 then .error (flawHere .controlCharacter rest)
    else
      match stringChars fuel rest with
      | .error f => .error f
      | .ok (more, rest) => .ok (c :: more, rest)

/-- What a string stands for, after its opening quote. -/
def string (cs : List Char) : Except Flaw (String × List Char) :=
  match stringChars (cs.length + 1) cs with
  | .error f => .error f
  | .ok (chars, rest) => .ok (String.ofList chars, rest)

/-- Passes over a string after its opening quote, within `fuel` characters. Surrogates need not be
paired. -/
def skipStringChars : (fuel : Nat) → List Char → Except Flaw (List Char)
  | _, [] => .error (flawHere .endInString [])
  | 0, rest => .error (flawHere .endInString rest)
  | fuel + 1, c :: rest =>
    if c == '"' then .ok rest
    else if c == '\\' then
      match rest with
      | [] => .error (flawHere .endInString [])
      | 'u' :: rest =>
        match hexEscape rest with
        | .error f => .error f
        | .ok (_, rest) => skipStringChars fuel rest
      | e :: behind =>
        if (shortEscape? e).isSome then skipStringChars fuel behind
        else .error ⟨.badEscape, byteSize rest - 1⟩
    else if c.toNat < 32 then .error (flawHere .controlCharacter (c :: rest))
    else skipStringChars fuel rest

/-- Passes over a string after its opening quote. -/
def skipString (cs : List Char) : Except Flaw (List Char) := skipStringChars (cs.length + 1) cs

/-! ### Numbers -/

/-- A number as it is written: an integer of 64 bits, or else a double. -/
inductive Number
  | natural (n : Nat)
  | negative (n : Nat)
  | float (x : Binary64)
deriving DecidableEq

/-- The kind of a number. -/
def Number.kind : Number → Kind
  | .natural n => .integer n
  | .negative n => .integer (-(n : Int))
  | .float x => .float x

/-- The first integer that 64 bits do not hold. Digits that would reach it are only counted. -/
def wordLimit : Nat := 18446744073709551616

/-- The digit at the front, if there is one. -/
def digit? : List Char → Option (Nat × List Char)
  | [] => none
  | c :: rest => if c.isDigit then some (c.toNat - 48, rest) else none

/-- The double with a sign and a magnitude. -/
def signed (positive : Bool) (x : Binary64) : Binary64 :=
  if positive then x else ⟨x.bits ^^^ 0x8000000000000000⟩

/-- Scales a significand by a power of ten, by one multiplication or by divisions through at most
`10 ^ 308` at a time. -/
def scale (rest : List Char) : (fuel : Nat) → Binary64 → Int → Except Flaw Binary64
  | 0, x, _ => .ok x
  | fuel + 1, x, exponent =>
    if exponent.natAbs ≤ 308 then
      if 0 ≤ exponent then
        let product := x.mul (Binary64.ofRatio false (Decimal.tens exponent.toNat) 1)
        match product.decode with
        | .infinite _ => .error (flawHere .numberTooLarge rest)
        | _ => .ok product
      else .ok (x.div (Binary64.ofRatio false (Decimal.tens (-exponent).toNat) 1))
    else if x.bits == 0 then .ok x
    else if 0 ≤ exponent then .error (flawHere .numberTooLarge rest)
    else scale rest fuel (x.div (Binary64.ofRatio false (Decimal.tens 308) 1)) (exponent + 308)

/-- A double from its significand and power of ten. -/
def float (positive : Bool) (significand : Nat) (exponent : Int) : Scan Number := fun rest =>
  match scale rest 8 (Binary64.ofRatio false significand 1) exponent with
  | .error f => .error f
  | .ok x => .ok (.float (signed positive x), rest)

/-- The largest exponent that is counted. -/
def exponentLimit : Nat := 2147483647

/-- The digits of an exponent. An exponent too large to count makes zero of a number that is zero or
tends to it, and is a flaw otherwise. -/
def exponentDigits (positive : Bool) (significand : Nat) (start : Int) (grows : Bool) :
    (exponent : Nat) → Scan Number
  | exponent, [] => finish exponent []
  | exponent, c :: rest =>
    if c.isDigit then
      let next := exponent * 10 + (c.toNat - 48)
      if exponentLimit < next then
        if significand != 0 && grows then .error (flawHere .numberTooLarge rest)
        else .ok (.float (signed positive ⟨0⟩), rest.dropWhile Char.isDigit)
      else exponentDigits positive significand start grows next rest
    else finish exponent (c :: rest)
where
  /-- The number, once its exponent is known. -/
  finish (exponent : Nat) : Scan Number := fun rest =>
    float positive significand (if grows then start + exponent else start - exponent) rest

/-- The exponent of a number, after its letter. -/
def exponentPart (positive : Bool) (significand : Nat) (start : Int) : Scan Number := fun cs =>
  let (grows, cs) := match cs with
    | '+' :: rest => (true, rest)
    | '-' :: rest => (false, rest)
    | rest => (true, rest)
  match cs with
  | [] => .error (flawHere .endInValue [])
  | c :: rest =>
    if c.isDigit then exponentDigits positive significand start grows (c.toNat - 48) rest
    else .error ⟨.badNumber, byteSize cs - 1⟩

/-- The end of a number whose significand is complete. -/
def afterSignificand (positive : Bool) (significand : Nat) (exponent : Int) : Scan Number := fun cs =>
  match cs with
  | 'e' :: rest => exponentPart positive significand exponent rest
  | 'E' :: rest => exponentPart positive significand exponent rest
  | rest => float positive significand exponent rest

/-- The digits behind the point. Digits that no longer fit into the significand are passed over. -/
def fractionDigits (positive : Bool) (start : Int) : (significand places : Nat) → Scan Number
  | significand, places, [] =>
    if places == 0 then .error (flawNext .endInValue [])
    else afterSignificand positive significand (start - places) []
  | significand, places, c :: rest =>
    if c.isDigit then
      let next := significand * 10 + (c.toNat - 48)
      if wordLimit ≤ next then
        afterSignificand positive significand (start - places)
          ((c :: rest).dropWhile Char.isDigit)
      else fractionDigits positive start next (places + 1) rest
    else if places == 0 then .error (flawNext .badNumber (c :: rest))
    else afterSignificand positive significand (start - places) (c :: rest)

/-- A number whose whole part does not fit into 64 bits: the further digits only count. -/
def longInteger (positive : Bool) (significand : Nat) : (passed : Nat) → Scan Number
  | passed, [] => float positive significand passed []
  | passed, c :: rest =>
    if c.isDigit then longInteger positive significand (passed + 1) rest
    else if c == '.' then fractionDigits positive passed significand 0 rest
    else afterSignificand positive significand passed (c :: rest)

/-- The end of a number whose whole part is complete. -/
def afterWhole (positive : Bool) (significand : Nat) : Scan Number := fun cs =>
  match cs with
  | '.' :: rest => fractionDigits positive 0 significand 0 rest
  | 'e' :: rest => exponentPart positive significand 0 rest
  | 'E' :: rest => exponentPart positive significand 0 rest
  | rest =>
    if positive then .ok (.natural significand, rest)
    else if significand == 0 || 9223372036854775808 < significand then
      .ok (.float (signed false (Binary64.ofRatio false significand 1)), rest)
    else .ok (.negative significand, rest)

/-- The digits of the whole part after the first. -/
def wholeDigits (positive : Bool) : (significand : Nat) → Scan Number
  | significand, [] => afterWhole positive significand []
  | significand, c :: rest =>
    if c.isDigit then
      let next := significand * 10 + (c.toNat - 48)
      if wordLimit ≤ next then longInteger positive significand 0 (c :: rest)
      else wholeDigits positive next rest
    else afterWhole positive significand (c :: rest)

/-- A number after its sign. A leading zero stands alone. -/
def unsigned (positive : Bool) : Scan Number := fun cs =>
  match cs with
  | [] => .error (flawHere .endInValue [])
  | '0' :: rest =>
    if (digit? rest).isSome then .error (flawNext .badNumber rest)
    else afterWhole positive 0 rest
  | c :: rest =>
    if c.isDigit then wholeDigits positive (c.toNat - 48) rest
    else .error ⟨.badNumber, byteSize cs - 1⟩

/-- A number. -/
def number : Scan Number := fun cs =>
  match cs with
  | '-' :: rest => unsigned false rest
  | rest => unsigned true rest

/-- Passes over the exponent of a number, after its letter. -/
def skipExponent (cs : List Char) : Except Flaw (List Char) :=
  let cs := match cs with
    | '+' :: rest => rest
    | '-' :: rest => rest
    | rest => rest
  match digit? cs with
  | some (_, rest) => .ok (rest.dropWhile Char.isDigit)
  | none => .error ⟨.badNumber, byteSize cs - 1⟩

/-- Passes over an optional exponent. -/
def skipExponent? (cs : List Char) : Except Flaw (List Char) :=
  match cs with
  | 'e' :: rest => skipExponent rest
  | 'E' :: rest => skipExponent rest
  | rest => .ok rest

/-- Passes over a number after its sign. -/
def skipUnsigned (cs : List Char) : Except Flaw (List Char) :=
  match cs with
  | [] => .error (flawHere .badNumber [])
  | '0' :: rest =>
    if (digit? rest).isSome then .error (flawNext .badNumber rest) else afterDigits rest
  | c :: rest =>
    if c.isDigit then afterDigits (rest.dropWhile Char.isDigit)
    else .error ⟨.badNumber, byteSize cs - 1⟩
where
  /-- Passes over an optional fraction and exponent. -/
  afterDigits (cs : List Char) : Except Flaw (List Char) :=
    match cs with
    | '.' :: rest =>
      match digit? rest with
      | some (_, rest) => skipExponent? (rest.dropWhile Char.isDigit)
      | none => .error (flawNext .badNumber rest)
    | rest => skipExponent? rest

/-! ### Passing over values -/

/-- An open bracket. -/
inductive Bracket
  | list
  | object
deriving DecidableEq

/-- What the passing reader waits for. -/
inductive Due
  /-- A value. -/
  | value
  /-- A comma, or the end of the innermost bracket. The first part after an opening bracket needs no
  comma. -/
  | next (first : Bool)
deriving DecidableEq

/-- Passes over a key and its colon, if the innermost bracket is an object. -/
def skipKey (bracket : Bracket) (cs : List Char) : Except Flaw (List Char) :=
  match bracket with
  | .list => .ok cs
  | .object =>
    match skipGap cs with
    | '"' :: rest =>
      match skipString rest with
      | .error f => .error f
      | .ok rest =>
        match skipGap rest with
        | ':' :: rest => .ok rest
        | [] => .error (flawNext .endInObject [])
        | rest => .error (flawNext .colonExpected rest)
    | [] => .error (flawNext .endInObject [])
    | rest => .error (flawNext .keyExpected rest)

/-- Passes over one value that is no bracket, if there is one. -/
def skipSimple (cs : List Char) : Except Flaw (List Char) :=
  match cs with
  | 'n' :: rest => (name ['u', 'l', 'l'] rest).map (·.2)
  | 't' :: rest => (name ['r', 'u', 'e'] rest).map (·.2)
  | 'f' :: rest => (name ['a', 'l', 's', 'e'] rest).map (·.2)
  | '-' :: rest => skipUnsigned rest
  | '"' :: rest => skipString rest
  | [] => .error (flawNext .endInValue [])
  | c :: rest =>
    if c.isDigit then skipUnsigned (c :: rest) else .error (flawNext .valueExpected (c :: rest))

/-- Passes over a value and everything up to the end of the open brackets `stack`, within `fuel`
steps. -/
def skipOpen : (fuel : Nat) → List Bracket → Due → List Char → Except Flaw (List Char)
  | 0, _, _, cs => .error (flawNext .endInValue cs)
  | fuel + 1, stack, .value, cs =>
    match skipGap cs with
    | '[' :: rest => skipOpen fuel (.list :: stack) (.next true) rest
    | '\x7b' :: rest => skipOpen fuel (.object :: stack) (.next true) rest
    | rest =>
      match skipSimple rest with
      | .error f => .error f
      | .ok rest => skipOpen fuel stack (.next false) rest
  | _ + 1, [], .next _, cs => .ok cs
  | fuel + 1, bracket :: stack, .next first, cs =>
    match bracket, skipGap cs with
    | .list, ']' :: rest => skipOpen fuel stack (.next false) rest
    | .object, '\x7d' :: rest => skipOpen fuel stack (.next false) rest
    | .list, [] => .error (flawNext .endInList [])
    | .object, [] => .error (flawNext .endInObject [])
    | bracket, c :: rest =>
      if first then
        match skipKey bracket (c :: rest) with
        | .error f => .error f
        | .ok rest => skipOpen fuel (bracket :: stack) .value rest
      else if c == ',' then
        match skipKey bracket rest with
        | .error f => .error f
        | .ok rest => skipOpen fuel (bracket :: stack) .value rest
      else
        .error (flawNext (match bracket with
          | .list => .listEndExpected
          | .object => .objectEndExpected) (c :: rest))

/-- Passes over a value. -/
def skipValue (cs : List Char) : Except Flaw (List Char) :=
  skipOpen (2 * cs.length + 2) [] .value cs

end QueryFlow.Json
