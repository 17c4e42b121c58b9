/-!
# Quoted texts

Inside single quotes a single quote is written twice.

* `quote` — the written body of a text;
* `unquote` — reads pairs of quotes back as one, from left to right;
* `quotedBody k` — matches the body of a quoted text and its closing quote. The longest body comes
  first, so a pair of quotes belongs to the body unless the rest of the pattern fails there.

A body ends at a quote that is not doubled, unless the rest of the pattern fails behind it. If it
does, the match goes back to a pair of quotes and takes the first one for the closing quote; what
follows then starts with the second. A pattern that can go on with a quote may therefore find
another body than the one that was written, and whoever reads with `quotedBody` has to say what
stands behind the closing quote.

Main statement: `unquote_quote`, reading undoes writing.
-/

namespace QueryFlow.Text

variable {α : Type}

/-- The written body of a text: each single quote is doubled. -/
def quote : List Char → List Char
  | [] => []
  | c :: rest => if c == '\'' then '\'' :: '\'' :: quote rest else c :: quote rest

/-- Reads each pair of single quotes as one single quote. -/
def unquote : List Char → List Char
  | [] => []
  | '\'' :: '\'' :: rest => '\'' :: unquote rest
  | c :: rest => c :: unquote rest

/-- Matches the body of a quoted text and the quote that closes it, the longest body first, and
goes on with `k`, given the body as written and what follows the closing quote. -/
def quotedBody (k : List Char → List Char → Option α) : List Char → Option α
  | [] => none
  | '\'' :: '\'' :: rest =>
    match quotedBody (fun body => k ('\'' :: '\'' :: body)) rest with
    | some answer => some answer
    | none => k [] ('\'' :: rest)
  | '\'' :: rest => k [] rest
  | c :: rest => quotedBody (fun body => k (c :: body)) rest

/-- **Reading undoes writing.** -/
theorem unquote_quote (cs : List Char) : unquote (quote cs) = cs := by
  induction cs with
  | nil => rfl
  | cons c rest ih =>
    by_cases h : c = '\''
    · simp [quote, unquote, h, ih]
    · simp [quote, unquote, h, ih]

end QueryFlow.Text
