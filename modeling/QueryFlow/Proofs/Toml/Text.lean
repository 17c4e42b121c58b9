import Mathlib.Tactic.SplitIfs
import QueryFlow.Proofs.Toml.Scan
import QueryFlow.Toml.Text

/-!
# Texts in TOML are read as they were written

A text is written in one of four forms, and the form depends on what is in it. Whatever form that
is, the text is read back, if no quote follows it.

## How the proof goes

Between double quotes every character is written in one of three ways: as an escape, as itself, or
as a quote that stands as itself because only a few of them stand side by side. `escapedTail_cons`
says so, and every statement about texts between double quotes goes by induction on the characters
with these three cases. Which escape a character has matters only to `exists_escape`, which is a
check of the characters below 256.

A text in three quotes is read quote run by quote run, and a run is longer than what one step of the
writer adds. It is enough for that if the text is a `Body`: a list of stretches that are read as one
character each and do not start with the quote, and of runs of at most two quotes, where the number
of quotes just passed is an index of the relation. The reader is followed along a body in
`longUpTo_of_body`, for either kind of quote, with the quotes that have just been passed put in
front. What is written in either of the two long forms is such a body: with escapes because the
writer counts the quotes, and without them because the longest run of quotes was measured before.

Last, the forms have to be told apart by the reader: two quotes that are followed by a third one
start a long form, and a text in short quotes does not begin with its own quote.

## Main results

* `exists_escape`: an escape is read as the character that it was written for.
* `basic_escapedTail`: a text between two double quotes.
* `long_of_body`, `body_escapedTail`, `body_of_longestRun`: a text in three quotes of either kind.
* `read_write`: **every text is read as it was written.**
-/

namespace QueryFlow.Toml.Text

open Scan

variable {c d : Char} {cs rest : List Char}

/-! ### Escapes -/

/-- A digit in base sixteen has the value that it was written for. -/
theorem hexValue?_hexDigit {n : Nat} (small : n < 16) : hexValue? (hexDigit n) = some n := by
  have all : ∀ n < 16, hexValue? (hexDigit n) = some n := by decide +kernel
  exact all n small

/-- A character below 256 is named by two digits behind two zeros. -/
theorem namedChar_hexDigits (low : c.toNat < 256) (tail : List Char) :
    namedChar 4 ('0' :: '0' :: hexDigit (c.toNat / 16) :: hexDigit (c.toNat % 16) :: tail)
      = some (c, tail) := by
  have zero : hexValue? '0' = some 0 := by decide +kernel
  have first := hexValue?_hexDigit (n := c.toNat / 16) (by omega)
  have second := hexValue?_hexDigit (n := c.toNat % 16) (Nat.mod_lt _ (by decide))
  have number : hexNumber? ['0', '0', hexDigit (c.toNat / 16), hexDigit (c.toNat % 16)]
      = some c.toNat := by
    simp [hexNumber?, zero, first, second, Nat.div_add_mod]
  have valid : c.toNat.isValidChar := c.valid
  simp [namedChar, number, valid]

/-- What stands behind the backslash of the escape of a character. -/
structure Escapes (c : Char) (code : List Char) : Prop where
  /-- It is read as the character. -/
  escape_eq : ∀ tail, escape (code ++ tail) = some (c, tail)
  /-- No end of a line is hidden by it. -/
  hiddenBreak_eq : ∀ tail, hiddenBreak (code ++ tail) = none

/-- A backslash hides the end of a line only if that follows it, or a blank. -/
theorem hiddenBreak_of_head (other : isLineBlank d = false ∧ d ≠ '\n' ∧ d ≠ '\r') :
    hiddenBreak (d :: cs) = none := by
  obtain ⟨blank, line, mark⟩ := other
  simp only [hiddenBreak, bind_apply, blanks_of_head blank, newline_of_ne line mark,
    Option.bind_some, Option.bind_none]

/-- **An escape is read as the character that it was written for.** -/
theorem exists_escape (low : c.toNat < 256) :
    ∃ code, escaped c = '\\' :: code ∧ Escapes c code := by
  have named (letter : Char) (other : isLineBlank letter = false ∧ letter ≠ '\n' ∧ letter ≠ '\r')
      (read : ∀ tail, escape (letter :: tail) = some (c, tail)) : Escapes c [letter] :=
    ⟨read, fun _ => hiddenBreak_of_head other⟩
  unfold escaped
  split_ifs with h h h h h h h
  case neg =>
    exact ⟨_, rfl, namedChar_hexDigits low, fun _ => hiddenBreak_of_head (by decide)⟩
  all_goals
    subst h
    exact ⟨_, rfl, named _ (by decide) fun _ => rfl⟩

/-! ### Between two double quotes -/

/-- The characters that need an escape are control characters, so two digits write them. -/
theorem toNat_lt_of_needsEscape (escape : needsEscape c = true) : c.toNat < 256 := by
  simp only [needsEscape, Bool.and_eq_true, Bool.or_eq_true, decide_eq_true_eq,
    beq_iff_eq] at escape
  omega

/-- A character that needs no escape is the end of a line, or can be seen. -/
theorem isVisible_of_not_needsEscape (plain : needsEscape c = false) (line : c ≠ '\n') :
    isVisible c = true := by
  simp only [needsEscape, isVisible] at *
  by_cases tab : c = '\t'
  · simp [tab]
  · simp [tab, line] at plain ⊢
    exact plain

/-- **The ways to write a character between double quotes**: as a quote of a few, as an escape, and
as itself. -/
theorem escapedTail_cons (quotes : Nat) (breaks : Bool) (run : Nat) (c : Char) (cs : List Char) :
    (c = '"' ∧ run < quotes
        ∧ escapedTail quotes breaks run (c :: cs) = c :: escapedTail quotes breaks (run + 1) cs)
      ∨ (∃ code, Escapes c code
        ∧ escapedTail quotes breaks run (c :: cs) = '\\' :: code ++ escapedTail quotes breaks 0 cs)
      ∨ (c ≠ '"' ∧ c ≠ '\\' ∧ (isVisible c = true ∨ c = '\n' ∧ breaks = true)
        ∧ escapedTail quotes breaks run (c :: cs) = c :: escapedTail quotes breaks 0 cs) := by
  have byEscape (low : c.toNat < 256)
      (here : escapedTail quotes breaks run (c :: cs)
        = escaped c ++ escapedTail quotes breaks 0 cs) :
      ∃ code, Escapes c code
        ∧ escapedTail quotes breaks run (c :: cs)
          = '\\' :: code ++ escapedTail quotes breaks 0 cs := by
    obtain ⟨code, written, escapes⟩ := exists_escape low
    exact ⟨code, escapes, by rw [here, written]⟩
  by_cases quote : c = '"'
  · subst quote
    by_cases few : run < quotes
    · exact .inl ⟨rfl, few, by simp [escapedTail, few]⟩
    · exact .inr (.inl (byEscape (by decide) (by simp [escapedTail, few])))
  · by_cases other : (c = '\\' || c == '\t' || needsEscape c || (c == '\n' && !breaks)) = true
    · refine .inr (.inl (byEscape ?_ (by simp only [escapedTail, quote, if_false, other, if_true])))
      simp only [Bool.or_eq_true, Bool.and_eq_true, decide_eq_true_eq, beq_iff_eq] at other
      rcases other with ((rfl | rfl) | escape) | ⟨rfl, -⟩
      · decide
      · decide
      · exact toNat_lt_of_needsEscape escape
      · decide
    · refine .inr (.inr ⟨quote, ?_, ?_, by simp only [escapedTail, quote, if_false, other]; rfl⟩)
      · rintro rfl
        simp at other
      · simp only [Bool.or_eq_true, Bool.and_eq_true, decide_eq_true_eq, beq_iff_eq, not_or,
          not_and, Bool.not_eq_true] at other
        obtain ⟨⟨-, plain⟩, broken⟩ := other
        by_cases line : c = '\n'
        · exact .inr ⟨line, by simpa using broken line⟩
        · exact .inl (isVisible_of_not_needsEscape plain line)

/-- A character that can be seen stands for itself, unless it is a quote or starts an escape. -/
theorem basicChar_of_isVisible (quote : c ≠ '"') (slash : c ≠ '\\') (visible : isVisible c = true) :
    basicChar (c :: rest) = some (some c, rest) := by
  simp [basicChar, bind_apply, visible]

/-- An escape between two double quotes is read as its character. -/
theorem basicChar_escape {code : List Char} (escapes : Escapes c code) :
    basicChar ('\\' :: (code ++ rest)) = some (some c, rest) := by
  have read := escapes.escape_eq rest
  simp [basicChar, bind_apply, read]

/-- The characters between two double quotes are read one by one. By induction on them, for any fuel
that is enough. -/
theorem manyUpTo_basicChar (cs rest : List Char) {fuel : Nat} (enough : cs.length < fuel) :
    manyUpTo basicChar fuel (escapedTail 0 false 0 cs ++ '"' :: rest) = some (cs, '"' :: rest) := by
  obtain ⟨fuel, rfl⟩ := Nat.exists_eq_add_one_of_ne_zero (Nat.ne_zero_of_lt enough)
  induction cs generalizing fuel with
  | nil => exact manyUpTo_of_none rfl
  | cons c cs ih =>
      obtain ⟨fuel, rfl⟩ := Nat.exists_eq_add_one_of_ne_zero
        (Nat.ne_zero_of_lt (Nat.lt_of_succ_lt_succ enough))
      have more := ih fuel (Nat.lt_of_succ_lt_succ enough)
      -- no quote stands as itself here
      obtain ⟨-, few, -⟩ | ⟨code, escapes, written⟩ | ⟨quote, slash, plain, written⟩ :=
        escapedTail_cons 0 false 0 c cs
      · exact absurd few (Nat.not_lt_zero _)
      · rw [written, List.append_assoc, List.cons_append,
          manyUpTo_of_some (basicChar_escape escapes), more]
        rfl
      · have visible : isVisible c = true := by simpa using plain
        rw [written, List.cons_append,
          manyUpTo_of_some (basicChar_of_isVisible quote slash visible), more]
        rfl

/-- At most as many characters as are written are meant. -/
theorem length_le_escapedTail (quotes : Nat) (breaks : Bool) (cs : List Char) :
    ∀ run, cs.length ≤ (escapedTail quotes breaks run cs).length := by
  induction cs with
  | nil => exact fun _ => Nat.le_refl _
  | cons c cs ih =>
      intro run
      obtain ⟨-, -, written⟩ | ⟨code, -, written⟩ | ⟨-, -, -, written⟩ :=
        escapedTail_cons quotes breaks run c cs
      · simpa [written] using ih (run + 1)
      · have := ih 0
        simp only [written, List.length_append, List.length_cons]
        omega
      · simpa [written] using ih 0

/-- **A text between two double quotes is read as it was written.** -/
theorem basic_escapedTail (cs rest : List Char) :
    basic (escapedTail 0 false 0 cs ++ '"' :: rest) = some (cs, rest) := by
  have enough : cs.length < (escapedTail 0 false 0 cs ++ '"' :: rest).length + 1 := by
    have := length_le_escapedTail 0 false cs 0
    rw [List.length_append]
    omega
  have body := manyUpTo_basicChar cs rest enough
  simp only [basic, many, bind_apply, get_apply, Option.bind_some, body, exactly_cons, pure_apply]

/-- **A text between two single quotes is read as it was written**, if all of it can be seen and
none of it is such a quote. -/
theorem literal_append (plain : ∀ c ∈ cs, isVisible c = true ∧ c ≠ '\'') (rest : List Char) :
    literal (cs ++ '\'' :: rest) = some (cs, rest) := by
  have run : spanOf (fun c => isVisible c && c != '\'') (cs ++ '\'' :: rest)
      = some (cs, '\'' :: rest) :=
    spanOf_append (fun c member => by simp [plain c member]) (by simp)
  simp [literal, bind_apply, run]

/-! ### In three quotes -/

section Long

variable {quote : Char} {char : Scan (List Char)}

/-- What may stand in three quotes, and what it means, where `run` quotes have just been passed:
quotes of which at most two stand side by side, and stretches that do not start with the quote and
are read as one character each. -/
inductive Body (quote : Char) (char : Scan (List Char)) : Nat → List Char → List Char → Prop
  | done {run : Nat} : Body quote char run [] []
  | quote {run : Nat} {written meant : List Char} (few : run < 2)
      (more : Body quote char (run + 1) written meant) :
      Body quote char run (quote :: written) (quote :: meant)
  | char {run : Nat} {first c : Char} {others written meant : List Char} (apart : first ≠ quote)
      (reads : ∀ tail, char (first :: (others ++ tail)) = some ([c], tail))
      (more : Body quote char 0 written meant) :
      Body quote char run (first :: (others ++ written)) (c :: meant)

/-- Fewer than three quotes belong to the text. -/
theorem quoteRun_of_lt {run : Nat} (few : run < 3) (apart : ∀ c, rest.head? = some c → c ≠ quote) :
    quoteRun quote (List.replicate run quote ++ rest)
      = some ((List.replicate run quote, false), rest) := by
  have passed : spanOf (· == quote) (List.replicate run quote ++ rest)
      = some (List.replicate run quote, rest) :=
    spanOf_append (by simp) (by simpa using apart)
  simp [quoteRun, bind_apply, passed, few]

/-- Three quotes and at most two in front of them end the text. -/
theorem quoteRun_of_le {run : Nat} (few : run ≤ 2) (apart : ∀ c, rest.head? = some c → c ≠ quote) :
    quoteRun quote (List.replicate run quote ++ quote :: quote :: quote :: rest)
      = some ((List.replicate run quote, true), rest) := by
  have text : List.replicate run quote ++ quote :: quote :: quote :: rest
      = List.replicate (run + 3) quote ++ rest := by
    rw [List.replicate_add, List.append_assoc]
    rfl
  have passed : spanOf (· == quote) (List.replicate (run + 3) quote ++ rest)
      = some (List.replicate (run + 3) quote, rest) :=
    spanOf_append (by simp) (by simpa using apart)
  have own : min run 2 = run := Nat.min_eq_left few
  have many : ¬ run + 3 < 3 := by omega
  rw [text]
  simp only [quoteRun, bind_apply, passed, Option.bind_some, List.length_replicate, many, if_false,
    Nat.add_sub_cancel, own, Nat.sub_self, List.replicate_zero, List.nil_append]
  rfl

/-- Quotes in three of them are passed as a run. -/
theorem longUpTo_quote (starts : cs.head? = some quote) (fuel : Nat) :
    longUpTo quote char (fuel + 1) cs
      = (quoteRun quote cs).bind fun read =>
        if read.1.2 then some (read.1.1, read.2)
        else (longUpTo quote char fuel read.2).map fun more => (read.1.1 ++ more.1, more.2) := by
  obtain ⟨rest, rfl⟩ := List.head?_eq_some_iff.1 starts
  simp only [longUpTo, bind_apply, peek_cons, Option.bind_some, beq_self_eq_true, if_true]
  congr 1
  funext ⟨⟨own, ends⟩, left⟩
  cases ends <;> simp

/-- A character that is not the quote is read as such. -/
theorem longUpTo_char (apart : d ≠ quote) {read tail : List Char}
    (reads : char (d :: rest) = some (read, tail)) (fuel : Nat) :
    longUpTo quote char (fuel + 1) (d :: rest)
      = (longUpTo quote char fuel tail).map fun more => (read ++ more.1, more.2) := by
  simp [longUpTo, bind_apply, apart, reads]

/-- **What stands in three quotes is read** quote run by quote run and character by character. The
quotes that have just been passed are read with what follows them. -/
theorem longUpTo_of_body {run : Nat} {written meant : List Char}
    (body : Body quote char run written meant) (few : run ≤ 2)
    (apart : ∀ c, rest.head? = some c → c ≠ quote) {fuel : Nat}
    (enough : run + written.length < fuel) :
    longUpTo quote char fuel
        (List.replicate run quote ++ (written ++ quote :: quote :: quote :: rest))
      = some (List.replicate run quote ++ meant, rest) := by
  induction body generalizing fuel with
  | @done run =>
      obtain ⟨fuel, rfl⟩ := Nat.exists_eq_add_one_of_ne_zero (Nat.ne_zero_of_lt enough)
      have starts : (List.replicate run quote ++ quote :: quote :: quote :: rest).head?
          = some quote := by
        cases run <;> rfl
      rw [List.nil_append, longUpTo_quote starts, quoteRun_of_le few apart]
      simp
  | @quote run written meant few' more ih =>
      have enough : run + 1 + written.length < fuel := by
        rw [List.length_cons] at enough
        omega
      have longer := ih (by omega) enough
      simpa only [List.replicate_succ', List.append_assoc, List.cons_append,
        List.nil_append] using longer
  | @char run first c others written meant distinct reads more ih =>
      -- the stretch is read, and then what is behind it
      have behind (fuel : Nat) (enough : written.length < fuel) :
          longUpTo quote char (fuel + 1)
              (first :: (others ++ (written ++ quote :: quote :: quote :: rest)))
            = some (c :: meant, rest) := by
        have here := reads (written ++ quote :: quote :: quote :: rest)
        have enough : 0 + written.length < fuel := by omega
        have there := ih (Nat.zero_le _) enough
        rw [List.replicate_zero, List.nil_append] at there
        rw [longUpTo_char distinct here, there]
        rfl
      simp only [List.length_append, List.length_cons] at enough
      rw [List.cons_append, List.append_assoc]
      cases run with
      | zero =>
          obtain ⟨fuel, rfl⟩ := Nat.exists_eq_add_one_of_ne_zero (Nat.ne_zero_of_lt enough)
          exact behind fuel (by omega)
      | succ run =>
          obtain ⟨fuel, rfl⟩ : ∃ n, fuel = n + 2 := ⟨fuel - 2, by omega⟩
          rw [longUpTo_quote rfl, quoteRun_of_lt (by omega) (by simpa using distinct),
            Option.bind_some, if_neg Bool.false_ne_true, behind fuel (by omega)]
          rfl

/-- **A text in three quotes is read** if it is a body, behind the end of the line that they open.
If they open none, the text must not start with one. -/
theorem long_of_body {written meant : List Char} (body : Body quote char 0 written meant)
    (apart : ∀ c, rest.head? = some c → c ≠ quote) (other : quote ≠ '\n' ∧ quote ≠ '\r')
    (broken : Bool) (starts : broken = false → ∀ c, written.head? = some c → c ≠ '\n' ∧ c ≠ '\r') :
    long quote char
        ((if broken then ['\n'] else []) ++ (written ++ quote :: quote :: quote :: rest))
      = some (meant, rest) := by
  have inside : longUpTo quote char ((written ++ quote :: quote :: quote :: rest).length + 1)
      (written ++ quote :: quote :: quote :: rest) = some (meant, rest) := by
    have enough : 0 + written.length < (written ++ quote :: quote :: quote :: rest).length + 1 := by
      rw [List.length_append]
      omega
    simpa using longUpTo_of_body body (Nat.zero_le _) apart enough
  have opened : attempt newline ((if broken then ['\n'] else [])
      ++ (written ++ quote :: quote :: quote :: rest))
        = some (if broken then some () else none, written ++ quote :: quote :: quote :: rest) := by
    cases broken with
    | true => exact attempt_of_some newline_cons
    | false =>
        refine attempt_of_none ?_
        cases written with
        | nil => exact newline_of_ne other.1 other.2
        | cons c written =>
            obtain ⟨line, mark⟩ := starts rfl c rfl
            exact newline_of_ne line mark
  simp only [long, bind_apply, opened, Option.bind_some, get_apply, inside]

end Long

/-- An escape in three double quotes is read as its character, and hides no end of a line. -/
theorem longBasicChar_escape {code : List Char} (escapes : Escapes c code) :
    longBasicChar ('\\' :: (code ++ rest)) = some ([c], rest) := by
  have none := attempt_of_none (escapes.hiddenBreak_eq rest)
  have read := escapes.escape_eq rest
  simp [longBasicChar, bind_apply, none, read]

/-- Between single quotes a character stands for itself if it can be seen or ends a line. -/
theorem longLiteralChar_self (plain : isVisible c = true ∨ c = '\n') :
    longLiteralChar (c :: rest) = some ([c], rest) := by
  by_cases line : c = '\n'
  · subst line
    rfl
  · have visible := plain.resolve_right line
    have mark : c ≠ '\r' := by
      rintro rfl
      exact absurd visible (by decide)
    simp [longLiteralChar, bind_apply, visible]

/-- What starts no escape is read in the same way between double quotes. -/
theorem longBasicChar_of_ne (slash : c ≠ '\\') :
    longBasicChar (c :: rest) = longLiteralChar (c :: rest) := by
  simp only [longBasicChar, longLiteralChar, bind_apply, next_cons, Option.bind_some]
  split
  · exact absurd rfl slash
  · rfl
  · rfl
  · next line mark => simp

/-- **Every text can stand in three double quotes**, as it is written there. By induction on the
text, in the three cases of `escapedTail_cons`. -/
theorem body_escapedTail (cs : List Char) :
    ∀ run, Body '"' longBasicChar run (escapedTail 2 true run cs) cs := by
  induction cs with
  | nil => exact fun _ => .done
  | cons c cs ih =>
      intro run
      obtain ⟨rfl, few, written⟩ | ⟨code, escapes, written⟩ | ⟨quote, slash, plain, written⟩ :=
        escapedTail_cons 2 true run c cs
      · rw [written]
        exact .quote few (ih (run + 1))
      · rw [written, List.cons_append]
        exact .char (by decide) (fun _ => longBasicChar_escape escapes) (ih 0)
      · rw [written]
        have self (tail : List Char) : longBasicChar (c :: ([] ++ tail)) = some ([c], tail) :=
          (longBasicChar_of_ne slash).trans (longLiteralChar_self (plain.imp_right And.left))
        exact .char quote self (ih 0)

/-- The longest run is at least as long as the one that has just been passed. -/
theorem le_longestRun (c : Char) (cs : List Char) : ∀ run, run ≤ longestRun c run cs := by
  induction cs with
  | nil => exact fun _ => Nat.le_refl _
  | cons d cs ih =>
      intro run
      by_cases same : d = c
      · rw [longestRun, if_pos same]
        exact Nat.le_of_succ_le (ih (run + 1))
      · rw [longestRun, if_neg same]
        exact Nat.le_max_left ..

/-- **A text can stand in three single quotes as it is**, if none of it needs an escape and at most
two such quotes stand side by side. -/
theorem body_of_longestRun (plain : ∀ c ∈ cs, needsEscape c = false) :
    ∀ run, longestRun '\'' run cs ≤ 2 → Body '\'' longLiteralChar run cs cs := by
  induction cs with
  | nil => exact fun _ _ => .done
  | cons c cs ih =>
      have ih := ih fun d member => plain d (List.mem_cons_of_mem _ member)
      intro run few
      by_cases quote : c = '\''
      · subst quote
        rw [longestRun, if_pos rfl] at few
        exact .quote (Nat.le_trans (le_longestRun _ cs (run + 1)) few) (ih (run + 1) few)
      · rw [longestRun, if_neg quote] at few
        have self (tail : List Char) : longLiteralChar (c :: ([] ++ tail)) = some ([c], tail) := by
          by_cases line : c = '\n'
          · exact longLiteralChar_self (.inr line)
          · exact longLiteralChar_self
              (.inl (isVisible_of_not_needsEscape (plain c List.mem_cons_self) line))
        exact .char quote self (ih 0 (Nat.le_trans (Nat.le_max_right ..) few))

/-! ### Every form -/

/-- A text that does not start with three quotes is on one line. -/
theorem read_eq_readShort {quote : Char} (isQuote : quote = '"' ∨ quote = '\'')
    (apart : ¬ [quote, quote] <+: cs) : read (quote :: cs) = readShort (quote :: cs) := by
  have fails (other : Char) : attempt (phrase [other, other, other]) (quote :: cs)
      = some (none, quote :: cs) := by
    refine attempt_of_none ?_
    have noPrefix : ¬ [other, other, other] <+: quote :: cs := by
      rintro starts
      obtain ⟨rfl, behind⟩ := List.cons_prefix_cons.1 starts
      exact apart behind
    simp [phrase, noPrefix]
  simp only [read, bind_apply, fails, Option.bind_some]

/-- Three double quotes start a text over several lines. -/
theorem read_longBasic : read ('"' :: '"' :: '"' :: cs)
    = (long '"' longBasicChar cs).map fun read => (String.ofList read.1, read.2) := by
  have opens : attempt (phrase ['"', '"', '"']) ('"' :: '"' :: '"' :: cs) = some (some (), cs) :=
    attempt_of_some (phrase_append ['"', '"', '"'] cs)
  simp [read, bind_apply, opens]

/-- Three single quotes start a text over several lines. -/
theorem read_longLiteral : read ('\'' :: '\'' :: '\'' :: cs)
    = (long '\'' longLiteralChar cs).map fun read => (String.ofList read.1, read.2) := by
  have other : attempt (phrase ['"', '"', '"']) ('\'' :: '\'' :: '\'' :: cs)
      = some (none, '\'' :: '\'' :: '\'' :: cs) := rfl
  have opens : attempt (phrase ['\'', '\'', '\'']) ('\'' :: '\'' :: '\'' :: cs)
      = some (some (), cs) :=
    attempt_of_some (phrase_append ['\'', '\'', '\''] cs)
  simp [read, bind_apply, other, opens]

/-- Two quotes do not stand side by side where one of them ends a text that does not start with it.
-/
theorem not_prefix_of_head {quote : Char} {body : List Char}
    (starts : ∀ c, body.head? = some c → c ≠ quote) (apart : ∀ c, rest.head? = some c → c ≠ quote) :
    ¬ [quote, quote] <+: body ++ quote :: rest := by
  intro pair
  cases body with
  | nil =>
      obtain ⟨-, next⟩ := List.cons_prefix_cons.1 pair
      obtain ⟨behind, rfl⟩ := next
      exact apart quote rfl rfl
  | cons c body => exact starts c rfl (List.cons_prefix_cons.1 pair).1.symm

/-- No quote stands as itself in front of what is written between two double quotes. -/
theorem head_escapedTail_ne (cs : List Char) :
    ∀ c, (escapedTail 0 false 0 cs).head? = some c → c ≠ '"' := by
  cases cs with
  | nil => simp [escapedTail]
  | cons c cs =>
      obtain ⟨-, few, -⟩ | ⟨code, -, written⟩ | ⟨quote, -, -, written⟩ :=
        escapedTail_cons 0 false 0 c cs
      · exact absurd few (Nat.not_lt_zero _)
      · simp [written]
      · simp [written, quote]

/-- A character is not in a text of which no run is longer than none. -/
theorem notMem_of_longestRun (none : longestRun c 0 cs = 0) : c ∉ cs := by
  induction cs with
  | nil => exact List.not_mem_nil
  | cons d cs ih =>
      by_cases same : d = c
      · rw [longestRun, if_pos same] at none
        have := le_longestRun c cs (0 + 1)
        omega
      · rw [longestRun, if_neg same] at none
        rw [List.mem_cons, not_or]
        exact ⟨fun h => same h.symm, ih (by omega)⟩

/-- A text is written between two single quotes only if all of it can be seen and none of it is such
a quote. -/
theorem plain_of_formOf_eq_literal (form : formOf cs = .literal) :
    ∀ c ∈ cs, isVisible c = true ∧ c ≠ '\'' := by
  unfold formOf at form
  dsimp only at form
  split_ifs at form with _ here
  obtain ⟨⟨noEscape, none⟩, unbroken⟩ : ((∀ c ∈ cs, needsEscape c = false)
      ∧ longestRun '\'' 0 cs = 0) ∧ '\n' ∉ cs := by simpa using here
  intro c member
  refine ⟨isVisible_of_not_needsEscape (noEscape c member) ?_, ?_⟩
  · rintro rfl
    exact unbroken member
  · rintro rfl
    exact notMem_of_longestRun none member

/-- A text is written in three single quotes only if none of it needs an escape and at most two such
quotes stand side by side. -/
theorem plain_of_formOf_eq_longLiteral (form : formOf cs = .longLiteral) :
    (∀ c ∈ cs, needsEscape c = false) ∧ longestRun '\'' 0 cs ≤ 2 := by
  unfold formOf at form
  dsimp only at form
  split_ifs at form with _ _ _ here
  simpa using here

/-- What is written in three double quotes starts with the end of a line only if the text has one.
-/
theorem head_escapedTail (unbroken : '\n' ∉ cs) :
    ∀ c, (escapedTail 2 true 0 cs).head? = some c → c ≠ '\n' ∧ c ≠ '\r' := by
  cases cs with
  | nil => simp [escapedTail]
  | cons c cs =>
      obtain ⟨rfl, -, written⟩ | ⟨code, -, written⟩ | ⟨-, -, plain, written⟩ :=
        escapedTail_cons 2 true 0 c cs
      · simp [written]
      · simp [written]
      · have line : c ≠ '\n' := fun same => unbroken (by simp [same])
        have visible := plain.resolve_right fun broken => line broken.1
        have mark : c ≠ '\r' := by
          rintro rfl
          exact absurd visible (by decide)
        simp [written, line, mark]

/-- **Every text is read as it was written**, if no quote follows it. By cases on the form that the
text is written in. -/
theorem read_write (s : String) (apart : ∀ c, rest.head? = some c → c ≠ '"' ∧ c ≠ '\'') :
    read ((write s).toList ++ rest) = some (s, rest) := by
  have double (c : Char) (found : rest.head? = some c) : c ≠ '"' := (apart c found).1
  have single (c : Char) (found : rest.head? = some c) : c ≠ '\'' := (apart c found).2
  -- a text over several lines starts on a line of its own if it has more than one
  have unbroken (starts : s.toList.contains '\n' = false) : '\n' ∉ s.toList := by simpa using starts
  have opening : (if '\n' ∈ s.toList then "\n" else "").toList
      = if '\n' ∈ s.toList then ['\n'] else [] := by
    split <;> rfl
  cases form : formOf s.toList with
  | basic =>
      have body := basic_escapedTail s.toList rest
      have apart := not_prefix_of_head (head_escapedTail_ne s.toList) double
      have text : (write s).toList ++ rest
          = '"' :: (escapedTail 0 false 0 s.toList ++ '"' :: rest) := by
        simp [write, form, Form.quotes, bodyOf]
      rw [text, read_eq_readShort (.inl rfl) apart]
      simp [readShort, bind_apply, body]
  | literal =>
      have plain := plain_of_formOf_eq_literal form
      have body := literal_append plain rest
      have apart := not_prefix_of_head
        (fun c found => (plain c (List.mem_of_mem_head? found)).2) single
      have text : (write s).toList ++ rest = '\'' :: (s.toList ++ '\'' :: rest) := by
        simp [write, form, Form.quotes, bodyOf]
      rw [text, read_eq_readShort (.inr rfl) apart]
      simp [readShort, bind_apply, body]
  | longBasic =>
      have body := long_of_body (body_escapedTail s.toList 0) double (by decide)
        (s.toList.contains '\n') fun starts => head_escapedTail (unbroken starts)
      have text : (write s).toList ++ rest = '"' :: '"' :: '"' ::
          ((if s.toList.contains '\n' then ['\n'] else [])
            ++ (escapedTail 2 true 0 s.toList ++ '"' :: '"' :: '"' :: rest)) := by
        simp [write, form, Form.quotes, bodyOf, opening]
      rw [text, read_longBasic, body]
      simp
  | longLiteral =>
      obtain ⟨plain, few⟩ := plain_of_formOf_eq_longLiteral form
      have body := long_of_body (body_of_longestRun plain 0 few) single (by decide)
        (s.toList.contains '\n') fun starts c found => ?_
      have text : (write s).toList ++ rest = '\'' :: '\'' :: '\'' ::
          ((if s.toList.contains '\n' then ['\n'] else [])
            ++ (s.toList ++ '\'' :: '\'' :: '\'' :: rest)) := by
        simp [write, form, Form.quotes, bodyOf, opening]
      · rw [text, read_longLiteral, body]
        simp
      · have member := List.mem_of_mem_head? found
        refine ⟨?_, ?_⟩
        · rintro rfl
          exact unbroken starts member
        · rintro rfl
          exact absurd (plain _ member) (by decide)

end QueryFlow.Toml.Text
