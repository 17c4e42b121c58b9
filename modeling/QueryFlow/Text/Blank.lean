/-!
# White space

White space is the Unicode property `White_Space`; trimming removes it from both ends of a text. The
property has few characters and has not changed in a long time, so that it is written out and needs
no table.

This is the white space of lines and names. The grammars of documents have a narrower one of their
own, since only some of these characters may stand between their parts.

Main statement: `trimStart_eq_self_iff`, a text is its own left trimming exactly when it does not
start with white space.
-/

namespace QueryFlow.Text

/-- A character with the property `White_Space`: tab, line feed and the three behind it, the space,
and the others from `U+0080` on. -/
def isBlank (c : Char) : Bool :=
  let n := c.toNat
  (9 ≤ n && n ≤ 13) || n == 32 || n == 0x85 || n == 0xA0 || n == 0x1680 ||
  (0x2000 ≤ n && n ≤ 0x200A) || n == 0x2028 || n == 0x2029 || n == 0x202F || n == 0x205F ||
  n == 0x3000

/-- Removes leading white space. -/
def trimStart (cs : List Char) : List Char := cs.dropWhile isBlank

/-- Removes trailing white space. -/
def trimEnd (cs : List Char) : List Char := (cs.reverse.dropWhile isBlank).reverse

/-- Removes white space from both ends. -/
def trimChars (cs : List Char) : List Char := trimEnd (trimStart cs)

/-- Removes white space from both ends of a text. -/
def trim (s : String) : String := String.ofList (trimChars s.toList)

/-- Nothing but white space. -/
def isBlankText (s : String) : Bool := s.toList.all isBlank

theorem dropWhile_eq_self_iff_head (p : Char → Bool) (cs : List Char) :
    cs.dropWhile p = cs ↔ ∀ c, cs.head? = some c → p c = false := by
  cases cs with
  | nil => simp
  | cons c rest =>
    simp only [List.dropWhile_cons, List.head?_cons, Option.some.injEq, forall_eq']
    by_cases h : p c = true
    · simp only [h, if_true, Bool.true_eq_false, iff_false]
      intro same
      have := congrArg List.length same
      have := (List.dropWhile_sublist p (l := rest)).length_le
      simp at *
      omega
    · simp [h]

/-- **A text is its own left trimming exactly when it does not start with white space.** -/
theorem trimStart_eq_self_iff (cs : List Char) :
    trimStart cs = cs ↔ ∀ c, cs.head? = some c → isBlank c = false :=
  dropWhile_eq_self_iff_head isBlank cs

end QueryFlow.Text
