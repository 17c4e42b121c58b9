/-!
# Lines of a stream

A stream of bytes falls into lines at each line feed. A line keeps its line end; a last line without
one is a line too, unless it is empty. The bytes of a line need not be a text.

One function cuts bytes and characters alike, `splitBehind`, which cuts a list behind each element
equal to a mark. How much of its end a line loses depends on who reads it: a slow log gives up all
line feeds and carriage returns (`trimLineEnd`), a history log only the line feed and one carriage
return in front of it (`dropLineFeed`).

Main statement: `flatten_splitBehind`, cutting loses nothing.
-/

namespace QueryFlow.Log

/-- A line with its line end, or `none` where the bytes are no text. Such a line is met only when it
is read, so that the lines before it are read as usual. -/
abbrev PhysicalLine := Option String

/-- What stands behind a mark is shorter than the list. -/
theorem length_behind_lt {α : Type} {p : α → Bool} {xs behind : List α} {found : α}
    (cut : xs.dropWhile p = found :: behind) : behind.length < xs.length := by
  have := (List.dropWhile_sublist p (l := xs)).length_le
  rw [cut, List.length_cons] at this
  omega

/-- Cuts a list behind each element equal to `mark`. No piece is empty, and only the last one may be
without a mark. -/
def splitBehind {α : Type} [BEq α] (mark : α) (xs : List α) : List (List α) :=
  match xs with
  | [] => []
  | x :: rest =>
    let line := (x :: rest).takeWhile (· != mark)
    match _ : (x :: rest).dropWhile (· != mark) with
    | [] => [line]
    | found :: behind =>
      (line ++ [found]) :: splitBehind mark behind
termination_by xs.length
decreasing_by exact length_behind_lt (by assumption)

/-- The lines of a text. -/
def splitLines (s : String) : List PhysicalLine :=
  (splitBehind '\n' s.toList).map fun line => some (String.ofList line)

/-- The lines of a stream of bytes, each of them as a text if its bytes are one. -/
def splitByteLines (bytes : ByteArray) : List PhysicalLine :=
  (splitBehind (10 : UInt8) bytes.toList).map fun line => String.fromUTF8? ⟨line.toArray⟩

/-- **Cutting loses nothing.** -/
theorem flatten_splitBehind {α : Type} [BEq α] (mark : α) (xs : List α) :
    (splitBehind mark xs).flatten = xs := by
  fun_induction splitBehind mark xs with
  | case1 => rfl
  | case2 x rest line h =>
    have := List.takeWhile_append_dropWhile (p := (· != mark)) (l := x :: rest)
    simpa [line, h] using this
  | case3 x rest line found behind h ih =>
    have := List.takeWhile_append_dropWhile (p := (· != mark)) (l := x :: rest)
    simpa [line, h, ih] using this

/-- A character that ends a line or belongs to its end. -/
def isLineEnd (c : Char) : Bool := c == '\n' || c == '\r'

/-- The line without the line feeds and carriage returns at its end. -/
def trimLineEnd (s : String) : String :=
  String.ofList (s.toList.reverse.dropWhile isLineEnd).reverse

/-- The line without its line feed and one carriage return in front of it. -/
def dropLineFeed (s : String) : String :=
  match s.toList.reverse with
  | '\n' :: '\r' :: rest => String.ofList rest.reverse
  | '\n' :: rest => String.ofList rest.reverse
  | _ => s

end QueryFlow.Log
