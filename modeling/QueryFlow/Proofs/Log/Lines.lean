import Mathlib.Data.List.Forall2
import Mathlib.Data.List.TakeWhile
import QueryFlow.Proofs.Log.Transcript
import QueryFlow.Proofs.Text.Utf8

/-!
# The lines of a stream

A stream is cut behind each line feed, and what stands behind the last one is a line if there is
something. A line loses all line feeds and carriage returns at its end.

## What a text has as its lines

The lines of a text are described without the function that cuts it. `CutBehind` says when some
pieces are what a list is cut into: each of them ends with its only mark, except for a last one that
has none and is not empty. There is exactly one way to cut a list, which is shown by induction on
the description in one direction and by the recursion of the function in the other. `HasLines` adds
how a piece loses its end.

## Bytes and characters

The bytes of a text fall into lines as its characters do: a line feed is one byte, and this byte is
part of no other character. So each line of the bytes of a text is a text. The argument is about any
list whose elements are written as lists of others: such a list is cut as what it is written with,
if the mark is written with one mark and nothing else contains it (`CutBehind.flatMap`).

## Main results

* `cutBehind_splitBehind` and `CutBehind.eq_splitBehind`: there is one way to cut a list.
* `splitByteLines_toUTF8`: the lines of the bytes of a text are those of the text.
* `hasLines_linesOf` and `HasLines.eq_linesOf`: a text has the lines of `linesOf`, and no others.
-/

namespace QueryFlow.Log

open QueryFlow.Text

/-! ### Cutting -/

/-- A list is cut into pieces: each one ends with its only mark, except for a last one that has
none. -/
inductive CutBehind {α : Type} (mark : α) : List α → List (List α) → Prop
  | nil : CutBehind mark [] []
  | last (line : List α) (nonempty : line ≠ []) (unmarked : mark ∉ line) :
      CutBehind mark line [line]
  | cons (line : List α) (unmarked : mark ∉ line) {rest : List α} {pieces : List (List α)}
      (behind : CutBehind mark rest pieces) :
      CutBehind mark (line ++ mark :: rest) ((line ++ [mark]) :: pieces)

variable {α β : Type} {mark : α} {line xs : List α} {pieces : List (List α)}

section Cutting

variable [BEq α] [LawfulBEq α]

/-- A list without marks is one piece. -/
theorem splitBehind_of_unmarked (nonempty : line ≠ []) (unmarked : mark ∉ line) :
    splitBehind mark line = [line] := by
  obtain ⟨x, more, rfl⟩ := List.exists_cons_of_ne_nil nonempty
  have all : ∀ a ∈ x :: more, (a != mark) = true := fun a member =>
    bne_iff_ne.2 fun same => unmarked (same ▸ member)
  rw [splitBehind, List.takeWhile_eq_self_iff.2 all]
  split
  · rfl
  · next cut =>
    rw [List.dropWhile_eq_nil_iff.2 all] at cut
    cases cut

/-- **A list is cut in one way.** -/
theorem CutBehind.eq_splitBehind (cut : CutBehind mark xs pieces) :
    pieces = splitBehind mark xs := by
  induction cut with
  | nil => simp [splitBehind]
  | last line nonempty unmarked => rw [splitBehind_of_unmarked nonempty unmarked]
  | cons line unmarked _ ih => rw [splitBehind_append unmarked, ih]

/-- **Every list is cut.** -/
theorem cutBehind_splitBehind (mark : α) (xs : List α) :
    CutBehind mark xs (splitBehind mark xs) := by
  induction length : xs.length using Nat.strongRecOn generalizing xs with
  | ind _ ih =>
    subst length
    by_cases member : mark ∈ xs
    · obtain ⟨line, rest, rfl, unmarked⟩ := List.eq_append_cons_of_mem member
      rw [splitBehind_append unmarked]
      exact .cons line unmarked (ih rest.length (by simp; omega) rest rfl)
    · cases xs with
      | nil => simpa [splitBehind] using CutBehind.nil
      | cons x xs =>
          rw [splitBehind_of_unmarked (List.cons_ne_nil x xs) member]
          exact .last _ (List.cons_ne_nil x xs) member

end Cutting

/-- **A list is cut as what its elements are made of**, if one element only is made of the mark and
the others do not have it. -/
theorem CutBehind.flatMap {parts : α → List β} {mark' : β} (cut : CutBehind mark xs pieces)
    (nonempty : ∀ a, parts a ≠ []) (one : parts mark = [mark'])
    (other : ∀ a, a ≠ mark → mark' ∉ parts a) :
    CutBehind mark' (xs.flatMap parts) (pieces.map (List.flatMap parts)) := by
  have unmarked {line : List α} (absent : mark ∉ line) : mark' ∉ line.flatMap parts := by
    intro member
    obtain ⟨a, here, inside⟩ := List.mem_flatMap.1 member
    exact other a (fun same => absent (same ▸ here)) inside
  induction cut with
  | nil => exact .nil
  | last line some absent =>
      obtain ⟨x, more, rfl⟩ := List.exists_cons_of_ne_nil some
      exact .last _ (by simp [nonempty x]) (unmarked absent)
  | cons line absent behind ih =>
      simpa [one] using CutBehind.cons (line.flatMap parts) (unmarked absent) ih

/-- **The lines of the bytes of a text are those of the text.** -/
theorem splitByteLines_toUTF8 (text : String) : splitByteLines text.toUTF8 = splitLines text := by
  have cut := (cutBehind_splitBehind '\n' text.toList).flatMap
    (fun _ => String.utf8EncodeChar_ne_nil) (by decide) (fun _ => notMem_utf8EncodeChar)
  rw [splitByteLines, toList_toUTF8, ← cut.eq_splitBehind, List.map_map, splitLines]
  exact List.map_congr_left fun piece _ => fromUTF8?_flatMap piece

/-! ### The lines of a text -/

/-- A line is what is left of a piece of a text without all line feeds and carriage returns at its
end. -/
def IsLineOf (piece : List Char) (line : String) : Prop :=
  ∃ ending, piece = line.toList ++ ending ∧ (∀ c ∈ ending, c = '\n' ∨ c = '\r')
    ∧ ∀ c ∈ line.toList.getLast?, c ≠ '\n' ∧ c ≠ '\r'

/-- A text has these lines: it is cut behind each line feed, and each piece has its line. -/
def HasLines (text : String) (lines : List String) : Prop :=
  ∃ pieces, CutBehind '\n' text.toList pieces ∧ List.Forall₂ IsLineOf pieces lines

theorem isLineEnd_iff {c : Char} : isLineEnd c = true ↔ c = '\n' ∨ c = '\r' := by
  simp [isLineEnd]

/-- A piece has one line. -/
theorem IsLineOf.eq_trimLineEnd {piece : List Char} {line : String} (is : IsLineOf piece line) :
    line = trimLineEnd (String.ofList piece) := by
  obtain ⟨ending, rfl, ends, ended⟩ := is
  have kept : ∀ c ∈ line.toList.getLast?, isLineEnd c = false := fun c last => by
    rw [← Bool.not_eq_true, isLineEnd_iff, not_or]
    exact ended c last
  rw [trimLineEnd_append kept (fun c member => isLineEnd_iff.2 (ends c member)),
    String.ofList_toList]

/-- Every piece has a line. -/
theorem isLineOf_trimLineEnd (piece : List Char) :
    IsLineOf piece (trimLineEnd (String.ofList piece)) := by
  refine ⟨(piece.reverse.takeWhile isLineEnd).reverse, ?_, fun c member => ?_, fun c last => ?_⟩
  · rw [trimLineEnd, String.toList_ofList, String.toList_ofList, ← List.reverse_append,
      List.takeWhile_append_dropWhile, List.reverse_reverse]
  · exact isLineEnd_iff.1 (List.mem_takeWhile_imp (List.mem_reverse.1 member))
  · have stop := List.head?_dropWhile_not isLineEnd piece.reverse
    rw [trimLineEnd, String.toList_ofList, String.toList_ofList, List.getLast?_reverse] at last
    rw [Option.mem_def.1 last] at stop
    rwa [← not_or, ← isLineEnd_iff, Bool.not_eq_true]

/-- **A text has no other lines than these.** -/
theorem HasLines.eq_linesOf {text : String} {lines : List String} (has : HasLines text lines) :
    lines = linesOf text := by
  obtain ⟨pieces, cut, each⟩ := has
  rw [linesOf, ← cut.eq_splitBehind]
  clear cut
  induction each with
  | nil => rfl
  | cons is _ ih => rw [List.map_cons, ← ih, ← is.eq_trimLineEnd]

/-- **A text has these lines.** -/
theorem hasLines_linesOf (text : String) : HasLines text (linesOf text) :=
  ⟨_, cutBehind_splitBehind '\n' text.toList, List.forall₂_map_right_iff.2
    (List.forall₂_same.2 fun piece _ => isLineOf_trimLineEnd piece)⟩

end QueryFlow.Log
