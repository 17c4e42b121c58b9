import Mathlib.Tactic.SplitIfs

/-!
# The bytes of a text

A text has the bytes of its characters, one behind the other. A character of ASCII is one byte, and
this byte is part of no other character: the bytes of a longer character all lie from 128 on. So a
stream can be cut at the byte of the line feed before anything is decoded, and the pieces of the
bytes of a text are the bytes of texts.

Which text some bytes are of is determined by the bytes, and reading them gives that text.

## Main results

* `toList_toUTF8`: the bytes of a text are those of its characters.
* `notMem_utf8EncodeChar`: the byte of the line feed stands for nothing else.
* `fromUTF8?_eq_some_iff`: bytes are read as the text that they are of.
-/

namespace QueryFlow.Text

theorem toList_loop (bytes : ByteArray) (i : Nat) (before : List UInt8) :
    ByteArray.toList.loop bytes i before = before.reverse ++ bytes.data.toList.drop i := by
  fun_induction ByteArray.toList.loop bytes i before with
  | case1 i before inside ih =>
      have bound : i < bytes.data.toList.length := by simpa using inside
      rw [ih, List.drop_eq_getElem_cons bound]
      simp [ByteArray.get!, inside]
  | case2 i before outside => simpa using outside

/-- **The bytes of a text are those of its characters**, one behind the other. -/
theorem toList_toUTF8 (text : String) :
    text.toUTF8.toList = text.toList.flatMap String.utf8EncodeChar := by
  rw [String.toUTF8_eq_toByteArray, ← String.utf8Encode_toList, ByteArray.toList, toList_loop]
  simp [List.utf8Encode]

/-- **The byte of the line feed stands for nothing else.** -/
theorem notMem_utf8EncodeChar {c : Char} (other : c ≠ '\n') : 10 ∉ String.utf8EncodeChar c := by
  have value : c.val.toNat ≠ 10 := fun same => other (Char.ext (UInt32.toNat.inj same))
  have byte (n : Nat) : 10 = UInt8.ofNat n ↔ 10 = n % 256 := by
    rw [← UInt8.toNat_inj]
    rfl
  rw [String.utf8EncodeChar]
  split_ifs <;> simp only [List.mem_cons, List.not_mem_nil, or_false, byte] <;> omega

/-- **Bytes are read as the text that they are of.** -/
theorem fromUTF8?_eq_some_iff {bytes : ByteArray} {text : String} :
    String.fromUTF8? bytes = some text ↔ bytes = text.toUTF8 := by
  rw [String.fromUTF8?, String.toUTF8_eq_toByteArray]
  split
  · rw [Option.some.injEq, ← String.toByteArray_inj]
    rfl
  · next invalid =>
    refine iff_of_false (by simp) ?_
    rintro rfl
    exact invalid text.isValidUTF8

/-- The bytes of characters are read as their text. -/
theorem fromUTF8?_flatMap (cs : List Char) :
    String.fromUTF8? ⟨(cs.flatMap String.utf8EncodeChar).toArray⟩ = some (String.ofList cs) := by
  rw [fromUTF8?_eq_some_iff, String.toUTF8_eq_toByteArray]
  refine ByteArray.ext (Array.toList_inj.1 ?_)
  simp [List.utf8Encode]

end QueryFlow.Text
