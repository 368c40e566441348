/-
Bytes read as text, come what may.

Bytes that are no UTF-8 still have to be shown. Every well-formed
character stands for itself. Elsewhere the longest stretch that could
have begun a character, or else a single byte, becomes one replacement
character, and reading goes on behind it.
-/
import SchemaClasses.Text.Cut

namespace SchemaClasses.Text

/-- The character shown for bytes that make none. -/
def replacement : Char := '\uFFFD'

/-- The second bytes that may follow a first byte, and how many bytes follow it in all. -/
def following (first : UInt8) : Option ((UInt8 × UInt8) × Nat) :=
  if 0xC2 ≤ first ∧ first ≤ 0xDF then some ((0x80, 0xBF), 1)
  else if first = 0xE0 then some ((0xA0, 0xBF), 2)
  else if first = 0xED then some ((0x80, 0x9F), 2)
  else if 0xE1 ≤ first ∧ first ≤ 0xEF then some ((0x80, 0xBF), 2)
  else if first = 0xF0 then some ((0x90, 0xBF), 3)
  else if first = 0xF4 then some ((0x80, 0x8F), 3)
  else if 0xF1 ≤ first ∧ first ≤ 0xF3 then some ((0x80, 0xBF), 3)
  else none

/-- The bits that a first byte with so many bytes after it contributes. -/
def leadingBits (first : UInt8) (count : Nat) : Nat := first.toNat % Nat.pow 2 (6 - count)

/--
Reads the bytes after a first one: `count` are still to come, the next of them within `range`, and
`code` is what has been read. Gives the character, or the replacement where the bytes break off.
-/
def continueChar (range : UInt8 × UInt8) (code : Nat) : Nat → List UInt8 → Char × List UInt8
  | 0, bytes => (Char.ofNat code, bytes)
  | _ + 1, [] => (replacement, [])
  | count + 1, byte :: rest =>
    if range.1 ≤ byte ∧ byte ≤ range.2 then
      continueChar (0x80, 0xBF) (64 * code + byte.toNat % 64) count rest
    else (replacement, byte :: rest)

theorem length_continueChar_le (range : UInt8 × UInt8) (code count : Nat) (bytes : List UInt8) :
    (continueChar range code count bytes).2.length ≤ bytes.length := by
  fun_induction continueChar range code count bytes with
  | case3 _ _ _ _ _ _ ih => simp only [List.length_cons]; omega
  | _ => simp

/-- The next character, put in front of those before it. -/
def cutChar (chars : List Char) : (bytes : List UInt8) → Option (Cut bytes (List Char))
  | [] => none
  | first :: rest =>
    if first < 0x80 then some ⟨Char.ofNat first.toNat :: chars, rest, by simp⟩
    else
      match following first with
      | none => some ⟨replacement :: chars, rest, by simp⟩
      | some (range, count) =>
        let read := continueChar range (leadingBits first count) count rest
        some ⟨read.1 :: chars, read.2, Nat.lt_succ_of_le (length_continueChar_le ..)⟩

/-- The text that bytes are shown as. -/
def ofBytes (bytes : ByteArray) : String :=
  match String.fromUTF8? bytes with
  | some text => text
  | none => String.ofList ((readPieces cutChar [] bytes.toList).getD []).reverse

end SchemaClasses.Text
