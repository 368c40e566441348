/-
String literals of the generated language, as a compiler reads them.

A literal is read in the code units that the first step leaves. It ends
at the first quote that no backslash takes away. A backslash begins an
escape: a letter or a sign for one unit, or up to three octal digits for
the unit of that number. A line may not end inside.

The value of a literal is a text again once the halves of pairs are
joined, and a text without quotes, backslashes and line ends is the
value of the literal that holds it unchanged (`literal?_toList`).
-/
import Mathlib.Data.Bool.AllAny
import SchemaClasses.Json.Token
import SchemaClasses.Proofs.Lexical.UnicodeEscape
import SchemaClasses.Proofs.Text.Digits

namespace SchemaClasses.Lexical

-- ============================================================ escapes

/-- The unit that a letter or a sign after a backslash stands for. -/
def namedEscape? (unit : Nat) : Option Nat :=
  if unit = 'b'.toNat then some 0x08
  else if unit = 's'.toNat then some 0x20
  else if unit = 't'.toNat then some 0x09
  else if unit = 'n'.toNat then some 0x0A
  else if unit = 'f'.toNat then some 0x0C
  else if unit = 'r'.toNat then some 0x0D
  else if unit = '"'.toNat ∨ unit = '\''.toNat ∨ unit = '\\'.toNat then some unit
  else none

/-- The value of an octal digit. -/
def octalDigit? (unit : Nat) : Option Nat :=
  if '0'.toNat ≤ unit ∧ unit ≤ '7'.toNat then some (unit - '0'.toNat) else none

/-- The octal digits in front of a text, as many as make a number below 256. -/
def octalDigits (text : List (Option Nat)) : List Nat :=
  let digits := ((text.map (·.bind octalDigit?)).takeWhile Option.isSome).filterMap id
  digits.take (if digits.headD 0 ≤ 3 then 3 else 2)

/-- What follows a backslash: the unit that an escape stands for, and how many units write it. -/
def escape? (text : List (Option Nat)) : Option (Nat × Nat) :=
  match text.head?.join.bind namedEscape? with
  | some unit => some (unit, 1)
  | none =>
    let digits := octalDigits text
    if digits.isEmpty then none
    else some (digits.foldl (fun n digit => 8 * n + digit) 0, digits.length)

-- =========================================================== literals

/-- A literal after its opening quote: its value, and what follows its closing quote. -/
def readLiteral : List (Option Nat) → Option (List Nat × List (Option Nat))
  | [] => none
  | none :: _ => none
  | some unit :: rest =>
    if unit = '"'.toNat then some ([], rest)
    else if unit = '\n'.toNat ∨ unit = '\r'.toNat then none
    else if unit = '\\'.toNat then
      match escape? rest with
      | none => none
      | some (value, taken) =>
        (readLiteral (rest.drop taken)).map fun (more, after) => (value :: more, after)
    else (readLiteral rest).map fun (more, after) => (unit :: more, after)
termination_by text => text.length
decreasing_by
  all_goals simp only [List.length_cons, List.length_drop]; omega

/-- The text that the literal with this between its quotes stands for, if it is one literal. -/
def literal? (inside : List Char) : Option String := do
  let (value, after) ← readLiteral (translate (inside ++ ['"']))
  guard after.isEmpty
  (Json.characters value).map String.ofList

-- ================================================== pairs and characters

/-- No character is half of a pair. -/
theorem not_half (c : Char) : ¬(0xD800 ≤ c.toNat ∧ c.toNat ≤ 0xDFFF) := by
  have valid := c.valid
  simp only [UInt32.isValidChar, Nat.isValidChar] at valid
  simp only [Char.toNat]
  omega

/-- The units of a character are joined to the character again. -/
theorem characters_charUnits_append (c : Char) (rest : List Nat) :
    Json.characters (charUnits c ++ rest) = (Json.characters rest).map (c :: ·) := by
  have noHalf := not_half c
  have small := Text.toNat_lt c
  unfold charUnits
  by_cases h : c.toNat < 0x10000
  · have notLow : Json.isLowHalf c.toNat = false := by
      simp only [Json.isLowHalf, Bool.and_eq_false_iff, decide_eq_false_iff_not]
      omega
    have notHigh : Json.isHighHalf c.toNat = false := by
      simp only [Json.isHighHalf, Bool.and_eq_false_iff, decide_eq_false_iff_not]
      omega
    rw [if_pos h, List.singleton_append, Json.characters.eq_def]
    simp only [notLow, notHigh, Bool.false_eq_true, if_false, Char.ofNat_toNat]
  · have high : 0xD800 + (c.toNat - 0x10000) / 0x400 < 0xDC00 := by omega
    have low : 0xDC00 + (c.toNat - 0x10000) % 0x400 < 0xE000 := by omega
    have joined : 0x10000 + (0xD800 + (c.toNat - 0x10000) / 0x400 - 0xD800) * 0x400 +
        (0xDC00 + (c.toNat - 0x10000) % 0x400 - 0xDC00) = c.toNat := by omega
    have highNotLow : Json.isLowHalf (0xD800 + (c.toNat - 0x10000) / 0x400) = false := by
      simp only [Json.isLowHalf, Bool.and_eq_false_iff, decide_eq_false_iff_not]
      omega
    have highIsHigh : Json.isHighHalf (0xD800 + (c.toNat - 0x10000) / 0x400) = true := by
      simp only [Json.isHighHalf, Bool.and_eq_true, decide_eq_true_eq]
      omega
    have lowIsLow : Json.isLowHalf (0xDC00 + (c.toNat - 0x10000) % 0x400) = true := by
      simp only [Json.isLowHalf, Bool.and_eq_true, decide_eq_true_eq]
      omega
    rw [if_neg h, List.cons_append, List.singleton_append, Json.characters.eq_def]
    simp only [highNotLow, highIsHigh, lowIsLow, if_true, Bool.false_eq_true, if_false, joined,
      Char.ofNat_toNat]

/-- The units of a text are joined to the text again. -/
theorem characters_units (text : List Char) : Json.characters (units text) = some text := by
  induction text with
  | nil => rfl
  | cons c rest ih => rw [units_cons, characters_charUnits_append, ih, Option.map_some]

-- ===================================================== plain literals

/-- The characters that a literal cannot hold unchanged. -/
def literalSigns : List Char := ['"', '\\', '\n', '\r']

theorem ascii_of_mem_literalSigns : ∀ sign ∈ literalSigns, sign.toNat < 0x80 :=
  List.all_iff_forall_prop.1 (by decide)

/-- A unit of a character is not that of a sign, unless the character is the sign. -/
theorem ne_of_mem_charUnits {c sign : Char} (h : c ≠ sign) (ascii : sign.toNat < 0x80)
    {unit : Nat} (mem : unit ∈ charUnits c) : unit ≠ sign.toNat := by
  unfold charUnits at mem
  by_cases small : c.toNat < 0x10000
  · rw [if_pos small, List.mem_singleton] at mem
    rintro rfl
    exact h (Char.toNat_inj.1 mem.symm)
  · rw [if_neg small] at mem
    rcases List.mem_cons.1 mem with rfl | mem
    · omega
    · rw [List.mem_singleton] at mem
      omega

/-- Units that are those of no sign stand for themselves in a literal. -/
theorem readLiteral_append {front : List Nat}
    (plain : ∀ unit ∈ front, ∀ sign ∈ literalSigns, unit ≠ sign.toNat)
    (rest : List (Option Nat)) :
    readLiteral (front.map some ++ rest) =
      (readLiteral rest).map fun (more, after) => (front ++ more, after) := by
  induction front with
  | nil => simp
  | cons unit front ih =>
      have own := plain unit List.mem_cons_self
      have notQuote : unit ≠ '"'.toNat := own '"' (by decide)
      have notBackslash : unit ≠ '\\'.toNat := own '\\' (by decide)
      have notBreak : ¬(unit = '\n'.toNat ∨ unit = '\r'.toNat) := by
        rintro (eq | eq)
        · exact own '\n' (by decide) eq
        · exact own '\r' (by decide) eq
      have later := ih fun other mem => plain other (List.mem_cons_of_mem unit mem)
      rw [List.map_cons, List.cons_append, readLiteral, if_neg notQuote, if_neg notBreak,
        if_neg notBackslash, later, Option.map_map]
      rfl

/-- A text without signs is the value of the literal that holds it unchanged. -/
theorem literal?_toList {text : String} (plain : ∀ sign ∈ literalSigns, sign ∉ text.toList) :
    literal? text.toList = some text := by
  have noBackslash : '\\' ∉ text.toList ++ ['"'] := by
    rw [List.mem_append, not_or]
    exact ⟨plain '\\' (by decide), by decide⟩
  have translated : translate (text.toList ++ ['"']) =
      (units text.toList).map some ++ [some '"'.toNat] := by
    rw [translate_eq_iff.2 (not_beginsEscape_of_notMem noBackslash), units_append, List.map_append]
    rfl
  have unsigned : ∀ unit ∈ units text.toList, ∀ sign ∈ literalSigns, unit ≠ sign.toNat := by
    intro unit mem sign hsign
    obtain ⟨c, hc, hunit⟩ := List.mem_flatMap.1 mem
    have differs : c ≠ sign := fun eq => plain sign hsign (eq ▸ hc)
    exact ne_of_mem_charUnits differs (ascii_of_mem_literalSigns sign hsign) hunit
  have closing : readLiteral [some '"'.toNat] = some ([], []) := by
    rw [readLiteral, if_pos rfl]
  have read : readLiteral (translate (text.toList ++ ['"'])) = some (units text.toList, []) := by
    rw [translated, readLiteral_append unsigned, closing, Option.map_some]
    simp
  rw [literal?, read]
  show (Json.characters (units text.toList)).map String.ofList = some text
  rw [characters_units, Option.map_some, String.ofList_toList]

end SchemaClasses.Lexical
