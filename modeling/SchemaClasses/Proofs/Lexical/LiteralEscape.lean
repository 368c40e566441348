/-
The literals in a class, read back.

A literal has a backslash more in front of every backslash and every
quote of its text. For a compiler this is undone in two steps, and each
goes through the literal character by character. Seen from the front,
backslashes come in pairs or with a quote behind them, so the first step
finds nothing to translate: a letter u after a row of backslashes of the
text has an even number of them in front of it
(`translate_literalChars`). In the second step a pair stands for a
backslash and the other for a quote, and no quote stands alone before the
closing one (`readLiteral_literalChars`).

Both steps leave what follows to itself, so nothing has to be known of
the text behind the literal, and the letters in front of it are cut off by
the opening quote (`literal_literalBody`).
-/
import SchemaClasses.Class.Source
import SchemaClasses.Proofs.Lexical.StringLiteral

namespace SchemaClasses.Lexical

-- ============================================================= literals

/-- A literal after its opening quote, in a text that goes on behind it: the text that it stands
for, and what a compiler has left behind its closing quote. -/
def literalAt? (text : List Char) : Option (String × List (Option Nat)) := do
  let (value, after) ← readLiteral (translate text)
  return (String.ofList (← Json.characters value), after)

/-- The text has no line break in it. -/
def OneLine (text : String) : Prop := '\r' ∉ text.toList ∧ '\n' ∉ text.toList

/-- A text with every occurrence of a character replaced. -/
def replaced (c : Char) (replacement : List Char) : List Char → List Char
  | [] => []
  | d :: rest => (if d = c then replacement else [d]) ++ replaced c replacement rest

theorem replaced_append (c : Char) (replacement front back : List Char) :
    replaced c replacement (front ++ back) =
      replaced c replacement front ++ replaced c replacement back := by
  induction front with
  | nil => rfl
  | cons d rest ih => rw [List.cons_append, replaced, replaced, ih, List.append_assoc]

/-- Backslashes and quotes may be escaped one after the other, in this order. -/
theorem literalChars_eq_replaced (text : List Char) :
    text.flatMap literalChar =
      replaced '"' ['\\', '"'] (replaced '\\' ['\\', '\\'] text) := by
  induction text with
  | nil => rfl
  | cons c rest ih =>
      rw [List.flatMap_cons, ih, replaced, replaced_append]
      refine congrArg (· ++ _) ?_
      unfold literalChar
      by_cases backslash : c = '\\'
      · rw [if_pos backslash, if_pos backslash]
        rfl
      · rw [if_neg backslash, if_neg backslash]
        by_cases quote : c = '"'
        · rw [if_pos quote, quote]
          rfl
        · rw [if_neg quote, replaced, if_neg quote]
          rfl

-- ========================================================== first step

/-- There is nothing to translate in an escaped character, whatever follows it. -/
theorem translate_literalChar (c : Char) (rest : List Char) :
    translate (literalChar c ++ rest) = (units (literalChar c)).map some ++ translate rest := by
  unfold literalChar
  by_cases backslash : c = '\\'
  · -- the second backslash is taken with the first, so it begins nothing with what follows
    rw [if_pos backslash]
    show translate ('\\' :: '\\' :: rest) = _
    rw [translate]
    rfl
  · rw [if_neg backslash]
    by_cases quote : c = '"'
    · rw [if_pos quote]
      show translate ('\\' :: '"' :: rest) = _
      rw [translate, translate]
      · rfl
      all_goals simp
    · rw [if_neg quote]
      show translate (c :: rest) = _
      rw [translate]
      · simp [units]
      all_goals simp [backslash]

theorem translate_literalChars (text rest : List Char) :
    translate (text.flatMap literalChar ++ rest) =
      (units (text.flatMap literalChar)).map some ++ translate rest := by
  induction text with
  | nil => rfl
  | cons c more ih =>
      rw [List.flatMap_cons, List.append_assoc, translate_literalChar, ih, units_append,
        List.map_append, List.append_assoc]

/-- No escape begins in a literal. -/
theorem not_beginsEscape_literalChars (text : List Char) :
    ¬BeginsEscape (text.flatMap literalChar) := by
  rw [← translate_eq_iff]
  have same := translate_literalChars text []
  rw [List.append_nil] at same
  rw [same, translate, List.append_nil]

-- ========================================================= second step

/-- A backslash and a sign stand for the sign. -/
theorem readLiteral_escape {unit : Nat} (sign : namedEscape? unit = some unit)
    (rest : List (Option Nat)) :
    readLiteral (some '\\'.toNat :: some unit :: rest) =
      (readLiteral rest).map fun (more, after) => (unit :: more, after) := by
  have escaped : escape? (some unit :: rest) = some (unit, 1) := by
    simp [escape?, sign]
  rw [readLiteral, if_neg (by decide), if_neg (by decide), if_pos rfl, escaped]
  rfl

/-- An escaped character stands for the character. -/
theorem readLiteral_literalChar {c : Char} (noReturn : c ≠ '\r') (noFeed : c ≠ '\n')
    (rest : List (Option Nat)) :
    readLiteral ((units (literalChar c)).map some ++ rest) =
      (readLiteral rest).map fun (more, after) => (charUnits c ++ more, after) := by
  unfold literalChar
  by_cases backslash : c = '\\'
  · rw [if_pos backslash, backslash]
    exact readLiteral_escape (by decide) rest
  · rw [if_neg backslash]
    by_cases quote : c = '"'
    · rw [if_pos quote, quote]
      exact readLiteral_escape (by decide) rest
    · rw [if_neg quote]
      have plain : ∀ sign ∈ literalSigns, c ≠ sign := by
        simp [literalSigns, quote, backslash, noReturn, noFeed]
      have own : units [c] = charUnits c := List.append_nil (charUnits c)
      rw [own]
      exact readLiteral_append (fun unit mem sign isSign =>
        ne_of_mem_charUnits (plain sign isSign) (ascii_of_mem_literalSigns sign isSign) mem) rest

/-- A literal stands for its text, as far as it goes. -/
theorem readLiteral_literalChars {text : List Char} (noReturn : '\r' ∉ text)
    (noFeed : '\n' ∉ text) (rest : List (Option Nat)) :
    readLiteral ((units (text.flatMap literalChar)).map some ++ rest) =
      (readLiteral rest).map fun (more, after) => (units text ++ more, after) := by
  induction text with
  | nil => simp [units]
  | cons c more ih =>
      rw [List.mem_cons, not_or] at noReturn noFeed
      rw [List.flatMap_cons, units_append, List.map_append, List.append_assoc,
        readLiteral_literalChar (Ne.symm noReturn.1) (Ne.symm noFeed.1),
        ih noReturn.2 noFeed.2, Option.map_map, units_cons]
      refine congrArg (Option.map · (readLiteral rest)) (funext fun found => ?_)
      exact Prod.ext (List.append_assoc _ _ _).symm rfl

/-- A literal is read up to its closing quote, and stands for its text. -/
theorem literalAt?_literalBody {text : String} (oneLine : OneLine text) (rest : List Char) :
    literalAt? ((literalBody text).toList ++ '"' :: rest) = some (text, translate rest) := by
  have closing : translate ('"' :: rest) = some '"'.toNat :: translate rest := by
    rw [translate]
    · rfl
    all_goals simp
  have ends : readLiteral (some '"'.toNat :: translate rest) = some ([], translate rest) := by
    rw [readLiteral, if_pos rfl]
  have read : readLiteral (translate ((literalBody text).toList ++ '"' :: rest)) =
      some (units text.toList, translate rest) := by
    rw [literalBody, String.toList_ofList, translate_literalChars, closing,
      readLiteral_literalChars oneLine.1 oneLine.2, ends, Option.map_some]
    simp only [List.append_nil]
  rw [literalAt?, read]
  show (do return (String.ofList (← Json.characters (units text.toList)), translate rest)) = _
  rw [characters_units]
  show some (String.ofList text.toList, translate rest) = _
  rw [String.ofList_toList]

-- =========================================================== both steps

/-- Wherever the literal of a text stands, no escape begins in it. Without line breaks it is read up to
its closing quote, whatever follows, and stands for the text; so no two texts have one literal. And
it makes no difference that backslashes and quotes are escaped one after the other. -/
theorem literal_literalBody (text : String) :
    (∀ front rest : List Char,
      BeginsEscape (front ++ '"' :: ((literalBody text).toList ++ '"' :: rest)) ↔
        BeginsEscape front ∨ BeginsEscape rest) ∧
    (OneLine text →
      (∀ rest : List Char,
        literalAt? ((literalBody text).toList ++ '"' :: rest) = some (text, translate rest)) ∧
      ∀ other : String, OneLine other → literalBody other = literalBody text → other = text) ∧
    literalBody text =
      String.ofList (replaced '"' ['\\', '"'] (replaced '\\' ['\\', '\\'] text.toList)) := by
  refine ⟨fun front rest => ?_, fun oneLine => ⟨literalAt?_literalBody oneLine, ?_⟩, ?_⟩
  · have inside : ¬BeginsEscape (literalBody text).toList := by
      rw [literalBody, String.toList_ofList]
      exact not_beginsEscape_literalChars text.toList
    rw [beginsEscape_append_cons (by decide) (by decide),
      beginsEscape_append_cons (by decide) (by decide), or_iff_right inside]
  · intro other otherLine same
    have read := literalAt?_literalBody otherLine []
    rw [same, literalAt?_literalBody oneLine []] at read
    exact (Prod.mk.inj (Option.some.inj read)).1.symm
  · rw [literalBody, literalChars_eq_replaced]

/-- The text has a quote in it, a backslash in front of the letter u, and one at its end. -/
theorem literal_literalBody_folder :
    literalBody "C:\\users\"\\" = "C:\\\\users\\\"\\\\" ∧ OneLine "C:\\users\"\\" ∧
      literalAt? ((literalBody "C:\\users\"\\").toList ++ '"' :: [')', '\n']) =
        some ("C:\\users\"\\", translate [')', '\n']) := by
  have oneLine : OneLine "C:\\users\"\\" := ⟨by decide, by decide⟩
  exact ⟨by decide, oneLine, ((literal_literalBody _).2.1 oneLine).1 _⟩

end SchemaClasses.Lexical
