/-
The first step a compiler takes on a text of the generated language.

Before anything is a comment, a name or a string, the compiler turns the
text into UTF-16 code units and replaces Unicode escapes: a backslash, a
row of the letter u, and four hexadecimal digits stand for the unit of
that number. A backslash only begins an escape if an even number of
backslashes stands right before it. Whatever looks like an escape and
does not go on as one is an error, in a comment as everywhere.

`translate` is this step and `BeginsEscape` says in words where it has
anything to do; the text is left as it is exactly where there is no such
place (`translate_eq_iff`). Since a backslash pairs up only with
backslashes next to it, any other character is a border that no escape
crosses (`beginsEscape_append_cons`): the places are looked for piece by
piece.
-/
import SchemaClasses.Text.Digits

namespace SchemaClasses.Lexical

-- ======================================================== code units

/-- The code units of a character: itself, or the two halves of a pair. -/
def charUnits (c : Char) : List Nat :=
  if c.toNat < 0x10000 then [c.toNat]
  else [0xD800 + (c.toNat - 0x10000) / 0x400, 0xDC00 + (c.toNat - 0x10000) % 0x400]

/-- The code units of a text. -/
def units (text : List Char) : List Nat := text.flatMap charUnits

theorem units_cons (c : Char) (rest : List Char) :
    units (c :: rest) = charUnits c ++ units rest :=
  List.flatMap_cons

theorem units_append (text rest : List Char) : units (text ++ rest) = units text ++ units rest :=
  List.flatMap_append

-- ======================================================= translation

/-- The unit that four hexadecimal digits in front of a text name. -/
def escapedUnit? (text : List Char) : Option Nat :=
  if (text.take 4).length = 4 then Text.natural? 16 (text.take 4) else none

/-- The units that a compiler makes of a text; `none` where it finds a malformed escape. -/
def translate : List Char → List (Option Nat)
  | [] => []
  | '\\' :: '\\' :: rest => some 0x5C :: some 0x5C :: translate rest
  | '\\' :: 'u' :: rest =>
    escapedUnit? (rest.dropWhile (· == 'u')) :: translate ((rest.dropWhile (· == 'u')).drop 4)
  | c :: rest => (charUnits c).map some ++ translate rest
termination_by text => text.length
decreasing_by
  · simp only [List.length_cons]; omega
  · have := (List.dropWhile_suffix (l := rest) (· == 'u')).length_le
    simp only [List.length_cons, List.length_drop]; omega
  · simp only [List.length_cons]; omega

/-- How many backslashes stand at the end of a text. -/
def trailingBackslashes (text : List Char) : Nat := (text.reverse.takeWhile (· == '\\')).length

/-- A Unicode escape begins somewhere in the text, well formed or not: a backslash with an even
number of backslashes right before it and the letter u right after it. -/
def BeginsEscape (text : List Char) : Prop :=
  ∃ before after, text = before ++ '\\' :: 'u' :: after ∧ trailingBackslashes before % 2 = 0

-- ============================================== escapes, front to back

/-- An escape begins in the text, an even number of backslashes standing before it or not. -/
def findsEscape (even : Bool) : List Char → Bool
  | [] => false
  | c :: rest =>
    if c = '\\' then (even && rest.head? == some 'u') || findsEscape (!even) rest
    else findsEscape true rest

theorem findsEscape_backslash (even : Bool) (rest : List Char) :
    findsEscape even ('\\' :: rest) =
      ((even && rest.head? == some 'u') || findsEscape (!even) rest) := by
  rw [findsEscape, if_pos rfl]

theorem findsEscape_cons_of_ne {c : Char} (h : c ≠ '\\') (even : Bool) (rest : List Char) :
    findsEscape even (c :: rest) = findsEscape true rest := by
  rw [findsEscape, if_neg h]

/-- One more character at the end: a backslash lengthens the row of them, any other ends it. -/
theorem trailingBackslashes_concat (text : List Char) (c : Char) :
    trailingBackslashes (text ++ [c]) =
      if c = '\\' then trailingBackslashes text + 1 else 0 := by
  unfold trailingBackslashes
  rw [List.reverse_concat]
  by_cases h : c = '\\'
  · rw [if_pos h, List.takeWhile_cons_of_pos (by simp [h]), List.length_cons]
  · rw [if_neg h, List.takeWhile_cons_of_neg (by simp [h]), List.length_nil]

/-- A Unicode escape begins in a text that stands behind another. -/
def BeginsEscapeAfter (prior text : List Char) : Prop :=
  ∃ before after, text = before ++ '\\' :: 'u' :: after ∧
    trailingBackslashes (prior ++ before) % 2 = 0

/-- An escape begins at the first character, or behind it. -/
theorem beginsEscapeAfter_cons {prior rest : List Char} {c : Char} :
    BeginsEscapeAfter prior (c :: rest) ↔
      (c = '\\' ∧ trailingBackslashes prior % 2 = 0 ∧ rest.head? = some 'u') ∨
        BeginsEscapeAfter (prior ++ [c]) rest := by
  constructor
  · rintro ⟨before, after, eq, parity⟩
    cases before with
    | nil =>
        obtain ⟨rfl, rfl⟩ := List.cons.inj eq
        rw [List.append_nil] at parity
        exact Or.inl ⟨rfl, parity, rfl⟩
    | cons d before =>
        obtain ⟨rfl, rfl⟩ := List.cons.inj eq
        refine Or.inr ⟨before, after, rfl, ?_⟩
        rwa [List.append_assoc, List.singleton_append]
  · rintro (⟨rfl, parity, letter⟩ | ⟨before, after, rfl, parity⟩)
    · obtain ⟨after, rfl⟩ := List.head?_eq_some_iff.1 letter
      exact ⟨[], after, rfl, by rwa [List.append_nil]⟩
    · refine ⟨c :: before, after, rfl, ?_⟩
      rwa [List.append_assoc, List.singleton_append] at parity

/-- Reading from the front finds an escape exactly if one begins behind what has been read. -/
theorem findsEscape_iff_after (text prior : List Char) :
    findsEscape (trailingBackslashes prior % 2 == 0) text = true ↔
      BeginsEscapeAfter prior text := by
  induction text generalizing prior with
  | nil => simp [findsEscape, BeginsEscapeAfter]
  | cons c rest ih =>
      rw [beginsEscapeAfter_cons, ← ih, trailingBackslashes_concat]
      by_cases h : c = '\\'
      · have flipped : ((trailingBackslashes prior + 1) % 2 == 0) =
            !(trailingBackslashes prior % 2 == 0) := by
          rw [Bool.eq_iff_iff, Bool.not_eq_true', beq_iff_eq, beq_eq_false_iff_ne]
          omega
        subst h
        rw [findsEscape_backslash, if_pos rfl, flipped, Bool.or_eq_true, Bool.and_eq_true,
          beq_iff_eq, beq_iff_eq]
        simp only [true_and]
      · rw [findsEscape_cons_of_ne h, if_neg h]
        simp only [h, false_and, false_or]
        rfl

/-- Reading from the front finds an escape exactly if one begins somewhere. -/
theorem findsEscape_iff {text : List Char} : findsEscape true text = true ↔ BeginsEscape text :=
  findsEscape_iff_after text []

-- ============================================================ borders

/-- No escape begins in a text without backslashes. -/
theorem not_beginsEscape_of_notMem {text : List Char} (h : '\\' ∉ text) : ¬BeginsEscape text := by
  rintro ⟨before, after, rfl, -⟩
  exact h (List.mem_append_right before List.mem_cons_self)

/-- An escape in a text begins on one side of a character that has no part in escapes. -/
theorem findsEscape_append_cons {border : Char} (notBackslash : border ≠ '\\')
    (notLetter : border ≠ 'u') (rest : List Char) :
    ∀ (text : List Char) (even : Bool),
      findsEscape even (text ++ border :: rest) =
        (findsEscape even text || findsEscape true rest) := by
  intro text
  induction text with
  | nil =>
      intro even
      rw [List.nil_append, findsEscape_cons_of_ne notBackslash]
      rfl
  | cons c more ih =>
      intro even
      rw [List.cons_append]
      by_cases h : c = '\\'
      · have head : ((more ++ border :: rest).head? == some 'u') = (more.head? == some 'u') := by
          cases more with
          | nil => simpa using notLetter
          | cons d more => rfl
        rw [h, findsEscape_backslash, findsEscape_backslash, ih, head, Bool.or_assoc]
      · rw [findsEscape_cons_of_ne h, findsEscape_cons_of_ne h, ih]

/-- An escape in a text begins on one side of a character that has no part in escapes. -/
theorem beginsEscape_append_cons {border : Char} (notBackslash : border ≠ '\\')
    (notLetter : border ≠ 'u') {text rest : List Char} :
    BeginsEscape (text ++ border :: rest) ↔ BeginsEscape text ∨ BeginsEscape rest := by
  rw [← findsEscape_iff, findsEscape_append_cons notBackslash notLetter, Bool.or_eq_true,
    findsEscape_iff, findsEscape_iff]

-- ============================================ what the step leaves alone

/-- What ends a text has no more units than all of it. -/
theorem length_units_le_of_suffix {text rest : List Char} (h : rest <:+ text) :
    (units rest).length ≤ (units text).length := by
  obtain ⟨front, rfl⟩ := h
  rw [units_append, List.length_append]
  omega

/-- A character that is no backslash, or one that neither a backslash nor the letter u follows,
changes nothing for what comes after it. -/
theorem findsEscape_cons_of_alone {c : Char} {rest : List Char}
    (notPair : ∀ more, c = '\\' → rest = '\\' :: more → False)
    (notLetter : ∀ more, c = '\\' → rest = 'u' :: more → False) :
    findsEscape true (c :: rest) = findsEscape true rest := by
  by_cases h : c = '\\'
  · subst h
    cases rest with
    | nil => rfl
    | cons d more =>
        have hd : d ≠ '\\' := fun eq => notPair more rfl (eq ▸ rfl)
        have hu : d ≠ 'u' := fun eq => notLetter more rfl (eq ▸ rfl)
        rw [findsEscape_backslash, findsEscape_cons_of_ne hd, findsEscape_cons_of_ne hd]
        simp [hu]
  · exact findsEscape_cons_of_ne h true rest

/-- An escape stands for fewer units than it is written with, so the step makes a text shorter
where it finds one, and never longer. -/
theorem length_translate_le (text : List Char) :
    (translate text).length + (findsEscape true text).toNat ≤ (units text).length := by
  fun_induction translate text with
  | case1 => simp [findsEscape]
  | case2 rest ih =>
      have skip : findsEscape true ('\\' :: '\\' :: rest) = findsEscape true rest := by
        simp [findsEscape_backslash]
      rw [skip]
      have : (charUnits '\\').length = 1 := rfl
      simp only [units_cons, List.length_append, List.length_cons] at ih ⊢
      omega
  | case3 rest ih =>
      have shorter : (units ((rest.dropWhile (· == 'u')).drop 4)).length ≤ (units rest).length :=
        length_units_le_of_suffix ((List.drop_suffix _ _).trans (List.dropWhile_suffix _))
      have : (findsEscape true ('\\' :: 'u' :: rest)).toNat ≤ 1 := Bool.toNat_le _
      have : (charUnits '\\').length = 1 := rfl
      have : (charUnits 'u').length = 1 := rfl
      simp only [units_cons, List.length_append, List.length_cons] at ih shorter ⊢
      omega
  | case4 c rest notPair notLetter ih =>
      rw [findsEscape_cons_of_alone notPair notLetter]
      simp only [units_cons, List.length_append, List.length_map] at ih ⊢
      omega

/-- Where no escape is found the step only takes the text apart into units. -/
theorem translate_eq_of_not_findsEscape (text : List Char) :
    findsEscape true text = false → translate text = (units text).map some := by
  fun_induction translate text with
  | case1 => intro _; rfl
  | case2 rest ih =>
      intro h
      have skip : findsEscape true rest = false := by simpa [findsEscape_backslash] using h
      rw [ih skip]
      rfl
  | case3 rest ih =>
      intro h
      simp [findsEscape_backslash] at h
  | case4 c rest notPair notLetter ih =>
      intro h
      rw [findsEscape_cons_of_alone notPair notLetter] at h
      rw [ih h, units_cons, List.map_append]

/-- The first step leaves a text as it is exactly if no Unicode escape begins in it. -/
theorem translate_eq_iff {text : List Char} :
    translate text = (units text).map some ↔ ¬BeginsEscape text := by
  rw [← findsEscape_iff, Bool.not_eq_true]
  constructor
  · intro same
    have shorter := length_translate_le text
    rw [same, List.length_map] at shorter
    cases found : findsEscape true text with
    | false => rfl
    | true =>
        rw [found, Bool.toNat_true] at shorter
        omega
  · exact translate_eq_of_not_findsEscape text

end SchemaClasses.Lexical
