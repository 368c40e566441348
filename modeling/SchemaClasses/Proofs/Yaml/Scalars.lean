/-
Reading the scalars of YAML.

A text that spells a scalar is read as that scalar wherever it stands, up
to what follows it. Quoted scalars end by themselves; a plain one ends
where the next word cannot belong to it, and takes the gap before that
with it.
-/
import SchemaClasses.Proofs.Text.Cut
import SchemaClasses.Proofs.Text.Digits
import SchemaClasses.Proofs.Yaml.Spelling

namespace SchemaClasses.Yaml

-- ============================================================= places

/-- A place in a text. -/
structure Place where
  line : Nat
  column : Nat
  /-- How many bytes come before it in its line. -/
  offset : Nat

namespace Place

/-- A character at a place. -/
def glyph (p : Place) (c : Char) : Glyph := ⟨c, p.line, p.column, p.offset⟩

/-- The place behind a character. -/
def next (p : Place) (c : Char) : Place :=
  if isBreak c then ⟨p.line + 1, 0, 0⟩ else ⟨p.line, p.column + 1, p.offset + c.utf8Size⟩

/-- The place behind a text. -/
def after (p : Place) (text : List Char) : Place := text.foldl next p

@[simp] theorem char_glyph (p : Place) (c : Char) : (p.glyph c).char = c := rfl

@[simp] theorem after_nil (p : Place) : p.after [] = p := rfl

@[simp] theorem after_cons (p : Place) (c : Char) (text : List Char) :
    p.after (c :: text) = (p.next c).after text := rfl

@[simp] theorem after_append (p : Place) (front back : List Char) :
    p.after (front ++ back) = (p.after front).after back := List.foldl_append

end Place

/-- The characters of a text with their places, the first at the given one. -/
def placedAt (p : Place) (text : List Char) : List Glyph := placed p.line p.column p.offset text

@[simp] theorem placedAt_nil (p : Place) : placedAt p [] = [] := rfl

@[simp] theorem placedAt_cons (p : Place) (c : Char) (text : List Char) :
    placedAt p (c :: text) = p.glyph c :: placedAt (p.next c) text := by
  rw [placedAt, placed, Place.next]
  split <;> rfl

@[simp] theorem placedAt_append (p : Place) (front back : List Char) :
    placedAt p (front ++ back) = placedAt p front ++ placedAt (p.after front) back := by
  induction front generalizing p with
  | nil => rfl
  | cons c more ih =>
      rw [List.cons_append, placedAt_cons, placedAt_cons, ih, List.cons_append, Place.after_cons]

@[simp] theorem chars_placedAt (p : Place) (text : List Char) : chars (placedAt p text) = text := by
  induction text generalizing p with
  | nil => rfl
  | cons c more ih =>
      rw [placedAt_cons, chars, List.map_cons]
      exact congrArg (c :: ·) (ih (p.next c))

/-- A run of a class of characters is read off the front of what does not go on with it. -/
theorem span_placedAt {q : Char → Bool} {front rest : List Char} (inside : ∀ c ∈ front, q c = true)
    (stop : ∀ c ∈ rest.head?, q c = false) (p : Place) :
    (placedAt p (front ++ rest)).takeWhile (fun g => q g.char) = placedAt p front ∧
      (placedAt p (front ++ rest)).dropWhile (fun g => q g.char) =
        placedAt (p.after front) rest := by
  rw [placedAt_append]
  apply Text.span_append
  · intro g mem
    have own : g.char ∈ chars (placedAt p front) := List.mem_map_of_mem mem
    rw [chars_placedAt] at own
    exact inside g.char own
  · cases rest with
    | nil => simp
    | cons c more =>
        rw [placedAt_cons]
        rintro g ⟨⟩
        exact stop c rfl

/-- Behind a text of one line the column is as many characters further. -/
theorem Place.column_after {p : Place} {text : List Char}
    (oneLine : ∀ c ∈ text, isBreak c = false) :
    (p.after text).column = p.column + text.length := by
  induction text generalizing p with
  | nil => rfl
  | cons c more ih =>
      rw [after_cons, ih fun d mem => oneLine d (List.mem_cons_of_mem c mem)]
      have inLine : (p.next c).column = p.column + 1 := by
        rw [next, oneLine c List.mem_cons_self]
        rfl
      rw [inLine, List.length_cons]
      omega

/-- Markers start in the first column. -/
theorem startsMarker_of_pos {g : Glyph} (inLine : 0 < g.column) (rest : List Glyph) :
    startsMarker (g :: rest) = false := by
  have other : (g.column == 0) = false := beq_false_of_ne (by omega)
  have none : ∀ c, startsMarkerOf c (g :: rest) = false := by
    intro c
    unfold startsMarkerOf
    split
    next eq =>
      cases eq
      simp [other]
    next => rfl
  rw [startsMarker, none, none]
  rfl

theorem startsMarkerOf_of_ne {g : Glyph} {c : Char} (other : g.char ≠ c) (rest : List Glyph) :
    startsMarkerOf c (g :: rest) = false := by
  unfold startsMarkerOf
  split
  next eq =>
    cases eq
    simp [other]
  next => rfl

/-- Markers start with a dash or a point. -/
theorem startsMarker_of_ne {g : Glyph} (notDash : g.char ≠ '-') (notPoint : g.char ≠ '.')
    (rest : List Glyph) : startsMarker (g :: rest) = false := by
  rw [startsMarker, startsMarkerOf_of_ne notDash, startsMarkerOf_of_ne notPoint]
  rfl

-- ============================================================= quoted

/-- A gap without breaks stands for itself. -/
theorem gapText_of_blanks {gap : List Char} (blanks : ∀ c ∈ gap, isBlank c = true) :
    gapText gap = gap := by
  have all : (gap ++ []).dropWhile isBlank = [] := List.dropWhile_append_of_pos blanks
  rw [List.append_nil] at all
  rw [gapText, all]

/-- The gap that a text begins with does not reach beyond its line. -/
def StaysInLine (text : List Glyph) : Prop := ∀ g ∈ gapOf text, isBreak g.char = false

theorem isBlank_of_isGap {c : Char} (gap : isGap c = true) (oneLine : isBreak c = false) :
    isBlank c = true := by
  rwa [isGap, oneLine, Bool.or_false] at gap

theorem isGap_of_isBlank {c : Char} (blank : isBlank c = true) : isGap c = true := by
  rw [isGap, blank, Bool.true_or]

theorem gapText_of_staysInLine {g : Glyph} {rest : List Glyph} (blank : isBlank g.char = true)
    (stays : StaysInLine rest) :
    gapText (g.char :: chars (gapOf rest)) = g.char :: chars (gapOf rest) := by
  apply gapText_of_blanks
  intro c mem
  rcases List.mem_cons.1 mem with rfl | inside
  · exact blank
  · obtain ⟨d, inGap, rfl⟩ := List.mem_map.1 inside
    have gap := (List.all_eq_true.1 (List.all_takeWhile (l := rest))) d inGap
    exact isBlank_of_isGap gap (stays d inGap)

theorem gapOf_cons_of_gap {g : Glyph} (gap : isGap g.char = true) (rest : List Glyph) :
    gapOf (g :: rest) = g :: gapOf rest ∧ afterGap (g :: rest) = afterGap rest :=
  ⟨List.takeWhile_cons_of_pos gap, List.dropWhile_cons_of_pos gap⟩

theorem gapOf_cons_of_word {g : Glyph} (word : isGap g.char = false) (rest : List Glyph) :
    gapOf (g :: rest) = [] ∧ afterGap (g :: rest) = g :: rest :=
  ⟨List.takeWhile_cons_of_neg (by simp [word]), List.dropWhile_cons_of_neg (by simp [word])⟩

/-- A gap is no part of a marker. -/
theorem startsMarker_of_isGap {g : Glyph} (gap : isGap g.char = true) (rest : List Glyph) :
    startsMarker (g :: rest) = false := by
  apply startsMarker_of_ne
  · intro dash
    rw [dash] at gap
    cases gap
  · intro point
    rw [point] at gap
    cases gap

theorem readDoubleQuoted_gap {g : Glyph} (gap : isGap g.char = true) (rest : List Glyph) :
    readDoubleQuoted (g :: rest) = (readDoubleQuoted (afterGap rest)).map fun (more, after) =>
      (gapText (g.char :: chars (gapOf rest)) ++ more, after) := by
  rw [readDoubleQuoted, startsMarker_of_isGap gap, if_neg (by decide), if_pos gap]

theorem readSingleQuoted_gap {g : Glyph} (gap : isGap g.char = true) (rest : List Glyph) :
    readSingleQuoted (g :: rest) = (readSingleQuoted (afterGap rest)).map fun (more, after) =>
      (gapText (g.char :: chars (gapOf rest)) ++ more, after) := by
  rw [readSingleQuoted, startsMarker_of_isGap gap, if_neg (by decide), if_pos gap]

/-- A reader that folds gaps reads the blanks of one line one by one. -/
theorem read_blank {read : List Glyph → Option (List Char × List Glyph)}
    (folds : ∀ g rest, isGap g.char = true → read (g :: rest) =
      (read (afterGap rest)).map fun (more, after) =>
        (gapText (g.char :: chars (gapOf rest)) ++ more, after))
    {g : Glyph} (blank : isBlank g.char = true) {rest : List Glyph} (stays : StaysInLine rest) :
    read (g :: rest) = (read rest).map fun (more, after) => (g.char :: more, after) := by
  have gap : isGap g.char = true := isGap_of_isBlank blank
  rw [folds g rest gap, gapText_of_staysInLine blank stays]
  cases rest with
  | nil => rfl
  | cons d more =>
      by_cases gapNext : isGap d.char = true
      · obtain ⟨taken, dropped⟩ := gapOf_cons_of_gap gapNext more
        have blankNext := isBlank_of_isGap gapNext (stays d (taken ▸ List.mem_cons_self))
        have staysNext : StaysInLine more := fun e mem =>
          stays e (taken ▸ List.mem_cons_of_mem d mem)
        rw [folds d more gapNext, gapText_of_staysInLine blankNext staysNext, taken, dropped]
        cases read (afterGap more) <;> rfl
      · obtain ⟨taken, dropped⟩ := gapOf_cons_of_word (Bool.eq_false_iff.2 gapNext) more
        rw [taken, dropped]
        rfl

theorem readDoubleQuoted_plain {g : Glyph} (inLine : 0 < g.column) (oneLine : isBreak g.char = false)
    (notQuote : g.char ≠ '"') (notBackslash : g.char ≠ '\\') {rest : List Glyph}
    (stays : StaysInLine rest) :
    readDoubleQuoted (g :: rest) =
      (readDoubleQuoted rest).map fun (more, after) => (g.char :: more, after) := by
  by_cases blank : isBlank g.char = true
  · exact read_blank (fun g rest gap => readDoubleQuoted_gap gap rest) blank stays
  · have word : ¬isGap g.char = true := by simp [isGap, blank, oneLine]
    rw [readDoubleQuoted, startsMarker_of_pos inLine, if_neg (by decide), if_neg word,
      if_neg notQuote, if_neg notBackslash]

theorem readSingleQuoted_plain {g : Glyph} (inLine : 0 < g.column) (oneLine : isBreak g.char = false)
    (notQuote : g.char ≠ '\'') {rest : List Glyph} (stays : StaysInLine rest) :
    readSingleQuoted (g :: rest) =
      (readSingleQuoted rest).map fun (more, after) => (g.char :: more, after) := by
  by_cases blank : isBlank g.char = true
  · exact read_blank (fun g rest gap => readSingleQuoted_gap gap rest) blank stays
  · have word : ¬isGap g.char = true := by simp [isGap, blank, oneLine]
    rw [readSingleQuoted, startsMarker_of_pos inLine, if_neg (by decide), if_neg word,
      if_neg notQuote]

theorem staysInLine_of_word {p : Place} {c : Char} (word : isGap c = false) (rest : List Char) :
    StaysInLine (placedAt p (c :: rest)) := by
  rw [placedAt_cons, StaysInLine, (gapOf_cons_of_word word _).1]
  exact fun _ mem => absurd mem List.not_mem_nil

theorem staysInLine_cons {p : Place} {c : Char} (oneLine : isBreak c = false) {rest : List Char}
    (stays : StaysInLine (placedAt (p.next c) rest)) : StaysInLine (placedAt p (c :: rest)) := by
  by_cases gap : isGap c = true
  · rw [placedAt_cons, StaysInLine, (gapOf_cons_of_gap gap _).1]
    intro g mem
    rcases List.mem_cons.1 mem with rfl | inside
    · exact oneLine
    · exact stays g inside
  · exact staysInLine_of_word (Bool.eq_false_iff.2 gap) rest

theorem staysInLine_double {inside s : List Char} (row : Text.SpellsRow SpellsChar inside s)
    (p : Place) (rest : List Char) : StaysInLine (placedAt p (inside ++ '"' :: rest)) := by
  induction row generalizing p with
  | nil => exact staysInLine_of_word rfl rest
  | cons first _ ih =>
      cases first with
      | plain oneLine _ _ => exact staysInLine_cons oneLine (ih _)
      | named _ _ => exact staysInLine_of_word rfl _
      | numbered _ _ => exact staysInLine_of_word rfl _

theorem staysInLine_single {inside s : List Char} (row : Text.SpellsRow SpellsLiteral inside s)
    (p : Place) (rest : List Char) : StaysInLine (placedAt p (inside ++ '\'' :: rest)) := by
  induction row generalizing p with
  | nil => exact staysInLine_of_word rfl rest
  | cons first _ ih =>
      cases first with
      | plain oneLine _ => exact staysInLine_cons oneLine (ih _)
      | quote => exact staysInLine_of_word rfl _

/-- An escape is read as the character it stands for. -/
theorem readEscape_append {letter c : Char} {digits : List Char} (p : Place) (rest : List Char)
    (h : SpellsChar ('\\' :: letter :: digits) c) :
    readEscape (placedAt p (letter :: digits ++ rest)) =
      some (c, placedAt (p.after (letter :: digits)) rest) := by
  cases h with
  | named unnumbered name =>
      rw [List.singleton_append, placedAt_cons, readEscape, Place.char_glyph, unnumbered]
      dsimp only
      rw [name]
      rfl
  | numbered length number =>
      have size := congrArg List.length (chars_placedAt (p.next letter) digits)
      rw [chars, List.length_map, Text.length_of_charOfDigits? number] at size
      rw [List.cons_append, placedAt_cons, placedAt_append, readEscape, Place.char_glyph, length]
      dsimp only
      rw [List.take_left' size, List.drop_left' size, chars_placedAt, number]
      rfl

theorem readDoubleQuoted_escape {g : Glyph} (inLine : 0 < g.column) (backslash : g.char = '\\')
    {rest after : List Glyph} {c : Char} (oneLine : endsLine rest = false)
    (escape : readEscape rest = some (c, after)) :
    readDoubleQuoted (g :: rest) =
      (readDoubleQuoted after).map fun (more, behind) => (c :: more, behind) := by
  have goesOn : ¬rest.isEmpty = true := by
    cases rest with
    | nil => cases oneLine
    | cons d more => exact Bool.false_ne_true
  rw [readDoubleQuoted, startsMarker_of_pos inLine, if_neg (by decide), backslash,
    if_neg (by decide), if_neg (by decide), if_pos rfl, if_neg goesOn, if_neg (by simp [oneLine])]
  split
  next failed => cases escape.symm.trans failed
  next found =>
    cases escape.symm.trans found
    rfl

theorem Place.column_next {p : Place} {c : Char} (oneLine : isBreak c = false) :
    (p.next c).column = p.column + 1 := by
  rw [next, oneLine]
  rfl

/-- A character without a break in its spelling stands on one line. -/
theorem isBreak_of_spellsChar {text : List Char} {c : Char} (h : SpellsChar text c) :
    ∀ d ∈ text, isBreak d = false := by
  have notLetter : ∀ letter, hexLength letter ≠ 0 ∨ (escaped? letter).isSome = true →
      isBreak letter = false := by
    intro letter known
    refine Bool.eq_false_iff.2 fun lineBreak => ?_
    simp only [isBreak, Bool.or_eq_true, beq_iff_eq] at lineBreak
    rcases lineBreak with (rfl | rfl) | rfl <;> exact absurd known (by decide)
  have notDigit : ∀ d, Text.isDigitOf 16 d = true → isBreak d = false := by
    intro d digit
    refine Bool.eq_false_iff.2 fun lineBreak => ?_
    simp only [isBreak, Bool.or_eq_true, beq_iff_eq] at lineBreak
    rcases lineBreak with (rfl | rfl) | rfl <;> exact absurd digit (by decide)
  intro d mem
  cases h with
  | plain oneLine _ _ =>
      rw [List.mem_singleton.1 mem]
      exact oneLine
  | named unnumbered name =>
      rcases List.mem_cons.1 mem with rfl | mem
      · rfl
      · rw [List.mem_singleton.1 mem]
        exact notLetter _ (.inr (by rw [name]; rfl))
  | numbered length number =>
      rcases List.mem_cons.1 mem with rfl | mem
      · rfl
      rcases List.mem_cons.1 mem with rfl | mem
      · exact notLetter _ (.inl (by rw [length]; exact Nat.succ_ne_zero _))
      · exact notDigit d (Text.isDigitOf_of_charOfDigits? number mem)

theorem readDoubleQuoted_spelled {letter c : Char} {digits : List Char}
    (h : SpellsChar ('\\' :: letter :: digits) c) {p : Place} (inLine : 0 < p.column)
    (rest : List Char) :
    readDoubleQuoted (placedAt p ('\\' :: letter :: digits ++ rest)) =
      (readDoubleQuoted (placedAt (p.after ('\\' :: letter :: digits)) rest)).map
        fun (more, after) => (c :: more, after) := by
  have goesOn : endsLine (placedAt (p.next '\\') (letter :: digits ++ rest)) = false := by
    rw [List.cons_append, placedAt_cons]
    exact isBreak_of_spellsChar h letter (List.mem_cons_of_mem _ List.mem_cons_self)
  rw [List.cons_append, placedAt_cons,
    readDoubleQuoted_escape inLine rfl goesOn (readEscape_append _ rest h)]
  rfl

/-- What spells a string between double quotes is read as it, up to the closing quote. -/
theorem readDoubleQuoted_append {inside s : List Char} (row : Text.SpellsRow SpellsChar inside s)
    (p : Place) (inLine : 0 < p.column) (rest : List Char) :
    readDoubleQuoted (placedAt p (inside ++ '"' :: rest)) =
      some (s, placedAt (p.after (inside ++ ['"'])) rest) := by
  induction row generalizing p with
  | nil =>
      rw [List.nil_append, placedAt_cons, readDoubleQuoted, startsMarker_of_pos inLine,
        if_neg (by decide), Place.char_glyph, if_neg (by decide)]
      rfl
  | @cons text more c _ first others ih =>
      have next : 0 < (p.after text).column := by
        rw [Place.column_after (isBreak_of_spellsChar first)]
        omega
      have shape : text ++ more ++ '"' :: rest = text ++ (more ++ '"' :: rest) := by simp
      have place : p.after (text ++ more ++ ['"']) = (p.after text).after (more ++ ['"']) := by
        simp
      rw [shape, place]
      cases first with
      | plain oneLine notQuote notBackslash =>
          rw [List.singleton_append, placedAt_cons,
            readDoubleQuoted_plain inLine oneLine notQuote notBackslash
              (staysInLine_double others _ rest)]
          exact congrArg (Option.map _) (ih _ next)
      | named unnumbered name =>
          rw [readDoubleQuoted_spelled (.named unnumbered name) inLine, ih _ next]
          rfl
      | numbered length number =>
          rw [readDoubleQuoted_spelled (.numbered length number) inLine, ih _ next]
          rfl

theorem isBreak_of_spellsLiteral {text : List Char} {c : Char} (h : SpellsLiteral text c) :
    ∀ d ∈ text, isBreak d = false := by
  cases h with
  | plain oneLine _ => simpa using oneLine
  | quote => simp [isBreak]

/-- What spells a string between single quotes is read as it, up to the closing quote, unless
another quote follows. -/
theorem readSingleQuoted_append {inside s : List Char}
    (row : Text.SpellsRow SpellsLiteral inside s) (p : Place) (inLine : 0 < p.column)
    {rest : List Char} (apart : rest.head? ≠ some '\'') :
    readSingleQuoted (placedAt p (inside ++ '\'' :: rest)) =
      some (s, placedAt (p.after (inside ++ ['\''])) rest) := by
  induction row generalizing p with
  | nil =>
      have closes : ¬nextIs '\'' (placedAt (p.next '\'') rest) = true := by
        cases rest with
        | nil => exact Bool.false_ne_true
        | cons c more =>
            rw [placedAt_cons]
            show ¬(c == '\'') = true
            simpa using apart
      rw [List.nil_append, placedAt_cons, readSingleQuoted, startsMarker_of_pos inLine,
        if_neg (by decide), Place.char_glyph, if_neg (by decide), if_pos rfl, if_neg closes]
      rfl
  | @cons text more c _ first others ih =>
      have next : 0 < (p.after text).column := by
        rw [Place.column_after (isBreak_of_spellsLiteral first)]
        omega
      have shape : text ++ more ++ '\'' :: rest = text ++ (more ++ '\'' :: rest) := by simp
      have place : p.after (text ++ more ++ ['\'']) = (p.after text).after (more ++ ['\'']) := by
        simp
      rw [shape, place]
      cases first with
      | plain oneLine notQuote =>
          rw [List.singleton_append, placedAt_cons,
            readSingleQuoted_plain inLine oneLine notQuote (staysInLine_single others _ rest)]
          exact congrArg (Option.map _) (ih _ next)
      | quote =>
          rw [List.cons_append, List.singleton_append, placedAt_cons, placedAt_cons,
            readSingleQuoted, startsMarker_of_pos inLine, if_neg (by decide), Place.char_glyph,
            if_neg (by decide), if_pos rfl, if_pos (by rfl)]
          exact congrArg (Option.map _) (ih _ next)

-- ============================================================== plain

/-- No word goes on into the text. -/
def StopsWord (inFlow : Bool) (text : List Glyph) : Prop := plainWord inFlow text = some ([], text)

theorem stopsWord_gap (inFlow : Bool) {g : Glyph} (gap : isGap g.char = true) (rest : List Glyph) :
    StopsWord inFlow (g :: rest) := by
  rw [StopsWord, plainWord, gap]
  rfl

/-- A word is read up to where no word goes on. -/
theorem plainWord_append {inFlow : Bool} {word : List Char} (h : IsWord inFlow word) (p : Place)
    {rest : List Char} (stops : StopsWord inFlow (placedAt (p.after word) rest)) :
    plainWord inFlow (placedAt p (word ++ rest)) =
      some (word, placedAt (p.after word) rest) := by
  induction h generalizing p with
  | nil => exact stops
  | @cons c more notGap notIndicator colon others ih =>
      have inWord : (inFlow && flowIndicators.contains c) = false := by
        cases inFlow with
        | false => rfl
        | true => simpa using notIndicator rfl
      have goesOn : c = ':' → endsWord (placedAt (p.next c) (more ++ rest)) = false ∧
          (inFlow && nextIsIn ('?' :: flowIndicators) (placedAt (p.next c) (more ++ rest))) = false := by
        intro isColon
        obtain ⟨d, tail, rfl, notMark⟩ := colon isColon
        cases others with
        | cons notGapNext notIndicatorNext _ _ =>
            rw [List.cons_append, placedAt_cons]
            refine ⟨notGapNext, ?_⟩
            cases inFlow with
            | false => rfl
            | true =>
                show ('?' :: flowIndicators).contains d = false
                rw [List.contains_cons, beq_false_of_ne (notMark rfl)]
                simpa using notIndicatorNext rfl
      rw [List.cons_append, placedAt_cons, plainWord, Place.char_glyph, notGap, inWord,
        Bool.false_or, Bool.or_false]
      by_cases isColon : c = ':'
      · obtain ⟨noEnd, noMark⟩ := goesOn isColon
        rw [noEnd, Bool.and_false, if_neg Bool.false_ne_true, Bool.and_right_comm, noMark,
          Bool.false_and, if_neg Bool.false_ne_true]
        exact congrArg (Option.map _) (ih _ stops)
      · rw [if_neg (by simp [isColon]), if_neg (by simp [isColon])]
        exact congrArg (Option.map _) (ih _ stops)

theorem isBreak_of_isBlank {c : Char} (blank : isBlank c = true) : isBreak c = false := by
  simp only [isBlank, Bool.or_eq_true, beq_iff_eq] at blank
  rcases blank with rfl | rfl <;> rfl

theorem isBreak_of_not_isGap {c : Char} (word : isGap c = false) : isBreak c = false :=
  (Bool.or_eq_false_iff.1 word).2

theorem isBreak_of_isWord {inFlow : Bool} {word : List Char} (h : IsWord inFlow word) :
    ∀ c ∈ word, isBreak c = false := by
  induction h with
  | nil => simp
  | cons notGap _ _ _ ih =>
      intro d mem
      rcases List.mem_cons.1 mem with rfl | mem
      · exact isBreak_of_not_isGap notGap
      · exact ih d mem

theorem isBreak_of_isWords {inFlow : Bool} {text : List Char} (h : IsWords inFlow text) :
    ∀ c ∈ text, isBreak c = false := by
  induction h with
  | nil => simp
  | cons hgap _ own _ _ ih =>
      intro d mem
      rcases List.mem_append.1 mem with front | others
      · rcases List.mem_append.1 front with inGap | inWord
        · exact isBreak_of_isBlank (hgap d inGap)
        · exact isBreak_of_isWord own d inWord
      · exact ih d others

theorem stopsWord_words {inFlow : Bool} {more : List Char} (h : IsWords inFlow more) (p : Place)
    {rest : List Char} (stops : StopsWord inFlow (placedAt (p.after more) rest)) :
    StopsWord inFlow (placedAt p (more ++ rest)) := by
  cases h with
  | nil => exact stops
  | @cons gap word others c hgap nonempty _ _ _ =>
      obtain ⟨d, tail, rfl⟩ := List.exists_cons_of_ne_nil nonempty
      have blank := hgap d List.mem_cons_self
      exact stopsWord_gap inFlow (isGap_of_isBlank blank) _

/-- The gap that ends at a word, or at the end of the text. -/
theorem gapOf_append {gap : List Char} (hgap : ∀ c ∈ gap, isGap c = true) (p : Place)
    {rest : List Char} (word : ∀ c ∈ rest.head?, isGap c = false) :
    gapOf (placedAt p (gap ++ rest)) = placedAt p gap ∧
      afterGap (placedAt p (gap ++ rest)) = placedAt (p.after gap) rest :=
  span_placedAt hgap word p

/-- A gap has no tab in the indentation of a later line if it has none behind its first break. -/
theorem hasTabBefore_of_notMem {gap : List Char}
    (noTab : '\t' ∉ gap.dropWhile fun c => !isBreak c) (column : Nat) (p : Place) :
    hasTabBefore column (placedAt p gap) = false := by
  rw [hasTabBefore, List.any_eq_false]
  intro g mem isTab
  apply noTab
  have same : chars ((placedAt p gap).dropWhile fun g => !isBreak g.char) =
      (chars (placedAt p gap)).dropWhile fun c => !isBreak c := by
    rw [chars, chars, List.dropWhile_map]
    rfl
  rw [← chars_placedAt p gap, ← same]
  rw [Bool.and_eq_true, beq_iff_eq] at isTab
  exact List.mem_map.2 ⟨g, mem, isTab.1⟩

/-- Blanks have no break in front of a tab. -/
theorem notMem_dropWhile_of_isGap {gap : List Char} (hgap : IsGap gap) :
    '\t' ∉ gap.dropWhile fun c => !isBreak c := by
  have oneLine : (gap ++ []).dropWhile (fun c => !isBreak c) = [] :=
    List.dropWhile_append_of_pos fun c mem => by simp [isBreak_of_isBlank (hgap c mem)]
  rw [List.append_nil] at oneLine
  rw [oneLine]
  exact List.not_mem_nil

theorem plainTail_word {inFlow : Bool} {column : Nat} {text rest : List Glyph} {c : Char}
    {word : List Char} (nonempty : (gapOf text).isEmpty = false)
    (noTab : hasTabBefore column (gapOf text) = false)
    (goesOn : endsPlain inFlow column (afterGap text) = false)
    (read : plainWord inFlow (afterGap text) = some (c :: word, rest)) :
    plainTail inFlow column text = (plainTail inFlow column rest).map fun more =>
      { more with text := gapText (chars (gapOf text)) ++ c :: word ++ more.text } := by
  rw [plainTail, dif_neg (by simp [nonempty]), if_neg (by simp [noTab]), if_neg (by simp [goesOn])]
  split
  next failed => cases read.symm.trans failed
  next none => cases read.symm.trans none
  next found =>
    cases read.symm.trans found
    rfl

/-- A plain scalar ends in front of a gap, or of what follows the gap. -/
theorem plainTail_stop {inFlow : Bool} {column : Nat} {text : List Glyph}
    (noTab : hasTabBefore column (gapOf text) = false)
    (stops : (gapOf text).isEmpty = true ∨ endsPlain inFlow column (afterGap text) = true ∨
      StopsWord inFlow (afterGap text)) :
    plainTail inFlow column text =
      some ⟨[], (gapOf text).any fun g => isBreak g.char, afterGap text⟩ := by
  by_cases empty : (gapOf text).isEmpty = true
  · have same : afterGap text = text := by
      have both : gapOf text ++ afterGap text = text := List.takeWhile_append_dropWhile
      rwa [List.isEmpty_iff.1 empty] at both
    rw [plainTail, dif_pos empty, same, List.isEmpty_iff.1 empty]
    rfl
  rw [plainTail, dif_neg empty, if_neg (by simp [noTab])]
  by_cases ends : endsPlain inFlow column (afterGap text) = true
  · rw [if_pos ends]
  have word : plainWord inFlow (afterGap text) = some ([], afterGap text) :=
    (stops.resolve_left empty).resolve_left ends
  rw [if_neg ends]
  split
  next failed => cases word.symm.trans failed
  next => rfl
  next found => cases word.symm.trans found

/-- A plain scalar goes on into a word that is deep enough and no comment. -/
theorem endsPlain_word {inFlow : Bool} {column : Nat} {p : Place} {c : Char}
    (inLine : 0 < p.column) (deep : inFlow = false → column ≤ p.column) (notComment : c ≠ '#')
    (rest : List Char) : endsPlain inFlow column (placedAt p (c :: rest)) = false := by
  rw [placedAt_cons, endsPlain, startsMarker_of_pos (show 0 < (p.glyph c).column from inLine)]
  have inside : (!inFlow && decide (p.column < column)) = false := by
    cases inFlow with
    | true => rfl
    | false => exact decide_eq_false (Nat.not_lt.2 (deep rfl))
  show (!inFlow && decide (p.column < column) || false || c == '#') = false
  rw [inside, beq_false_of_ne notComment]
  rfl

/-- More words are read up to where the scalar ends. -/
theorem plainTail_append {inFlow : Bool} {more : List Char} (h : IsWords inFlow more)
    {column : Nat} (p : Place) (inLine : 0 < p.column) (deep : inFlow = false → column ≤ p.column)
    {rest : List Char} {brokeLine : Bool} {after : List Glyph}
    (stops : StopsWord inFlow (placedAt (p.after more) rest))
    (ends : plainTail inFlow column (placedAt (p.after more) rest) = some ⟨[], brokeLine, after⟩) :
    plainTail inFlow column (placedAt p (more ++ rest)) = some ⟨more, brokeLine, after⟩ := by
  induction h generalizing p with
  | nil => exact ends
  | @cons gap word others c hgap nonempty own notComment tail ih =>
      have notGap : isGap c = false := by
        cases own with
        | cons notGap _ _ _ => exact notGap
      have shape : gap ++ c :: word ++ others ++ rest =
          gap ++ c :: (word ++ (others ++ rest)) := by simp
      have place : p.after (gap ++ c :: word ++ others) =
          ((p.after gap).after (c :: word)).after others := by simp
      rw [place] at stops ends
      obtain ⟨taken, dropped⟩ := gapOf_append (fun d mem => isGap_of_isBlank (hgap d mem)) p
        (show ∀ d ∈ (c :: (word ++ (others ++ rest))).head?, isGap d = false by simpa using notGap)
      have atWord : (p.after gap).column = p.column + gap.length :=
        Place.column_after fun d mem => isBreak_of_isBlank (hgap d mem)
      have behind : ((p.after gap).after (c :: word)).column =
          (p.after gap).column + (c :: word).length :=
        Place.column_after (isBreak_of_isWord own)
      have read := plainWord_append own (p.after gap) (stopsWord_words tail _ stops)
      have isNonempty : (placedAt p gap).isEmpty = false := by
        obtain ⟨d, more, rfl⟩ := List.exists_cons_of_ne_nil nonempty
        rfl
      have goesOn : endsPlain inFlow column
          (placedAt (p.after gap) (c :: (word ++ (others ++ rest)))) = false :=
        endsPlain_word (by omega) (fun block => by have := deep block; omega) notComment _
      rw [shape, plainTail_word (taken ▸ isNonempty)
        (taken ▸ hasTabBefore_of_notMem (notMem_dropWhile_of_isGap hgap) column p)
        (dropped ▸ goesOn) (dropped ▸ read), taken, chars_placedAt,
        gapText_of_blanks hgap, ih _ (by omega) (fun block => by have := deep block; omega) stops ends]
      simp

/-- A plain scalar is read after its first character, up to where it ends. -/
theorem readPlain_append {inFlow : Bool} {column : Nat} {c : Char} {word more : List Char}
    (own : IsWord inFlow word) (others : IsWords inFlow more) (p : Place)
    (deep : inFlow = false → column ≤ p.column + 1) (first : isBreak c = false) {rest : List Char}
    {brokeLine : Bool} {after : List Glyph}
    (stops : StopsWord inFlow (placedAt (p.after (c :: word ++ more)) rest))
    (ends : plainTail inFlow column (placedAt (p.after (c :: word ++ more)) rest) =
      some ⟨[], brokeLine, after⟩) :
    readPlain inFlow column c (placedAt (p.next c) (word ++ more ++ rest)) =
      some ⟨c :: word ++ more, brokeLine, after⟩ := by
  have place : p.after (c :: word ++ more) = ((p.next c).after word).after more := by simp
  rw [place] at stops ends
  have behind : ((p.next c).after word).column = (p.next c).column + word.length :=
    Place.column_after (isBreak_of_isWord own)
  have next := Place.column_next (p := p) first
  have read := plainWord_append own (p.next c) (stopsWord_words others _ stops)
  have tail := plainTail_append others _ (by omega)
    (fun block => by have := deep block; omega) stops ends
  rw [readPlain, List.append_assoc, read]
  show (plainTail inFlow column _).bind _ = _
  rw [tail]
  rfl

end SchemaClasses.Yaml
