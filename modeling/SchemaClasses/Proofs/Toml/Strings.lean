/-
Reading the strings, keys and bare values of TOML.

Every spelling is read as what it spells, whatever follows it, as long as
what follows does not belong to it too.
-/
import SchemaClasses.Proofs.Text.Cut
import SchemaClasses.Proofs.Text.Digits
import SchemaClasses.Proofs.Toml.Spelling

namespace SchemaClasses.Toml

-- ============================================================ strings

/-- An escape is read as the character it stands for. -/
theorem readEscape_append {letter c : Char} {digits : List Char} (rest : List Char)
    (h : SpellsChar ('\\' :: letter :: digits) c) :
    readEscape (letter :: digits ++ rest) = some (c, rest) := by
  cases h with
  | named unnumbered name =>
      rw [List.singleton_append, readEscape, unnumbered, name]
      rfl
  | numbered length number =>
      have size := Text.length_of_charOfDigits? number
      rw [List.cons_append, readEscape, length]
      show Option.map (·, (digits ++ rest).drop _)
        (Text.charOfDigits? _ ((digits ++ rest).take _)) = _
      rw [List.take_left' size, List.drop_left' size, number]
      rfl

theorem readBasic_escape {c : Char} {text rest : List Char}
    (h : readEscape text = some (c, rest)) :
    readBasic ('\\' :: text) = (readBasic rest).map fun (more, after) => (c :: more, after) := by
  rw [readBasic, if_neg (by decide), if_pos rfl]
  split
  next failed => cases h.symm.trans failed
  next found =>
    cases h.symm.trans found
    rfl

/-- What spells the characters of a string is read as the string, up to the closing quote. -/
theorem readBasic_append {inside s : List Char} (row : Text.SpellsRow SpellsChar inside s)
    (rest : List Char) : readBasic (inside ++ '"' :: rest) = some (s, rest) := by
  induction row with
  | nil => rw [List.nil_append, readBasic, if_pos rfl]
  | cons first _ ih =>
      rw [List.append_assoc]
      cases first with
      | plain allowed notQuote notBackslash =>
          rw [List.singleton_append, readBasic, if_neg notQuote, if_neg notBackslash,
            if_pos allowed, ih]
          rfl
      | named unnumbered name =>
          rw [List.cons_append, readBasic_escape (readEscape_append _ (.named unnumbered name)), ih]
          rfl
      | numbered length number =>
          rw [List.cons_append, readBasic_escape (readEscape_append _ (.numbered length number)), ih]
          rfl

/-- What stands between single quotes is read as it stands. -/
theorem readLiteral_append {s : List Char} (allowed : ∀ c ∈ s, isTextChar c = true ∧ c ≠ '\'')
    (rest : List Char) : readLiteral (s ++ '\'' :: rest) = some (s, rest) := by
  induction s with
  | nil => rfl
  | cons c more ih =>
      obtain ⟨isText, notQuote⟩ := allowed c List.mem_cons_self
      rw [List.cons_append, readLiteral, if_neg notQuote, if_pos isText,
        ih fun d mem => allowed d (List.mem_cons_of_mem c mem)]
      rfl

/-- The string that a text spells is read off its front. -/
theorem readLineString?_append {text : List Char} {s : String} (h : SpellsString text s)
    (rest : List Char) : readLineString? (text ++ rest) = some (s.toList, rest) := by
  cases h with
  | basic row =>
      rw [List.append_assoc, List.cons_append, List.singleton_append]
      exact readBasic_append row rest
  | literal allowed =>
      rw [List.append_assoc, List.cons_append, List.singleton_append]
      exact readLiteral_append allowed rest

/-- No quote begins the spelling of a character. -/
theorem ne_of_spellsRow {inside s : List Char} (row : Text.SpellsRow SpellsChar inside s) :
    ∀ c ∈ inside.head?, c ≠ '"' := by
  cases row with
  | nil => simp
  | cons first _ => cases first <;> simp_all

/-- Two quotes are no three, if none stands right after them. -/
theorem afterQuotes?_eq_none {quote opening : Char} {inside rest : List Char}
    (hinside : ∀ c ∈ inside.head?, c ≠ opening) (hrest : ∀ c ∈ rest.head?, c ≠ opening) :
    afterQuotes? quote (opening :: (inside ++ opening :: rest)) = none := by
  have second : ∀ {c more}, inside ++ opening :: rest = opening :: c :: more → c ≠ opening := by
    intro c more eq
    cases inside with
    | nil =>
        rw [List.nil_append, List.cons.injEq] at eq
        exact hrest c (by rw [eq.2]; rfl)
    | cons d after => exact absurd (List.cons.inj eq).1 (hinside d rfl)
  unfold afterQuotes?
  split
  next found =>
    obtain ⟨rfl, eq⟩ := List.cons.inj found
    rw [if_neg]
    rintro ⟨rfl, rfl, rfl⟩
    exact second eq rfl
  next => rfl

/-- The string that a text spells is read off its front, unless a quote follows. -/
theorem readString?_append {text : List Char} {s : String} (h : SpellsString text s)
    {rest : List Char} (apart : ∀ c ∈ rest.head?, c ≠ '"' ∧ c ≠ '\'') :
    readString? (text ++ rest) = some (s.toList, rest) := by
  have closed : ∀ quote, afterQuotes? quote (text ++ rest) = none := by
    intro quote
    cases h with
    | basic row =>
        rw [List.append_assoc]
        exact afterQuotes?_eq_none (ne_of_spellsRow row) fun c mem => (apart c mem).1
    | literal allowed =>
        rw [List.append_assoc]
        refine afterQuotes?_eq_none (fun c mem => ?_) fun c mem => (apart c mem).2
        exact (allowed c (List.mem_of_mem_head? mem)).2
  rw [readString?, closed, closed]
  exact readLineString?_append h rest

-- =============================================================== keys

/-- The text does not go on with a key that has been read so far. -/
def EndsKey (text : List Char) : Prop := ∀ c ∈ text.head?, isKeyChar c = false

/-- Nothing stands in front of what may follow a dotted key. -/
def EndsPath (text : List Char) : Prop := ∃ c rest, text = c :: rest ∧ (c = '=' ∨ c = ']')

theorem endsKey_gap {gap rest : List Char} (h : IsGap gap) (ends : EndsKey rest) :
    EndsKey (gap ++ rest) := by
  cases gap with
  | nil => exact ends
  | cons c more =>
      intro d mem
      cases mem
      have blank := h c List.mem_cons_self
      simp only [isBlank, Bool.or_eq_true, beq_iff_eq] at blank
      rcases blank with rfl | rfl <;> rfl

theorem EndsPath.endsKey {text : List Char} (h : EndsPath text) : EndsKey text := by
  obtain ⟨_, _, rfl, rfl | rfl⟩ := h <;> simp [EndsKey] <;> decide

/-- The blanks that a text begins with are skipped. -/
theorem skipBlanks_append {gap rest : List Char} {c : Char} (h : IsGap gap)
    (notBlank : isBlank c = false) : skipBlanks (gap ++ c :: rest) = c :: rest := by
  refine (Text.span_append h ?_).2
  rintro d ⟨⟩
  exact notBlank

/-- The key that a text spells is read off its front. -/
theorem readKey_append {text : List Char} {key : String} (h : SpellsKey text key)
    {rest : List Char} (ends : EndsKey rest) : readKey (text ++ rest) = some (key, rest) := by
  cases h with
  | bare nonempty allowed =>
      obtain ⟨taken, dropped⟩ := Text.span_append allowed ends
      rw [readKey, taken, dropped]
      simp [nonempty]
  | quoted string =>
      have bare : (text ++ rest).takeWhile isKeyChar = [] := by
        cases string <;> rfl
      rw [readKey, bare]
      show Option.map _ (readLineString? (text ++ rest)) = _
      rw [readLineString?_append string]
      simp

/-- The characters that a key may begin with. -/
def startsKey (c : Char) : Bool := isKeyChar c || c == '"' || c == '\''

theorem SpellsKey.startsKey {text : List Char} {key : String} (h : SpellsKey text key) :
    ∃ c more, text = c :: more ∧ startsKey c = true := by
  cases h with
  | bare nonempty allowed =>
      obtain ⟨c, more, eq⟩ := List.exists_cons_of_ne_nil nonempty
      refine ⟨c, more, eq, ?_⟩
      rw [Toml.startsKey, allowed c (eq ▸ List.mem_cons_self)]
      rfl
  | quoted string => cases string <;> exact ⟨_, _, rfl, rfl⟩

theorem SpellsPath.startsKey {text : List Char} {path : List String} (h : SpellsPath text path) :
    ∃ c more, text = c :: more ∧ Toml.startsKey c = true := by
  cases h with
  | single own after =>
      obtain ⟨c, more, rfl, starts⟩ := own.startsKey
      exact ⟨c, _, rfl, starts⟩
  | cons own after before others =>
      obtain ⟨c, more, rfl, starts⟩ := own.startsKey
      exact ⟨c, _, rfl, starts⟩

theorem ne_of_startsKey {c d : Char} (h : startsKey c = true) (other : startsKey d = false) :
    c ≠ d := by
  rintro rfl
  rw [h] at other
  cases other

theorem isBlank_of_startsKey {c : Char} (h : startsKey c = true) : isBlank c = false := by
  have notSpace : c ≠ ' ' := ne_of_startsKey h (by decide)
  have notTab : c ≠ '\t' := ne_of_startsKey h (by decide)
  simp [isBlank, notSpace, notTab]

theorem readKeys_dot {text rest more : List Char} {key : String}
    (first : readKey text = some (key, rest)) (dot : skipBlanks rest = '.' :: more) :
    readKeys text = (readKeys (skipBlanks more)).map fun (path, after) => (key :: path, after) := by
  rw [readKeys]
  split
  next failed => cases first.symm.trans failed
  next read =>
    cases first.symm.trans read
    split
    next found =>
      cases dot.symm.trans found
      rfl
    next noDot => exact absurd dot (noDot more)

theorem readKeys_end {text rest : List Char} {key : String}
    (last : readKey text = some (key, rest)) (noDot : ∀ c ∈ (skipBlanks rest).head?, c ≠ '.') :
    readKeys text = some ([key], skipBlanks rest) := by
  rw [readKeys]
  split
  next failed => cases last.symm.trans failed
  next read =>
    cases last.symm.trans read
    split
    next found => exact absurd rfl (noDot '.' (by rw [found]; rfl))
    next => rfl

/-- The dotted key that a text spells is read off its front. -/
theorem readKeys_append {text : List Char} {path : List String} (h : SpellsPath text path)
    {rest : List Char} (ends : EndsPath rest) : readKeys (text ++ rest) = some (path, rest) := by
  induction h with
  | @single text gap key own after =>
      have last := readKey_append own (endsKey_gap after ends.endsKey)
      have stop : skipBlanks (gap ++ rest) = rest := by
        obtain ⟨_, _, rfl, rfl | rfl⟩ := ends <;> exact skipBlanks_append after rfl
      have noDot : ∀ c ∈ (skipBlanks (gap ++ rest)).head?, c ≠ '.' := by
        obtain ⟨_, _, rfl, rfl | rfl⟩ := ends <;> simp [stop]
      rw [List.append_assoc, readKeys_end last noDot, stop]
  | @cons text gap gap' others key path own after before more ih =>
      have dotEnds : EndsKey ('.' :: (gap' ++ (others ++ rest))) := by
        intro c mem
        cases mem
        rfl
      have first := readKey_append own (endsKey_gap after dotEnds)
      have dot : skipBlanks (gap ++ '.' :: (gap' ++ (others ++ rest))) =
          '.' :: (gap' ++ (others ++ rest)) := skipBlanks_append after rfl
      have stop : skipBlanks (gap' ++ (others ++ rest)) = others ++ rest := by
        obtain ⟨c, tail, rfl, starts⟩ := more.startsKey
        exact skipBlanks_append before (isBlank_of_startsKey starts)
      have shape : text ++ gap ++ '.' :: gap' ++ others ++ rest =
          text ++ (gap ++ '.' :: (gap' ++ (others ++ rest))) := by simp
      rw [shape, readKeys_dot first dot, stop, ih]
      rfl

theorem readPath_append {text : List Char} {path : List String} (h : SpellsPath text path)
    (short : path.length ≤ deepestKey) {rest : List Char} (ends : EndsPath rest) :
    readPath (text ++ rest) = some (path, rest) := by
  rw [readPath, readKeys_append h ends]
  exact if_pos (Nat.le_trans short (by decide))

/-- The header that a text spells is read off its front. -/
theorem readHeader_append {gap text : List Char} {path : List String} (hgap : IsGap gap)
    (own : SpellsPath text path) (short : path.length ≤ deepestKey) (rest : List Char) :
    readHeader ('[' :: (gap ++ (text ++ ']' :: rest))) = some (.table path, rest) := by
  obtain ⟨c, more, rfl, starts⟩ := own.startsKey
  have stop : skipBlanks (gap ++ (c :: more ++ ']' :: rest)) = c :: more ++ ']' :: rest :=
    skipBlanks_append hgap (isBlank_of_startsKey starts)
  have read : readPath (c :: more ++ ']' :: rest) = some (path, ']' :: rest) :=
    readPath_append own short ⟨_, _, rfl, .inr rfl⟩
  have single : ∀ after, gap ++ (c :: more ++ ']' :: rest) ≠ '[' :: after := by
    intro after eq
    cases gap with
    | nil => exact ne_of_startsKey starts (by decide) (List.cons.inj eq).1
    | cons d _ =>
        have blank := hgap d List.mem_cons_self
        rw [(List.cons.inj eq).1] at blank
        cases blank
  rw [readHeader]
  · rw [stop, read]
    rfl
  · exact single

-- ======================================================== bare values

/-- What may follow a value: blanks, and then the end of the line or a sign of an inline table. -/
def EndsValue (text : List Char) : Prop :=
  ∃ gap rest, text = gap ++ rest ∧ IsGap gap ∧ ∀ c ∈ rest.head?, c ∈ ['\n', '\r', '#', ',', '}']

/-- Whatever begins what follows a value is neither part of it nor a quote. -/
theorem EndsValue.head {text : List Char} (h : EndsValue text) :
    ∀ c ∈ text.head?, endsBare c = true ∧ c ≠ '"' ∧ c ≠ '\'' := by
  obtain ⟨gap, rest, rfl, hgap, hrest⟩ := h
  intro c mem
  cases gap with
  | nil =>
      have sign := hrest c mem
      simp only [List.mem_cons, List.not_mem_nil, or_false] at sign
      rcases sign with rfl | rfl | rfl | rfl | rfl <;> decide
  | cons d more =>
      cases mem
      have blank := hgap c List.mem_cons_self
      simp only [isBlank, Bool.or_eq_true, beq_iff_eq] at blank
      rcases blank with rfl | rfl <;> decide

/-- No time follows a value after a space. -/
theorem EndsValue.second {rest : List Char} {d : Char} (h : EndsValue (' ' :: d :: rest)) :
    d.isDigit = false := by
  obtain ⟨gap, after, eq, hgap, hafter⟩ := h
  cases gap with
  | nil =>
      rw [List.nil_append] at eq
      have sign := hafter ' ' (eq ▸ rfl)
      simp at sign
  | cons space gap =>
      have ends : EndsValue (d :: rest) :=
        ⟨gap, after, (List.cons.inj eq).2, fun c mem => hgap c (List.mem_cons_of_mem _ mem), hafter⟩
      have apart := (ends.head d rfl).1
      rw [endsBare, List.contains_iff_mem] at apart
      simp only [List.mem_cons, List.not_mem_nil, or_false] at apart
      rcases apart with rfl | rfl | rfl | rfl | rfl | rfl | rfl | rfl | rfl | rfl | rfl <;> rfl

/-- A text without quotes is read off the front as it stands. -/
theorem readBare_append {text : List Char} (nonempty : text ≠ [])
    (allowed : ∀ c ∈ text, endsBare c = false) {rest : List Char} (ends : EndsValue rest) :
    readBare (text ++ rest) = some (text, rest) := by
  have inside : ∀ c ∈ text, (!endsBare c) = true := by
    intro c mem
    rw [allowed c mem]
    rfl
  have stop : ∀ c ∈ rest.head?, (!endsBare c) = false := by
    intro c mem
    rw [(ends.head c mem).1]
    rfl
  obtain ⟨taken, dropped⟩ := Text.span_append inside stop
  rw [readBare, taken, dropped, List.isEmpty_eq_false_iff.2 nonempty, if_neg Bool.false_ne_true]
  split
  next =>
    rw [ends.second]
    simp
  next => rfl

end SchemaClasses.Toml
