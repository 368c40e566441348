/-
Reading the tokens of a YAML document of a schema tree.

Between two parts of a text the scanner is in one of few states: no key
is pending, and either no brace is open or only braces are. What a part
does to such a state is said once for each kind of part, whatever stands
before it and whatever follows that does not belong to it.

A block is closed late, by what comes next further to the left, or by
the end of the text. Both close it in the same way, so the state behind a
block may be taken for the one in which it has been closed already.
-/
import SchemaClasses.Proofs.Text.Cut
import SchemaClasses.Proofs.Yaml.Scalars

namespace SchemaClasses.Yaml

/-- All tokens, if the text goes on like this behind a place. -/
def scan (s : Layout) (p : Place) (text : List Char) : Option (List Token) :=
  (Text.readPieces cutToken s (placedAt p text)).bind Layout.finish

-- =============================================================== steps

/-- One step, without the proofs that it takes something off the text. -/
theorem cutAt_cutToken (s : Layout) (g : Glyph) (rest : List Glyph) :
    Text.cutAt cutToken s (g :: rest) =
      if isSkipped s g then some (s, rest)
      else if g.char = '#' then some (s, toLineEnd rest)
      else if isBreak g.char then some (s.lineEnd, rest)
      else (s.refreshAll g).bind fun s => (s.dedentTo (some g.column)).next g rest := by
  unfold Text.cutAt cutToken
  dsimp only
  by_cases skipped : isSkipped s g = true
  · rw [if_pos skipped, if_pos skipped]
    rfl
  rw [if_neg skipped, if_neg skipped]
  by_cases comment : g.char = '#'
  · rw [if_pos comment, if_pos comment]
    rfl
  rw [if_neg comment, if_neg comment]
  by_cases lineBreak : isBreak g.char = true
  · rw [if_pos lineBreak, if_pos lineBreak]
    rfl
  rw [if_neg lineBreak, if_neg lineBreak]
  cases s.refreshAll g with
  | none => rfl
  | some s =>
      rw [Option.bind_some]
      dsimp only
      split
      next failed => exact failed.symm
      next read => exact read.symm

theorem scan_of_cutAt {s later : Layout} {p q : Place} {c : Char} {text rest : List Char}
    (h : Text.cutAt cutToken s (p.glyph c :: placedAt (p.next c) text) =
      some (later, placedAt q rest)) : scan s p (c :: text) = scan later q rest := by
  rw [scan, placedAt_cons, Text.readPieces_of_cutAt h]
  rfl

/-- A blank takes up a place. -/
theorem scan_skip {s : Layout} {p : Place} {c : Char} (skipped : isSkipped s (p.glyph c) = true)
    (rest : List Char) : scan s p (c :: rest) = scan s (p.next c) rest := by
  apply scan_of_cutAt
  rw [cutAt_cutToken, if_pos skipped]

theorem scan_space (s : Layout) (p : Place) (rest : List Char) :
    scan s p (' ' :: rest) = scan s (p.next ' ') rest :=
  scan_skip (decide_eq_true (.inl rfl)) rest

theorem scan_tab {s : Layout} (allows : s.inFlow = true ∨ s.keyAllowed = false) (p : Place)
    (rest : List Char) : scan s p ('\t' :: rest) = scan s (p.next '\t') rest := by
  refine scan_skip (decide_eq_true (.inr (.inl ⟨rfl, ?_⟩))) rest
  exact allows.imp_right fun notAllowed => by simp [notAllowed]

theorem scan_break (s : Layout) (p : Place) (rest : List Char) :
    scan s p ('\n' :: rest) = scan s.lineEnd (p.next '\n') rest := by
  apply scan_of_cutAt
  have notSkipped : ¬isSkipped s (p.glyph '\n') = true := by
    rw [isSkipped, decide_eq_true_iff]
    rintro (eq | ⟨eq, -⟩ | ⟨eq, -⟩) <;> cases eq
  rw [cutAt_cutToken, if_neg notSkipped, if_neg (by rw [Place.char_glyph]; decide),
    if_pos (by rw [Place.char_glyph]; decide)]

/-- A comment takes up the rest of the line. -/
theorem scan_comment (s : Layout) (p : Place) {text rest : List Char}
    (oneLine : ∀ c ∈ text, isBreak c = false) (ends : ∀ c ∈ rest.head?, isBreak c = true) :
    scan s p ('#' :: text ++ rest) = scan s (p.after ('#' :: text)) rest := by
  apply scan_of_cutAt
  have notSkipped : ¬isSkipped s (p.glyph '#') = true := by
    rw [isSkipped, decide_eq_true_iff]
    rintro (eq | ⟨eq, -⟩ | ⟨eq, -⟩) <;> cases eq
  have lineEnd : ∀ q, toLineEnd (placedAt q (text ++ rest)) = placedAt (q.after text) rest := by
    intro q
    refine (span_placedAt (q := fun c => !isBreak c) (fun c mem => ?_) (fun c mem => ?_) q).2
    · rw [oneLine c mem]
      rfl
    · rw [ends c mem]
      rfl
  rw [List.append_eq, cutAt_cutToken, if_neg notSkipped, Place.char_glyph, if_pos rfl, lineEnd]
  rfl

/-- What the text has left when it ends. -/
theorem scan_nil (s : Layout) (p : Place) : scan s p [] = s.finish := by
  rw [scan, placedAt_nil, Text.readPieces]
  rfl

/-- A comment without a break is the last of the text. -/
theorem scan_lastComment (s : Layout) (p : Place) {text : List Char}
    (oneLine : ∀ c ∈ text, isBreak c = false) : scan s p ('#' :: text) = s.finish := by
  have read : scan s p ('#' :: text ++ []) = scan s (p.after ('#' :: text)) [] :=
    scan_comment s p oneLine (by simp)
  rwa [List.append_nil, scan_nil] at read

-- ============================================================ between

theorem lineEnd_inBlock {s : Layout} (noBraces : s.inFlow = false) (allowed : Bool) :
    Layout.lineEnd { s with keyAllowed := allowed } = { s with keyAllowed := true } := by
  have noBraces : Layout.inFlow { s with keyAllowed := allowed } = false := noBraces
  rw [Layout.lineEnd, noBraces, Bool.not_false, Bool.or_true]

/-- Between parts in a block nothing changes but whether a key may start. -/
theorem scan_fill {allowed after : Bool} {fill : List Char} (h : IsFill allowed fill after)
    {s : Layout} (noBraces : s.inFlow = false) (p : Place) (rest : List Char) :
    scan { s with keyAllowed := allowed } p (fill ++ rest) =
      scan { s with keyAllowed := after } (p.after fill) rest := by
  induction h generalizing p with
  | nil => rfl
  | space _ ih =>
      rw [List.cons_append, scan_space, ih]
      rfl
  | tab _ ih =>
      rw [List.cons_append, scan_tab (.inr rfl), ih]
      rfl
  | lineBreak _ ih =>
      rw [List.cons_append, scan_break, lineEnd_inBlock noBraces, ih]
      rfl
  | comment oneLine _ ih =>
      rw [List.append_assoc, scan_comment _ _ oneLine (by simp [isBreak]), List.cons_append,
        scan_break, lineEnd_inBlock noBraces, ih, Place.after_append]
      rfl

/-- Between parts in braces nothing changes. -/
theorem scan_fill_inFlow {allowed after : Bool} {fill : List Char} (h : IsFill allowed fill after)
    {s : Layout} (inBraces : s.inFlow = true) (p : Place) (rest : List Char) :
    scan s p (fill ++ rest) = scan s (p.after fill) rest := by
  have same : s.lineEnd = s := by
    rw [Layout.lineEnd, inBraces, Bool.not_true, Bool.or_false]
  induction h generalizing p with
  | nil => rfl
  | space _ ih =>
      rw [List.cons_append, scan_space, ih]
      rfl
  | tab _ ih =>
      rw [List.cons_append, scan_tab (.inl inBraces), ih]
      rfl
  | lineBreak _ ih =>
      rw [List.cons_append, scan_break, same, ih]
      rfl
  | comment oneLine _ ih =>
      rw [List.append_assoc, scan_comment _ _ oneLine (by simp [isBreak]), List.cons_append,
        scan_break, same, ih, Place.after_append]
      rfl

/-- The gap that stands in front of the first comment between two parts. -/
structure FrontGap (allowed : Bool) (fill gap tail : List Char) (after : Bool) : Prop where
  whole : fill = gap ++ tail
  isGap : ∀ c ∈ gap, Yaml.isGap c = true
  comment : tail = [] ∨ ∃ more, tail = '#' :: more
  others : IsFill (allowed || gap.any isBreak) tail after
  noTab : allowed = true → '\t' ∉ gap
  noLaterTab : '\t' ∉ gap.dropWhile fun c => !isBreak c

theorem exists_frontGap {allowed after : Bool} {fill : List Char} (h : IsFill allowed fill after) :
    ∃ gap tail, FrontGap allowed fill gap tail after := by
  induction h with
  | @nil allowed =>
      have others : IsFill (allowed || [].any isBreak) [] allowed := by
        rw [List.any_nil, Bool.or_false]
        exact .nil
      exact ⟨[], [], rfl, by simp, .inl rfl, others, by simp, by simp⟩
  | @space allowed _ _ _ ih =>
      obtain ⟨gap, tail, front⟩ := ih
      refine ⟨' ' :: gap, tail, congrArg (' ' :: ·) front.whole, ?_, front.comment, front.others,
        ?_, front.noLaterTab⟩
      · simpa using ⟨rfl, front.isGap⟩
      · simpa using front.noTab
  | tab _ ih =>
      obtain ⟨gap, tail, front⟩ := ih
      refine ⟨'\t' :: gap, tail, congrArg ('\t' :: ·) front.whole, ?_, front.comment, front.others,
        ?_, front.noLaterTab⟩
      · simpa using ⟨rfl, front.isGap⟩
      · simp
  | @lineBreak allowed after _ _ ih =>
      obtain ⟨gap, tail, front⟩ := ih
      have noTab : '\t' ∉ '\n' :: gap := by simpa using front.noTab rfl
      have others : IsFill (allowed || ('\n' :: gap).any isBreak) tail after := by
        have := front.others
        rw [List.any_cons, show isBreak '\n' = true from rfl, Bool.true_or, Bool.or_true]
        rwa [Bool.true_or] at this
      refine ⟨'\n' :: gap, tail, congrArg ('\n' :: ·) front.whole, ?_, front.comment, others,
        fun _ => noTab, noTab⟩
      simpa using ⟨rfl, front.isGap⟩
  | @comment allowed _ text rest oneLine others =>
      refine ⟨[], _, rfl, by simp, .inr ⟨_, rfl⟩, ?_, by simp, by simp⟩
      rw [List.any_nil, Bool.or_false]
      exact .comment oneLine others

-- ============================================================ scalars

theorem startsMarkerOf_glyph {c d : Char} (other : c ≠ d) (p : Place) (rest : List Glyph) :
    startsMarkerOf d (p.glyph c :: rest) = false :=
  startsMarkerOf_of_ne other rest

theorem next_double (s : Layout) (p : Place) (rest : List Glyph) :
    s.next (p.glyph '"') rest = s.quoted (p.glyph '"') (readDoubleQuoted rest) := by
  simp [Layout.next, startsMarkerOf_glyph]

theorem next_single (s : Layout) (p : Place) (rest : List Glyph) :
    s.next (p.glyph '\'') rest = s.quoted (p.glyph '\'') (readSingleQuoted rest) := by
  simp [Layout.next, startsMarkerOf_glyph]

/-- A character that a plain scalar starts with begins one. -/
theorem next_plain {s : Layout} {c : Char} {word : List Char} (starts : Starts s.inFlow c word)
    {p : Place} {text : List Glyph} (goesOn : word ≠ [] → endsWord text = false)
    (noMarker : startsMarker (p.glyph c :: text) = false) :
    s.next (p.glyph c) text = s.plain (p.glyph c) text := by
  obtain ⟨noDash, noPoint⟩ := Bool.or_eq_false_iff.1 noMarker
  obtain ⟨notGap, -, allowed⟩ := starts
  unfold Layout.next
  rw [noDash, noPoint]
  rcases allowed with noIndicator | ⟨nonempty, sign⟩
  · simp only [indicators, List.mem_cons, List.not_mem_nil, or_false, not_or] at noIndicator
    have starts : startsPlain s.inFlow (p.glyph c) text = true := by
      simp [startsPlain, notGap, indicators, noIndicator]
    simp [noIndicator, starts]
  · have inWord := goesOn nonempty
    rcases sign with rfl | ⟨noBraces, rfl | rfl⟩
    · simp [inWord, startsPlain]
    · simp [inWord, startsPlain, noBraces]
    · simp [inWord, startsPlain, noBraces]

-- ============================================================= states

namespace Layout

/-- No key is pending, and braces are open to this depth. -/
def level (tokens : List Token) (columns : List Nat) (depth : Nat) (allowed : Bool) : Layout :=
  { tokens, count := tokens.length, columns, candidate := none,
    enclosing := List.replicate depth none, keyAllowed := allowed }

/-- A place at which a node starts, as the key it may be. -/
def candidateAt (tokens : List Token) (columns : List Nat) (depth : Nat) (p : Place) : Candidate :=
  ⟨tokens.length, p.line, p.column, p.offset, depth == 0 && columns.head? == some p.column⟩

/-- A node has started at a place. -/
def started (tokens : List Token) (columns : List Nat) (depth : Nat) (allowed : Bool) (p : Place) :
    Layout :=
  { level tokens columns depth false with
    candidate := if allowed then some (candidateAt tokens columns depth p) else none }

theorem inFlow_level (tokens : List Token) (columns : List Nat) (depth : Nat) (allowed : Bool) :
    (level tokens columns depth allowed).inFlow = (depth != 0) := by
  cases depth <;> rfl

end Layout

open Layout (level started)

theorem scan_fill_level {allowed after : Bool} {fill : List Char} (h : IsFill allowed fill after)
    (tokens : List Token) (columns : List Nat) (p : Place) (rest : List Char) :
    scan (level tokens columns 0 allowed) p (fill ++ rest) =
      scan (level tokens columns 0 after) (p.after fill) rest :=
  scan_fill h (s := level tokens columns 0 allowed) rfl p rest

/-- No block that is open starts to the right of the place. -/
def Fits (columns : List Nat) (depth : Nat) (p : Place) : Prop :=
  depth = 0 → ∀ column ∈ columns.head?, column ≤ p.column

theorem mapM_refresh (depth : Nat) (g : Glyph) :
    (List.replicate depth none).mapM (Layout.refresh g) = some (List.replicate depth none) := by
  induction depth with
  | zero => rfl
  | succ depth ih =>
      rw [List.replicate_succ, List.mapM_cons, ih]
      rfl

theorem refreshAll_level (tokens : List Token) (columns : List Nat) (depth : Nat) (allowed : Bool)
    (g : Glyph) : (level tokens columns depth allowed).refreshAll g =
      some (level tokens columns depth allowed) := by
  rw [Layout.refreshAll]
  show (List.mapM (Layout.refresh g) (List.replicate depth none)).bind _ = _
  rw [mapM_refresh]
  rfl

/-- Where no block starts further to the right, none is closed. -/
theorem dedentTo_of_fits {s : Layout} {depth : Nat} {p : Place} (flow : s.inFlow = (depth != 0))
    (fits : Fits s.columns depth p) : s.dedentTo (some p.column) = s := by
  by_cases inBraces : s.inFlow = true
  · rw [Layout.dedentTo, if_pos inBraces]
  have outside : depth = 0 := by simpa [flow] using inBraces
  have notRight : ∀ c ∈ s.columns.head?, decide (p.column < c) = false :=
    fun c mem => decide_eq_false (Nat.not_lt.2 (fits outside c mem))
  obtain ⟨taken, kept⟩ := Text.span_append (List.forall_mem_nil _) notRight
  rw [List.nil_append] at taken kept
  rw [Layout.dedentTo, if_neg inBraces]
  show (s.columns.takeWhile fun c => decide (p.column < c)).foldl _
    { s with columns := s.columns.dropWhile fun c => decide (p.column < c) } = s
  rw [taken, kept]
  rfl

/-- What may begin a part: neither a blank nor a break nor a comment. -/
def BeginsPart (c : Char) : Prop := isGap c = false ∧ c ≠ '#' ∧ c ≠ byteOrderMark

/-- What begins a part is read as one, after the blocks further to the right have been closed. -/
theorem cutAt_part {c : Char} (begins : BeginsPart c) (s : Layout) (p : Place)
    (text : List Glyph) :
    Text.cutAt cutToken s (p.glyph c :: text) =
      (s.refreshAll (p.glyph c)).bind fun s => (s.dedentTo (some p.column)).next (p.glyph c) text := by
  obtain ⟨notGap, notComment, notMark⟩ := begins
  have notSkipped : ¬isSkipped s (p.glyph c) = true := by
    rw [isSkipped, decide_eq_true_iff]
    rintro (eq | ⟨eq, -⟩ | ⟨eq, -⟩)
    · have eq : c = ' ' := eq
      subst eq
      cases notGap
    · have eq : c = '\t' := eq
      subst eq
      cases notGap
    · exact notMark eq
  have noBreak : ¬isBreak c = true := by simp [isBreak_of_not_isGap notGap]
  rw [cutAt_cutToken, if_neg notSkipped, Place.char_glyph, if_neg notComment, if_neg noBreak]
  rfl

/-- A part that begins where no key is pending and no block has to be closed. -/
theorem cutAt_level {c : Char} (begins : BeginsPart c) {tokens : List Token} {columns : List Nat}
    {depth : Nat} {allowed : Bool} {p : Place} (fits : Fits columns depth p) (text : List Glyph) :
    Text.cutAt cutToken (level tokens columns depth allowed) (p.glyph c :: text) =
      (level tokens columns depth allowed).next (p.glyph c) text := by
  rw [cutAt_part begins, refreshAll_level, Option.bind_some,
    dedentTo_of_fits (Layout.inFlow_level tokens columns depth allowed) fits]

theorem nodeStart_level (tokens : List Token) (columns : List Nat) (depth : Nat) (allowed : Bool)
    (p : Place) (c : Char) :
    (level tokens columns depth allowed).nodeStart (p.glyph c) =
      some (started tokens columns depth allowed p) := by
  cases allowed with
  | false => rfl
  | true => cases depth <;> rfl

/-- The column that the lines of a plain scalar are indented to at least. -/
def plainColumn : List Nat → Nat
  | [] => 0
  | innermost :: _ => innermost + 1

/-- What follows a scalar and the fill behind it belongs to neither. -/
structure Follows (depth : Nat) (plain : Bool) (columns : List Nat) (p : Place)
    (fill rest : List Char) : Prop where
  noGap : ∀ c ∈ rest.head?, isGap c = false
  noQuote : fill = [] → rest.head? ≠ some '\''
  ends : plain = true → StopsWord (depth != 0) (placedAt p rest) ∨
    fill ≠ [] ∧ endsPlain (depth != 0) (plainColumn columns) (placedAt p rest) = true

theorem head?_fill {allowed after : Bool} {fill : List Char} (h : IsFill allowed fill after) :
    ∀ c ∈ fill.head?, isGap c = true ∨ c = '#' := by
  cases h with
  | nil => simp
  | space _ => simp [isGap, isBlank]
  | tab _ => simp [isGap, isBlank]
  | lineBreak _ => simp [isGap, isBreak]
  | comment _ _ => simp

/-- The state behind a scalar and the fill behind it, in a block and in braces. -/
theorem scan_fill_scalar (tokens : List Token) (columns : List Nat) (depth : Nat) (allowed : Bool)
    (p q : Place) {before after : Bool} {fill : List Char} (h : IsFill before fill after)
    (token : Token) (rest : List Char) :
    ∃ ends : Bool, (depth = 0 → ends = after) ∧
      scan (Layout.emit { started tokens columns depth allowed p with keyAllowed := before } token) q
        (fill ++ rest) =
      scan (Layout.emit { started tokens columns depth allowed p with keyAllowed := ends } token)
        (q.after fill) rest := by
  cases depth with
  | zero => exact ⟨after, fun _ => rfl, scan_fill (s := Layout.emit (started tokens columns 0 allowed p) token) h rfl q rest⟩
  | succ depth => exact ⟨before, by simp, scan_fill_inFlow h rfl q rest⟩

theorem scan_quoted {text : List Char} {str : String} (h : SpellsQuoted text str)
    {tokens : List Token} {columns : List Nat} {depth : Nat} {allowed : Bool} {p : Place}
    (fits : Fits columns depth p) {rest : List Char} (apart : rest.head? ≠ some '\'') :
    scan (level tokens columns depth allowed) p (text ++ rest) =
      scan (Layout.emit (started tokens columns depth allowed p) (.scalar false str))
        (p.after text) rest := by
  cases h with
  | @double inside _ row =>
      have inLine : 0 < (p.next '"').column := by
        rw [Place.column_next (by rfl)]
        omega
      rw [List.append_assoc, List.cons_append, List.singleton_append]
      apply scan_of_cutAt
      rw [cutAt_level (by refine ⟨rfl, ?_, ?_⟩ <;> decide) fits, next_double, Layout.quoted,
        nodeStart_level, readDoubleQuoted_append row _ inLine]
      show some (Layout.emit _ (.scalar false (String.ofList str.toList)), _) = _
      rw [String.ofList_toList]
      rfl
  | @single inside _ row =>
      have inLine : 0 < (p.next '\'').column := by
        rw [Place.column_next (by rfl)]
        omega
      rw [List.append_assoc, List.cons_append, List.singleton_append]
      apply scan_of_cutAt
      rw [cutAt_level (by refine ⟨rfl, ?_, ?_⟩ <;> decide) fits, next_single, Layout.quoted,
        nodeStart_level, readSingleQuoted_append row _ inLine apart]
      show some (Layout.emit _ (.scalar false (String.ofList str.toList)), _) = _
      rw [String.ofList_toList]
      rfl

/-- No marker comes where a word stops. -/
theorem head?_of_stopsWord {inFlow : Bool} {p : Place} {text : List Char}
    (stops : StopsWord inFlow (placedAt p text)) : ∀ c ∈ text.head?, c ≠ '-' ∧ c ≠ '.' := by
  intro c mem
  cases text with
  | nil => cases mem
  | cons d more =>
      cases mem
      rw [StopsWord, placedAt_cons, plainWord, Place.char_glyph] at stops
      constructor
      · rintro rfl
        simp [isGap, isBlank, isBreak, flowIndicators] at stops
      · rintro rfl
        simp [isGap, isBlank, isBreak, flowIndicators] at stops

theorem take_of_startsMarkerOf {c : Char} {text : List Glyph}
    (h : startsMarkerOf c text = true) : (chars text).take 3 = [c, c, c] := by
  unfold startsMarkerOf at h
  split at h
  next =>
    simp only [Bool.and_eq_true, beq_iff_eq] at h
    obtain ⟨⟨⟨⟨-, first⟩, second⟩, third⟩, -⟩ := h
    simp [chars, first, second, third]
  next => cases h

/-- A plain scalar does not begin with a marker. -/
theorem startsMarker_of_isPlain {p : Place} {c : Char} {text rest : List Char}
    (noMarker : (c :: text).take 3 ≠ ['-', '-', '-'] ∧ (c :: text).take 3 ≠ ['.', '.', '.'])
    (stops : ∀ d ∈ rest.head?, d ≠ '-' ∧ d ≠ '.') :
    startsMarker (p.glyph c :: placedAt (p.next c) (text ++ rest)) = false := by
  have none : ∀ d, (d = '-' ∨ d = '.') → (c :: text).take 3 ≠ [d, d, d] →
      startsMarkerOf d (p.glyph c :: placedAt (p.next c) (text ++ rest)) = false := by
    intro d mark other
    refine Bool.eq_false_iff.2 fun starts => ?_
    have three := take_of_startsMarkerOf starts
    rw [← placedAt_cons, chars_placedAt] at three
    have notNext : ∀ {a more}, rest = a :: more → a ≠ d := by
      rintro a more rfl rfl
      exact mark.elim (stops a rfl).1 (stops a rfl).2
    match text, rest with
    | [], [] => simp at three
    | [], a :: _ => exact notNext rfl (by simp at three; exact three.2.1)
    | [_], [] => simp at three
    | [_], a :: _ => exact notNext rfl (by simp at three; exact three.2.2)
    | _ :: _ :: _, _ => exact other (by simpa using three)
  rw [startsMarker, none _ (.inl rfl) noMarker.1, none _ (.inr rfl) noMarker.2]
  rfl

theorem beginsPart_of_starts {inFlow : Bool} {c : Char} {word : List Char}
    (h : Starts inFlow c word) : BeginsPart c := by
  obtain ⟨notGap, notMark, allowed⟩ := h
  refine ⟨notGap, ?_, notMark⟩
  rintro rfl
  rcases allowed with noIndicator | ⟨-, sign | ⟨-, sign | sign⟩⟩
  · exact noIndicator (by decide)
  all_goals cases sign

/-- No word of a plain scalar goes on behind it. -/
theorem stopsWord_of_follows {depth : Nat} {columns : List Nat} {p : Place} {fill rest : List Char}
    {after : Bool} (separates : Separates fill after)
    (follows : Follows depth true columns (p.after fill) fill rest) :
    StopsWord (depth != 0) (placedAt p (fill ++ rest)) := by
  cases fill with
  | nil => exact (follows.ends rfl).resolve_right fun ⟨nonempty, _⟩ => nonempty rfl
  | cons c more =>
      have gap : isGap c = true :=
        (head?_fill separates.1 c rfl).resolve_right fun comment => separates.2 (by rw [comment]; rfl)
      rw [List.cons_append, placedAt_cons]
      exact stopsWord_gap _ gap _

/-- A plain scalar ends behind its last word, with the gap that follows. -/
theorem plainTail_of_follows {depth : Nat} {columns : List Nat} {p : Place}
    {fill gap tail rest : List Char} {after : Bool} (front : FrontGap false fill gap tail after)
    (follows : Follows depth true columns (p.after fill) fill rest) :
    plainTail (depth != 0) (plainColumn columns) (placedAt p (fill ++ rest)) =
      some ⟨[], gap.any isBreak, placedAt (p.after gap) (tail ++ rest)⟩ := by
  have noGap : ∀ c ∈ (tail ++ rest).head?, isGap c = false := by
    rcases front.comment with rfl | ⟨more, rfl⟩
    · exact follows.noGap
    · simp [isGap, isBlank, isBreak]
  obtain ⟨taken, dropped⟩ := gapOf_append front.isGap p noGap
  rw [← List.append_assoc, ← front.whole] at taken dropped
  have stops : (gapOf (placedAt p (fill ++ rest))).isEmpty = true ∨
      endsPlain (depth != 0) (plainColumn columns) (afterGap (placedAt p (fill ++ rest))) = true ∨
      StopsWord (depth != 0) (afterGap (placedAt p (fill ++ rest))) := by
    rw [dropped]
    rcases front.comment with rfl | ⟨more, rfl⟩
    · have same : fill = gap := by rw [front.whole, List.append_nil]
      subst same
      rcases follows.ends rfl with stops | ⟨-, ends⟩
      · exact .inr (.inr stops)
      · exact .inr (.inl ends)
    · refine .inr (.inl ?_)
      rw [List.cons_append, placedAt_cons, endsPlain, Place.char_glyph, beq_self_eq_true,
        Bool.or_true]
  rw [plainTail_stop (by rw [taken]; exact hasTabBefore_of_notMem front.noLaterTab _ p) stops,
    taken, dropped]
  have same : (placedAt p gap).any (fun g => isBreak g.char) =
      (chars (placedAt p gap)).any isBreak := by
    rw [chars, List.any_map]
    rfl
  rw [same, chars_placedAt]

/-- A word does not end before its first character. -/
theorem endsWord_of_isWord {inFlow : Bool} {word : List Char} (own : IsWord inFlow word)
    (nonempty : word ≠ []) (p : Place) (rest : List Char) :
    endsWord (placedAt p (word ++ rest)) = false := by
  cases own with
  | nil => exact absurd rfl nonempty
  | cons notGap _ _ _ =>
      rw [List.cons_append, placedAt_cons]
      exact notGap

/-- Reading a plain scalar emits it, and the fill behind it is used up. -/
theorem scan_plain {text : List Char} {depth : Nat} (h : IsPlain (depth != 0) text)
    (tokens : List Token) {columns : List Nat} (allowed : Bool) {after : Bool} {p : Place}
    (fits : Fits columns depth p) {fill : List Char} (separates : Separates fill after)
    {rest : List Char} (follows : Follows depth true columns (p.after (text ++ fill)) fill rest) :
    ∃ ends : Bool, (depth = 0 → ends = after) ∧
      scan (level tokens columns depth allowed) p (text ++ (fill ++ rest)) =
      scan (Layout.emit { started tokens columns depth allowed p with keyAllowed := ends }
        (.scalar true (String.ofList text))) (p.after (text ++ fill)) rest := by
  cases h with
  | @intro c word more starts own others noMarker =>
      obtain ⟨gap, tail, front⟩ := exists_frontGap separates.1
      rw [Place.after_append] at follows
      have stops := stopsWord_of_follows separates follows
      have ends := plainTail_of_follows front follows
      have deep : (depth != 0) = false → plainColumn columns ≤ p.column + 1 := by
        intro outside
        cases columns with
        | nil => exact Nat.zero_le _
        | cons innermost outer =>
            exact Nat.succ_le_succ (fits (by simpa using outside) innermost rfl)
      have read := readPlain_append own others p deep (isBreak_of_not_isGap starts.1) stops ends
      have noMarker := startsMarker_of_isPlain (p := p) (c := c) noMarker (head?_of_stopsWord stops)
      have goesOn : word ≠ [] →
          endsWord (placedAt (p.next c) (word ++ more ++ (fill ++ rest))) = false := by
        intro nonempty
        rw [List.append_assoc]
        exact endsWord_of_isWord own nonempty _ _
      have shape : c :: word ++ more ++ (fill ++ rest) =
          c :: (word ++ more ++ (fill ++ rest)) := by simp
      have flow := Layout.inFlow_level tokens columns depth allowed
      obtain ⟨ended, flag, fills⟩ := scan_fill_scalar tokens columns depth allowed p
        ((p.after (c :: word ++ more)).after gap) front.others
        (.scalar true (String.ofList (c :: word ++ more))) rest
      refine ⟨ended, flag, ?_⟩
      have place : p.after (c :: word ++ more ++ fill) =
          ((p.after (c :: word ++ more)).after gap).after tail := by
        rw [front.whole]
        simp
      rw [place, ← fills, shape]
      apply scan_of_cutAt
      rw [cutAt_level (beginsPart_of_starts starts) fits,
        next_plain (flow ▸ starts) goesOn noMarker, Layout.plain, nodeStart_level]
      have inFlow : (started tokens columns depth allowed p).inFlow = (depth != 0) := flow
      show (readPlain (started tokens columns depth allowed p).inFlow (plainColumn columns) c
        _).bind _ = _
      rw [inFlow, read]
      rfl

/-- Reading a scalar emits it, and the fill behind it is used up. -/
theorem scan_scalar {plain : Bool} {text : List Char} {str : String} {depth : Nat}
    (h : SpellsScalar (depth != 0) plain text str) (tokens : List Token) {columns : List Nat}
    (allowed : Bool) {after : Bool} {p : Place} (fits : Fits columns depth p) {fill : List Char}
    (separates : Separates fill after) {rest : List Char}
    (follows : Follows depth plain columns (p.after (text ++ fill)) fill rest) :
    ∃ ends : Bool, (depth = 0 → ends = after) ∧
      scan (level tokens columns depth allowed) p (text ++ (fill ++ rest)) =
      scan (Layout.emit { started tokens columns depth allowed p with keyAllowed := ends }
        (.scalar plain str)) (p.after (text ++ fill)) rest := by
  cases h with
  | plain own =>
      have read := scan_plain own tokens allowed fits separates follows
      rwa [String.ofList_toList] at read
  | quoted own =>
      have apart : (fill ++ rest).head? ≠ some '\'' := by
        cases fill with
        | nil => exact follows.noQuote rfl
        | cons c more =>
            rintro ⟨⟩
            rcases head?_fill separates.1 '\'' rfl with gap | comment
            · cases gap
            · cases comment
      obtain ⟨ended, flag, fills⟩ := scan_fill_scalar tokens columns depth allowed p (p.after text)
        separates.1 (.scalar false str) rest
      refine ⟨ended, flag, ?_⟩
      rw [Place.after_append, ← fills]
      exact scan_quoted own fits apart

-- =============================================================== keys

theorem next_colon {s : Layout} {text : List Glyph} (ends : s.inFlow = true ∨ endsWord text = true)
    (p : Place) : s.next (p.glyph ':') text = Layout.sign (s.value (p.glyph ':')) text := by
  simp [Layout.next, startsMarkerOf_glyph, ends]

/-- A key at the column opens a block. -/
def opens (columns : List Nat) (depth column : Nat) : Bool :=
  depth == 0 && columns.head?.all (· < column)

/-- The state behind the colon of a key at a place. -/
def keyed (token : Token) (tokens : List Token) (columns : List Nat) (depth : Nat) (p : Place) :
    Layout :=
  if opens columns depth p.column then
    level (.value :: token :: .key :: .openBlockMapping :: tokens) (p.column :: columns) depth false
  else level (.value :: token :: .key :: tokens) columns depth false

/-- A token is put in behind those that come before its place. -/
theorem emitAt_append {s : Layout} (front back : List Token) (tokens : s.tokens = front ++ back)
    (count : s.count = front.length + back.length) (token : Token) :
    s.emitAt back.length token =
      { s with tokens := front ++ token :: back, count := s.count + 1 } := by
  have later : s.count - back.length = front.length := by omega
  rw [Layout.emitAt, later, tokens, List.take_left, List.drop_left]

/-- A block opens in front of the key that is pending, if it is deeper than those around it. -/
theorem indentTo_append {s : Layout} (front back : List Token) (column : Nat) {depth : Nat}
    (tokens : s.tokens = front ++ back) (count : s.count = front.length + back.length)
    (flow : s.inFlow = (depth != 0)) (token : Token) :
    s.indentTo column back.length token =
      if opens s.columns depth column then
        { s with tokens := front ++ token :: back, count := s.count + 1,
                 columns := column :: s.columns }
      else s := by
  unfold Layout.indentTo
  rw [emitAt_append front back tokens count, flow, opens]
  cases depth <;> cases s.columns <;> rfl

/-- The colon makes a key of the node that has started. -/
theorem value_started (token : Token) (tokens : List Token) (columns : List Nat) (depth : Nat)
    (ends : Bool) (p : Place) (g : Glyph) :
    (Layout.emit { started tokens columns depth true p with keyAllowed := ends } token).value g =
      some (keyed token tokens columns depth p) := by
  obtain ⟨s, node⟩ : ∃ s, s =
      Layout.emit { started tokens columns depth true p with keyAllowed := ends } token := ⟨_, rfl⟩
  have atKey : s.emitAt tokens.length .key =
      { s with tokens := [token] ++ .key :: tokens, count := s.count + 1 } := by
    subst node
    exact emitAt_append [token] tokens rfl (Nat.add_comm _ _) Token.key
  have atBlock : (s.emitAt tokens.length .key).indentTo p.column tokens.length .openBlockMapping =
      if opens columns depth p.column then
        { s.emitAt tokens.length .key with
          tokens := [token, .key] ++ .openBlockMapping :: tokens
          count := s.count + 2
          columns := p.column :: columns }
      else s.emitAt tokens.length .key := by
    have flow : (s.emitAt tokens.length .key).inFlow = (depth != 0) := by
      rw [atKey, node]
      exact Layout.inFlow_level tokens columns depth true
    have columnsKept : (s.emitAt tokens.length .key).columns = columns := by
      rw [atKey, node]
      rfl
    have sum : (s.emitAt tokens.length .key).count = [token, Token.key].length + tokens.length := by
      rw [atKey, node]
      exact Nat.add_comm _ 2
    have opened := indentTo_append [token, Token.key] tokens p.column (by rw [atKey]; rfl) sum flow
      Token.openBlockMapping
    rw [columnsKept] at opened
    exact opened
  have candidate : s.candidate = some (Layout.candidateAt tokens columns depth p) := by
    rw [node]
    rfl
  rw [← node, Layout.value, candidate]
  show some (Layout.emit { (s.emitAt tokens.length .key).indentTo p.column tokens.length
    .openBlockMapping with candidate := none, keyAllowed := false } .value) = _
  rw [atBlock, keyed, atKey, node]
  split <;> rfl

/-- Behind a text of one line the place is in the line, as many bytes further. -/
theorem Place.offset_after {p : Place} {text : List Char}
    (oneLine : ∀ c ∈ text, isBreak c = false) :
    (p.after text).line = p.line ∧
      (p.after text).offset = p.offset + bytes text := by
  induction text generalizing p with
  | nil => exact ⟨rfl, rfl⟩
  | cons c more ih =>
      obtain ⟨line, offset⟩ := ih (p := p.next c) fun d mem => oneLine d (List.mem_cons_of_mem c mem)
      have inLine : (p.next c).line = p.line ∧ (p.next c).offset = p.offset + c.utf8Size := by
        rw [next, oneLine c List.mem_cons_self]
        exact ⟨rfl, rfl⟩
      rw [after_cons, line, offset, inLine.1, inLine.2, bytes, Nat.add_assoc]
      exact ⟨rfl, rfl⟩

/-- A pending key is still one where its colon comes on its line and soon. -/
theorem refreshAll_started {tokens : List Token} {columns : List Nat} {depth : Nat} {ends : Bool}
    {p : Place} {text : List Char} (oneLine : ∀ c ∈ text, isBreak c = false) (short : IsShort text)
    (token : Token) (c : Char) :
    (Layout.emit { started tokens columns depth true p with keyAllowed := ends } token).refreshAll
        ((p.after text).glyph c) =
      some (Layout.emit { started tokens columns depth true p with keyAllowed := ends } token) := by
  obtain ⟨line, offset⟩ := Place.offset_after (p := p) oneLine
  have fresh : ¬(p.line < (p.after text).line ∨
      p.offset + Layout.longestKey < (p.after text).offset) := by
    rw [line, offset]
    rw [IsShort] at short
    omega
  have kept : Layout.refresh ((p.after text).glyph c)
      (some (Layout.candidateAt tokens columns depth p)) =
        some (some (Layout.candidateAt tokens columns depth p)) := if_neg fresh
  rw [Layout.refreshAll]
  show (Layout.refresh _ (some (Layout.candidateAt tokens columns depth p))).bind _ = _
  rw [kept, Option.bind_some]
  show (List.mapM (Layout.refresh _) (List.replicate depth none)).bind _ = _
  rw [mapM_refresh]
  rfl

theorem isBreak_of_row {spells : List Char → Char → Prop}
    (h : ∀ text c, spells text c → ∀ d ∈ text, isBreak d = false) {inside s : List Char}
    (row : Text.SpellsRow spells inside s) : ∀ d ∈ inside, isBreak d = false := by
  induction row with
  | nil => simp
  | cons first _ ih =>
      intro d mem
      rcases List.mem_append.1 mem with own | others
      · exact h _ _ first d own
      · exact ih d others

theorem isBreak_of_isPlain {inFlow : Bool} {text : List Char} (h : IsPlain inFlow text) :
    ∀ c ∈ text, isBreak c = false := by
  cases h with
  | intro starts own others _ =>
      intro c mem
      rw [List.mem_append, List.mem_cons] at mem
      rcases mem with (rfl | inWord) | inWords
      · exact isBreak_of_not_isGap starts.1
      · exact isBreak_of_isWord own c inWord
      · exact isBreak_of_isWords others c inWords

/-- Scalars stand on one line. -/
theorem isBreak_of_spellsScalar {inFlow plain : Bool} {text : List Char} {str : String}
    (h : SpellsScalar inFlow plain text str) : ∀ c ∈ text, isBreak c = false := by
  have enclosed : ∀ {quote : Char} {inside : List Char}, isBreak quote = false →
      (∀ c ∈ inside, isBreak c = false) → ∀ c ∈ quote :: inside ++ [quote], isBreak c = false := by
    intro quote inside notBreak oneLine c mem
    rw [List.cons_append, List.mem_cons, List.mem_append, List.mem_singleton] at mem
    rcases mem with rfl | mem | rfl
    · exact notBreak
    · exact oneLine c mem
    · exact notBreak
  cases h with
  | plain own => exact isBreak_of_isPlain own
  | quoted own =>
      cases own with
      | double row => exact enclosed rfl (isBreak_of_row (fun _ _ => isBreak_of_spellsChar) row)
      | single row => exact enclosed rfl (isBreak_of_row (fun _ _ => isBreak_of_spellsLiteral) row)

theorem isFill_of_isGap {gap : List Char} (h : IsGap gap) : IsFill false gap false := by
  induction gap with
  | nil => exact .nil
  | cons c more ih =>
      have blank := h c List.mem_cons_self
      have others := ih fun d mem => h d (List.mem_cons_of_mem c mem)
      simp only [isBlank, Bool.or_eq_true, beq_iff_eq] at blank
      rcases blank with rfl | rfl
      · exact .space others
      · exact .tab others

theorem separates_of_isGap {gap : List Char} (h : IsGap gap) : Separates gap false := by
  refine ⟨isFill_of_isGap h, fun comment => ?_⟩
  have blank := h '#' (List.mem_of_mem_head? comment)
  cases blank

/-- Reading a key up to its colon. -/
theorem scan_key {plain : Bool} {text gap : List Char} {name : String} {depth : Nat}
    (hkey : SpellsScalar (depth != 0) plain text name) (hgap : IsGap gap)
    (short : IsShort (text ++ gap)) (tokens : List Token) {columns : List Nat} {p : Place}
    (fits : Fits columns depth p) {rest : List Char}
    (ends : plain = true ∨ depth = 0 →
      endsWord (placedAt (p.after (text ++ gap ++ [':'])) rest) = true) :
    scan (level tokens columns depth true) p (text ++ (gap ++ ':' :: rest)) =
      scan (keyed (.scalar plain name) tokens columns depth p) (p.after (text ++ gap ++ [':']))
        rest := by
  have place : (p.after (text ++ gap)).next ':' = p.after (text ++ gap ++ [':']) := by simp
  have follows : Follows depth plain columns (p.after (text ++ gap)) gap (':' :: rest) := by
    refine ⟨by simp [isGap, isBlank, isBreak], by simp, fun isPlain => .inl ?_⟩
    rw [StopsWord, placedAt_cons, plainWord, Place.char_glyph, place, ends (.inl isPlain)]
    simp
  obtain ⟨ended, -, read⟩ := scan_scalar hkey tokens true fits
    (separates_of_isGap hgap) follows
  have oneLine : ∀ c ∈ text ++ gap, isBreak c = false := by
    intro c mem
    rcases List.mem_append.1 mem with inKey | inGap
    · exact isBreak_of_spellsScalar hkey c inKey
    · exact isBreak_of_isBlank (hgap c inGap)
  have flow : Layout.inFlow (Layout.emit { started tokens columns depth true p with
      keyAllowed := ended } (.scalar plain name)) = (depth != 0) :=
    Layout.inFlow_level tokens columns depth true
  have fitsNext : Fits columns depth (p.after (text ++ gap)) := by
    intro outside column mem
    have := fits outside column mem
    rw [Place.column_after oneLine]
    omega
  rw [read]
  apply scan_of_cutAt
  rw [cutAt_part (by refine ⟨rfl, ?_, ?_⟩ <;> decide), refreshAll_started oneLine short,
    Option.bind_some, dedentTo_of_fits flow fitsNext, next_colon, value_started, place]
  · rfl
  · rw [flow, place]
    rcases Nat.eq_zero_or_pos depth with outside | inside
    · exact .inr (ends (.inr outside))
    · exact .inl (by simpa using Nat.ne_of_gt inside)

end SchemaClasses.Yaml
