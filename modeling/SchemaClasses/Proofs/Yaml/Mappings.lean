/-
Reading the mappings of a YAML document of a schema tree.

A mapping in braces ends by itself, so its tokens are read off whatever
follows. A block goes on until a line starts further to the left, so what
is said of a block is said with what follows it. Either way the text of a
mapping turns into tokens, and the tokens into a node of pairs in the same
order.
-/
import SchemaClasses.Proofs.Yaml.Nodes
import SchemaClasses.Proofs.Yaml.Scanning

namespace SchemaClasses.Yaml

open Layout (level started)

variable {α : Type}

-- =============================================================== signs

/-- Nothing has to be closed in braces. -/
theorem fits_succ (columns : List Nat) (depth : Nat) (p : Place) : Fits columns (depth + 1) p :=
  fun outside => absurd outside (Nat.succ_ne_zero depth)

theorem scan_sign {c : Char} (begins : BeginsPart c) {tokens : List Token} {columns : List Nat}
    {depth : Nat} {allowed : Bool} {p : Place} (fits : Fits columns depth p) {later : Layout}
    {rest : List Char}
    (next : (level tokens columns depth allowed).next (p.glyph c) (placedAt (p.next c) rest) =
      some (later, placedAt (p.next c) rest)) :
    scan (level tokens columns depth allowed) p (c :: rest) = scan later (p.next c) rest := by
  apply scan_of_cutAt
  rw [cutAt_level begins fits]
  exact next

theorem next_openBrace (s : Layout) (p : Place) (text : List Glyph) :
    s.next (p.glyph '{') text = Layout.sign (s.openFlow (p.glyph '{') .openFlowMapping) text := by
  simp [Layout.next, startsMarkerOf_glyph]

theorem next_closeBrace (s : Layout) (p : Place) (text : List Glyph) :
    s.next (p.glyph '}') text = Layout.sign (s.closeFlow .closeFlowMapping) text := by
  simp [Layout.next, startsMarkerOf_glyph]

theorem next_comma (s : Layout) (p : Place) (text : List Glyph) :
    s.next (p.glyph ',') text = Layout.sign s.comma text := by
  simp [Layout.next, startsMarkerOf_glyph]

theorem next_mark {s : Layout} (inBraces : s.inFlow = true) (p : Place) (text : List Glyph) :
    s.next (p.glyph '?') text = Layout.sign (s.key (p.glyph '?')) text := by
  simp [Layout.next, startsMarkerOf_glyph, inBraces]

theorem scan_openBrace (tokens : List Token) {columns : List Nat} {depth : Nat} {p : Place}
    (fits : Fits columns depth p) (rest : List Char) :
    scan (level tokens columns depth false) p ('{' :: rest) =
      scan (level (.openFlowMapping :: tokens) columns (depth + 1) true) (p.next '{') rest :=
  scan_sign (by refine ⟨rfl, ?_, ?_⟩ <;> decide) fits (next_openBrace _ p _)

section
variable (tokens : List Token) (columns : List Nat) (depth : Nat) (allowed : Bool) (p : Place)
  (rest : List Char)

theorem scan_closeBrace : scan (level tokens columns (depth + 1) allowed) p ('}' :: rest) =
    scan (level (.closeFlowMapping :: tokens) columns depth false) (p.next '}') rest :=
  scan_sign (by refine ⟨rfl, ?_, ?_⟩ <;> decide) (fits_succ columns depth p) (next_closeBrace _ p _)

theorem scan_comma : scan (level tokens columns (depth + 1) allowed) p (',' :: rest) =
    scan (level (.comma :: tokens) columns (depth + 1) true) (p.next ',') rest :=
  scan_sign (by refine ⟨rfl, ?_, ?_⟩ <;> decide) (fits_succ columns depth p) (next_comma _ p _)

theorem scan_mark : scan (level tokens columns (depth + 1) allowed) p ('?' :: rest) =
    scan (level (.key :: tokens) columns (depth + 1) false) (p.next '?') rest :=
  scan_sign (by refine ⟨rfl, ?_, ?_⟩ <;> decide) (fits_succ columns depth p) (next_mark rfl p _)

theorem scan_colon : scan (level tokens columns (depth + 1) allowed) p (':' :: rest) =
    scan (level (.value :: tokens) columns (depth + 1) false) (p.next ':') rest :=
  scan_sign (by refine ⟨rfl, ?_, ?_⟩ <;> decide) (fits_succ columns depth p)
    (next_colon (.inl rfl) p)

/-- What may come behind an entry in braces. -/
def EndsEntry (c : Char) : Prop := c = ',' ∨ c = '}'

/-- Whether a key may start means nothing in front of the sign behind an entry. -/
theorem scan_endsEntry {c : Char} (sign : EndsEntry c) :
    scan (level tokens columns (depth + 1) allowed) p (c :: rest) =
      scan (level tokens columns (depth + 1) false) p (c :: rest) := by
  rcases sign with rfl | rfl
  · rw [scan_comma, scan_comma]
  · rw [scan_closeBrace, scan_closeBrace]

end

-- ============================================================ in braces

/-- Reading the value appends these tokens, up to the sign behind its entry. -/
def ScansBraced (text : List Char) (tokens : List Token) : Prop :=
  ∀ before columns depth p fill after c rest, Separates fill after → EndsEntry c →
    scan (level before columns (depth + 1) false) p (text ++ (fill ++ c :: rest)) =
      scan (level (tokens.reverse ++ before) columns (depth + 1) false) (p.after (text ++ fill))
        (c :: rest)

/-- Reading the mapping appends these tokens, whatever follows it. -/
def ScansBraces (text : List Char) (tokens : List Token) : Prop :=
  ∀ before columns depth p rest, Fits columns depth p →
    scan (level before columns depth false) p (text ++ rest) =
      scan (level (tokens.reverse ++ before) columns depth false) (p.after text) rest

theorem ScansBraces.scansBraced {text : List Char} {tokens : List Token}
    (h : ScansBraces text tokens) : ScansBraced text tokens := by
  intro before columns depth p fill after c rest separates _
  rw [h before columns (depth + 1) p _ (fits_succ columns depth p),
    scan_fill_inFlow separates.1 rfl, Place.after_append]

theorem stopsWord_endsEntry {c : Char} (sign : EndsEntry c) (p : Place) (rest : List Char) :
    StopsWord true (placedAt p (c :: rest)) := by
  rw [StopsWord, placedAt_cons, plainWord, Place.char_glyph]
  rcases sign with rfl | rfl <;> simp [flowIndicators]

theorem scansBraced_scalar {plain : Bool} {text : List Char} {str : String}
    (h : SpellsScalar true plain text str) : ScansBraced text [.scalar plain str] := by
  intro before columns depth p fill after c rest separates sign
  have follows : Follows (depth + 1) plain columns (p.after (text ++ fill)) fill (c :: rest) := by
    refine ⟨?_, ?_, fun _ => .inl (stopsWord_endsEntry sign _ rest)⟩
    · rcases sign with rfl | rfl <;> simp [isGap, isBlank, isBreak]
    · rcases sign with rfl | rfl <;> simp
  have h : SpellsScalar (depth + 1 != 0) plain text str := h
  obtain ⟨ended, -, read⟩ := scan_scalar h before false (fits_succ columns depth p) separates follows
  rw [read]
  exact scan_endsEntry (.scalar plain str :: before) columns depth ended _ rest sign

/-- Reading the entry appends these tokens, up to the sign behind it. -/
def ScansPair (text : List Char) (tokens : List Token) : Prop :=
  ∀ before columns depth p fill after c rest, Separates fill after → EndsEntry c →
    scan (level before columns (depth + 1) true) p (text ++ (fill ++ c :: rest)) =
      scan (level (tokens.reverse ++ before) columns (depth + 1) false) (p.after (text ++ fill))
        (c :: rest)

theorem endsWord_of_separates {fill : List Char} {after : Bool} (separates : Separates fill after)
    (nonempty : fill ≠ []) (p : Place) (rest : List Char) :
    endsWord (placedAt p (fill ++ rest)) = true := by
  obtain ⟨c, more, rfl⟩ := List.exists_cons_of_ne_nil nonempty
  have gap := (head?_fill separates.1 c rfl).resolve_right fun comment =>
    separates.2 (by rw [comment]; rfl)
  rw [List.cons_append, placedAt_cons]
  exact gap

/-- The state behind the colon of a key in braces. -/
theorem keyed_succ (token : Token) (tokens : List Token) (columns : List Nat) (depth : Nat)
    (p : Place) : keyed token tokens columns (depth + 1) p =
      level (.value :: token :: .key :: tokens) columns (depth + 1) false := rfl

theorem scansPair_implicit {plain after : Bool} {key gap fill value : List Char} {name : String}
    {tokens : List Token} (hkey : SpellsScalar true plain key name) (hgap : IsGap gap)
    (short : IsShort (key ++ gap)) (separates : Separates fill after)
    (apart : plain = true → fill ≠ []) (scans : ScansBraced value tokens) :
    ScansPair (key ++ gap ++ ':' :: fill ++ value)
      (.key :: .scalar plain name :: .value :: tokens) := by
  intro before columns depth p fill' after' c rest separates' sign
  have shape : key ++ gap ++ ':' :: fill ++ value ++ (fill' ++ c :: rest) =
      key ++ (gap ++ ':' :: (fill ++ (value ++ (fill' ++ c :: rest)))) := by simp
  have place : p.after (key ++ gap ++ ':' :: fill ++ value ++ fill') =
      ((p.after (key ++ gap ++ [':'])).after fill).after (value ++ fill') := by simp
  have hkey : SpellsScalar (depth + 1 != 0) plain key name := hkey
  have ends : plain = true ∨ depth + 1 = 0 → endsWord (placedAt
      (p.after (key ++ gap ++ [':'])) (fill ++ (value ++ (fill' ++ c :: rest)))) = true := by
    rintro (isPlain | outside)
    · exact endsWord_of_separates separates (apart isPlain) _ _
    · exact absurd outside (Nat.succ_ne_zero depth)
  rw [shape, place, scan_key hkey hgap short before (fits_succ columns depth p) ends, keyed_succ,
    scan_fill_inFlow separates.1 rfl, scans _ _ _ _ _ _ _ _ separates' sign]
  simp

theorem scansPair_announced {plain after after' after'' : Bool} {start key gap fill value : List Char}
    {name : String} {tokens : List Token} (hstart : Separates start after)
    (hkey : SpellsScalar true plain key name) (hgap : Separates gap after')
    (separates : Separates fill after'') (apart : plain = true → fill ≠ [])
    (scans : ScansBraced value tokens) :
    ScansPair ('?' :: start ++ key ++ gap ++ ':' :: fill ++ value)
      (.key :: .scalar plain name :: .value :: tokens) := by
  intro before columns depth p fill' _ c rest separates' sign
  have shape : '?' :: start ++ key ++ gap ++ ':' :: fill ++ value ++ (fill' ++ c :: rest) =
      '?' :: (start ++ (key ++ (gap ++ ':' :: (fill ++ (value ++ (fill' ++ c :: rest)))))) := by simp
  have place : p.after ('?' :: start ++ key ++ gap ++ ':' :: fill ++ value ++ fill') =
      (((((p.next '?').after start).after (key ++ gap)).next ':').after fill).after
        (value ++ fill') := by simp
  have hkey : SpellsScalar (depth + 1 != 0) plain key name := hkey
  have follows : Follows (depth + 1) plain columns (((p.next '?').after start).after (key ++ gap))
      gap (':' :: (fill ++ (value ++ (fill' ++ c :: rest)))) := by
    refine ⟨by simp [isGap, isBlank, isBreak], by simp, fun isPlain => .inl ?_⟩
    rw [StopsWord, placedAt_cons, plainWord, Place.char_glyph,
      endsWord_of_separates separates (apart isPlain)]
    simp
  obtain ⟨ended, -, read⟩ := scan_scalar hkey (.key :: before) false
    (fits_succ columns depth ((p.next '?').after start)) hgap follows
  rw [shape, place, scan_mark, scan_fill_inFlow hstart.1 rfl, read]
  show scan (level (.scalar plain name :: .key :: before) columns (depth + 1) ended) _ _ = _
  rw [scan_colon, scan_fill_inFlow separates.1 rfl, scans _ _ _ _ _ _ _ _ separates' sign]
  simp

variable {spells : List Char → α → Prop} {stands : α → Node → Prop}

/-- What is spelled in braces is read as a node that stands for it. -/
def ReadableInBraces (spells : List Char → α → Prop) (stands : α → Node → Prop) : Prop :=
  ∀ text a, spells text a →
    ∃ tokens node, ScansBraced text tokens ∧ Completes true tokens node ∧ stands a node

/-- The tokens bring the reading of a mapping these pairs further. -/
def Adds (inBraces : Bool) (tokens : List Token) (pairs : List (Node × Node)) : Prop :=
  ∀ (r : Reading) earlier outer,
    tokens.foldlM Reading.step (r.inMapping inBraces earlier outer (awaitsKey inBraces)) =
      some (r.inMapping inBraces (pairs.reverse ++ earlier) outer .continuation)

theorem adds_entry {inBraces : Bool} {tokens : List Token} {node : Node}
    (completes : Completes inBraces tokens node) (plain : Bool) (name : String) :
    Adds inBraces (.key :: .scalar plain name :: .value :: tokens)
      [(.scalar {} plain name, node)] :=
  fun r earlier outer => foldlM_entry completes plain name r earlier outer

/-- The tokens of an entry in braces bring the reading of its mapping one pair further. -/
theorem exists_tokens_of_spellsPair (readable : ReadableInBraces spells stands) {text : List Char}
    {entry : String × α} (h : SpellsPair spells text entry) :
    ∃ tokens pair, ScansPair text tokens ∧ Adds true tokens [pair] ∧
      StandsForEntry stands entry pair := by
  cases h with
  | @implicit plain _ _ _ _ _ name a hkey hgap short separates apart hvalue =>
      obtain ⟨tokens, node, scans, completes, stand⟩ := readable _ _ hvalue
      exact ⟨_, _, scansPair_implicit hkey hgap short separates apart scans,
        adds_entry completes plain name, ⟨plain, rfl⟩, stand⟩
  | @announced plain _ _ _ _ _ _ _ _ name a hstart _ hkey hgap separates apart hvalue =>
      obtain ⟨tokens, node, scans, completes, stand⟩ := readable _ _ hvalue
      exact ⟨_, _, scansPair_announced hstart hkey hgap separates apart scans,
        adds_entry completes plain name, ⟨plain, rfl⟩, stand⟩

/-- Reading the entries appends these tokens, up to the closing brace. -/
def ScansPairs (text : List Char) (tokens : List Token) : Prop :=
  ∀ before columns depth p rest,
    scan (level before columns (depth + 1) true) p (text ++ '}' :: rest) =
      scan (level (tokens.reverse ++ before) columns (depth + 1) false) (p.after text)
        ('}' :: rest)

/-- The tokens of entries in braces bring the reading of their mapping as many pairs further. -/
theorem exists_tokens_of_spellsPairs (readable : ReadableInBraces spells stands) {text : List Char}
    {entries : List (String × α)} (h : SpellsPairs spells text entries) :
    ∃ tokens pairs, ScansPairs text tokens ∧ Adds true tokens pairs ∧
      List.Forall₂ (StandsForEntry stands) entries pairs := by
  induction h with
  | @single front text back _ _ _ hbefore own hafter =>
      obtain ⟨tokens, pair, scans, adds, stand⟩ := exists_tokens_of_spellsPair readable own
      refine ⟨tokens, [pair], ?_, adds, .cons stand .nil⟩
      intro before columns depth p rest
      rw [List.append_assoc, List.append_assoc, scan_fill_inFlow hbefore.1 rfl,
        scans _ _ _ _ _ _ _ _ hafter (.inr rfl)]
      simp
  | @cons front text back others _ _ _ _ hbefore own hafter _ ih =>
      obtain ⟨tokens, pair, scans, adds, stand⟩ := exists_tokens_of_spellsPair readable own
      obtain ⟨more, rest, scansMore, addsMore, standMore⟩ := ih
      refine ⟨tokens ++ .comma :: more, pair :: rest, ?_, ?_, .cons stand standMore⟩
      · intro before columns depth p rest
        have shape : front ++ text ++ back ++ ',' :: others ++ '}' :: rest =
            front ++ (text ++ (back ++ ',' :: (others ++ '}' :: rest))) := by simp
        rw [shape, scan_fill_inFlow hbefore.1 rfl, scans _ _ _ _ _ _ _ _ hafter (.inl rfl),
          scan_comma, scansMore]
        simp
      · intro r earlier outer
        have later := addsMore r (pair :: earlier) outer
        rw [List.foldlM_append, adds, Option.bind_eq_bind, Option.bind_some, List.foldlM_cons]
        show (r.inMapping true (pair :: earlier) outer .continuation).step .comma >>= _ = _
        rw [step_comma, Option.bind_eq_bind, Option.bind_some, later]
        simp

/-- A mapping in braces is read as a node of pairs in its order. -/
theorem exists_tokens_of_spellsBraces (readable : ReadableInBraces spells stands)
    {text : List Char} {k : Keyed α} (h : SpellsBraces spells text k) :
    ∃ tokens pairs, ScansBraces text tokens ∧ (∀ around, Completes around tokens (.mapping {} pairs)) ∧
      List.Forall₂ (StandsForEntry stands) k.entries pairs := by
  cases h with
  | @empty fill _ _ separates nothing =>
      refine ⟨[.openFlowMapping, .closeFlowMapping], [], ?_, completes_empty, ?_⟩
      · intro before columns depth p rest fits
        rw [List.append_assoc, List.cons_append, List.singleton_append, scan_openBrace _ fits,
          scan_fill_inFlow separates.1 rfl, scan_closeBrace]
        simp
      · rw [nothing]
        exact .nil
  | @entries inside _ row =>
      obtain ⟨tokens, pairs, scans, adds, stand⟩ := exists_tokens_of_spellsPairs readable row
      refine ⟨.openFlowMapping :: tokens ++ [.closeFlowMapping], pairs, ?_, ?_, stand⟩
      · intro before columns depth p rest fits
        rw [List.append_assoc, List.cons_append, List.singleton_append, scan_openBrace _ fits,
          scans, scan_closeBrace]
        simp
      · intro around
        show Completes around (openingOf true :: tokens ++ [closingOf true]) _
        refine completes_mapping (fun _ => rfl) fun r outer => ?_
        have whole := adds r [] outer
        rwa [List.append_nil] at whole

-- ============================================================= in blocks

theorem IsFill.append {first second third : Bool} {front back : List Char}
    (hfront : IsFill first front second) (hback : IsFill second back third) :
    IsFill first (front ++ back) third := by
  induction hfront with
  | nil => exact hback
  | space _ ih => exact .space (ih hback)
  | tab _ ih => exact .tab (ih hback)
  | lineBreak _ ih => exact .lineBreak (ih hback)
  | comment oneLine _ ih =>
      rw [List.append_assoc, List.cons_append]
      exact .comment oneLine (ih hback)

theorem isFill_spaces (allowed : Bool) (n : Nat) :
    IsFill allowed (List.replicate n ' ') allowed := by
  induction n with
  | zero => exact .nil
  | succ n ih => exact .space ih

/-- A key may start behind an indentation. -/
theorem IsIndent.separates {column : Nat} {indent : List Char} (h : IsIndent column indent) :
    Separates indent true := by
  obtain @⟨fill, _, inFill, noComment⟩ := h
  refine ⟨inFill.append (.lineBreak (isFill_spaces true column)), ?_⟩
  cases fill with
  | nil => simp
  | cons c more => exact noComment

theorem IsIndent.nonempty {column : Nat} {indent : List Char} (h : IsIndent column indent) :
    indent ≠ [] := by
  obtain @⟨fill, _, _⟩ := h
  simp

theorem column_spaces (p : Place) (n : Nat) :
    (p.after (List.replicate n ' ')).column = p.column + n := by
  have oneLine : ∀ c ∈ List.replicate n ' ', isBreak c = false := by
    intro c mem
    rw [List.eq_of_mem_replicate mem]
    rfl
  rw [Place.column_after oneLine, List.length_replicate]

theorem IsIndent.column_after {column : Nat} {indent : List Char} (h : IsIndent column indent)
    (p : Place) : (p.after indent).column = column := by
  obtain @⟨fill, _, _⟩ := h
  rw [Place.after_append, Place.after_cons, column_spaces]
  exact Nat.zero_add column

/-- What may come behind the fill behind a block: nothing, a comment that ends the text, or the key
of a line that is no further to the right. -/
inductive EndsBlock (column : Nat) (fill : List Char) (after : Bool) (p : Place) : List Char → Prop
  | finished : EndsBlock column fill after p []
  | comment {text : List Char} (nonempty : fill ≠ []) (oneLine : ∀ c ∈ text, isBreak c = false) :
      EndsBlock column fill after p ('#' :: text)
  | key {c : Char} {more : List Char} (broke : after = true) (begins : BeginsPart c)
      (left : p.column ≤ column) : EndsBlock column fill after p (c :: more)

theorem EndsBlock.deeper {outer column : Nat} {fill rest : List Char} {after : Bool} {p : Place}
    (h : EndsBlock outer fill after p rest) (deeper : outer ≤ column) :
    EndsBlock column fill after p rest := by
  cases h with
  | finished => exact .finished
  | comment nonempty oneLine => exact .comment nonempty oneLine
  | key broke begins left => exact .key broke begins (Nat.le_trans left deeper)

/-- A block is closed by what comes further to the left. -/
theorem scan_close {outer column : Nat} (deeper : outer < column) (tokens : List Token)
    (columns : List Nat) {fill : List Char} {after : Bool} {p : Place} {rest : List Char}
    (ends : EndsBlock outer fill after p rest) :
    scan (level tokens (column :: columns) 0 after) p rest =
      scan (level (.closeBlock :: tokens) columns 0 after) p rest := by
  cases ends with
  | finished =>
      rw [scan_nil, scan_nil]
      rfl
  | comment _ oneLine =>
      rw [scan_lastComment _ _ oneLine, scan_lastComment _ _ oneLine]
      rfl
  | @key c more _ begins left =>
      have right : decide (p.column < column) = true := decide_eq_true (by omega)
      have dedented : (level tokens (column :: columns) 0 after).dedentTo (some p.column) =
          (level (.closeBlock :: tokens) columns 0 after).dedentTo (some p.column) := by
        show ((column :: columns).takeWhile fun c => decide (p.column < c)).foldl _
          { level tokens (column :: columns) 0 after with
            columns := (column :: columns).dropWhile fun c => decide (p.column < c) } = _
        rw [List.takeWhile_cons_of_pos (p := fun c => decide (p.column < c)) right,
          List.dropWhile_cons_of_pos (p := fun c => decide (p.column < c)) right]
        rfl
      rw [scan, scan, placedAt_cons]
      refine congrArg (Option.bind · Layout.finish) (Text.readPieces_congr ?_)
      rw [cutAt_part begins, cutAt_part begins, refreshAll_level, refreshAll_level,
        Option.bind_some, Option.bind_some, dedented]

/-- Reading the value behind the colon of a key appends these tokens, whatever ends the block. -/
def ScansValue (column : Nat) (text : List Char) (tokens : List Token) : Prop :=
  ∀ before outer p fill after rest, column ≤ p.column → Separates fill after →
    EndsBlock column fill after (p.after (text ++ fill)) rest →
    scan (level before (column :: outer) 0 false) p (text ++ (fill ++ rest)) =
      scan (level (tokens.reverse ++ before) (column :: outer) 0 after) (p.after (text ++ fill)) rest

theorem scan_gap {gap : List Char} (h : IsGap gap) (tokens : List Token) (columns : List Nat)
    (p : Place) (rest : List Char) :
    scan (level tokens columns 0 false) p (gap ++ rest) =
      scan (level tokens columns 0 false) (p.after gap) rest :=
  scan_fill_level (isFill_of_isGap h) tokens columns p rest

theorem fits_gap {column : Nat} {outer : List Nat} {p : Place} (inside : column ≤ p.column)
    {gap : List Char} (h : IsGap gap) : Fits (column :: outer) 0 (p.after gap) := by
  rintro - innermost ⟨⟩
  rw [Place.column_after fun c mem => isBreak_of_isBlank (h c mem)]
  omega

theorem follows_of_endsBlock {column : Nat} {fill rest : List Char} {after plain : Bool} {p : Place}
    (separates : Separates fill after) (ends : EndsBlock column fill after p rest)
    (outer : List Nat) : Follows 0 plain (column :: outer) p fill rest := by
  cases ends with
  | finished => exact ⟨by simp, by simp, fun _ => .inl rfl⟩
  | comment nonempty _ =>
      refine ⟨by simp [isGap, isBlank, isBreak], fun nothing => absurd nothing nonempty,
        fun _ => .inr ⟨nonempty, ?_⟩⟩
      rw [placedAt_cons, endsPlain, Place.char_glyph, beq_self_eq_true, Bool.or_true]
  | @key c more broke begins left =>
      have nonempty : fill ≠ [] := by
        rintro rfl
        cases separates.1
        cases broke
      refine ⟨by simpa using begins.1, fun nothing => absurd nothing nonempty,
        fun _ => .inr ⟨nonempty, ?_⟩⟩
      have outside : decide (p.column < column + 1) = true := decide_eq_true (by omega)
      rw [placedAt_cons, endsPlain]
      show (true && decide (p.column < column + 1) || _ || _) = true
      rw [outside]
      rfl

theorem scansValue_scalar {column : Nat} {gap text : List Char} {plain : Bool} {str : String}
    (hgap : IsGap gap) (h : SpellsScalar false plain text str) :
    ScansValue column (gap ++ text) [.scalar plain str] := by
  intro before outer p fill after rest inside separates ends
  have place : p.after (gap ++ text ++ fill) = (p.after gap).after (text ++ fill) := by simp
  rw [place] at ends ⊢
  have h : SpellsScalar ((0 : Nat) != 0) plain text str := h
  obtain ⟨ended, same, read⟩ := scan_scalar h before false (fits_gap inside hgap) separates
    (follows_of_endsBlock separates ends outer)
  rw [List.append_assoc, scan_gap hgap, read, same rfl]
  rfl

theorem scansValue_braces {column : Nat} {gap text : List Char} {tokens : List Token}
    (hgap : IsGap gap) (scans : ScansBraces text tokens) :
    ScansValue column (gap ++ text) tokens := by
  intro before outer p fill after rest inside separates _
  have place : p.after (gap ++ text ++ fill) = ((p.after gap).after text).after fill := by simp
  rw [place, List.append_assoc, scan_gap hgap, scans _ _ _ _ _ (fits_gap inside hgap)]
  exact scan_fill_level separates.1 _ _ _ rest

/-- The blocks that are open at a key of a block, the tokens with which that block opens there, and
the blocks that are open behind the key. -/
inductive OpensBlock (column : Nat) : List Nat → List Token → List Nat → Prop
  | first {outer : List Nat} (deeper : ∀ c ∈ outer.head?, c < column) :
      OpensBlock column outer [.openBlockMapping] (column :: outer)
  | already {outer : List Nat} : OpensBlock column (column :: outer) [] (column :: outer)

theorem OpensBlock.fits {columns opened : List Nat} {opening : List Token} {p : Place}
    (h : OpensBlock p.column columns opening opened) : Fits columns 0 p := by
  cases h with
  | first deeper => exact fun _ c mem => Nat.le_of_lt (deeper c mem)
  | already =>
      rintro - c ⟨⟩
      exact Nat.le_refl _

theorem OpensBlock.keyed {columns opened : List Nat} {opening : List Token} {p : Place}
    (h : OpensBlock p.column columns opening opened) (token : Token) (before : List Token) :
    keyed token before columns 0 p =
      level (.value :: token :: .key :: (opening ++ before)) opened 0 false := by
  cases h with
  | first deeper =>
      have opens : opens columns 0 p.column = true := by
        cases columns with
        | nil => rfl
        | cons innermost _ => exact decide_eq_true (deeper innermost rfl)
      rw [Yaml.keyed, if_pos opens]
      rfl
  | @already outer =>
      have stays : opens (p.column :: outer) 0 p.column = false :=
        decide_eq_false (Nat.lt_irrefl _)
      rw [Yaml.keyed, stays]
      rfl

/-- Reading the lines of a block appends these tokens, whatever ends the block. -/
def ScansLines (column : Nat) (text : List Char) (tokens : List Token) : Prop :=
  ∀ before columns opening outer p fill after rest,
    OpensBlock column columns opening (column :: outer) → p.column = column →
    Separates fill after → EndsBlock column fill after (p.after (text ++ fill)) rest →
    scan (level before columns 0 true) p (text ++ (fill ++ rest)) =
      scan (level (tokens.reverse ++ (opening ++ before)) (column :: outer) 0 after)
        (p.after (text ++ fill)) rest

/-- The text is set off from the colon in front of it. -/
def StartsApart (text : List Char) : Prop :=
  ∀ p rest, endsWord (placedAt p (text ++ rest)) = true

theorem startsApart_of_separates {fill : List Char} {after : Bool} (separates : Separates fill after)
    (nonempty : fill ≠ []) (text : List Char) : StartsApart (fill ++ text) := by
  intro p rest
  rw [List.append_assoc]
  exact endsWord_of_separates separates nonempty p _

/-- A line with a key and its value. -/
theorem scansLines_line {column : Nat} {plain : Bool} {key gap value : List Char} {name : String}
    {tokens : List Token} (hkey : SpellsScalar false plain key name) (hgap : IsGap gap)
    (short : IsShort (key ++ gap)) (scans : ScansValue column value tokens)
    (apart : StartsApart value) :
    ScansLines column (key ++ gap ++ ':' :: value)
      (.key :: .scalar plain name :: .value :: tokens) := by
  rintro before columns opening outer p fill after rest opens rfl separates ends
  have shape : key ++ gap ++ ':' :: value ++ (fill ++ rest) =
      key ++ (gap ++ ':' :: (value ++ (fill ++ rest))) := by simp
  have place : p.after (key ++ gap ++ ':' :: value ++ fill) =
      (p.after (key ++ gap ++ [':'])).after (value ++ fill) := by simp
  have oneLine : ∀ c ∈ key ++ gap ++ [':'], isBreak c = false := by
    intro c mem
    rw [List.mem_append, List.mem_append, List.mem_singleton] at mem
    rcases mem with (inKey | inGap) | rfl
    · exact isBreak_of_spellsScalar hkey c inKey
    · exact isBreak_of_isBlank (hgap c inGap)
    · rfl
  have inside : p.column ≤ (p.after (key ++ gap ++ [':'])).column := by
    rw [Place.column_after oneLine]
    exact Nat.le_add_right _ _
  have hkey : SpellsScalar ((0 : Nat) != 0) plain key name := hkey
  rw [place] at ends ⊢
  rw [shape, scan_key hkey hgap short before opens.fits fun _ => apart _ _, opens.keyed,
    scans _ outer _ _ _ _ inside separates ends]
  simp

theorem beginsPart_of_spellsScalar {inFlow plain : Bool} {text : List Char} {str : String}
    (h : SpellsScalar inFlow plain text str) : ∃ c more, text = c :: more ∧ BeginsPart c := by
  have ofPlain : ∀ {text}, IsPlain inFlow text → ∃ c more, text = c :: more ∧ BeginsPart c := by
    rintro _ ⟨starts, _, _, _⟩
    exact ⟨_, _, rfl, beginsPart_of_starts starts⟩
  cases h with
  | plain own => exact ofPlain own
  | quoted own => cases own <;> exact ⟨_, _, rfl, by refine ⟨rfl, ?_, ?_⟩ <;> decide⟩

theorem beginsPart_of_spellsBlock {spells : Nat → List Char → α → Prop} {column : Nat}
    {text : List Char} {entries : List (String × α)} (h : SpellsBlock spells column text entries) :
    ∃ c more, text = c :: more ∧ BeginsPart c := by
  cases h with
  | single hkey _ _ _ =>
      obtain ⟨c, more, rfl, begins⟩ := beginsPart_of_spellsScalar hkey
      exact ⟨c, _, rfl, begins⟩
  | cons hkey _ _ _ _ _ =>
      obtain ⟨c, more, rfl, begins⟩ := beginsPart_of_spellsScalar hkey
      exact ⟨c, _, rfl, begins⟩

/-- What is spelled behind a key of a block is read as a node that stands for it. -/
def ReadableInBlock (spells : Nat → List Char → α → Prop) (stands : α → Node → Prop) : Prop :=
  ∀ column text a, spells column text a → ∃ tokens node, StartsApart text ∧
    ScansValue column text tokens ∧ Completes false tokens node ∧ stands a node

/-- The tokens of the lines of a block bring the reading of its mapping as many pairs further. -/
theorem exists_tokens_of_spellsBlock {spells : Nat → List Char → α → Prop}
    (readable : ReadableInBlock spells stands) {column : Nat} {text : List Char}
    {entries : List (String × α)} (h : SpellsBlock spells column text entries) :
    ∃ tokens pairs, ScansLines column text tokens ∧ Adds false tokens pairs ∧
      List.Forall₂ (StandsForEntry stands) entries pairs := by
  induction h with
  | @single plain _ _ _ name _ hkey hgap short hvalue =>
      obtain ⟨tokens, node, apart, scans, completes, stand⟩ := readable _ _ _ hvalue
      exact ⟨_, [(.scalar {} plain name, node)], scansLines_line hkey hgap short scans apart,
        adds_entry completes plain name, .cons ⟨⟨plain, rfl⟩, stand⟩ .nil⟩
  | @cons plain key gap value indent others name _ _ hkey hgap short hvalue hindent block ih =>
      obtain ⟨tokens, node, apart, scans, completes, stand⟩ := readable _ _ _ hvalue
      obtain ⟨more, rest, scansMore, addsMore, standMore⟩ := ih
      have line := scansLines_line hkey hgap short scans apart
      refine ⟨.key :: .scalar plain name :: .value :: tokens ++ more,
        (.scalar {} plain name, node) :: rest, ?_, ?_, .cons ⟨⟨plain, rfl⟩, stand⟩ standMore⟩
      · intro before columns opening outer p fill after behind opens atColumn separates ends
        have shape : key ++ gap ++ ':' :: value ++ indent ++ others ++ (fill ++ behind) =
            key ++ gap ++ ':' :: value ++ (indent ++ (others ++ (fill ++ behind))) := by simp
        have place : p.after (key ++ gap ++ ':' :: value ++ indent ++ others ++ fill) =
            (p.after (key ++ gap ++ ':' :: value ++ indent)).after (others ++ fill) := by simp
        have next : (p.after (key ++ gap ++ ':' :: value ++ indent)).column = column := by
          rw [Place.after_append]
          exact hindent.column_after _
        have endsLine : EndsBlock column indent true (p.after (key ++ gap ++ ':' :: value ++ indent))
            (others ++ (fill ++ behind)) := by
          obtain ⟨c, tail, rfl, begins⟩ := beginsPart_of_spellsBlock block
          exact .key rfl begins (Nat.le_of_eq next)
        rw [place] at ends ⊢
        rw [shape, line _ _ _ _ _ _ _ _ opens atColumn hindent.separates endsLine,
          scansMore _ _ _ _ _ _ _ _ .already next separates ends]
        simp
      · intro r earlier outer
        have entry := adds_entry completes plain name r earlier outer
        have later := addsMore r ((.scalar {} plain name, node) :: earlier) outer
        rw [List.foldlM_append, entry, Option.bind_eq_bind, Option.bind_some]
        show more.foldlM Reading.step
          (r.inMapping false ((.scalar {} plain name, node) :: earlier) outer .continuation) = _
        rw [List.reverse_cons, List.append_assoc]
        exact later

/-- A block is read as a node of pairs in the order of its lines. -/
theorem exists_tokens_of_indented {spells : Nat → List Char → α → Prop}
    (readable : ReadableInBlock spells stands) {outer column : Nat} (deeper : outer < column)
    {indent text : List Char} (hindent : IsIndent column indent) {entries : List (String × α)}
    (lines : SpellsBlock spells column text entries) :
    ∃ tokens pairs, ScansValue outer (indent ++ text) tokens ∧
      Completes false tokens (.mapping {} pairs) ∧
      List.Forall₂ (StandsForEntry stands) entries pairs := by
  obtain ⟨tokens, pairs, scans, adds, stand⟩ := exists_tokens_of_spellsBlock readable lines
  refine ⟨.openBlockMapping :: tokens ++ [.closeBlock], pairs, ?_, ?_, stand⟩
  · intro before around p fill after rest _ separates ends
    have opens : OpensBlock column (outer :: around) [.openBlockMapping]
        (column :: outer :: around) := by
      refine .first ?_
      rintro c ⟨⟩
      exact deeper
    have place : p.after (indent ++ text ++ fill) = (p.after indent).after (text ++ fill) := by simp
    rw [place] at ends ⊢
    rw [List.append_assoc, scan_fill_level hindent.separates.1,
      scans _ _ _ _ _ _ _ _ opens (hindent.column_after p) separates
        (ends.deeper (Nat.le_of_lt deeper)), scan_close deeper _ _ ends]
    simp
  · show Completes false (openingOf false :: tokens ++ [closingOf false]) _
    refine completes_mapping id fun r around => ?_
    have whole := adds r [] around
    rwa [List.append_nil] at whole

-- ========================================================= schema trees

/-- In braces, a mapping of what is readable is readable. -/
theorem ReadableInBraces.mapping {braces : List Char → α → Prop}
    (readable : ReadableInBraces braces stands) :
    ReadableInBraces (SpellsBraces braces) (IsMappingOf stands) := by
  intro text k h
  obtain ⟨tokens, pairs, scans, completes, stand⟩ := exists_tokens_of_spellsBraces readable h
  exact ⟨tokens, _, scans.scansBraced, completes true, pairs, rfl, stand⟩

/-- Behind a key of a block, a mapping of what is readable is readable. -/
theorem ReadableInBlock.mapping {braces : List Char → α → Prop} {spells : Nat → List Char → α → Prop}
    (inBlock : ReadableInBlock spells stands) (inBraces : ReadableInBraces braces stands) :
    ReadableInBlock (SpellsBlockMapping braces spells) (IsMappingOf stands) := by
  intro column text k h
  cases h with
  | braces hgap nonempty own =>
      obtain ⟨tokens, pairs, scans, completes, stand⟩ := exists_tokens_of_spellsBraces inBraces own
      exact ⟨tokens, _, startsApart_of_separates (separates_of_isGap hgap) nonempty _,
        scansValue_braces hgap scans, completes false, pairs, rfl, stand⟩
  | block deeper hindent lines =>
      obtain ⟨tokens, pairs, scans, completes, stand⟩ :=
        exists_tokens_of_indented inBlock deeper hindent lines
      exact ⟨tokens, _, startsApart_of_separates hindent.separates hindent.nonempty _,
        scans, completes, pairs, rfl, stand⟩

section
variable {stands' : α → Node → Prop} (weaker : ∀ {a node}, stands a node → stands' a node)
include weaker

theorem ReadableInBraces.imp (readable : ReadableInBraces spells stands) :
    ReadableInBraces spells stands' := by
  intro text a h
  obtain ⟨tokens, node, scans, completes, stand⟩ := readable text a h
  exact ⟨tokens, node, scans, completes, weaker stand⟩

theorem ReadableInBlock.imp {spells : Nat → List Char → α → Prop}
    (readable : ReadableInBlock spells stands) : ReadableInBlock spells stands' := by
  intro column text a h
  obtain ⟨tokens, node, apart, scans, completes, stand⟩ := readable column text a h
  exact ⟨tokens, node, apart, scans, completes, weaker stand⟩

end

theorem standsFor_leaf {inFlow : Bool} {text : List Char} {leaf : Leaf}
    (h : SpellsLeaf inFlow text leaf) : ∃ plain str, SpellsScalar inFlow plain text str ∧
      StandsFor 0 leaf.value (.scalar {} plain str) := by
  cases h with
  | plain own meaning => exact ⟨true, _, own, standsFor_plain meaning⟩
  | quoted own => exact ⟨false, _, own, standsFor_quoted _⟩

theorem readableInBraces_leaf :
    ReadableInBraces (SpellsLeaf true) fun leaf => StandsFor 0 leaf.value := by
  intro text leaf h
  obtain ⟨plain, str, own, stands⟩ := standsFor_leaf h
  exact ⟨_, _, scansBraced_scalar own, completes_scalar true plain str, stands⟩

theorem readableInBlock_leaf :
    ReadableInBlock SpellsBlockLeaf fun leaf => StandsFor 0 leaf.value := by
  intro column text leaf h
  obtain ⟨hgap, nonempty, own⟩ := h
  obtain ⟨plain, str, own, stands⟩ := standsFor_leaf own
  exact ⟨_, _, startsApart_of_separates (separates_of_isGap hgap) nonempty _,
    scansValue_scalar hgap own, completes_scalar false plain str, stands⟩

theorem readableInBraces_column :
    ReadableInBraces SpellsBracedColumn fun column => StandsFor 1 column.value :=
  readableInBraces_leaf.mapping.imp standsFor_mapping

theorem readableInBraces_definition :
    ReadableInBraces SpellsBracedDefinition fun definition => StandsFor 2 definition.value :=
  readableInBraces_column.mapping.imp standsFor_mapping

theorem readableInBlock_column :
    ReadableInBlock SpellsBlockColumn fun column => StandsFor 1 column.value :=
  (readableInBlock_leaf.mapping readableInBraces_leaf).imp standsFor_mapping

theorem readableInBlock_definition :
    ReadableInBlock SpellsBlockDefinition fun definition => StandsFor 2 definition.value :=
  (readableInBlock_column.mapping readableInBraces_column).imp standsFor_mapping

theorem readableInBlock_tree : ReadableInBlock SpellsBlockTree
    (IsMappingOf fun definition : Definition => StandsFor 2 definition.value) :=
  readableInBlock_definition.mapping readableInBraces_definition

end SchemaClasses.Yaml
