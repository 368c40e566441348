/-
Reading the TOML text of a schema tree.

A value is completed the same way wherever it stands, and the steps that
read it depend only on what the stack allows and on how deep it is. So one
statement about values, by induction on how deep inline tables lie in
each other, serves the lines of a text and the inside of its values. Line
by line, the statements of a text then become its sections.
-/
import SchemaClasses.Proofs.Text.Cut
import SchemaClasses.Proofs.Toml.Strings
import SchemaClasses.Proofs.Toml.Table

namespace SchemaClasses.Toml

open Reading (cutNext)

/-- Reads the text to its end. -/
abbrev readAll (r : Reading) (text : List Char) : Option Reading := Text.readPieces cutNext r text

-- =============================================================== steps

/-- The characters that stand between the parts of a text, or begin what does. -/
def isBetween (c : Char) : Bool := isBlank c || ['#', '\n', '\r'].contains c

/-- One step, without the proofs that it takes something off the text. -/
theorem cutAt_cutNext (r : Reading) (c : Char) (rest : List Char) :
    Text.cutAt cutNext r (c :: rest) =
      if isBlank c then some (r, rest)
      else if c = '#' ∧ r.allowsBreak then (afterComment? rest).map (r, ·)
      else
        match afterBreak? (c :: rest) with
        | some after => if r.allowsBreak then some (r.newLine, after) else none
        | none => r.next (c :: rest) := by
  unfold Text.cutAt cutNext
  dsimp only
  by_cases blank : isBlank c = true
  · rw [if_pos blank, if_pos blank]
    rfl
  rw [if_neg blank, if_neg blank]
  by_cases comment : c = '#' ∧ r.allowsBreak = true
  · rw [if_pos comment, if_pos comment]
    split
    next failed =>
      rw [failed]
      rfl
    next found => exact (congrArg (Option.map (r, ·)) found).symm
  rw [if_neg comment, if_neg comment]
  split
  next after found =>
    have same : (match afterBreak? (c :: rest) with
        | some after => if r.allowsBreak then some (r.newLine, after) else none
        | none => r.next (c :: rest)) =
          if r.allowsBreak then some (r.newLine, after) else none := by rw [found]
    rw [same]
    split <;> rfl
  next found =>
    rw [found]
    dsimp only
    split
    next failed => exact failed.symm
    next read => exact read.symm

/-- What does not stand between parts is read as the part it begins. -/
theorem readAll_of_next {r later : Reading} {c : Char} {text rest : List Char}
    (part : isBetween c = false) (h : r.next (c :: text) = some (later, rest)) :
    readAll r (c :: text) = readAll later rest := by
  simp only [isBetween, Bool.or_eq_false_iff, List.contains_eq_mem, decide_eq_false_iff_not,
    List.mem_cons, List.not_mem_nil, or_false, not_or] at part
  obtain ⟨notBlank, notHash, notFeed, notReturn⟩ := part
  have noBreak : afterBreak? (c :: text) = none := by
    unfold afterBreak?
    split
    next eq => exact absurd (List.cons.inj eq).1 notFeed
    next eq => exact absurd (List.cons.inj eq).1 notReturn
    next => rfl
  apply Text.readPieces_of_cutAt
  rw [cutAt_cutNext, if_neg (by simp [notBlank]), if_neg (by simp [notHash]), noBreak]
  exact h

/-- Blanks change nothing. -/
theorem readAll_gap {gap : List Char} (h : IsGap gap) (r : Reading) (rest : List Char) :
    readAll r (gap ++ rest) = readAll r rest := by
  induction gap with
  | nil => rfl
  | cons c more ih =>
      rw [← ih fun d mem => h d (List.mem_cons_of_mem c mem), List.cons_append]
      apply Text.readPieces_of_cutAt
      rw [cutAt_cutNext, if_pos (h c List.mem_cons_self)]

/-- The text is over, or its line is. -/
def EndsLine (text : List Char) : Prop := text = [] ∨ (afterBreak? text).isSome = true

theorem EndsLine.head {text : List Char} (h : EndsLine text) :
    ∀ c ∈ text.head?, c = '\n' ∨ c = '\r' := by
  rcases h with rfl | found
  · simp
  · unfold afterBreak? at found
    split at found
    · simp
    · simp
    · cases found

theorem afterComment?_append {text : List Char} (allowed : ∀ c ∈ text, isTextChar c = true)
    {rest : List Char} (ends : EndsLine rest) : afterComment? (text ++ rest) = some rest := by
  induction text with
  | nil =>
      rcases ends with rfl | found
      · rfl
      · cases rest with
        | nil => rfl
        | cons c more => rw [List.nil_append, afterComment?, if_pos found]
  | cons c more ih =>
      have isText := allowed c List.mem_cons_self
      have noBreak : ¬(afterBreak? (c :: (more ++ rest))).isSome = true := by
        intro found
        have head := EndsLine.head (.inr found) c rfl
        rcases head with rfl | rfl <;> exact absurd isText (by decide)
      rw [List.cons_append, afterComment?, if_neg noBreak, if_pos isText]
      exact ih fun d mem => allowed d (List.mem_cons_of_mem c mem)

/-- A comment changes nothing where one may stand. -/
theorem readAll_comment {r : Reading} (allows : r.allowsBreak = true) {comment rest : List Char}
    (h : IsComment comment) (ends : EndsLine rest) :
    readAll r (comment ++ rest) = readAll r rest := by
  cases h with
  | none => rfl
  | comment allowed =>
      have after := afterComment?_append allowed ends
      apply Text.readPieces_of_cutAt
      rw [cutAt_cutNext, if_neg (by decide), if_pos ⟨rfl, allows⟩]
      exact congrArg (Option.map (r, ·)) after

/-- A break ends the line. -/
theorem readAll_break {r : Reading} (allows : r.allowsBreak = true) {ending : List Char}
    (h : ending = ['\n'] ∨ ending = ['\r', '\n']) (rest : List Char) :
    readAll r (ending ++ rest) = readAll r.newLine rest := by
  rcases h with rfl | rfl
  all_goals
    apply Text.readPieces_of_cutAt
    rw [cutAt_cutNext, if_neg (by decide), if_neg (by simp)]
    exact if_pos allows

-- ============================================================== values

/-- Where a value is placed does not depend on where in a line the text stands. -/
theorem place_with_position (r : Reading) (position : Position) (term : Term) :
    Reading.place { r with position } term = r.place term := by
  unfold Reading.place
  cases r.frames with
  | nil => rfl
  | cons frame outer => cases frame <;> rfl

/-- Reading the value completes it, wherever it is owed. -/
def ReadsTerm (depth : Nat) (text : List Char) (term : Term) : Prop :=
  ∀ r later rest, r.position = .value → r.frames.length + depth ≤ Reading.deepest + 1 →
    r.place term = some later → EndsValue rest → readAll r (text ++ rest) = readAll later rest

theorem ReadsTerm.weaken {depth : Nat} {text : List Char} {term : Term}
    (h : ReadsTerm depth text term) : ReadsTerm (depth + 1) text term :=
  fun r later rest atValue room placed ends => h r later rest atValue (by omega) placed ends

theorem next_value {r : Reading} (h : r.position = .value) (text : List Char) :
    r.next text = r.readTerm text := by
  simp only [Reading.next, h]

theorem readTerm_string {text : List Char} {s : String} (h : SpellsString text s) (r : Reading)
    {rest : List Char} (apart : ∀ c ∈ rest.head?, c ≠ '"' ∧ c ≠ '\'') :
    r.readTerm (text ++ rest) = (r.place (.scalar (.string s))).map (·, rest) := by
  have quoted : r.readTerm (text ++ rest) = (readString? (text ++ rest)).bind fun read =>
      (r.place (.scalar (.string (String.ofList read.1)))).bind fun r => some (r, read.2) := by
    cases h <;> rfl
  rw [quoted, readString?_append h apart, Option.bind_some, String.ofList_toList]
  cases r.place (.scalar (.string s)) <;> rfl

theorem readTerm_bare {text : List Char} (nonempty : text ≠ [])
    (allowed : ∀ c ∈ text, endsBare c = false ∧ c ≠ '"' ∧ c ≠ '\'') (r : Reading)
    {rest : List Char} (ends : EndsValue rest) :
    r.readTerm (text ++ rest) =
      (scalar? text).bind fun scalar => (r.place (.scalar scalar)).map (·, rest) := by
  have read := readBare_append nonempty (fun c mem => (allowed c mem).1) ends
  obtain ⟨c, more, rfl⟩ := List.exists_cons_of_ne_nil nonempty
  obtain ⟨goesOn, notDouble, notSingle⟩ := allowed c List.mem_cons_self
  unfold Reading.readTerm
  split
  next eq =>
    cases (List.cons.inj eq).1
    cases goesOn
  next eq =>
    cases (List.cons.inj eq).1
    cases goesOn
  next eq => exact absurd (List.cons.inj eq).1 notDouble
  next eq => exact absurd (List.cons.inj eq).1 notSingle
  next =>
    rw [read]
    show (scalar? (c :: more)).bind (fun scalar =>
      (r.place (.scalar scalar)).bind fun r => some (r, rest)) = _
    cases scalar? (c :: more) with
    | none => rfl
    | some scalar =>
        rw [Option.bind_some, Option.bind_some]
        cases r.place (.scalar scalar) <;> rfl

theorem isBetween_of_endsBare {c : Char} (h : endsBare c = false) : isBetween c = false := by
  rw [endsBare, List.contains_eq_mem, decide_eq_false_iff_not] at h
  simp only [List.mem_cons, List.not_mem_nil, or_false, not_or] at h
  obtain ⟨notSpace, notTab, notFeed, notReturn, notHash, -⟩ := h
  simp [isBetween, isBlank, notSpace, notTab, notHash, notFeed, notReturn]

theorem readsTerm_scalar {text : List Char} {scalar : Scalar} (h : SpellsScalar text scalar) :
    ReadsTerm 0 text (.scalar scalar) := by
  intro r later rest atValue _ placed ends
  cases h with
  | string quoted =>
      have read := readTerm_string quoted r fun c mem => (ends.head c mem).2
      rw [placed, ← next_value atValue] at read
      cases quoted <;> exact readAll_of_next rfl read
  | bare nonempty allowed meaning =>
      have read := readTerm_bare nonempty allowed r ends
      rw [meaning, Option.bind_some, placed, ← next_value atValue] at read
      obtain ⟨c, more, rfl⟩ := List.exists_cons_of_ne_nil nonempty
      exact readAll_of_next (isBetween_of_endsBare (allowed c List.mem_cons_self).1) read

theorem isBetween_of_startsKey {c : Char} (h : startsKey c = true) : isBetween c = false := by
  have notHash : c ≠ '#' := ne_of_startsKey h (by decide)
  have notFeed : c ≠ '\n' := ne_of_startsKey h (by decide)
  have notReturn : c ≠ '\r' := ne_of_startsKey h (by decide)
  simp [isBetween, isBlank_of_startsKey h, notHash, notFeed, notReturn]

/-- A key may come. -/
def expectsKey (r : Reading) : Prop := r.position = .lineStart ∨ r.position = .key

/-- Reading the assignment completes its value, wherever its key may come. -/
def ReadsAssignment (depth : Nat) (text : List Char) (assignment : List String × Term) : Prop :=
  ∀ r target later rest, expectsKey r → r.target assignment.1 = some target →
    target.frames.length + depth ≤ Reading.deepest + 1 →
    target.place assignment.2 = some later → EndsValue rest →
    readAll r (text ++ rest) = readAll later rest

theorem next_target {r : Reading} (expects : expectsKey r) {text : List Char}
    {path : List String} (h : SpellsPath text path) (rest : List Char) :
    r.next (text ++ rest) = r.readTarget (text ++ rest) := by
  obtain ⟨c, more, rfl, starts⟩ := h.startsKey
  have notOpen : c ≠ '[' := ne_of_startsKey starts (by decide)
  have notClose : c ≠ '}' := ne_of_startsKey starts (by decide)
  rcases expects with atStart | atKey
  · simp [Reading.next, atStart, notOpen]
  · simp [Reading.next, atKey, notClose]

theorem position_of_target {r target : Reading} {path : List String}
    (h : r.target path = some target) : target.position = .equals := by
  unfold Reading.target at h
  split at h
  · cases h
    rfl
  · cases h
    rfl
  · cases h

theorem readsAssignment {spells : List Char → Term → Prop} {depth : Nat}
    (reads : ∀ text term, spells text term → ReadsTerm depth text term) {text : List Char}
    {assignment : List String × Term} (h : SpellsAssignment spells text assignment) :
    ReadsAssignment depth text assignment := by
  intro r target later rest expects targeted room placed after
  cases h with
  | @intro key gap value path term own short hgap hvalue =>
      have ends : EndsPath ('=' :: (gap ++ (value ++ rest))) := ⟨_, _, rfl, .inl rfl⟩
      have keyRead : r.next (key ++ '=' :: (gap ++ (value ++ rest))) =
          some (target, '=' :: (gap ++ (value ++ rest))) := by
        rw [next_target expects own, Reading.readTarget, readPath_append own short ends]
        show (r.target _).bind _ = _
        rw [targeted]
        rfl
      have signRead : target.next ('=' :: (gap ++ (value ++ rest))) =
          some ({ target with position := .value }, gap ++ (value ++ rest)) := by
        unfold Reading.next
        rw [position_of_target targeted]
        rfl
      have shape : key ++ '=' :: gap ++ value ++ rest = key ++ '=' :: (gap ++ (value ++ rest)) := by
        simp
      obtain ⟨c, more, rfl, starts⟩ := own.startsKey
      rw [shape]
      calc
        readAll r _ = readAll target _ := readAll_of_next (isBetween_of_startsKey starts) keyRead
        _ = readAll { target with position := .value } _ := readAll_of_next rfl signRead
        _ = readAll { target with position := .value } (value ++ rest) := readAll_gap hgap _ _
        _ = readAll later rest :=
          reads _ _ hvalue _ _ _ rfl room ((place_with_position _ _ _).trans placed) after

-- ======================================================= inline tables

/-- The reading is in an inline table with these assignments, under which lie these frames. -/
def Reading.inTable (r : Reading) (assignments : Assignments) (outer : List Frame)
    (position : Position) : Reading :=
  { r with frames := .table assignments [] :: outer, position }

/-- Reading the inside of an inline table adds the assignments to it. -/
def ReadsInside (depth : Nat) (text : List Char) (assignments : Assignments) : Prop :=
  ∀ (r : Reading) done (outer : List Frame) rest, outer.length + depth ≤ Reading.deepest →
    readAll (r.inTable done outer .key) (text ++ '}' :: rest) =
      readAll (r.inTable (assignments.reverse ++ done) outer .separator) ('}' :: rest)

theorem endsValue_gap {gap rest : List Char} {c : Char} (h : IsGap gap) (sign : c = ',' ∨ c = '}') :
    EndsValue (gap ++ c :: rest) := by
  refine ⟨gap, c :: rest, rfl, h, ?_⟩
  rcases sign with rfl | rfl <;> simp

/-- One assignment among others: it is added, and the sign after it is next. -/
theorem readAll_assignment {depth : Nat} {before text after : List Char}
    {assignment : List String × Term} (hbefore : IsGap before)
    (reads : ReadsAssignment depth text assignment) (hafter : IsGap after) (r : Reading)
    (done : Assignments) (outer : List Frame) (room : outer.length + depth ≤ Reading.deepest)
    {c : Char} (sign : c = ',' ∨ c = '}') (rest : List Char) :
    readAll (r.inTable done outer .key) (before ++ (text ++ (after ++ c :: rest))) =
      readAll (r.inTable (assignment :: done) outer .separator) (c :: rest) := by
  obtain ⟨path, term⟩ := assignment
  have room : (Frame.table done path :: outer).length + depth ≤ Reading.deepest + 1 := by
    rw [List.length_cons]
    omega
  rw [readAll_gap hbefore, reads _ _ _ _ (.inr rfl) rfl room rfl (endsValue_gap hafter sign),
    readAll_gap hafter]
  rfl

theorem readsInside {spells : List Char → Term → Prop} {depth : Nat}
    (reads : ∀ text term, spells text term → ReadsTerm depth text term) {text : List Char}
    {assignments : Assignments} (h : SpellsInside spells text assignments) :
    ReadsInside depth text assignments := by
  induction h with
  | single hbefore own hafter =>
      intro r done outer rest room
      rw [List.append_assoc, List.append_assoc]
      exact readAll_assignment hbefore (readsAssignment reads own) hafter r done outer room
        (.inr rfl) rest
  | @cons before text after others assignment more hbefore own hafter _ ih =>
      intro r done outer rest room
      have shape : before ++ text ++ after ++ ',' :: others ++ '}' :: rest =
          before ++ (text ++ (after ++ ',' :: (others ++ '}' :: rest))) := by simp
      have comma : readAll (r.inTable (assignment :: done) outer .separator)
          (',' :: (others ++ '}' :: rest)) =
            readAll (r.inTable (assignment :: done) outer .key) (others ++ '}' :: rest) :=
        readAll_of_next rfl rfl
      rw [shape, readAll_assignment hbefore (readsAssignment reads own) hafter r done outer room
        (.inl rfl), comma, ih r _ outer rest room, List.reverse_cons, List.append_assoc]
      rfl

/-- The brace after the inside of an inline table completes it. -/
theorem readAll_close {r later : Reading} {assignments : Assignments} {position : Position}
    (closes : position = .key ∨ position = .separator)
    (placed : r.place (.table assignments.reverse) = some later) (rest : List Char) :
    readAll (r.inTable assignments r.frames position) ('}' :: rest) = readAll later rest := by
  have closed : (r.inTable assignments r.frames position).closeTable = some later := by
    rw [← placed, ← place_with_position r position]
    rfl
  apply readAll_of_next rfl
  rcases closes with rfl | rfl
  all_goals
    show Reading.sign _ rest = _
    rw [closed]
    rfl

/-- Reading an inline table completes it, if its values can be read. -/
theorem readsTerm_table {depth : Nat} {inside : List Char} {assignments : Assignments}
    (h : (IsGap inside ∧ assignments = []) ∨ ReadsInside depth inside assignments) :
    ReadsTerm (depth + 1) ('{' :: inside ++ ['}']) (.table assignments) := by
  intro r later rest atValue room placed _
  have opens : r.next ('{' :: (inside ++ '}' :: rest)) =
      some (r.inTable [] r.frames .key, inside ++ '}' :: rest) := by
    rw [next_value atValue]
    show Reading.sign (r.push _ _) _ = _
    rw [Reading.push, if_pos (by omega)]
    rfl
  rw [List.append_assoc, List.cons_append, List.singleton_append, readAll_of_next rfl opens]
  rcases h with ⟨gap, rfl⟩ | reads
  · rw [readAll_gap gap]
    exact readAll_close (.inl rfl) placed rest
  · rw [reads r [] r.frames rest (by omega), List.append_nil]
    apply readAll_close (.inr rfl)
    rw [List.reverse_reverse, placed]

/-- Reading a value completes it, however deep inline tables lie in it. -/
theorem readsTerm {depth : Nat} {text : List Char} {term : Term}
    (h : SpellsTerm depth text term) : ReadsTerm depth text term := by
  induction depth generalizing text term with
  | zero =>
      obtain ⟨scalar, rfl, spelled⟩ := h
      exact readsTerm_scalar spelled
  | succ depth ih =>
      rcases h with shallow | ⟨inside, assignments, rfl, rfl, nothing | spelled⟩
      · exact (ih shallow).weaken
      · exact readsTerm_table (.inl nothing)
      · exact readsTerm_table (.inr (readsInside (fun _ _ => ih) spelled))

-- =============================================================== lines

/-- The reading is between two lines, or at the end of one: no value is owed. -/
structure Reading.IsSettled (r : Reading) : Prop where
  frames : r.frames = []
  position : r.position = .lineStart ∨ r.position = .lineEnd

theorem Reading.IsSettled.allowsBreak {r : Reading} (h : r.IsSettled) : r.allowsBreak = true := by
  rw [Reading.allowsBreak, h.frames]

/-- All sections, if these statements follow. -/
def Reading.sectionsWith (r : Reading) (statements : List Statement) : List Section :=
  r.sections.reverse ++ sectionsFrom r.header r.assignments.reverse statements

theorem Reading.sectionsWith_nil (r : Reading) : r.sectionsWith [] = r.allSections := by
  rw [sectionsWith, allSections, List.reverse_cons]
  rfl

/-- Reading the text makes these statements, up to the end of a line. -/
def ReadsLine (text : List Char) (statements : List Statement) : Prop :=
  ∀ r rest, r.frames = [] → r.position = .lineStart → EndsLine rest →
    ∃ later, readAll r (text ++ rest) = readAll later rest ∧ later.IsSettled ∧
      ∀ more, later.sectionsWith more = r.sectionsWith (statements ++ more)

/-- What a statement does to the sections. -/
def Reading.make (r : Reading) : Statement → Reading
  | .header path => r.startSection (.table path)
  | .assignment path term =>
      { r with assignments := (path, term) :: r.assignments, frames := [], position := .lineEnd }

theorem isSettled_make (r : Reading) (statement : Statement) : (r.make statement).IsSettled := by
  cases statement <;> exact ⟨rfl, .inr rfl⟩

theorem sectionsWith_make (r : Reading) (statement : Statement) (more : List Statement) :
    (r.make statement).sectionsWith more = r.sectionsWith (statement :: more) := by
  cases statement with
  | header path =>
      rw [Reading.sectionsWith, Reading.sectionsWith, sectionsFrom]
      show ((⟨r.header, r.assignments.reverse⟩ :: r.sections).reverse ++ _) = _
      rw [List.reverse_cons, List.append_assoc]
      rfl
  | assignment path term =>
      rw [Reading.sectionsWith, Reading.sectionsWith, sectionsFrom, ← List.reverse_cons]
      rfl

theorem readAll_statement {r : Reading} (noFrames : r.frames = [])
    (atStart : r.position = .lineStart) {text : List Char} {statement : Statement}
    (h : SpellsStatement text statement) {rest : List Char} (ends : EndsValue rest) :
    readAll r (text ++ rest) = readAll (r.make statement) rest := by
  cases h with
  | @header gap text path hgap own short =>
      have read : r.next ('[' :: (gap ++ (text ++ ']' :: rest))) =
          some (r.startSection (.table path), rest) := by
        simp [Reading.next, atStart, readHeader_append hgap own short rest]
      have shape : '[' :: gap ++ text ++ [']'] ++ rest =
          '[' :: (gap ++ (text ++ ']' :: rest)) := by simp
      rw [shape, readAll_of_next rfl read]
      rfl
  | @assignment _ path term own =>
      have target : r.target path = some { r with frames := [.line path], position := .equals } := by
        rw [Reading.target, noFrames]
      exact readsAssignment (fun _ _ => readsTerm) own _ _ _ _ (.inl atStart) target
        (show 1 + (deepestKey - 1) ≤ Reading.deepest + 1 by decide) rfl ends

theorem endsValue_line {gap comment rest : List Char} (hgap : IsGap gap)
    (hcomment : IsComment comment) (ends : EndsLine rest) :
    EndsValue (gap ++ (comment ++ rest)) := by
  refine ⟨gap, comment ++ rest, rfl, hgap, ?_⟩
  cases hcomment with
  | none =>
      intro c mem
      rcases ends.head c mem with rfl | rfl <;> simp
  | comment _ => simp

theorem readsLine {text : List Char} {statements : List Statement}
    (h : SpellsLine text statements) : ReadsLine text statements := by
  intro r rest noFrames atStart ends
  cases h with
  | empty hgap hcomment =>
      have settled : r.IsSettled := ⟨noFrames, .inl atStart⟩
      refine ⟨r, ?_, settled, fun _ => rfl⟩
      rw [List.append_assoc, readAll_gap hgap, readAll_comment settled.allowsBreak hcomment ends]
  | @statement before text after comment statement hbefore own hafter hcomment =>
      have settled := isSettled_make r statement
      refine ⟨r.make statement, ?_, settled, sectionsWith_make r statement⟩
      have shape : before ++ text ++ after ++ comment ++ rest =
          before ++ (text ++ (after ++ (comment ++ rest))) := by simp
      rw [shape, readAll_gap hbefore,
        readAll_statement noFrames atStart own (endsValue_line hafter hcomment ends),
        readAll_gap hafter, readAll_comment settled.allowsBreak hcomment ends]

/-- Reading all lines makes all statements. -/
theorem readAll_lines {text : List Char} {statements : List Statement}
    (h : SpellsLines text statements) (r : Reading) (noFrames : r.frames = [])
    (atStart : r.position = .lineStart) :
    ∃ later, readAll r text = some later ∧ later.frames = [] ∧
      later.allSections = r.sectionsWith statements := by
  induction h generalizing r with
  | last line =>
      obtain ⟨later, read, settled, made⟩ := readsLine line r [] noFrames atStart (.inl rfl)
      refine ⟨later, ?_, settled.frames, ?_⟩
      · rw [List.append_nil] at read
        rw [read, readAll, Text.readPieces]
      · rw [← Reading.sectionsWith_nil, made, List.append_nil]
  | @cons text ending rest statements more line hending _ ih =>
      have ends : EndsLine (ending ++ rest) := by
        rcases hending with rfl | rfl <;> exact .inr rfl
      obtain ⟨middle, read, settled, made⟩ := readsLine line r _ noFrames atStart ends
      have broken := readAll_break settled.allowsBreak hending rest
      have atNext : middle.newLine.position = .lineStart := by
        unfold Reading.newLine
        split
        next => rfl
        next other => exact settled.position.resolve_right other
      have noFrames : middle.newLine.frames = [] := by
        rw [← settled.frames]
        unfold Reading.newLine
        split <;> rfl
      have same : middle.newLine.sectionsWith more = middle.sectionsWith more := by
        unfold Reading.newLine
        split <;> rfl
      obtain ⟨later, readRest, closed, sections⟩ := ih middle.newLine noFrames atNext
      refine ⟨later, ?_, closed, ?_⟩
      · rw [List.append_assoc, read, broken, readRest]
      · rw [sections, same, made]

-- =========================================================== documents

/-- A byte order mark begins no line. -/
theorem readAll_byteOrderMark (rest : List Char) : readAll {} (byteOrderMark :: rest) = none := by
  have noKey : readKeys (byteOrderMark :: rest) = none := by
    rw [readKeys]
    split
    next => rfl
    next found => cases found
  apply Text.readPieces_of_cutAt_none
  rw [cutAt_cutNext, if_neg (by decide), if_neg (by decide)]
  show Reading.readTarget _ _ = _
  rw [Reading.readTarget, readPath, noKey]
  rfl

/-- The sections of a text are those that its statements make up. -/
theorem sections?_of_spellsLines {text : List Char} {statements : List Statement}
    (h : SpellsLines text statements) :
    sections? (String.ofList text) = some (sectionsOf statements) := by
  obtain ⟨later, read, noFrames, sections⟩ := readAll_lines h {} rfl rfl
  have noMark : text.head? ≠ some byteOrderMark := by
    intro mark
    obtain ⟨rest, rfl⟩ := List.head?_eq_some_iff.1 mark
    rw [readAll_byteOrderMark] at read
    cases read
  rw [sections?, String.toList_ofList, if_neg noMark]
  show (readAll {} text).bind _ = _
  rw [read, Option.bind_some, noFrames, sections]
  rfl

/-- Reading a TOML document of a tree gives its entries, in ascending order of the keys. -/
theorem entries?_of_spells {text : String} {tree : SchemaTree} (h : Spells text tree) :
    entries? containerKey text = some (some tree.ascending.bindings) := by
  obtain ⟨lines, states⟩ := h
  obtain ⟨item, stands, added⟩ := exists_ofSections states
  have bounded : Item.areMembersBounded [(containerKey, item)] = true := by
    rw [Item.areMembersBounded, stands.bounded]
    rfl
  rw [entries?, sections?_of_spellsLines lines]
  show (Members.ofSections _).bind _ = _
  rw [added, Option.bind_some, bounded]
  show item.value?.bind _ = _
  rw [stands.value]
  rfl

end SchemaClasses.Toml
