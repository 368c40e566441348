/-
Reading a JSON document of a schema tree.

The text is read in three steps, and each has its own account of what it
does with a spelled value: the tokens it is cut into, the tree these
spell, and the value the tree stands for. The account of an object
follows from those of its values, so that for three levels of objects
one argument is enough.
-/
import Mathlib.Data.List.Forall2
import SchemaClasses.Proofs.Json.Spelling
import SchemaClasses.Proofs.Lexical.StringLiteral
import SchemaClasses.Proofs.Text.Cut

namespace SchemaClasses.Json

open Decimal (Literal)

variable {α : Type}

-- ============================================================= tokens

/-- Reading the text appends these tokens, whatever follows the text. -/
def Scans (text : List Char) (tokens : List Token) : Prop :=
  ∀ before rest, Text.readPieces cutToken before (text ++ rest) =
    Text.readPieces cutToken (tokens.reverse ++ before) rest

/-- A character that a number would go on with. -/
def goesOnNumber (c : Char) : Bool := c.isDigit || ['.', 'e', 'E'].contains c

/-- No number goes on into the text. -/
def EndsNumber (text : List Char) : Prop := ∀ c ∈ text.head?, goesOnNumber c = false

/-- Reading the text appends these tokens, if no number goes on into what follows the text. -/
def ScansValue (text : List Char) (tokens : List Token) : Prop :=
  ∀ before rest, EndsNumber rest → Text.readPieces cutToken before (text ++ rest) =
    Text.readPieces cutToken (tokens.reverse ++ before) rest

theorem Scans.scansValue {text : List Char} {tokens : List Token} (h : Scans text tokens) :
    ScansValue text tokens :=
  fun before rest _ => h before rest

theorem scans_nil : Scans [] [] := fun _ _ => rfl

theorem Scans.append {front back : List Char} {first second : List Token}
    (hfront : Scans front first) (hback : Scans back second) :
    Scans (front ++ back) (first ++ second) := by
  intro before rest
  rw [List.append_assoc, hfront, hback, List.reverse_append, List.append_assoc]

theorem Scans.append_value {front back : List Char} {first second : List Token}
    (hfront : Scans front first) (hback : ScansValue back second) :
    ScansValue (front ++ back) (first ++ second) := by
  intro before rest ends
  rw [List.append_assoc, hfront, hback _ _ ends, List.reverse_append, List.append_assoc]

/-- A sign after a value ends it. -/
theorem ScansValue.append_sign {text : List Char} {tokens : List Token} {c : Char} {token : Token}
    (h : ScansValue text tokens) (sign : Scans [c] [token]) (apart : goesOnNumber c = false) :
    Scans (text ++ [c]) (tokens ++ [token]) := by
  intro before rest
  have ends : EndsNumber ([c] ++ rest) := by
    intro d mem
    cases mem
    exact apart
  rw [List.append_assoc, h _ _ ends, sign, List.reverse_append, List.append_assoc]

/-- Blanks are no tokens. -/
theorem scans_gap {gap : List Char} (h : IsGap gap) : Scans gap [] := by
  induction gap with
  | nil => exact scans_nil
  | cons c rest ih =>
      have first : Scans [c] [] := by
        intro before after
        have blank : c ∈ blanks := h c List.mem_cons_self
        simp only [blanks, List.mem_cons, List.not_mem_nil, or_false] at blank
        rcases blank with rfl | rfl | rfl | rfl <;> exact Text.readPieces_of_cutAt rfl
      exact first.append (ih fun d mem => h d (List.mem_cons_of_mem c mem))

/-- No number goes on into blanks. -/
theorem endsNumber_gap {gap rest : List Char} (h : IsGap gap) (ends : EndsNumber rest) :
    EndsNumber (gap ++ rest) := by
  cases gap with
  | nil => exact ends
  | cons c more =>
      intro d mem
      have blank : c ∈ blanks := h c List.mem_cons_self
      simp only [blanks, List.mem_cons, List.not_mem_nil, or_false] at blank
      rw [List.cons_append, List.head?_cons, Option.mem_some_iff] at mem
      subst mem
      rcases blank with rfl | rfl | rfl | rfl <;> rfl

theorem scans_colon : Scans [':'] [.colon] := fun _ _ => Text.readPieces_of_cutAt rfl

theorem scans_comma : Scans [','] [.comma] := fun _ _ => Text.readPieces_of_cutAt rfl

theorem scans_openObject : Scans ['{'] [.openObject] := fun _ _ => Text.readPieces_of_cutAt rfl

theorem scans_closeObject : Scans ['}'] [.closeObject] := fun _ _ => Text.readPieces_of_cutAt rfl

-- ============================================================ strings

theorem readString_plain {c : Char} {rest : List Char} (notControl : 0x20 ≤ c.toNat)
    (notQuote : c ≠ '"') (notBackslash : c ≠ '\\') :
    readString (c :: rest) =
      (readString rest).map fun (units, after) => (c.toNat :: units, after) := by
  rw [readString]
  · rw [if_neg (by omega)]
  · exact notQuote
  · intro a b c d rest eq
    exact absurd eq notBackslash
  · intro c rest eq
    exact absurd eq notBackslash

theorem readString_short {letter c : Char} {rest : List Char} (named : escaped? letter = some c) :
    readString ('\\' :: letter :: rest) =
      (readString rest).map fun (units, after) => (c.toNat :: units, after) := by
  rw [readString]
  · rw [named]
  · rintro a b c d rest rfl
    cases named

theorem readString_unit {a b c d : Char} {unit : Nat} {rest : List Char}
    (number : Text.natural? 16 [a, b, c, d] = some unit) :
    readString ('\\' :: 'u' :: a :: b :: c :: d :: rest) =
      (readString rest).map fun (units, after) => (unit :: units, after) := by
  rw [Text.natural?, Option.ite_none_right_eq_some, Bool.and_eq_true, Option.some.injEq] at number
  obtain ⟨⟨-, digits⟩, rfl⟩ := number
  rw [readString, if_pos digits]

/-- The escapes of code units contribute these units. -/
theorem readString_units {text : List Char} {units : List Nat}
    (row : Text.SpellsRow SpellsUnit text units) (rest : List Char) :
    readString (text ++ rest) =
      (readString rest).map fun (more, after) => (units ++ more, after) := by
  induction row with
  | nil => simp
  | cons first others ih =>
      obtain ⟨number⟩ := first
      rw [List.append_assoc, List.cons_append, List.cons_append, List.cons_append, List.cons_append,
        List.cons_append, List.cons_append, List.nil_append, readString_unit number, ih,
        Option.map_map]
      rfl

/-- A character that contributes its own number is joined to nothing else. -/
theorem characters_toNat_cons (c : Char) (more : List Nat) :
    characters (c.toNat :: more) = (characters more).map (c :: ·) := by
  have noHalf := Lexical.not_half c
  have notLow : isLowHalf c.toNat = false := by
    simp only [isLowHalf, Bool.and_eq_false_iff, decide_eq_false_iff_not]
    omega
  have notHigh : isHighHalf c.toNat = false := by
    simp only [isHighHalf, Bool.and_eq_false_iff, decide_eq_false_iff_not]
    omega
  rw [characters.eq_def]
  simp only [notLow, notHigh, Bool.false_eq_true, if_false, Char.ofNat_toNat]

/-- What reading a spelled character adds to the code points, and what these are joined to. -/
theorem exists_units_of_spellsChar {text : List Char} {c : Char} (h : SpellsChar text c) :
    ∃ units, (∀ rest, readString (text ++ rest) =
        (readString rest).map fun (more, after) => (units ++ more, after)) ∧
      ∀ more, characters (units ++ more) = (characters more).map (c :: ·) := by
  cases h with
  | plain notControl notQuote notBackslash =>
      exact ⟨[c.toNat], fun _ => readString_plain notControl notQuote notBackslash,
        characters_toNat_cons c⟩
  | short named => exact ⟨[c.toNat], fun _ => readString_short named, characters_toNat_cons c⟩
  | units row =>
      exact ⟨Lexical.charUnits c, readString_units row, Lexical.characters_charUnits_append c⟩

/-- Spelled characters and a quote are read as the characters, up to the quote. -/
theorem exists_readString_of_row {inside chars : List Char}
    (row : Text.SpellsRow SpellsChar inside chars) (rest : List Char) :
    ∃ units, readString (inside ++ '"' :: rest) = some (units, rest) ∧
      characters units = some chars := by
  induction row with
  | nil => exact ⟨[], rfl, rfl⟩
  | cons first others ih =>
      obtain ⟨own, reads, joins⟩ := exists_units_of_spellsChar first
      obtain ⟨more, readsMore, joinsMore⟩ := ih
      refine ⟨own ++ more, ?_, ?_⟩
      · rw [List.append_assoc, reads, readsMore, Option.map_some]
      · rw [joins, joinsMore, Option.map_some]

/-- A spelled string is one token, which knows the string. -/
theorem scans_string {text : List Char} {s : String} (h : SpellsString text s) :
    Scans text [.string (some s)] := by
  obtain ⟨row⟩ := h
  intro before rest
  obtain ⟨units, reads, joins⟩ := exists_readString_of_row row rest
  rw [List.cons_append, List.cons_append, List.append_assoc, List.singleton_append]
  refine Text.readPieces_of_cutAt ?_
  rw [Text.cutAt, cutToken]
  split
  next found =>
    rw [reads] at found
    cases found
    rw [joins, Option.map_some, Option.map_some, String.ofList_toList]
    rfl
  next found =>
    rw [reads] at found
    cases found

-- ============================================================ numbers

/-- The digits in front of what does not go on with them are a literal without more. -/
theorem read_toDigits (n : Nat) {rest : List Char} (ends : EndsNumber rest) :
    Literal.read (Nat.toDigits 10 n ++ rest) = (⟨Nat.toDigits 10 n, none, none⟩, rest) := by
  have digits : ∀ c ∈ Nat.toDigits 10 n, c.isDigit = true :=
    fun c mem => Text.isDigit_of_mem_toDigits mem
  cases rest with
  | nil =>
      simp only [Literal.read, List.takeWhile_append_of_pos digits,
        List.dropWhile_append_of_pos digits]
      simp [Decimal.readFraction, Decimal.readExponent]
  | cons c more =>
      have other : goesOnNumber c = false := ends c rfl
      simp only [goesOnNumber, Bool.or_eq_false_iff, List.contains_eq_mem, List.mem_cons,
        List.not_mem_nil, or_false, decide_eq_false_iff_not, not_or] at other
      obtain ⟨notDigit, notPoint, notSmall, notCapital⟩ := other
      have fraction : Decimal.readFraction (c :: more) = (none, c :: more) := by
        unfold Decimal.readFraction
        split
        next eq => exact absurd (List.cons.inj eq).1 notPoint
        next => rfl
      have exponent : Decimal.readExponent (c :: more) = (none, c :: more) := by
        rw [Decimal.readExponent, if_neg (not_or.2 ⟨notSmall, notCapital⟩)]
      simp only [Literal.read, List.takeWhile_append_of_pos digits,
        List.dropWhile_append_of_pos digits, List.takeWhile_cons, List.dropWhile_cons, notDigit,
        Bool.false_eq_true, if_false, List.append_nil, fraction, exponent]

/-- The digits of a number are a literal of JSON. -/
theorem isNumber_toDigits (n : Nat) : isNumber ⟨Nat.toDigits 10 n, none, none⟩ = true := by
  have nonempty : (Nat.toDigits 10 n).isEmpty = false :=
    List.isEmpty_eq_false_iff.2 Nat.toDigits_ne_nil
  rcases Text.length_toDigits_eq_one_or n with single | notZero
  · simp [isNumber, nonempty, single]
  · simp [isNumber, nonempty, notZero]

/-- The digits of a number are cut off as this number. -/
theorem cutAt_cutNumber (negative : Bool) (before : List Token) (n : Nat) {rest : List Char}
    (ends : EndsNumber rest) :
    Text.cutAt (cutNumber negative) before (Nat.toDigits 10 n ++ rest) =
      some (.number negative ⟨Nat.toDigits 10 n, none, none⟩ :: before, rest) := by
  have number : isNumber (Literal.read (Nat.toDigits 10 n ++ rest)).1 = true := by
    rw [read_toDigits n ends]
    exact isNumber_toDigits n
  rw [Text.cutAt, cutNumber, dif_pos number, Option.map_some]
  show some (Token.number negative (Literal.read _).1 :: before, (Literal.read _).2) = _
  rw [read_toDigits n ends]

/-- A digit begins a number without a sign. -/
theorem cutToken_of_isDigit {d : Char} (digit : d.isDigit = true) (before : List Token)
    (rest : List Char) : cutToken before (d :: rest) = cutNumber false before (d :: rest) := by
  rw [cutToken]
  · rw [if_neg]
    rintro (rfl | rfl | rfl | rfl) <;> exact absurd digit (by decide)
  -- no other token begins with a digit
  all_goals
    intros
    subst_vars
    exact absurd digit (by decide)

/-- The digits of a small number are collected in full. -/
theorem appendDigits_eq {digits : List Char} :
    ∀ {start : Nat}, digits.foldl (fun n c => 10 * n + Text.digitValue c) start < digitLimit →
      appendDigits start digits = (digits.foldl (fun n c => 10 * n + Text.digitValue c) start, 0) := by
  have grows : ∀ (digits : List Char) (start : Nat),
      start ≤ digits.foldl (fun n c => 10 * n + Text.digitValue c) start := by
    intro digits
    induction digits with
    | nil => intro start; exact Nat.le_refl start
    | cons d rest ih =>
        intro start
        refine Nat.le_trans ?_ (ih (10 * start + Text.digitValue d))
        omega
  induction digits with
  | nil => intro start _; rfl
  | cons d rest ih =>
      intro start small
      rw [List.foldl_cons] at small ⊢
      have next : 10 * start + Text.digitValue d < digitLimit :=
        Nat.lt_of_le_of_lt (grows rest _) small
      rw [appendDigits, if_pos next, ih small]

/-- The digits of a number that fits 64 bits stand for the number, with its sign. -/
theorem number?_toDigits {n : Int} (least : -0x8000000000000000 ≤ n)
    (greatest : n < 0x8000000000000000) :
    number? (decide (n < 0)) ⟨Nat.toDigits 10 n.natAbs, none, none⟩ = some (.whole n) := by
  have small : n.natAbs < digitLimit := by
    have : digitLimit = 0x10000000000000000 := rfl
    omega
  have collected : appendDigits 0 (Nat.toDigits 10 n.natAbs) = (n.natAbs, 0) := by
    have eq := Text.ofDigits_toDigits n.natAbs
    rw [Text.ofDigits] at eq
    rw [appendDigits_eq (by rw [eq]; exact small), eq]
  have fits : fitsBits 64 n = true := (fitsBits_of_signed least greatest).1
  have notMinusZero : ¬(decide (n < 0) = true ∧ n.natAbs = 0) := by
    rw [decide_eq_true_eq]
    omega
  simp only [number?, collected, Text.sign_natAbs]
  rw [if_pos ⟨rfl, rfl, trivial, notMinusZero, fits⟩]

/-- The decimal spelling of a number is one token, which stands for the number. -/
theorem exists_scans_decimal {n : Int} (least : -0x8000000000000000 ≤ n)
    (greatest : n < 0x8000000000000000) :
    ∃ negative literal, ScansValue (Text.decimal n) [.number negative literal] ∧
      number? negative literal = some (.whole n) := by
  refine ⟨_, _, ?_, number?_toDigits least greatest⟩
  intro before rest ends
  have cut := fun negative => cutAt_cutNumber negative before n.natAbs ends
  unfold Text.decimal
  by_cases negative : n < 0
  · rw [if_pos negative, List.cons_append]
    refine Text.readPieces_of_cutAt ?_
    rw [Text.cutAt, cutToken, Option.map_map, decide_eq_true negative]
    exact cut true
  · obtain ⟨d, others, digits⟩ :=
      List.exists_cons_of_ne_nil (Nat.toDigits_ne_nil (n := n.natAbs) (b := 10))
    have digit : d.isDigit = true :=
      Text.isDigit_of_mem_toDigits (digits ▸ List.mem_cons_self)
    rw [if_neg negative, digits, List.cons_append]
    refine Text.readPieces_of_cutAt ?_
    rw [Text.cutAt, cutToken_of_isDigit digit, decide_eq_false negative]
    have := cut false
    rwa [digits] at this

-- ============================================================== trees

/-- The tokens are read as this tree wherever a value may come. -/
def Parses (tokens : List Token) (tree : Tree) : Prop :=
  ∀ around, tokens.foldlM Progress.step (.value around) = some (.complete tree around)

/-- The text is read as this tree wherever a value may come. -/
def ReadsTree (text : List Char) (tree : Tree) : Prop :=
  ∃ tokens, ScansValue text tokens ∧ Parses tokens tree

/-- The next name will be one of an object with these members so far. -/
def AwaitsName (progress : Progress) (members : List (Option String × Tree))
    (around : List Unfinished) : Prop :=
  ∀ name, progress.step (.string name) = some (.colon (.member members name :: around))

theorem awaitsName_opened (around : List Unfinished) :
    AwaitsName (.name (.object [] :: around)) [] around :=
  fun _ => rfl

theorem awaitsName_nextName (members : List (Option String × Tree)) (around : List Unfinished) :
    AwaitsName (.nextName (.object members :: around)) members around :=
  fun _ => rfl

variable {spells : List Char → α → Prop} {stands : α → Tree → Prop}

/-- A tree that stands for a thing, and how its text is read. -/
def Readable (spells : List Char → α → Prop) (stands : α → Tree → Prop) : Prop :=
  ∀ text a, spells text a → ∃ tree, ReadsTree text tree ∧ stands a tree

/-- A member of an object that stands for an entry. -/
def StandsForEntry (stands : α → Tree → Prop) (entry : String × α)
    (member : Option String × Tree) : Prop :=
  member.1 = some entry.1 ∧ stands entry.2 member.2

/-- The tokens of a member bring the reading of its object one member further. -/
theorem exists_tokens_of_spellsMember (readable : Readable spells stands) {text : List Char}
    {entry : String × α} (h : SpellsMember spells text entry) :
    ∃ tokens member, ScansValue text tokens ∧ StandsForEntry stands entry member ∧
      ∀ progress members around, AwaitsName progress members around →
        tokens.foldlM Progress.step progress =
          some (.complete member.2 (.member members member.1 :: around)) := by
  obtain ⟨hbefore, hname, hbeforeColon, hafterColon, hvalue, hafter⟩ := h
  rename_i before name beforeColon afterColon value after key a
  obtain ⟨tree, ⟨tokens, scans, parses⟩, stand⟩ := readable _ _ hvalue
  refine ⟨[.string (some key), .colon] ++ tokens, (some key, tree), ?_, ⟨rfl, stand⟩, ?_⟩
  · have front : Scans (before ++ name ++ beforeColon ++ [':'] ++ afterColon)
        [.string (some key), .colon] :=
      ((((scans_gap hbefore).append (scans_string hname)).append (scans_gap hbeforeColon)).append
        scans_colon).append (scans_gap hafterColon)
    intro start rest ends
    have step := front start (value ++ (after ++ rest))
    rw [scans _ _ (endsNumber_gap hafter ends), scans_gap hafter] at step
    simpa using step
  · intro progress members around awaits
    rw [List.foldlM_append, List.foldlM_cons, awaits, Option.bind_eq_bind, Option.bind_some,
      List.foldlM_cons]
    exact parses (.member members (some key) :: around)

/-- The tokens of members and of the end of their object complete the object. -/
theorem exists_tokens_of_spellsMembers (readable : Readable spells stands) {text : List Char}
    {entries : List (String × α)} (h : SpellsMembers spells text entries) :
    ∃ tokens members, ScansValue text tokens ∧
      List.Forall₂ (StandsForEntry stands) entries members ∧
        ∀ progress earlier around, AwaitsName progress earlier around →
          (tokens ++ [Token.closeObject]).foldlM Progress.step progress =
            some (.complete (.object (earlier.reverse ++ members)) around) := by
  induction h with
  | single member =>
      obtain ⟨tokens, own, scans, stand, reads⟩ := exists_tokens_of_spellsMember readable member
      refine ⟨tokens, [own], scans, .cons stand .nil, ?_⟩
      intro progress earlier around awaits
      rw [List.foldlM_append, reads progress earlier around awaits]
      simp [Progress.step, Progress.afterValue]
  | cons member others ih =>
      obtain ⟨tokens, own, scans, stand, reads⟩ := exists_tokens_of_spellsMember readable member
      obtain ⟨more, rest, scansMore, standMore, readsMore⟩ := ih
      refine ⟨tokens ++ .comma :: more, own :: rest, ?_, .cons stand standMore, ?_⟩
      · have := (scans.append_sign scans_comma rfl).append_value scansMore
        simpa using this
      · intro progress earlier around awaits
        have later := readsMore _ _ around (awaitsName_nextName (own :: earlier) around)
        rw [List.append_assoc, List.foldlM_append, reads progress earlier around awaits]
        simpa [Progress.step, Progress.afterValue] using later

/-- An object spells its keys in order, and its text is read as a tree of members in this order. -/
theorem exists_members_of_spellsObject (readable : Readable spells stands) {text : List Char}
    {entries : List (String × α)} (h : SpellsObject spells text entries) :
    ∃ members, ReadsTree text (.object members) ∧
      List.Forall₂ (StandsForEntry stands) entries members := by
  cases h with
  | empty gap =>
      refine ⟨[], ⟨[.openObject, .closeObject], ?_, fun around => rfl⟩, .nil⟩
      exact ((scans_openObject.append (scans_gap gap)).append scans_closeObject).scansValue
  | members row =>
      obtain ⟨tokens, members, scans, stand, reads⟩ := exists_tokens_of_spellsMembers readable row
      refine ⟨members, ⟨.openObject :: (tokens ++ [.closeObject]), ?_, ?_⟩, stand⟩
      · exact (scans_openObject.append (scans.append_sign scans_closeObject rfl)).scansValue
      · intro around
        have := reads _ _ around (awaitsName_opened around)
        simpa [Progress.step, Progress.beginValue] using this

-- ============================================================= values

/-- The tree stands for the value where objects may lie in each other as deep as this, or deeper. -/
def StandsFor (depth : Nat) (value : Value) (tree : Tree) : Prop :=
  ∀ deeper, depth ≤ deeper → value? deeper tree = some value

/-- Scalars are read as what they stand for. -/
theorem readable_leaf : Readable SpellsLeaf fun leaf => StandsFor 0 leaf.value := by
  intro text leaf h
  cases h with
  | text string =>
      rename_i s
      refine ⟨.string (some s), ⟨_, (scans_string string).scansValue, fun around => rfl⟩, ?_⟩
      intro depth _
      rw [value?]
      rfl
  | whole least greatest =>
      rename_i n
      obtain ⟨negative, literal, scans, number⟩ := exists_scans_decimal least greatest
      refine ⟨.number negative literal, ⟨_, scans, fun around => rfl⟩, ?_⟩
      intro depth _
      rw [value?, number]
      rfl
  | true =>
      refine ⟨.bool true, ⟨[.bool true], fun _ _ _ => Text.readPieces_of_cutAt rfl, fun _ => rfl⟩, ?_⟩
      intro depth _
      rw [value?]
      rfl
  | false =>
      refine ⟨.bool false, ⟨[.bool false], fun _ _ _ => Text.readPieces_of_cutAt rfl, fun _ => rfl⟩, ?_⟩
      intro depth _
      rw [value?]
      rfl

/-- Members that stand for entries are read as these entries. -/
theorem mapM_value?_members {f : α → Value} {depth deeper : Nat} (le : depth ≤ deeper)
    {entries : List (String × α)} {members : List (Option String × Tree)}
    (stand : List.Forall₂ (StandsForEntry fun a => StandsFor depth (f a)) entries members) :
    (members.mapM fun member => do return (← member.1, ← value? deeper member.2)) =
      some (entries.map fun entry => (entry.1, f entry.2)) := by
  induction stand with
  | nil => rfl
  | cons first others ih =>
      obtain ⟨name, value⟩ := first
      rw [List.mapM_cons, ih, name, value deeper le]
      rfl

/-- An object whose members stand for entries stands for the mapping of these. -/
theorem standsFor_object {f : α → Value} {depth : Nat} {k : Keyed α}
    {members : List (Option String × Tree)}
    (stand : List.Forall₂ (StandsForEntry fun a => StandsFor depth (f a)) k.entries members) :
    StandsFor (depth + 1) (k.value f) (.object members) := by
  intro deeper le
  obtain ⟨more, rfl⟩ := Nat.exists_eq_add_of_le' le
  have read := mapM_value?_members (Nat.le_add_left depth more) stand
  show value? (more + depth + 1) (.object members) = _
  rw [value?]
  show ((members.mapM fun member => do return (← member.1, ← value? (more + depth) member.2)) >>=
    fun bindings => some (Value.mapping (Entries.ofBindings bindings))) = _
  rw [read, Option.bind_eq_bind, Option.bind_some]
  exact congrArg (fun bindings => some (Value.mapping bindings)) (k.ofBindings_bindings f)

/-- An object of readable values is readable. -/
theorem readable_object {f : α → Value} {depth : Nat}
    (readable : Readable spells fun a => StandsFor depth (f a)) :
    Readable (fun text (k : Keyed α) => SpellsObject spells text k.entries)
      fun k => StandsFor (depth + 1) (k.value f) := by
  intro text k h
  obtain ⟨members, read, stand⟩ := exists_members_of_spellsObject readable h
  exact ⟨.object members, read, standsFor_object stand⟩

/-- A text that spells a tree is read as what the tree stands for. -/
theorem readable_tree : Readable SpellsTree fun tree => StandsFor 3 (.mapping tree.bindings) :=
  readable_object (readable_object (readable_object readable_leaf))

-- ========================================================== documents

/-- The tree of a document that has blanks around a value is the tree of the value. -/
theorem Tree.ofText?_of_readsTree {before text after : List Char} {tree : Tree}
    (hbefore : IsGap before) (read : ReadsTree text tree) (hafter : IsGap after) :
    Tree.ofText? (String.ofList (before ++ text ++ after)) = some tree := by
  obtain ⟨tokens, scans, parses⟩ := read
  have nothing : EndsNumber [] := by
    intro c mem
    cases mem
  have start := scans_gap hbefore [] (text ++ (after ++ []))
  rw [scans _ _ (endsNumber_gap hafter nothing), scans_gap hafter, Text.readPieces] at start
  have scanned : tokens? (before ++ text ++ after) = some tokens := by
    have all : Text.readPieces cutToken [] (before ++ text ++ after) = some tokens.reverse := by
      simpa using start
    rw [tokens?, all, Option.map_some, List.reverse_reverse]
  rw [Tree.ofText?, String.toList_ofList, scanned, Option.bind_eq_bind, Option.bind_some,
    Tree.ofTokens?, parses, Option.bind_eq_bind, Option.bind_some]
  rfl

/-- A document of a tree lists the entities of the tree, in their order. -/
theorem entries?_of_spells {text : String} {tree : SchemaTree} (h : Spells text tree) :
    entries? containerKey text = some (some tree.bindings) := by
  obtain ⟨hbefore, root, hafter⟩ := h
  obtain ⟨members, read, stand⟩ := exists_members_of_spellsObject readable_tree root
  have document := Tree.ofText?_of_readsTree hbefore read hafter
  obtain _ | ⟨⟨name, value⟩, others⟩ := stand
  cases others
  rename_i member
  obtain ⟨key, contents⟩ := member
  cases name
  have found : value? (deepest - 1) contents = some (.mapping tree.bindings) := value _ (by decide)
  have bound : contents? contents = some (some tree.bindings) := by
    have notNull : contents ≠ .null := by
      rintro rfl
      rw [value?] at found
      cases found
    rw [contents?]
    · rw [found]
      rfl
    · exact notNull
  rw [entries?, document, Option.bind_eq_bind, Option.bind_some]
  exact bound

end SchemaClasses.Json
