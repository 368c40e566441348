/-
Every schema tree has a YAML document.

It has one line, in which the tree stands in braces. Every key and string
is spelled by the numbers of its characters, so the text holds nothing
but printable characters of ASCII, which stay what they are when breaks
are unified. Keys are announced by question marks: they may be long.
-/
import SchemaClasses.Proofs.Text.Digits
import SchemaClasses.Proofs.Yaml.Spelling

namespace SchemaClasses.Yaml

open Text (decimal)

variable {α : Type}

-- ===================================================== plain scalars

/-- A word stands without quotes if it starts like one and no sign follows. -/
theorem isPlain_of_starts {inFlow : Bool} {c : Char} {word : List Char}
    (starts : Starts inFlow c word)
    (h : ∀ d ∈ word, isGap d = false ∧ d ∉ indicators ∧ d ≠ '.') : IsPlain inFlow (c :: word) := by
  have own : ∀ more, (∀ d ∈ more, d ∈ word) → IsWord inFlow more := by
    intro more inside
    induction more with
    | nil => exact .nil
    | cons d rest ih =>
        obtain ⟨notGap, noSign, -⟩ := h d (inside d List.mem_cons_self)
        have noColon : d ≠ ':' := by
          rintro rfl
          exact noSign (by decide)
        refine .cons notGap (fun _ sign => noSign ?_) (fun colon => absurd colon noColon)
          (ih fun e mem => inside e (List.mem_cons_of_mem d mem))
        have all : flowIndicators.all indicators.contains = true := by decide
        simpa using List.all_eq_true.1 all d sign
  have noMarker : ∀ sign, sign ∈ indicators ∨ sign = '.' →
      (c :: word ++ []).take 3 ≠ [sign, sign, sign] := by
    intro sign either three
    have inWord : sign ∈ word := by
      rw [List.append_nil, List.take_succ_cons] at three
      have second : sign ∈ word.take 2 := by
        rw [(List.cons.inj three).2]
        exact List.mem_cons_self
      exact List.mem_of_mem_take second
    obtain ⟨-, noSign, noPoint⟩ := h sign inWord
    exact either.elim noSign noPoint
  have plain := IsPlain.intro starts (own word fun d mem => mem) .nil
    ⟨noMarker '-' (.inl (by decide)), noMarker '.' (.inr rfl)⟩
  rwa [List.append_nil] at plain

/-- A character that means nothing but itself in a plain scalar. -/
def isLetter (c : Char) : Bool :=
  !isGap c && !indicators.contains c && c != '.' && c != byteOrderMark

theorem isLetter_iff {c : Char} : isLetter c = true ↔
    isGap c = false ∧ c ∉ indicators ∧ c ≠ '.' ∧ c ≠ byteOrderMark := by
  simp [isLetter, and_assoc]

/-- A word of such characters stands without quotes. -/
theorem isPlain_of_all {inFlow : Bool} {word : List Char} (nonempty : word ≠ [])
    (h : word.all isLetter = true) : IsPlain inFlow word := by
  obtain ⟨c, rest, rfl⟩ := List.exists_cons_of_ne_nil nonempty
  have letter := fun d mem => isLetter_iff.1 (List.all_eq_true.1 h d mem)
  obtain ⟨notGap, noSign, -, notMark⟩ := letter c List.mem_cons_self
  refine isPlain_of_starts ⟨notGap, notMark, .inl noSign⟩ fun d mem => ?_
  obtain ⟨notGap, noSign, noPoint, -⟩ := letter d (List.mem_cons_of_mem c mem)
  exact ⟨notGap, noSign, noPoint⟩

-- =========================================================== numbers

theorem isLetter_of_isDigit {c : Char} (h : c.isDigit = true) : isLetter c = true := by
  have signs : ([' ', '\t', '\n', '\u2028', '\u2029', '.', byteOrderMark] ++ indicators).all
      (fun sign => !sign.isDigit) = true := by decide
  have other : c ∉ [' ', '\t', '\n', '\u2028', '\u2029', '.', byteOrderMark] ++ indicators := by
    intro mem
    have own := List.all_eq_true.1 signs c mem
    rw [h] at own
    cases own
  simp only [List.mem_append, List.mem_cons, List.not_mem_nil, or_false, not_or] at other
  rw [isLetter_iff]
  simp [isGap, isBlank, isBreak, other]

theorem isPlain_decimal (inFlow : Bool) (n : Int) : IsPlain inFlow (decimal n) := by
  have digits : (Nat.toDigits 10 n.natAbs).all isLetter = true :=
    List.all_eq_true.2 fun c mem => isLetter_of_isDigit (Text.isDigit_of_mem_toDigits mem)
  unfold decimal
  split
  · refine isPlain_of_starts ⟨rfl, by decide, .inr ⟨Nat.toDigits_ne_nil, .inl rfl⟩⟩ fun d mem => ?_
    obtain ⟨notGap, noSign, noPoint, -⟩ := isLetter_iff.1 (List.all_eq_true.1 digits d mem)
    exact ⟨notGap, noSign, noPoint⟩
  · exact isPlain_of_all Nat.toDigits_ne_nil digits

/-- The decimal digits of a number are read as this number and nothing else. -/
theorem whole?_decimal (n : Int) : whole? (decimal n) = some n := by
  have noBase : basedNatural? (Nat.toDigits 10 n.natAbs) = none := by
    have noLetter : ∀ {letter rest}, Nat.toDigits 10 n.natAbs = '0' :: letter :: rest →
        letter.isDigit = true := by
      intro letter rest eq
      have mem : letter ∈ Nat.toDigits 10 n.natAbs := by simp [eq]
      exact Text.isDigit_of_mem_toDigits mem
    unfold basedNatural?
    split
    next eq => cases noLetter eq
    next eq => cases noLetter eq
    next eq => cases noLetter eq
    next => rfl
  have unpadded : isPaddedDigits (Nat.toDigits 10 n.natAbs) = false := by
    have own := Text.length_toDigits_eq_one_or n.natAbs
    unfold isPaddedDigits
    split
    next eq =>
      rw [eq] at own
      rcases own with single | noZero
      · cases single
      · exact absurd rfl noZero
    next => rfl
  rw [whole?, Text.readSign_decimal]
  show ((basedNatural? (Nat.toDigits 10 n.natAbs)).or
    (if isPaddedDigits (Nat.toDigits 10 n.natAbs) then none
      else Text.natural? 10 (Nat.toDigits 10 n.natAbs))).bind _ = _
  rw [noBase, unpadded, if_neg Bool.false_ne_true, Text.natural?_toDigits]
  exact congrArg some (Text.sign_natAbs n)

theorem plainValue?_decimal {n : Int} (least : -0x8000000000000000 ≤ n)
    (greatest : n < 0x8000000000000000) :
    plainValue? (String.ofList (decimal n)) = some (.number (.whole n)) := by
  have other : ∀ {words : List String},
      words.all (fun s => s.toList.any fun c => !c.isDigit && c != '-') = true →
        ¬words.contains (String.ofList (decimal n)) = true := by
    intro words signs mem
    rw [List.contains_iff_mem] at mem
    refine Text.decimal_ne (List.all_eq_true.1 signs _ mem) n ?_
    rw [String.toList_ofList]
  have notEmpty : ¬((String.ofList (decimal n)).isEmpty = true ∨
      isNull (String.ofList (decimal n)) = true) := by
    rintro (empty | null)
    · have nothing := congrArg String.toList (String.isEmpty_iff.1 empty)
      rw [String.toList_ofList] at nothing
      exact Text.decimal_ne_nil n nothing
    · exact other (by decide) null
  have noBool : bool? (String.ofList (decimal n)) = none := by
    rw [bool?, if_neg (other (by decide)), if_neg (other (by decide))]
  have fits : Fit.of n = .kept := if_pos (fitsBits_of_signed least greatest).1
  have whole : wholeValue? (String.ofList (decimal n)) = some (some (.number (.whole n))) := by
    rw [wholeValue?, String.toList_ofList, whole?_decimal]
    dsimp only
    rw [fits]
  rw [plainValue?, if_neg notEmpty, noBool]
  dsimp only
  rw [whole]

-- ============================================================ in braces

/-- A printable character of ASCII. -/
def isPrintable (c : Char) : Bool := '\x20' ≤ c && c ≤ '\x7E'

/-- There is a text of printable characters that spells the thing. -/
def IsSpellable (spells : List Char → α → Prop) (a : α) : Prop :=
  ∃ text : List Char, text.all isPrintable = true ∧ spells text a

theorem isPrintable_of_isAlphanum {c : Char} (h : c.isAlphanum = true) : isPrintable c = true := by
  delta Char.isAlphanum Char.isAlpha Char.isUpper Char.isLower Char.isDigit at h
  simp only [Bool.or_eq_true, Bool.and_eq_true, decide_eq_true_eq, ge_iff_le,
    UInt32.le_iff_toNat_le] at h
  simp only [isPrintable, Bool.and_eq_true, decide_eq_true_eq, Char.le_def,
    UInt32.le_iff_toNat_le]
  have bounds : '\x20'.val.toNat = 32 ∧ '\x7E'.val.toNat = 126 := by decide
  have letters : 'A'.val.toNat = 65 ∧ 'Z'.val.toNat = 90 ∧ 'a'.val.toNat = 97 ∧ 'z'.val.toNat = 122 ∧
      '0'.val.toNat = 48 ∧ '9'.val.toNat = 57 := by decide
  omega

theorem isSpellable_quoted (s : String) : IsSpellable SpellsQuoted s := by
  have row : ∀ chars, IsSpellable (Text.SpellsRow SpellsChar) chars := by
    intro chars
    induction chars with
    | nil => exact ⟨[], rfl, .nil⟩
    | cons c more ih =>
        obtain ⟨rest, printable, others⟩ := ih
        obtain ⟨digits, number⟩ := Text.exists_charOfDigits c
        have length : hexLength 'U' = 7 + 1 := rfl
        refine ⟨_, ?_, .cons (.numbered length number) others⟩
        have alphanum : digits.all isPrintable = true := by
          refine List.all_eq_true.2 fun d mem => isPrintable_of_isAlphanum ?_
          have digit := Text.isDigitOf_of_charOfDigits? number mem
          exact (Bool.and_eq_true_iff.1 digit).1
        have front : ['\\', 'U'].all isPrintable = true := by decide
        show (['\\', 'U'] ++ digits ++ rest).all isPrintable = true
        rw [List.all_append, List.all_append, front, alphanum, printable]
        rfl
  obtain ⟨inside, printable, own⟩ := row s.toList
  have quote : ['"'].all isPrintable = true := by decide
  refine ⟨_, ?_, .double own⟩
  show (['"'] ++ inside ++ ['"']).all isPrintable = true
  rw [List.all_append, List.all_append, quote, printable]
  rfl

theorem isSpellable_leaf (inFlow : Bool) (leaf : Leaf) : IsSpellable (SpellsLeaf inFlow) leaf := by
  have plain : ∀ {text : List Char}, IsPlain inFlow text → ∀ {leaf : Leaf},
      plainValue? (String.ofList text) = some leaf.value → SpellsLeaf inFlow text leaf := by
    intro text own leaf meaning
    have spelled : SpellsScalar inFlow true (String.ofList text).toList (String.ofList text) :=
      .plain (String.toList_ofList.symm ▸ own)
    rw [String.toList_ofList] at spelled
    exact .plain spelled meaning
  cases leaf with
  | text s =>
      obtain ⟨text, printable, quoted⟩ := isSpellable_quoted s
      exact ⟨text, printable, .quoted (.quoted quoted)⟩
  | whole n least greatest =>
      refine ⟨decimal n, ?_, plain (isPlain_decimal inFlow n) (plainValue?_decimal least greatest)⟩
      refine List.all_eq_true.2 fun c mem => ?_
      rcases Text.mem_decimal mem with digit | rfl
      · exact isPrintable_of_isAlphanum (by rw [Char.isAlphanum, digit, Bool.or_true])
      · decide
  | bool b =>
      cases b with
      | true =>
          exact ⟨"true".toList, by decide, plain (isPlain_of_all (by decide) (by decide)) rfl⟩
      | false =>
          exact ⟨"false".toList, by decide, plain (isPlain_of_all (by decide) (by decide)) rfl⟩

variable {spells : List Char → α → Prop}

/-- A mapping is spelled in braces if what is bound to its keys is spelled. -/
theorem isSpellable_braces (h : ∀ a, IsSpellable spells a) (k : Keyed α) :
    IsSpellable (SpellsBraces spells) k := by
  have noFill : Separates [] false := ⟨.nil, by simp⟩
  have signs : ∀ sign ∈ ['{', '}', ',', ':', '?', ' '], isPrintable sign = true :=
    List.all_eq_true.1 (by decide)
  have pair : ∀ entry : String × α, IsSpellable (SpellsPair spells) entry := by
    rintro ⟨name, a⟩
    obtain ⟨key, printableKey, quoted⟩ := isSpellable_quoted name
    obtain ⟨value, printableValue, spelled⟩ := h a
    have space : Separates [' '] false := ⟨.space .nil, by simp⟩
    refine ⟨_, ?_, .announced space (by simp) (.quoted quoted) noFill noFill (by simp) spelled⟩
    simp [printableKey, printableValue, signs]
  have row : ∀ more entry, IsSpellable (SpellsPairs spells) (entry :: more) := by
    intro more
    induction more with
    | nil =>
        intro entry
        obtain ⟨text, printable, own⟩ := pair entry
        exact ⟨_, by simpa using printable, .single noFill own noFill⟩
    | cons next more ih =>
        intro entry
        obtain ⟨text, printable, own⟩ := pair entry
        obtain ⟨rest, printableRest, others⟩ := ih next
        exact ⟨_, by simp [printable, printableRest, signs], .cons noFill own noFill others⟩
  cases entries : k.entries with
  | nil => exact ⟨_, by decide, .empty noFill entries⟩
  | cons entry more =>
      obtain ⟨inside, printable, own⟩ := row more entry
      exact ⟨_, by simp [printable, signs], .entries (entries ▸ own)⟩

-- =========================================================== documents

/-- No break stands among printable characters, and all of them may stand in a text. -/
theorem unifyBreaks_of_all {text : List Char} (h : text.all isPrintable = true) :
    unifyBreaks text = text ∧ text.all isPermitted = true := by
  induction text with
  | nil => exact ⟨rfl, rfl⟩
  | cons c rest ih =>
      rw [List.all_cons, Bool.and_eq_true] at h
      obtain ⟨same, permitted⟩ := ih h.2
      have noReturn : c ≠ '\r' := by
        rintro rfl
        cases h.1
      have noNextLine : c ≠ '\x85' := by
        rintro rfl
        cases h.1
      have own : isPermitted c = true := by
        rw [isPermitted, ← isPrintable, h.1, Bool.or_true, Bool.true_or, Bool.true_or]
      refine ⟨?_, by rw [List.all_cons, own, permitted]; rfl⟩
      rw [unifyBreaks, same, if_neg (not_or.2 ⟨noReturn, noNextLine⟩)]
      rintro _ rfl
      exact absurd rfl noReturn

/-- Every schema tree has a YAML document. -/
theorem exists_spells (tree : SchemaTree) : ∃ text, Spells text tree := by
  have column := isSpellable_braces (isSpellable_leaf true)
  have definition := isSpellable_braces column
  obtain ⟨text, printable, spelled⟩ := isSpellable_braces definition tree
  have space : IsGap [' '] := by simp [IsGap, isBlank]
  have key : SpellsScalar false true containerKey.toList containerKey :=
    .plain (isPlain_of_all (by decide) (by decide))
  have root : SpellsBlock SpellsBlockTree 0 (containerKey.toList ++ [] ++ ':' :: ([' '] ++ text))
      [(containerKey, tree)] :=
    .single key (by simp [IsGap]) (by decide) (.braces space (by simp) spelled)
  have document : SpellsDocument _ tree := .intro (.unmarked .nil) root (.fill ⟨.nil, by simp⟩)
  have front : (containerKey.toList ++ [':', ' ']).all isPrintable = true := by decide
  have whole : (containerKey.toList ++ [':', ' '] ++ text).all isPrintable = true := by
    rw [List.all_append, front, printable]
    rfl
  obtain ⟨same, permitted⟩ := unifyBreaks_of_all whole
  refine ⟨String.ofList (containerKey.toList ++ [':', ' '] ++ text), ?_⟩
  rw [Spells, String.toList_ofList, same]
  refine ⟨permitted, ?_⟩
  simpa using document

end SchemaClasses.Yaml
