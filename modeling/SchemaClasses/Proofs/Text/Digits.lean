/-
Whole numbers and their decimal digits.

The digits of a number spell the number again, and no zero stands in
front of other digits.
-/
import SchemaClasses.Decimal.Literal

namespace SchemaClasses.Text

/-- The decimal spelling of a whole number: its digits, a minus in front where it is negative. -/
def decimal (n : Int) : List Char :=
  if n < 0 then '-' :: Nat.toDigits 10 n.natAbs else Nat.toDigits 10 n.natAbs

theorem isDigit_of_mem_toDigits {n : Nat} {c : Char} (h : c ∈ Nat.toDigits 10 n) :
    c.isDigit = true :=
  Nat.isDigit_of_mem_toDigits (by decide) (by decide) h

/-- The value of a decimal digit is its distance from zero. -/
theorem digitValue_of_isDigit {c : Char} (h : c.isDigit = true) :
    digitValue c = c.toNat - '0'.toNat := by
  have range : '0' ≤ c ∧ c ≤ '9' := by
    simpa [Char.isDigit, Char.le_def] using h
  rw [digitValue, if_pos range]

theorem isDigitOf_of_isDigit {c : Char} (h : c.isDigit = true) : isDigitOf 10 c = true := by
  have range : '0'.toNat ≤ c.toNat ∧ c.toNat ≤ '9'.toNat := by
    simpa [Char.isDigit, Char.le_def, UInt32.le_iff_toNat_le] using h
  have small : c.toNat - '0'.toNat < 10 := by
    have : '9'.toNat = '0'.toNat + 9 := by decide
    omega
  rw [isDigitOf, digitValue_of_isDigit h, Char.isAlphanum, h, Bool.or_true, Bool.true_and]
  exact decide_eq_true small

/-- The digits of a number spell the number. -/
theorem ofDigits_toDigits (n : Nat) : ofDigits 10 (Nat.toDigits 10 n) = n := by
  have same : ∀ (digits : List Char) (start : Nat), (∀ c ∈ digits, c.isDigit = true) →
      digits.foldl (fun n c => 10 * n + digitValue c) start =
        Nat.ofDigitChars 10 digits start := by
    intro digits
    induction digits with
    | nil => intro start _; rfl
    | cons c rest ih =>
        intro start all
        rw [List.foldl_cons, Nat.ofDigitChars_cons, digitValue_of_isDigit (all c List.mem_cons_self)]
        exact ih _ fun d mem => all d (List.mem_cons_of_mem c mem)
  rw [ofDigits, same _ 0 fun c mem => isDigit_of_mem_toDigits mem]
  simp

theorem natural?_of_all {base : Nat} {digits : List Char} (nonempty : digits ≠ [])
    (h : digits.all (isDigitOf base) = true) : natural? base digits = some (ofDigits base digits) := by
  rw [natural?, h, List.isEmpty_eq_false_iff.2 nonempty]
  rfl

theorem all_toDigits (n : Nat) : (Nat.toDigits 10 n).all (isDigitOf 10) = true :=
  List.all_eq_true.2 fun _ mem => isDigitOf_of_isDigit (isDigit_of_mem_toDigits mem)

theorem natural?_toDigits (n : Nat) : natural? 10 (Nat.toDigits 10 n) = some n := by
  rw [natural?_of_all Nat.toDigits_ne_nil (all_toDigits n), ofDigits_toDigits]

/-- The first digit of a number is not zero, unless the number is. -/
theorem head?_toDigits_ne {n : Nat} (positive : 0 < n) :
    (Nat.toDigits 10 n).head? ≠ some '0' := by
  induction n using Nat.strongRecOn with
  | ind n ih =>
      by_cases single : n < 10
      · rw [Nat.toDigits_of_lt_base single]
        intro zero
        have digit : n.digitChar = '0' := by simpa using zero
        have : ∀ n < 10, n.digitChar = '0' → n = 0 := by decide
        have := this n single digit
        omega
      · have front := ih (n / 10) (by omega) (by omega)
        obtain ⟨first, others, digits⟩ := List.exists_cons_of_ne_nil (Nat.toDigits_ne_nil (n := n / 10) (b := 10))
        rw [Nat.toDigits_of_base_le (by decide) (by omega), digits, List.cons_append]
        rwa [digits] at front

/-- No zero stands in front of other digits. -/
theorem length_toDigits_eq_one_or (n : Nat) :
    (Nat.toDigits 10 n).length = 1 ∨ (Nat.toDigits 10 n).head? ≠ some '0' := by
  rcases Nat.eq_zero_or_pos n with rfl | positive
  · exact Or.inl rfl
  · exact Or.inr (head?_toDigits_ne positive)

-- ============================================== signs of decimal numbers

/-- Nothing but digits stands behind the sign of a decimal number. -/
theorem readSign_decimal (n : Int) :
    Decimal.readSign (decimal n) = (decide (n < 0), Nat.toDigits 10 n.natAbs) := by
  by_cases negative : n < 0
  · rw [decimal, if_pos negative, decide_eq_true negative]
    rfl
  · rw [decimal, if_neg negative, decide_eq_false negative]
    obtain ⟨c, rest, digits⟩ := List.exists_cons_of_ne_nil (Nat.toDigits_ne_nil (n := n.natAbs) (b := 10))
    have digit : c.isDigit = true := isDigit_of_mem_toDigits (digits ▸ List.mem_cons_self)
    rw [digits, Decimal.readSign]
    · rintro more ⟨⟩
      cases digit
    · rintro more ⟨⟩
      cases digit

/-- A number is its sign and its size. -/
theorem sign_natAbs (n : Int) : (if decide (n < 0) then -(n.natAbs : Int) else n.natAbs) = n := by
  by_cases negative : n < 0
  · rw [decide_eq_true negative, if_pos rfl]
    omega
  · rw [decide_eq_false negative, if_neg Bool.false_ne_true]
    omega

theorem mem_decimal {n : Int} {c : Char} (h : c ∈ decimal n) : c.isDigit = true ∨ c = '-' := by
  unfold decimal at h
  split at h
  · exact (List.mem_cons.1 h).elim .inr fun mem => .inl (isDigit_of_mem_toDigits mem)
  · exact .inl (isDigit_of_mem_toDigits h)

theorem decimal_ne_nil (n : Int) : decimal n ≠ [] := by
  unfold decimal
  split
  · exact List.cons_ne_nil _ _
  · exact Nat.toDigits_ne_nil

/-- A text with a character that is neither a digit nor a minus is not the spelling of a number. -/
theorem decimal_ne {text : List Char} (h : text.any (fun c => !c.isDigit && c != '-') = true)
    (n : Int) : decimal n ≠ text := by
  rintro rfl
  obtain ⟨c, mem, other⟩ := List.any_eq_true.1 h
  rcases mem_decimal mem with digit | rfl
  · rw [digit] at other
    cases other
  · cases other

-- =================================================== digits of characters

/-- A number with so many hexadecimal digits is spelled by exactly as many. -/
theorem exists_hexDigits (count : Nat) {n : Nat} (small : n < Nat.pow 16 count) :
    ∃ digits : List Char, digits.length = count ∧ digits.all (isDigitOf 16) = true ∧
      ofDigits 16 digits = n := by
  induction count generalizing n with
  | zero => exact ⟨[], rfl, rfl, by rw [Nat.lt_one_iff.1 small]; rfl⟩
  | succ count ih =>
      obtain ⟨front, length, digits, number⟩ := ih (n := n / 16) (Nat.div_lt_of_lt_mul (Nat.mul_comm _ _ ▸ small))
      have last : ∀ k < 16, isDigitOf 16 k.digitChar = true ∧ digitValue k.digitChar = k := by decide
      obtain ⟨digit, value⟩ := last (n % 16) (by omega)
      refine ⟨front ++ [(n % 16).digitChar], by simp [length], by simp [digits, digit], ?_⟩
      rw [ofDigits, List.foldl_append]
      show 16 * ofDigits 16 front + digitValue _ = n
      rw [number, value]
      omega

/-- Every character has a number below 0x110000. -/
theorem toNat_lt (c : Char) : c.toNat < 0x110000 := by
  have valid : c.toNat.isValidChar := c.valid
  rcases valid with small | ⟨-, small⟩ <;> omega

/-- Eight digits name any character. -/
theorem exists_charOfDigits (c : Char) : ∃ digits, charOfDigits? 8 digits = some c := by
  have valid : c.toNat.isValidChar := c.valid
  have last := toNat_lt c
  obtain ⟨digits, length, all, number⟩ := exists_hexDigits 8 (Nat.lt_trans last (by decide))
  have nonempty : digits ≠ [] := List.ne_nil_of_length_eq_add_one length
  have guarded : (guard (digits.length = 8) : Option Unit) = some () := if_pos length
  refine ⟨digits, ?_⟩
  rw [charOfDigits?, guarded]
  show (natural? 16 digits).bind _ = _
  rw [natural?_of_all nonempty all, number]
  show (if c.toNat.isValidChar then some (Char.ofNat c.toNat) else none) = _
  rw [if_pos valid, Char.ofNat_toNat]

/-- A character is named by exactly so many digits. -/
theorem length_of_charOfDigits? {count : Nat} {digits : List Char} {c : Char}
    (h : charOfDigits? count digits = some c) : digits.length = count := by
  refine Decidable.byContradiction fun other => ?_
  have refused : (guard (digits.length = count) : Option Unit) = none := if_neg other
  rw [charOfDigits?, refused] at h
  cases h

/-- Only digits name a character. -/
theorem isDigitOf_of_charOfDigits? {count : Nat} {digits : List Char} {c d : Char}
    (h : charOfDigits? count digits = some c) (mem : d ∈ digits) : isDigitOf 16 d = true := by
  have guarded : (guard (digits.length = count) : Option Unit) = some () :=
    if_pos (length_of_charOfDigits? h)
  rw [charOfDigits?, guarded] at h
  change (natural? 16 digits).bind _ = _ at h
  obtain ⟨n, number, -⟩ := Option.bind_eq_some_iff.1 h
  rw [natural?, Option.ite_none_right_eq_some, Bool.and_eq_true] at number
  exact List.all_eq_true.1 number.1.2 d mem

end SchemaClasses.Text
