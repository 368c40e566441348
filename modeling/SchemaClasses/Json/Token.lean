/-
The tokens of JSON.

Blanks separate tokens and mean nothing else. A string token knows its
text, unless an escape in it names half of a surrogate pair without the
other half: such a string is well formed and yet has no text, which
matters only where somebody wants to read it.
-/
import SchemaClasses.Decimal.Literal

namespace SchemaClasses.Json

open Text (Cut)
open Decimal (Literal)

inductive Token where
  | openArray
  | closeArray
  | openObject
  | closeObject
  | colon
  | comma
  | null
  | bool (b : Bool)
  | number (negative : Bool) (literal : Literal)
  /-- A string, with its text if it has one. -/
  | string (text : Option String)

-- =========================================================== strings

/-- The character that a one-letter escape stands for. -/
def escaped? : Char → Option Char
  | '"' => some '"'
  | '\\' => some '\\'
  | '/' => some '/'
  | 'b' => some '\x08'
  | 'f' => some '\x0c'
  | 'n' => some '\n'
  | 'r' => some '\r'
  | 't' => some '\t'
  | _ => none

/--
The rest of a string after its opening quote: code points up to the closing quote, and what follows
it. A `\u` escape contributes its number, which can be half of a pair.
-/
def readString : List Char → Option (List Nat × List Char)
  | [] => none
  | '"' :: rest => some ([], rest)
  | '\\' :: 'u' :: a :: b :: c :: d :: rest =>
    if [a, b, c, d].all (Text.isDigitOf 16) then
      (readString rest).map fun (units, after) => (Text.ofDigits 16 [a, b, c, d] :: units, after)
    else none
  | '\\' :: c :: rest =>
    match escaped? c with
    | some e => (readString rest).map fun (units, after) => (e.toNat :: units, after)
    | none => none
  | c :: rest =>
    if c.toNat < 0x20 then none
    else (readString rest).map fun (units, after) => (c.toNat :: units, after)

/-- The first half of a surrogate pair. -/
def isHighHalf (n : Nat) : Bool := 0xD800 ≤ n && n ≤ 0xDBFF

/-- The second half of a surrogate pair. -/
def isLowHalf (n : Nat) : Bool := 0xDC00 ≤ n && n ≤ 0xDFFF

/-- The characters of code points, pairs of halves joined; none if a half stands alone. -/
def characters : List Nat → Option (List Char)
  | [] => some []
  | n :: rest =>
    if isLowHalf n then none
    else if isHighHalf n then
      match rest with
      | [] => none
      | m :: rest =>
        if isLowHalf m then
          (characters rest).map (Char.ofNat (0x10000 + (n - 0xD800) * 0x400 + (m - 0xDC00)) :: ·)
        else none
    else (characters rest).map (Char.ofNat n :: ·)

theorem length_readString_lt {text rest : List Char} {units : List Nat}
    (h : readString text = some (units, rest)) : rest.length < text.length := by
  fun_induction readString text generalizing units rest with
  | case1 => simp at h
  | case2 => simp_all
  | case3 a b c d text _ ih =>
    obtain ⟨⟨_, _⟩, read, eq⟩ := Option.map_eq_some_iff.1 h
    have := ih read
    simp_all; omega
  | case4 => simp at h
  | case5 c text _ e _ ih =>
    obtain ⟨⟨_, _⟩, read, eq⟩ := Option.map_eq_some_iff.1 h
    have := ih read
    simp_all; omega
  | case6 => simp at h
  | case7 => simp at h
  | case8 c text _ _ _ _ ih =>
    obtain ⟨⟨_, _⟩, read, eq⟩ := Option.map_eq_some_iff.1 h
    have := ih read
    simp_all; omega

-- ============================================================ tokens

/-- A literal as JSON allows it: a digit on either side of a point, and no needless zero in front. -/
def isNumber (l : Literal) : Bool :=
  !l.whole.isEmpty && (l.whole.length == 1 || l.whole.head? != some '0') &&
    l.fraction != some []

theorem whole_ne_nil_of_isNumber {l : Literal} (h : isNumber l = true) : l.whole ≠ [] := by
  simp only [isNumber, Bool.and_eq_true, Bool.not_eq_true', List.isEmpty_eq_false_iff] at h
  exact h.1.1

/-- The number at the front of a text, a minus sign being left out. -/
def cutNumber (negative : Bool) (tokens : List Token) (text : List Char) :
    Option (Cut text (List Token)) :=
  if h : isNumber (Literal.read text).1 then
    some ⟨.number negative (Literal.read text).1 :: tokens, (Literal.read text).2,
      Literal.length_read_lt (whole_ne_nil_of_isNumber h)⟩
  else none

/-- The next token, put in front of those before it. A blank is passed over. -/
def cutToken (tokens : List Token) : (text : List Char) → Option (Cut text (List Token))
  | [] => none
  | '[' :: rest => some ⟨.openArray :: tokens, rest, by simp⟩
  | ']' :: rest => some ⟨.closeArray :: tokens, rest, by simp⟩
  | '{' :: rest => some ⟨.openObject :: tokens, rest, by simp⟩
  | '}' :: rest => some ⟨.closeObject :: tokens, rest, by simp⟩
  | ':' :: rest => some ⟨.colon :: tokens, rest, by simp⟩
  | ',' :: rest => some ⟨.comma :: tokens, rest, by simp⟩
  | 'n' :: 'u' :: 'l' :: 'l' :: rest => some ⟨.null :: tokens, rest, by simp; omega⟩
  | 't' :: 'r' :: 'u' :: 'e' :: rest => some ⟨.bool true :: tokens, rest, by simp; omega⟩
  | 'f' :: 'a' :: 'l' :: 's' :: 'e' :: rest => some ⟨.bool false :: tokens, rest, by simp; omega⟩
  | '"' :: rest =>
    match h : readString rest with
    | some (units, after) =>
      some ⟨.string ((characters units).map String.ofList) :: tokens, after, by
        have := length_readString_lt h; simp only [List.length_cons]; omega⟩
    | none => none
  | '-' :: rest =>
    (cutNumber true tokens rest).map fun cut =>
      ⟨cut.value, cut.rest, by have := cut.shorter; simp only [List.length_cons]; omega⟩
  | c :: rest =>
    if c = ' ' ∨ c = '\t' ∨ c = '\n' ∨ c = '\r' then some ⟨tokens, rest, by simp⟩
    else cutNumber false tokens (c :: rest)

/-- The tokens of a text, in order. -/
def tokens? (text : List Char) : Option (List Token) :=
  (Text.readPieces cutToken [] text).map List.reverse

end SchemaClasses.Json
