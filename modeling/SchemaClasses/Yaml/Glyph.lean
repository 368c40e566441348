/-
The characters of a YAML text, each with its place.

Indentation carries structure in YAML, so every character comes with its
line and column. All ways to end a line but two are one and the same
break; the line and the paragraph separator of Unicode end a line too
and stay what they are. Controls other than tabs and breaks may not
occur.
-/
import SchemaClasses.Text.Cut

namespace SchemaClasses.Yaml

/-- A character at its place, lines and columns counted from zero. -/
structure Glyph where
  char : Char
  line : Nat
  column : Nat
  /-- How many bytes come before it in its line. -/
  offset : Nat

/-- The characters that a text may hold. -/
def isPermitted (c : Char) : Bool :=
  c == '\t' || c == '\n' || c == '\r' || ('\x20' ≤ c && c ≤ '\x7E') || c == '\x85' ||
    ('\xA0' ≤ c && c != '\uFFFE' && c != '\uFFFF')

def isBlank (c : Char) : Bool := c == ' ' || c == '\t'

/-- The characters that end a line, once `unifyBreaks` has been applied. -/
def isBreak (c : Char) : Bool := c == '\n' || c == '\u2028' || c == '\u2029'

/-- The characters that may stand between two words. -/
def isGap (c : Char) : Bool := isBlank c || isBreak c

/-- Makes one character of all the line ends that are the same break. -/
def unifyBreaks : List Char → List Char
  | [] => []
  | '\r' :: '\n' :: rest => '\n' :: unifyBreaks rest
  | c :: rest => (if c = '\r' ∨ c = '\x85' then '\n' else c) :: unifyBreaks rest

/-- The characters with their places, the first at the given one. -/
def placed (line column offset : Nat) : List Char → List Glyph
  | [] => []
  | c :: rest =>
    ⟨c, line, column, offset⟩ ::
      if isBreak c then placed (line + 1) 0 0 rest
      else placed line (column + 1) (offset + c.utf8Size) rest

/-- The glyphs of a text, unless it holds a character that no text may hold. -/
def glyphs? (text : String) : Option (List Glyph) :=
  if text.toList.all isPermitted then some (placed 0 0 0 (unifyBreaks text.toList)) else none

-- ============================================= what a text goes on with

/-- The text ends here, or goes on with a blank or a break. -/
def endsWord : List Glyph → Bool
  | [] => true
  | g :: _ => isGap g.char

/-- The text goes on with a break, or ends. -/
def endsLine : List Glyph → Bool
  | [] => true
  | g :: _ => isBreak g.char

/-- The text goes on with this character. -/
def nextIs (c : Char) : List Glyph → Bool
  | [] => false
  | g :: _ => g.char == c

/-- The text goes on with one of these characters. -/
def nextIsIn (chars : List Char) : List Glyph → Bool
  | [] => false
  | g :: _ => chars.contains g.char

/-- Three times this character stands alone at the start of a line. -/
def startsMarkerOf (c : Char) : List Glyph → Bool
  | g₁ :: g₂ :: g₃ :: rest =>
    g₁.column == 0 && g₁.char == c && g₂.char == c && g₃.char == c && endsWord rest
  | _ => false

/-- A marker for the start or the end of a document comes next. -/
def startsMarker (text : List Glyph) : Bool :=
  startsMarkerOf '-' text || startsMarkerOf '.' text

/-- The characters without their places. -/
def chars (text : List Glyph) : List Char := text.map (·.char)

-- ================================================================ gaps

/--
What a gap between two words stands for. A gap within a line stands as it is. A break becomes a
space, or, where more breaks follow it, goes away and leaves those; the separators of Unicode
always stay.
-/
def gapText (gap : List Char) : List Char :=
  match gap.dropWhile isBlank with
  | [] => gap
  | first :: rest =>
    let more := rest.filter isBreak
    if first = '\n' then (if more.isEmpty then [' '] else more) else first :: more

end SchemaClasses.Yaml
