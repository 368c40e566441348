/-
Identifiers of the generated language.

A name may stand for a class, a field or a segment of a package when it
starts with a letter, an underscore or a dollar sign, goes on with those
and numerals, and is not a word the language keeps for itself. The
lone underscore is such a word.
-/
import SchemaClasses.Text.Letter
import SchemaClasses.Text.Numeral

namespace SchemaClasses.Naming

open Text (isLetter isNumeral)

/-- The words no name may equal: keywords, literals and the lone underscore. -/
def reservedWords : List String := [
  "abstract", "assert", "boolean", "break", "byte", "case", "catch", "char", "class", "const",
  "continue", "default", "do", "double", "else", "enum", "extends", "false", "final", "finally",
  "float", "for", "goto", "if", "implements", "import", "instanceof", "int", "interface", "long",
  "native", "new", "null", "package", "private", "protected", "public", "return", "short",
  "static", "strictfp", "super", "switch", "synchronized", "this", "throw", "throws",
  "transient", "true", "try", "void", "volatile", "while", "_"]

/-- The characters an identifier may start with. -/
def startsIdentifier (c : Char) : Bool :=
  isLetter c || c == '_' || c == '$'

/-- The characters an identifier may go on with. -/
def continuesIdentifier (c : Char) : Bool :=
  isLetter c || isNumeral c || c == '_' || c == '$'

/-- The names a class, a field or a package segment may have. -/
def isIdentifier (name : String) : Bool :=
  match name.toList with
  | [] => false
  | c :: rest =>
    startsIdentifier c && rest.all continuesIdentifier && !reservedWords.contains name

end SchemaClasses.Naming
