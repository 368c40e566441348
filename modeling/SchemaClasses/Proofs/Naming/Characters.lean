/-
The characters of names.

An identifier holds letters, numerals, underscores and dollar signs, and
a package holds these and dots. Any other character is therefore absent
from both, which is what keeps names apart from the text around them.

Camel case takes nothing away but underscores: a character that is its
own upper case is still there afterwards. So a column whose camel case
is an identifier has no character in its own name either that could do
harm, although only the converted name is ever checked.
-/
import SchemaClasses.Naming.CamelCase
import SchemaClasses.Naming.Package
import SchemaClasses.Proofs.Text.Pieces

namespace SchemaClasses.Naming

-- ======================================================= identifiers

/-- What starts an identifier may also go on with it. -/
theorem continuesIdentifier_of_starts {c : Char} (h : startsIdentifier c = true) :
    continuesIdentifier c = true := by
  simp only [startsIdentifier, Bool.or_eq_true] at h
  simp only [continuesIdentifier, Bool.or_eq_true]
  rcases h with (letter | underscore) | dollar
  · exact Or.inl (Or.inl (Or.inl letter))
  · exact Or.inl (Or.inr underscore)
  · exact Or.inr dollar

/-- Every character of an identifier is one it may go on with. -/
theorem continues_of_mem_identifier {name : String} {c : Char} (h : isIdentifier name = true)
    (mem : c ∈ name.toList) : continuesIdentifier c = true := by
  unfold isIdentifier at h
  cases chars : name.toList with
  | nil =>
      rw [chars] at mem
      cases mem
  | cons first rest =>
      rw [chars] at h mem
      simp only [Bool.and_eq_true, List.all_eq_true] at h
      obtain ⟨⟨starts, continues⟩, -⟩ := h
      rcases List.mem_cons.1 mem with rfl | later
      · exact continuesIdentifier_of_starts starts
      · exact continues c later

/-- A character that no identifier goes on with is in none. -/
theorem notMem_of_isIdentifier {name : String} {c : Char} (h : isIdentifier name = true)
    (foreign : continuesIdentifier c = false) : c ∉ name.toList := by
  intro mem
  rw [continues_of_mem_identifier h mem] at foreign
  cases foreign

-- =========================================================== packages

/-- Every part of a package is an identifier. -/
theorem isIdentifier_of_mem_segments {package : String} (h : isPackage package = true)
    {segment : String} (mem : segment ∈ packageSegments package) :
    isIdentifier segment = true := by
  simp only [isPackage, offendingSegment?, Option.isNone_iff_eq_none,
    List.find?_eq_none] at h
  simpa using h segment mem

/-- A character that is no dot and that no identifier goes on with is in no package. -/
theorem notMem_of_isPackage {package : String} {c : Char} (h : isPackage package = true)
    (notDot : c ≠ '.') (foreign : continuesIdentifier c = false) : c ∉ package.toList := by
  intro mem
  have found : c = '.' ∨ ∃ piece ∈ Text.pieces '.' package.toList, c ∈ piece :=
    Text.eq_or_mem_of_mem mem
  rcases found with dot | ⟨piece, hpiece, hc⟩
  · exact notDot dot
  · have segment : String.ofList piece ∈ packageSegments package :=
      List.mem_map.2 ⟨piece, hpiece, rfl⟩
    refine notMem_of_isIdentifier (isIdentifier_of_mem_segments h segment) foreign ?_
    rwa [String.toList_ofList]

-- ========================================================= camel case

/-- A character that is its own upper case, the underscore apart, is kept by camel case. -/
theorem mem_camelChars {c : Char} (notUnderscore : c ≠ '_') (fixed : Text.upper c = [c]) :
    ∀ {chars : List Char} (capital : Bool), c ∈ chars → c ∈ camelChars capital chars := by
  intro chars
  induction chars with
  | nil =>
      intro capital mem
      cases mem
  | cons d rest ih =>
      intro capital mem
      unfold camelChars
      by_cases underscore : d = '_'
      · rw [if_pos underscore]
        rcases List.mem_cons.1 mem with rfl | later
        · exact absurd underscore notUnderscore
        · exact ih true later
      · rw [if_neg underscore]
        cases capital with
        | true =>
            rw [if_pos rfl]
            rcases List.mem_cons.1 mem with rfl | later
            · rw [fixed]
              exact List.mem_append_left _ List.mem_cons_self
            · exact List.mem_append_right _ (ih false later)
        | false =>
            rw [if_neg Bool.false_ne_true]
            rcases List.mem_cons.1 mem with rfl | later
            · exact List.mem_cons_self
            · exact List.mem_cons_of_mem d (ih false later)

/-- Where the camel case of a name is an identifier, the name is without the characters that no
identifier goes on with, as far as these are their own upper case. -/
theorem notMem_of_isIdentifier_camelCase {name : String} {c : Char}
    (h : isIdentifier (camelCase name) = true) (fixed : Text.upper c = [c])
    (foreign : continuesIdentifier c = false) : c ∉ name.toList := by
  intro mem
  have notUnderscore : c ≠ '_' := by
    rintro rfl
    exact absurd foreign (by decide)
  refine notMem_of_isIdentifier h foreign ?_
  rw [camelCase, String.toList_ofList]
  exact mem_camelChars notUnderscore fixed false mem

end SchemaClasses.Naming
