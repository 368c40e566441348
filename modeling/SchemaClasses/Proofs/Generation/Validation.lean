/-
Which settings a run can have, and what is said of others.

The name of a package is made of identifiers with a dot between each two.
To look at them it is cut at its dots. No identifier has a dot in it, so
the pieces of such a name are the identifiers it is made of; and any name
is made of its pieces. So what the search finds among the pieces can be
said of the name itself. It finds nothing exactly in the names of packages
(`isPackage_iff`), and in all others the one part that offends
(`offendingSegment?_eq_some_iff`).

A name, a good name and a directory are asked for in this order. Each of
the four outcomes has its condition on the settings (`validate_cases`),
and the conditions exclude each other, so each outcome comes exactly under
its own (`validate_iff`).
-/
import Mathlib.Logic.ExistsUnique
import SchemaClasses.Generation.Settings
import SchemaClasses.Proofs.Naming.Characters
import SchemaClasses.Proofs.Text.Pieces

namespace SchemaClasses

namespace Naming

-- ====================================================== package names

/-- Identifiers with a dot between each two. -/
def IsPackageName (name : String) : Prop :=
  ∃ segments : List String, segments ≠ [] ∧ (∀ segment ∈ segments, isIdentifier segment = true) ∧
    name = ".".intercalate segments

/-- A part of a name that is no identifier and has no dot. Identifiers stand in front of it, each
with a dot, and behind it nothing, or a dot and any text. -/
structure Offends (segment name : String) : Prop where
  noDot : '.' ∉ segment.toList
  invalid : isIdentifier segment = false
  place : ∃ front : List String, (∀ other ∈ front, isIdentifier other = true) ∧
    (name = ".".intercalate (front ++ [segment]) ∨
      ∃ rest : String, name = ".".intercalate (front ++ [segment, rest]))

-- ======================================================= cut and joined

theorem notDot_of_isIdentifier {name : String} (h : isIdentifier name = true) :
    '.' ∉ name.toList :=
  notMem_of_isIdentifier h (by decide)

theorem packageSegments_ne_nil (name : String) : packageSegments name ≠ [] := by
  simp [packageSegments, Text.pieces_ne_nil]

/-- No segment has a dot in it. -/
theorem notDot_of_mem_segments {name segment : String} (mem : segment ∈ packageSegments name) :
    '.' ∉ segment.toList := by
  obtain ⟨piece, isPiece, rfl⟩ := List.mem_map.1 mem
  rw [String.toList_ofList]
  exact Text.notMem_of_mem_pieces piece isPiece

/-- A name is its segments, joined by dots. -/
theorem intercalate_packageSegments (name : String) :
    ".".intercalate (packageSegments name) = name := by
  apply String.toList_injective
  have chars : (packageSegments name).map String.toList = Text.pieces '.' name.toList := by
    rw [packageSegments, List.map_map]
    exact (List.map_congr_left fun piece _ => String.toList_ofList).trans (List.map_id _)
  rw [String.toList_intercalate, chars]
  exact Text.intercalate_pieces '.' name.toList

/-- Joined by dots, texts without dots are the segments. -/
theorem packageSegments_intercalate {segments : List String} (nonempty : segments ≠ [])
    (noDots : ∀ segment ∈ segments, '.' ∉ segment.toList) :
    packageSegments (".".intercalate segments) = segments := by
  have cut : Text.pieces '.' (".".intercalate segments).toList = segments.map String.toList := by
    rw [String.toList_intercalate]
    refine Text.pieces_intercalate (by simpa using nonempty) fun chars mem => ?_
    obtain ⟨segment, isSegment, rfl⟩ := List.mem_map.1 mem
    exact noDots segment isSegment
  rw [packageSegments, cut, List.map_map]
  exact (List.map_congr_left fun segment _ => String.ofList_toList).trans (List.map_id _)

/-- What is joined at the end may have been joined before. -/
theorem intercalate_append_intercalate (front : List String) {back : List String}
    (nonempty : back ≠ []) :
    ".".intercalate (front ++ [".".intercalate back]) = ".".intercalate (front ++ back) := by
  induction front with
  | nil => simp [String.intercalate_singleton]
  | cons first rest ih =>
      obtain ⟨next, others, parts⟩ := List.exists_cons_of_ne_nil
        (show rest ++ [".".intercalate back] ≠ [] by simp)
      obtain ⟨later, more, whole⟩ := List.exists_cons_of_ne_nil
        (show rest ++ back ≠ [] by simp [nonempty])
      rw [parts, whole] at ih
      rw [List.cons_append, List.cons_append, parts, whole, String.intercalate_cons_cons,
        String.intercalate_cons_cons, ih]

/-- The segments of a name begin with these exactly if nothing follows these in the name, or a dot
and any text. -/
theorem segments_begin_iff {front : List String} {segment name : String}
    (noDots : ∀ other ∈ front ++ [segment], '.' ∉ other.toList) :
    (∃ back, packageSegments name = front ++ segment :: back) ↔
      name = ".".intercalate (front ++ [segment]) ∨
        ∃ rest : String, name = ".".intercalate (front ++ [segment, rest]) := by
  constructor
  · rintro ⟨back, parts⟩
    rw [← intercalate_packageSegments name, parts]
    cases back with
    | nil => exact .inl rfl
    | cons next others =>
        have joined := intercalate_append_intercalate (front ++ [segment])
          (List.cons_ne_nil next others)
        rw [List.append_assoc, List.append_assoc] at joined
        exact .inr ⟨".".intercalate (next :: others), joined.symm⟩
  · rintro (rfl | ⟨rest, rfl⟩)
    · exact ⟨[], packageSegments_intercalate (by simp) noDots⟩
    · -- the text behind the dot is cut as well, so the name is joined from all the pieces
      have whole : ∀ other ∈ front ++ [segment] ++ packageSegments rest, '.' ∉ other.toList := by
        intro other mem
        rcases List.mem_append.1 mem with before | behind
        · exact noDots other before
        · exact notDot_of_mem_segments behind
      have joined := intercalate_append_intercalate (front ++ [segment])
        (packageSegments_ne_nil rest)
      have cut := packageSegments_intercalate (by simp) whole
      rw [intercalate_packageSegments, List.append_assoc] at joined
      rw [← joined, List.append_assoc] at cut
      exact ⟨packageSegments rest, cut⟩

-- ================================================== the one that offends

/-- The search for a segment that is no identifier finds the one that offends. -/
theorem offendingSegment?_eq_some_iff {name segment : String} :
    offendingSegment? name = some segment ↔ Offends segment name := by
  rw [offendingSegment?, List.find?_eq_some_iff_append]
  constructor
  · rintro ⟨invalid, front, back, parts, valid⟩
    have noDots : ∀ other ∈ front ++ [segment], '.' ∉ other.toList := by
      intro other mem
      have isSegment : other ∈ packageSegments name := by
        rw [parts, List.append_cons]
        exact List.mem_append_left back mem
      exact notDot_of_mem_segments isSegment
    exact ⟨noDots segment (by simp), by simpa using invalid, front, by simpa using valid,
      (segments_begin_iff noDots).1 ⟨back, parts⟩⟩
  · rintro ⟨noDot, invalid, front, valid, place⟩
    have noDots : ∀ other ∈ front ++ [segment], '.' ∉ other.toList := by
      intro other mem
      rcases List.mem_append.1 mem with inFront | isSegment
      · exact notDot_of_isIdentifier (valid other inFront)
      · rw [List.mem_singleton.1 isSegment]
        exact noDot
    obtain ⟨back, parts⟩ := (segments_begin_iff noDots).2 place
    exact ⟨by simpa using invalid, front, back, parts, by simpa using valid⟩

/-- The names a package may have are identifiers with dots between them. -/
theorem isPackage_iff {name : String} : isPackage name = true ↔ IsPackageName name := by
  constructor
  · intro valid
    exact ⟨packageSegments name, packageSegments_ne_nil name,
      fun segment mem => isIdentifier_of_mem_segments valid mem,
      (intercalate_packageSegments name).symm⟩
  · rintro ⟨segments, nonempty, valid, rfl⟩
    have cut := packageSegments_intercalate nonempty
      fun segment mem => notDot_of_isIdentifier (valid segment mem)
    rw [isPackage, offendingSegment?, cut, Option.isNone_iff_eq_none, List.find?_eq_none]
    simpa using valid

/-- No two segments offend in one name. -/
theorem Offends.eq {segment other name : String} (offends : Offends segment name)
    (again : Offends other name) : other = segment := by
  have first := offendingSegment?_eq_some_iff.2 offends
  have second := offendingSegment?_eq_some_iff.2 again
  rw [first] at second
  exact (Option.some.inj second).symm

/-- In all names but those of packages one segment offends. -/
theorem isPackage_eq_false_iff {name : String} :
    isPackage name = false ↔ ∃! segment, Offends segment name := by
  rw [isPackage, Option.isNone_eq_false_iff, Option.isSome_iff_exists]
  constructor
  · rintro ⟨segment, found⟩
    have offends := offendingSegment?_eq_some_iff.1 found
    exact ⟨segment, offends, fun other again => offends.eq again⟩
  · rintro ⟨segment, offends, -⟩
    exact ⟨segment, offendingSegment?_eq_some_iff.2 offends⟩

/-- No segment offends in the name of a package. -/
theorem IsPackageName.not_offends {name : String} (isName : IsPackageName name)
    (segment : String) : ¬Offends segment name := by
  intro offends
  have valid := isPackage_iff.2 isName
  rw [isPackage, offendingSegment?_eq_some_iff.2 offends] at valid
  cases valid

/-- The empty name is no package: its one segment is empty. -/
theorem IsPackageName.ne_empty {name : String} (isName : IsPackageName name) : name ≠ "" := by
  rintro rfl
  have valid := isPackage_iff.2 isName
  revert valid
  decide

end Naming

-- ============================================================= settings

namespace Settings

variable (settings : Settings)

/-- What comes of looking at settings, one gate after the other. -/
theorem validate_cases :
    (settings.packageName = "" ∧ settings.validate = .error .emptyPackageName) ∨
    (settings.packageName ≠ "" ∧ ∃ segment, Naming.Offends segment settings.packageName ∧
      settings.validate = .error (.invalidPackageName settings.packageName segment)) ∨
    (Naming.IsPackageName settings.packageName ∧ settings.outputDirectory = "" ∧
      settings.validate = .error .emptyOutputDirectory) ∨
    (Naming.IsPackageName settings.packageName ∧ settings.outputDirectory ≠ "" ∧
      settings.validate = .ok settings) := by
  unfold validate
  by_cases unnamed : settings.packageName = ""
  · rw [if_pos unnamed]
    exact .inl ⟨unnamed, rfl⟩
  · rw [if_neg unnamed]
    cases found : Naming.offendingSegment? settings.packageName with
    | some segment =>
        exact .inr (.inl ⟨unnamed, segment, Naming.offendingSegment?_eq_some_iff.1 found, rfl⟩)
    | none =>
        have valid : Naming.IsPackageName settings.packageName := by
          rw [← Naming.isPackage_iff, Naming.isPackage, found, Option.isNone_none]
        by_cases nowhere : settings.outputDirectory = ""
        · exact .inr (.inr (.inl ⟨valid, nowhere, if_pos nowhere⟩))
        · exact .inr (.inr (.inr ⟨valid, nowhere, if_neg nowhere⟩))

/-- Settings pass exactly if the package is called by identifiers with dots between them and there is
an output directory. Otherwise it is told what is wrong with them: that the package has no name, the
one segment of the name that offends, or that there is no directory, in this order. The names that
pass as a package anywhere else are the same. -/
theorem validate_iff :
    (settings.validate = .ok settings ↔
      Naming.IsPackageName settings.packageName ∧ settings.outputDirectory ≠ "") ∧
    (settings.validate = .error .emptyPackageName ↔ settings.packageName = "") ∧
    (∀ package segment, settings.validate = .error (.invalidPackageName package segment) ↔
      package = settings.packageName ∧ settings.packageName ≠ "" ∧
        Naming.Offends segment settings.packageName) ∧
    (settings.validate = .error .emptyOutputDirectory ↔
      Naming.IsPackageName settings.packageName ∧ settings.outputDirectory = "") ∧
    ∀ name, (Naming.isPackage name = true ↔ Naming.IsPackageName name) ∧
      (Naming.isPackage name = false ↔ ∃! segment, Naming.Offends segment name) := by
  have names : ∀ name, (Naming.isPackage name = true ↔ Naming.IsPackageName name) ∧
      (Naming.isPackage name = false ↔ ∃! segment, Naming.Offends segment name) :=
    fun _ => ⟨Naming.isPackage_iff, Naming.isPackage_eq_false_iff⟩
  rcases settings.validate_cases with ⟨unnamed, came⟩ | ⟨named, segment, offends, came⟩ |
      ⟨valid, nowhere, came⟩ | ⟨valid, somewhere, came⟩
  · have noPackage : ¬Naming.IsPackageName settings.packageName :=
      fun valid => valid.ne_empty unnamed
    rw [came]
    exact ⟨by simp [noPackage], by simp [unnamed], by simp [unnamed], by simp [noPackage], names⟩
  · have noPackage : ¬Naming.IsPackageName settings.packageName :=
      fun valid => valid.not_offends segment offends
    have only : ∀ other, Naming.Offends other settings.packageName ↔ other = segment :=
      fun other => ⟨offends.eq, fun same => same ▸ offends⟩
    rw [came]
    exact ⟨by simp [noPackage], by simp [named], by simp [named, only, eq_comm],
      by simp [noPackage], names⟩
  · rw [came]
    exact ⟨by simp [nowhere], by simp [valid.ne_empty], by simp [valid.not_offends],
      by simp [valid, nowhere], names⟩
  · rw [came]
    exact ⟨by simp [valid, somewhere], by simp [valid.ne_empty], by simp [valid.not_offends],
      by simp [somewhere], names⟩

/-- Between two dots there is a segment, and it is empty. -/
example : Settings.validate ⟨"schema.yml", "demo..model", "out"⟩ =
    .error (.invalidPackageName "demo..model" "") := by
  rfl

end Settings

end SchemaClasses
