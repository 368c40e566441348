/-
Where paths lead, read off their text.

A path is cut into names at its slashes, and each name is a step. So a
name that is appended to a path is one step more at its end, whatever
the path looks like, if the name holds no slash and is not one of the
two that stay or go up. The directories that a path leads through are
in turn the paths of its beginnings: dots and doubled slashes may get
lost on the way, but these take no step anywhere.
-/
import Mathlib.Data.List.Basic
import SchemaClasses.Files.Tree
import SchemaClasses.Proofs.Text.Pieces

namespace SchemaClasses.Files

-- =========================================================== following

/-- Where a step leads from a place. -/
def Step.target (place : Location) : Step → Location
  | .stay => place
  | .up => place.dropLast
  | .down name => place ++ [name]

/-- Where steps lead from a place, if nothing is in the way. -/
def follow (place : Location) (steps : List Step) : Location :=
  steps.foldl Step.target place

theorem follow_append (place : Location) (front back : List Step) :
    follow place (front ++ back) = follow (follow place front) back :=
  List.foldl_append

/-- Where a path leads, if nothing is in the way. -/
def Tree.placeOf (tree : Tree) (path : String) : Location :=
  follow (tree.start path) (Path.steps path)

/-- A place that some beginning of a path leads to. -/
def Tree.OnWay (tree : Tree) (path : String) (place : Location) : Prop :=
  ∃ front, front <+: Path.steps path ∧ place = follow (tree.start path) front

namespace Path

/-- The last step of a path. A path without steps stays where it starts. -/
def lastStep (path : String) : Step := (steps path).getLast?.getD .stay

/-- A path whose text can be followed, whatever the tree. -/
structure Admissible (path : String) : Prop where
  noNul : path.toList.contains '\x00' = false
  nonempty : path ≠ ""
  short : ¬Tree.longestPath < path.utf8ByteSize
  shortName : ∀ name, lastStep path = .down name → ¬Tree.longestName < name.utf8ByteSize

-- =============================================================== names

/-- The names in a path have characters, and no slash among them. -/
theorem proper_of_mem_names {path name : String} (mem : name ∈ names path) :
    name ≠ "" ∧ '/' ∉ name.toList := by
  obtain ⟨piece, hpiece, rfl⟩ := List.mem_map.1 mem
  obtain ⟨isPiece, nonempty⟩ := List.mem_filter.1 hpiece
  constructor
  · intro empty
    rw [String.ofList_eq_empty_iff] at empty
    rw [empty] at nonempty
    cases nonempty
  · rw [String.toList_ofList]
    exact Text.notMem_of_mem_pieces piece isPiece

/-- A text of pieces, between slashes, is cut into those of them that have characters. -/
theorem names_eq {path : String} {pieces : List (List Char)}
    (cut : Text.pieces '/' path.toList = pieces) :
    names path = (pieces.filter (!·.isEmpty)).map String.ofList := by
  rw [names, cut]

-- =========================================================== appending

section Join

variable {directory name : String}

/-- A name without a slash does not start at the top. -/
theorem isAbsolute_of_notMem (noSlash : '/' ∉ name.toList) : isAbsolute name = false := by
  unfold isAbsolute
  cases chars : name.toList with
  | nil => rfl
  | cons c rest =>
      have other : c ≠ '/' := by
        rintro rfl
        exact noSlash (chars ▸ List.mem_cons_self)
      simpa using other

/-- A name is appended to a directory as it is, or with a slash in between. -/
theorem toList_join (directory : String) (noSlash : '/' ∉ name.toList) :
    ((directory = "" ∨ endsInSlash directory = true) ∧
        (join directory name).toList = directory.toList ++ name.toList) ∨
      (directory ≠ "" ∧
        (join directory name).toList = directory.toList ++ '/' :: name.toList) := by
  unfold join
  rw [isAbsolute_of_notMem noSlash, if_neg Bool.false_ne_true]
  by_cases bare : directory = "" ∨ endsInSlash directory = true
  · rw [if_pos bare, String.toList_append]
    exact Or.inl ⟨bare, rfl⟩
  · rw [if_neg bare]
    refine Or.inr ⟨fun empty => bare (Or.inl empty), ?_⟩
    simp

/-- An appended name is one more at the end. -/
theorem names_join (noSlash : '/' ∉ name.toList) (nonempty : name ≠ "") :
    names (join directory name) = names directory ++ [name] := by
  have own : Text.pieces '/' name.toList = [name.toList] := Text.pieces_of_notMem noSlash
  have kept : name.toList.isEmpty = false := by
    rw [List.isEmpty_eq_false_iff]
    simpa using nonempty
  -- what is cut before the name: the pieces of the directory, less an empty one at its end
  have cut : ∃ front, Text.pieces '/' (join directory name).toList = front ++ [name.toList] ∧
      front.filter (!·.isEmpty) = (Text.pieces '/' directory.toList).filter (!·.isEmpty) := by
    rcases toList_join directory noSlash with ⟨empty | slash, eq⟩ | ⟨-, eq⟩
    · rw [eq, empty]
      exact ⟨[], own, rfl⟩
    · obtain ⟨front, ends⟩ : ∃ front, directory.toList = front ++ ['/'] := by
        rw [endsInSlash, beq_iff_eq] at slash
        exact List.getLast?_eq_some_iff.1 slash
      refine ⟨Text.pieces '/' front, ?_, ?_⟩
      · rw [eq, ends, List.append_assoc, List.singleton_append, Text.pieces_append_separator, own]
      · rw [ends, Text.pieces_append_separator]
        simp [Text.pieces]
    · refine ⟨Text.pieces '/' directory.toList, ?_, rfl⟩
      rw [eq, Text.pieces_append_separator, own]
  obtain ⟨front, pieces, same⟩ := cut
  rw [names_eq pieces, List.filter_append, same, List.map_append]
  simp [names, kept]

/-- An appended name is one more step down. -/
theorem steps_join (noSlash : '/' ∉ name.toList) (nonempty : name ≠ "")
    (down : stepOf name = .down name) :
    steps (join directory name) = steps directory ++ [.down name] := by
  rw [steps, names_join noSlash nonempty, List.map_append, List.map_singleton, down]
  rfl

/-- With a name appended a path starts where it did. -/
theorem isAbsolute_join (noSlash : '/' ∉ name.toList) :
    isAbsolute (join directory name) = isAbsolute directory := by
  by_cases empty : directory = ""
  · have alone : join directory name = name := by
      unfold join
      rw [isAbsolute_of_notMem noSlash, if_neg Bool.false_ne_true, if_pos (Or.inl empty), empty,
        String.empty_append]
    rw [alone, isAbsolute_of_notMem noSlash, empty]
    rfl
  · have nonempty : directory.toList ≠ [] := by simpa using empty
    unfold isAbsolute
    rcases toList_join directory noSlash with ⟨-, eq⟩ | ⟨-, eq⟩
    · rw [eq, List.head?_append_of_ne_nil _ nonempty]
    · rw [eq, List.head?_append_of_ne_nil _ nonempty]

end Join

-- ========================================================== ancestors

/-- A path put together from names is cut into them. -/
theorem names_ofParts (path : String) {parts : List String}
    (proper : ∀ name ∈ parts, name ≠ "" ∧ '/' ∉ name.toList) :
    names (ofParts path parts) = parts := by
  have kept : (parts.map String.toList).filter (!·.isEmpty) = parts.map String.toList := by
    refine List.filter_eq_self.2 fun chars mem => ?_
    obtain ⟨name, hname, rfl⟩ := List.mem_map.1 mem
    simpa using (proper name hname).1
  have back : (parts.map String.toList).map String.ofList = parts := by
    rw [List.map_map]
    exact (List.map_congr_left fun name _ => String.ofList_toList).trans (List.map_id parts)
  have joined : names ("/".intercalate parts) = parts := by
    by_cases none : parts = []
    · rw [none]
      rfl
    · have cut : Text.pieces '/' ("/".intercalate parts).toList = parts.map String.toList := by
        rw [String.toList_intercalate]
        refine Text.pieces_intercalate (by simpa using none) fun chars mem => ?_
        obtain ⟨name, hname, rfl⟩ := List.mem_map.1 mem
        exact (proper name hname).2
      rw [names_eq cut, kept, back]
  unfold ofParts
  cases isAbsolute path with
  | false =>
      rw [if_neg Bool.false_ne_true, String.empty_append]
      exact joined
  | true =>
      rw [if_pos rfl, names, String.toList_append]
      show List.map String.ofList ((Text.pieces '/' ('/' :: _)).filter _) = parts
      rw [Text.pieces, if_pos rfl]
      exact joined

/-- A path put together from names starts where the path does that it is made for. -/
theorem isAbsolute_ofParts (path : String) {parts : List String}
    (proper : ∀ name ∈ parts, name ≠ "" ∧ '/' ∉ name.toList) :
    isAbsolute (ofParts path parts) = isAbsolute path := by
  unfold ofParts
  cases isAbsolute path with
  | true =>
      rw [if_pos rfl, isAbsolute, String.toList_append]
      rfl
  | false =>
      rw [if_neg Bool.false_ne_true, String.empty_append]
      cases parts with
      | nil => rfl
      | cons name rest =>
          obtain ⟨nonempty, noSlash⟩ := proper name List.mem_cons_self
          have first : ("/".intercalate (name :: rest)).toList.head? = name.toList.head? := by
            cases rest with
            | nil => rw [String.intercalate_singleton]
            | cons next others =>
                have chars : name.toList ≠ [] := by simpa using nonempty
                rw [String.intercalate_cons_cons, String.append_assoc, String.toList_append,
                  List.head?_append_of_ne_nil _ chars]
          rw [isAbsolute, first]
          exact isAbsolute_of_notMem noSlash

/-- Names that stay where they are take no step. -/
theorem follow_filter (place : Location) (names : List String) :
    follow place ((names.filter (· ≠ ".")).map stepOf) = follow place (names.map stepOf) := by
  induction names generalizing place with
  | nil => rfl
  | cons name rest ih =>
      by_cases stays : name = "."
      · rw [List.filter_cons_of_neg (by simpa using stays), ih, List.map_cons, stays]
        rfl
      · rw [List.filter_cons_of_pos (by simpa using stays)]
        exact ih (Step.target place (stepOf name))

/-- The directories that a path leads through lie on its way. -/
theorem onWay_of_mem_ancestors (tree : Tree) {path ancestor : String}
    (mem : ancestor ∈ ancestors path) : tree.OnWay path (tree.placeOf ancestor) := by
  have itself : tree.OnWay path (tree.placeOf path) := ⟨steps path, List.prefix_refl _, rfl⟩
  unfold ancestors at mem
  by_cases empty : path = ""
  · rw [if_pos empty] at mem
    cases mem
  · rw [if_neg empty] at mem
    rcases List.mem_cons.1 mem with rfl | above
    · exact itself
    · obtain ⟨n, -, rfl⟩ := List.mem_map.1 (List.mem_reverse.1 above)
      have begins : (parts path).take (n + 1) <+: parts path := List.take_prefix _ _
      obtain ⟨front, hfront, eq⟩ := List.prefix_filter_iff.1 begins
      have proper : ∀ name ∈ (parts path).take (n + 1), name ≠ "" ∧ '/' ∉ name.toList :=
        fun name mem => proper_of_mem_names (List.mem_of_mem_filter (List.mem_of_mem_take mem))
      refine ⟨front.map stepOf, hfront.map stepOf, ?_⟩
      rw [Tree.placeOf, steps, names_ofParts path proper, Tree.start, isAbsolute_ofParts path proper,
        eq, follow_filter]
      rfl

end Path

end SchemaClasses.Files
