/-
What a write depends on, and what a row of writes leaves.

Whether a file can be written in a directory that is there, and what is
refused otherwise, depends on the directories of the tree alone: not on
which files there are, and not on what they hold. So trees with the same
directories (`SameDirectories`) give a write the same answer, and since a
write makes no directory, this stays so however many files are written.

What a row of writes leaves is said place by place: the last bytes
written there, or else what was there before (`lookup_fill`). A tree is
what is found in it (`eq_of_lookup`), so two rows of writes that leave
the same at every place leave the same tree. That is the case for one row
written twice over, and for a row in another order if no place is
written to twice.
-/
import SchemaClasses.Proofs.Files.Tree

namespace SchemaClasses.Files

-- ======================================================= appended names

namespace Path

variable {directory name : String}

/-- With a name appended a path does not end in a slash. -/
theorem endsInSlash_join (noSlash : '/' ∉ name.toList) (nonempty : name ≠ "") :
    endsInSlash (join directory name) = false := by
  have chars : name.toList ≠ [] := by simpa using nonempty
  have last : ∀ front : List Char, (front ++ name.toList).getLast? ≠ some '/' := by
    intro front ends
    rw [List.getLast?_append_of_ne_nil _ chars] at ends
    exact noSlash (List.mem_of_getLast? ends)
  unfold endsInSlash
  rw [beq_eq_false_iff_ne]
  rcases toList_join directory noSlash with ⟨-, eq⟩ | ⟨-, eq⟩
  · rw [eq]
    exact last _
  · rw [eq, List.append_cons]
    exact last _

/-- A path has no steps, or a last one. -/
theorem steps_eq (path : String) :
    steps path = [] ∧ lastStep path = .stay ∨
      steps path = (steps path).dropLast ++ [lastStep path] := by
  unfold lastStep
  cases ends : (steps path).getLast? with
  | none => exact .inl ⟨List.getLast?_eq_none_iff.1 ends, rfl⟩
  | some step =>
      obtain ⟨front, eq⟩ := List.getLast?_eq_some_iff.1 ends
      refine .inr ?_
      rw [eq, List.dropLast_concat]
      rfl

end Path

namespace Tree

variable {first second third tree : Tree} {path directory name : String} {bytes : ByteArray}

-- ==================================================== the same directories

/-- Two trees that are looked at from one place and have the same directories. -/
structure SameDirectories (first second : Tree) : Prop where
  current : first.current = second.current
  directory : ∀ place, first.entry? place = some .directory ↔ second.entry? place = some .directory

namespace SameDirectories

theorem symm (same : SameDirectories first second) : SameDirectories second first :=
  ⟨same.current.symm, fun place => (same.directory place).symm⟩

theorem trans (earlier : SameDirectories first second) (later : SameDirectories second third) :
    SameDirectories first third :=
  ⟨earlier.current.trans later.current, fun place =>
    (earlier.directory place).trans (later.directory place)⟩

theorem start (same : SameDirectories first second) (path : String) :
    first.start path = second.start path := by
  unfold Tree.start
  rw [same.current]

theorem placeOf (same : SameDirectories first second) (path : String) :
    first.placeOf path = second.placeOf path := by
  unfold Tree.placeOf
  rw [same.start]

/-- A walk that gets through in one tree gets through in the other. -/
theorem walk (same : SameDirectories first second) {steps : List Step} {place there : Location}
    (walked : first.walk place steps = .ok there) : second.walk place steps = .ok there :=
  walk_of_directories (fun other => (same.directory other).1) walked

end SameDirectories

/-- Where no directory is made, the directories stay the same. -/
theorem Changes.sameDirectories {filled : Location → ByteArray → Prop}
    (changes : Changes (fun _ => False) filled first second) : SameDirectories first second := by
  refine ⟨changes.current.symm, fun place => ⟨changes.directory, fun there => ?_⟩⟩
  have change := changes.change place
  rw [there] at change
  generalize first.entry? place = before at change
  cases change with
  | kept => rfl
  | made never => exact never.elim

-- ============================================================= walking

/-- A walk can be broken off and taken up again. -/
theorem walk_append {front back : List Step} {place middle : Location}
    (walked : tree.walk place front = .ok middle) :
    tree.walk place (front ++ back) = tree.walk middle back := by
  induction front generalizing place with
  | nil =>
      cases walked
      rfl
  | cons step rest ih =>
      cases step with
      | stay => exact ih walked
      | up => exact ih walked
      | down name =>
          rw [walk] at walked
          rw [List.cons_append, walk]
          split at walked
          · cases walked
          next short =>
            rw [if_neg short]
            split at walked
            · cases walked
            · cases walked
            · exact ih walked

/-- The last step of a path to a directory can be walked too. -/
theorem walk_of_isDirectory (there : tree.isDirectory path = true) :
    tree.walk (tree.start path) (Path.steps path) = .ok (tree.placeOf path) := by
  have walks : ∃ place, tree.walk (tree.start path) (Path.steps path) = .ok place := by
    unfold isDirectory at there
    cases found : tree.approach path with
    | error fault =>
        rw [found] at there
        cases there
    | ok approach =>
        obtain ⟨directory, last, slash⟩ := approach
        rw [found] at there
        obtain ⟨admissible, walked, isLast, -⟩ := approach_eq_ok_iff.1 found
        rcases Path.steps_eq path with ⟨none, -⟩ | steps
        · rw [none]
          exact ⟨tree.start path, rfl⟩
        · rw [steps, walk_append walked, ← show last = _ from isLast]
          cases last with
          | stay => exact ⟨_, rfl⟩
          | up => exact ⟨_, rfl⟩
          | down name =>
              dsimp only at there
              split at there
              next entry =>
                refine ⟨directory ++ [name], ?_⟩
                rw [walk, if_neg (admissible.shortName name isLast.symm), entry]
                rfl
              next => cases there
  obtain ⟨place, walked⟩ := walks
  rw [walked, eq_follow_of_walk walked]
  rfl

-- ============================================================= writing

/-- What keeps a path from being followed keeps a file from being written there. -/
theorem write_of_approach_error {fault : Fault} (found : tree.approach path = .error fault) :
    tree.write path bytes = .error fault := by
  unfold write
  rw [found]
  rfl

/-- A path that ends in an appended name leads to a file, if it can be followed. -/
theorem leadsToFile_join {approach : Approach} (noSlash : '/' ∉ name.toList) (nonempty : name ≠ "")
    (down : Path.stepOf name = .down name)
    (found : tree.approach (Path.join directory name) = .ok approach) :
    tree.LeadsToFile (Path.join directory name) := by
  obtain ⟨parent, last, slash⟩ := approach
  obtain ⟨-, -, isLast, ends⟩ := approach_eq_ok_iff.1 found
  have isDown : Path.lastStep (Path.join directory name) = .down name := by
    rw [Path.lastStep, Path.steps_join noSlash nonempty down, List.getLast?_concat]
    rfl
  rw [show last = _ from isLast, isDown, show slash = _ from ends,
    Path.endsInSlash_join noSlash nonempty] at found
  exact ⟨parent, name, found⟩

/-- Over a directory no file is written. -/
theorem write_of_directory (leads : tree.LeadsToFile path)
    (there : tree.entry? (tree.placeOf path) = some .directory) :
    tree.write path bytes = .error .isADirectory := by
  obtain ⟨directory, name, found⟩ := leads
  unfold write
  rw [found]
  simp only [bind, Except.bind]
  rw [concat_eq_placeOf found, there]
  rfl

namespace SameDirectories

/-- A path that can be followed in one tree can be followed in the other. -/
theorem approach (same : SameDirectories first second) {there : Approach}
    (found : first.approach path = .ok there) : second.approach path = .ok there := by
  obtain ⟨admissible, walked, ends⟩ := approach_eq_ok_iff.1 found
  refine approach_eq_ok_iff.2 ⟨admissible, ?_, ends⟩
  rw [← same.start]
  exact same.walk walked

/-- A path to a directory in one tree is one in the other. -/
theorem isDirectory (same : SameDirectories first second) (there : first.isDirectory path = true) :
    second.isDirectory path = true := by
  unfold Tree.isDirectory at there ⊢
  cases found : first.approach path with
  | error fault =>
      rw [found] at there
      cases there
  | ok approach =>
      obtain ⟨directory, last, slash⟩ := approach
      rw [same.approach found]
      rw [found] at there
      cases last with
      | stay => rfl
      | up => rfl
      | down name =>
          dsimp only at there ⊢
          split at there
          next entry => rw [(same.directory _).1 entry]
          next => cases there

/-- A name in a directory that is there is approached alike, whether that succeeds or not. -/
theorem approach_join (same : SameDirectories first second)
    (there : first.isDirectory directory = true) (noSlash : '/' ∉ name.toList)
    (nonempty : name ≠ "") (down : Path.stepOf name = .down name) :
    second.approach (Path.join directory name) = first.approach (Path.join directory name) := by
  have walks : ∀ tree : Tree, tree.isDirectory directory = true →
      tree.walk (tree.start (Path.join directory name))
        (Path.steps (Path.join directory name)).dropLast = .ok (tree.placeOf directory) := by
    intro tree there
    rw [Tree.start, Path.isAbsolute_join noSlash, Path.steps_join noSlash nonempty down,
      List.dropLast_concat]
    exact walk_of_isDirectory there
  simp only [Tree.approach, walks first there, walks second (same.isDirectory there), same.placeOf]

/-- A file in a directory that is there can be written in both trees, or is refused in both for one
reason. -/
theorem write_join (same : SameDirectories first second)
    (there : first.isDirectory directory = true) (noSlash : '/' ∉ name.toList)
    (nonempty : name ≠ "") (down : Path.stepOf name = .down name) (bytes : ByteArray) :
    second.write (Path.join directory name) bytes =
      (first.write (Path.join directory name) bytes).map fun _ =>
        second.put (second.placeOf (Path.join directory name)) (.file bytes) := by
  have approached := same.approach_join there noSlash nonempty down
  cases found : first.approach (Path.join directory name) with
  | error fault =>
      rw [write_of_approach_error found, write_of_approach_error (approached.trans found)]
      rfl
  | ok approach =>
      have leadsFirst := leadsToFile_join noSlash nonempty down found
      have leadsSecond := leadsToFile_join noSlash nonempty down (approached.trans found)
      by_cases blocked : first.entry? (first.placeOf (Path.join directory name)) = some .directory
      · have blockedSecond := (same.directory _).1 blocked
        rw [same.placeOf] at blockedSecond
        rw [write_of_directory leadsFirst blocked, write_of_directory leadsSecond blockedSecond]
        rfl
      · have openSecond : second.entry? (second.placeOf (Path.join directory name)) ≠
            some .directory := by
          rw [← same.placeOf]
          exact fun there => blocked ((same.directory _).2 there)
        rw [write_eq_ok_iff.2 ⟨leadsFirst, blocked, rfl⟩,
          write_eq_ok_iff.2 ⟨leadsSecond, openSecond, rfl⟩]
        rfl

end SameDirectories

-- ======================================================= rows of writes

/-- Two trees in which the same is found everywhere are one tree. -/
theorem eq_of_lookup (current : first.current = second.current)
    (found : ∀ place, first.entries.lookup place = second.entries.lookup place) :
    first = second := by
  have distinct : ∀ tree : Tree, (tree.entries.map Prod.fst).Nodup := by
    intro tree
    rw [List.Nodup, List.pairwise_map]
    apply tree.ascending.imp
    intro a b before same
    rw [same] at before
    exact List.lt_irrefl _ before
  have entries : ∀ tree : Tree, tree.entries.Nodup := fun tree =>
    List.Nodup.of_map _ (distinct tree)
  have perm : first.entries.Perm second.entries := by
    rw [List.perm_ext_iff_of_nodup (entries first) (entries second)]
    intro entry
    rw [← lookup_eq_some_iff_mem (distinct first), ← lookup_eq_some_iff_mem (distinct second),
      found]
  have same : first.entries = second.entries := by
    refine perm.eq_of_pairwise (fun a b _ _ before after => ?_) first.ascending second.ascending
    exact absurd (List.lt_trans before after) (List.lt_irrefl _)
  obtain ⟨_, _, _⟩ := first
  obtain ⟨_, _, _⟩ := second
  cases current
  cases same
  rfl

/-- The tree with files put into it, one after the other. -/
def fill (tree : Tree) (files : List (Location × ByteArray)) : Tree :=
  files.foldl (fun tree file => tree.put file.1 (.file file.2)) tree

variable {files : List (Location × ByteArray)}

theorem current_fill (tree : Tree) (files : List (Location × ByteArray)) :
    (tree.fill files).current = tree.current := by
  induction files generalizing tree with
  | nil => rfl
  | cons file rest ih => exact ih (tree.put file.1 (.file file.2))

theorem fill_append (tree : Tree) (front back : List (Location × ByteArray)) :
    tree.fill (front ++ back) = (tree.fill front).fill back :=
  List.foldl_append

/-- A place has the last of the files that were put there, or else what it had. -/
theorem lookup_fill (tree : Tree) (files : List (Location × ByteArray)) (place : Location) :
    (tree.fill files).entries.lookup place =
      ((files.reverse.lookup place).map Entry.file).or (tree.entries.lookup place) := by
  induction files generalizing tree with
  | nil => rfl
  | cons file rest ih =>
      obtain ⟨here, bytes⟩ := file
      show ((tree.put here (.file bytes)).fill rest).entries.lookup place = _
      rw [ih, List.reverse_cons, List.lookup_append, lookup_cons_eq, put, lookup_putAscending]
      cases rest.reverse.lookup place with
      | some _ => rfl
      | none =>
          by_cases same : place = here
          · rw [if_pos same, if_pos same]
            rfl
          · rw [if_neg same, if_neg same]
            rfl

/-- The same files put once more change nothing. -/
theorem fill_fill (tree : Tree) (files : List (Location × ByteArray)) :
    (tree.fill files).fill files = tree.fill files := by
  apply eq_of_lookup (current_fill _ files)
  intro place
  rw [lookup_fill, lookup_fill]
  cases files.reverse.lookup place with
  | none => rfl
  | some _ => rfl

/-- The order in which files are put does not matter if no two have one place. -/
theorem fill_eq_of_perm (tree : Tree) {front back : List (Location × ByteArray)}
    (perm : front.Perm back) (distinct : (front.map Prod.fst).Nodup) :
    tree.fill front = tree.fill back := by
  apply eq_of_lookup
  · rw [current_fill, current_fill]
  · intro place
    have reversed : front.reverse.Perm back.reverse :=
      front.reverse_perm.trans (perm.trans back.reverse_perm.symm)
    have distinctReversed : (front.reverse.map Prod.fst).Nodup := by
      rw [List.map_reverse, List.nodup_reverse]
      exact distinct
    rw [lookup_fill, lookup_fill, lookup_eq_of_perm reversed distinctReversed]

end Tree

end SchemaClasses.Files
