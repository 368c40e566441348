/-
What changes in a file tree, and what does not.

Writing and making directories change a tree at one place, the one their
path leads to. A file never takes the place of a directory nor a
directory that of a file, so a path that could be followed once can be
followed ever after, and what was written stays readable until something
is written at the same place.

`Changes` says this for any number of such operations: the places where
directories may have come to be, and what may now be in files. It holds
of one operation by the lemma for that operation, and it composes.
-/
import SchemaClasses.Proofs.Files.Path
import SchemaClasses.Proofs.Value.Lookup

namespace SchemaClasses.Files

-- ============================================================= entries

/-- What has been put is found at its place, and everything else where it was. -/
theorem lookup_putAscending (place other : Location) (entry : Entry)
    (entries : List (Location × Entry)) :
    (putAscending place entry entries).lookup other =
      if other = place then some entry else entries.lookup other := by
  induction entries with
  | nil => exact lookup_cons_eq place other entry []
  | cons first rest ih =>
      obtain ⟨p, e⟩ := first
      unfold putAscending
      by_cases below : place < p
      · rw [if_pos below]
        exact lookup_cons_eq place other entry ((p, e) :: rest)
      · rw [if_neg below]
        by_cases same : place = p
        · rw [if_pos same, lookup_cons_eq, lookup_cons_eq, same]
          by_cases here : other = p
          · rw [if_pos here, if_pos here]
          · rw [if_neg here, if_neg here, if_neg here]
        · rw [if_neg same, lookup_cons_eq, lookup_cons_eq, ih]
          by_cases here : other = p
          · have elsewhere : other ≠ place := fun eq => same (eq.symm.trans here)
            rw [if_pos here, if_neg elsewhere, if_pos here]
          · rw [if_neg here, if_neg here]

namespace Tree

variable {tree before middle after : Tree} {path : String} {place : Location}

/-- What has been put below the top is found at its place, and everything else where it was. -/
theorem entry?_put (below : place ≠ []) (entry : Entry) (other : Location) :
    entry? (tree.put place entry) other =
      if other = place then some entry else tree.entry? other := by
  unfold entry? put
  by_cases top : other = []
  · rw [if_pos top, if_pos top, if_neg fun eq => below (eq.symm.trans top)]
  · rw [if_neg top, if_neg top]
    exact lookup_putAscending place other entry tree.entries

-- ============================================================= changes

/-- What may become of one place: it is kept, a directory comes to be where nothing was, or a file
gets its contents. -/
inductive Change (made : Location → Prop) (filled : Location → ByteArray → Prop)
    (place : Location) : Option Entry → Option Entry → Prop
  | kept (entry : Option Entry) : Change made filled place entry entry
  | made (allowed : made place) : Change made filled place none (some .directory)
  | filled {entry : Option Entry} {bytes : ByteArray} (noDirectory : entry ≠ some .directory)
      (allowed : filled place bytes) : Change made filled place entry (some (.file bytes))

/-- What may become of a tree: directories come to be at places that are to be `made`, and files get
contents with which they may be `filled`. Everything else is kept. -/
structure Changes (made : Location → Prop) (filled : Location → ByteArray → Prop)
    (before after : Tree) : Prop where
  current : after.current = before.current
  change : ∀ place, Change made filled place ( before.entry? place) ( after.entry? place)

variable {made made' : Location → Prop} {filled filled' : Location → ByteArray → Prop}
  {first second third : Option Entry}

theorem Change.trans (earlier : Change made filled place first second)
    (later : Change made filled place second third) : Change made filled place first third := by
  cases earlier with
  | kept => exact later
  | made allowed =>
      -- a directory stays one
      cases later with
      | kept => exact .made allowed
      | filled noDirectory => exact absurd rfl noDirectory
  | filled noDirectory allowed =>
      -- a file stays one, with the later contents
      cases later with
      | kept => exact .filled noDirectory allowed
      | filled _ allowed => exact .filled noDirectory allowed

theorem Change.mono (change : Change made filled place first second)
    (places : made place → made' place)
    (contents : ∀ bytes, filled place bytes → filled' place bytes) :
    Change made' filled' place first second := by
  cases change with
  | kept => exact .kept _
  | made allowed => exact .made (places allowed)
  | filled noDirectory allowed => exact .filled noDirectory (contents _ allowed)

/-- A directory stays one. -/
theorem Change.directory (change : Change made filled place (some .directory) second) :
    second = some .directory := by
  cases change with
  | kept => rfl
  | filled noDirectory => exact absurd rfl noDirectory

namespace Changes

theorem refl (tree : Tree) : Changes made filled tree tree :=
  ⟨rfl, fun _ => .kept _⟩

theorem trans (earlier : Changes made filled before middle)
    (later : Changes made filled middle after) : Changes made filled before after :=
  ⟨later.current.trans earlier.current, fun place => (earlier.change place).trans (later.change place)⟩

theorem mono (changes : Changes made filled before after)
    (places : ∀ place, made place → made' place)
    (contents : ∀ place bytes, filled place bytes → filled' place bytes) :
    Changes made' filled' before after :=
  ⟨changes.current, fun place => (changes.change place).mono (places place) (contents place)⟩

/-- Directories stay what they are. -/
theorem directory (changes : Changes made filled before after)
    (h : before.entry? place = some .directory) : after.entry? place = some .directory := by
  have change := changes.change place
  rw [h] at change
  exact change.directory

/-- A path leads to the same place afterwards. -/
theorem placeOf (changes : Changes made filled before after) (path : String) :
    after.placeOf path = before.placeOf path := by
  rw [Tree.placeOf, Tree.start, changes.current]
  rfl

end Changes

-- =========================================================== following

/-- A walk that gets through ends where its steps lead. -/
theorem eq_follow_of_walk {steps : List Step} {there : Location}
    (walked : tree.walk place steps = .ok there) : there = follow place steps := by
  induction steps generalizing place with
  | nil =>
      cases walked
      rfl
  | cons step rest ih =>
      cases step with
      | stay => exact ih walked
      | up => exact ih walked
      | down name =>
          unfold walk at walked
          split at walked
          · cases walked
          · split at walked
            · cases walked
            · cases walked
            · exact ih walked

/-- A walk that gets through still does so when there are more directories. -/
theorem walk_of_directories {steps : List Step} {there : Location}
    (kept : ∀ place, before.entry? place = some .directory → after.entry? place = some .directory)
    (walked : before.walk place steps = .ok there) : after.walk place steps = .ok there := by
  induction steps generalizing place with
  | nil => exact walked
  | cons step rest ih =>
      cases step with
      | stay => exact ih walked
      | up => exact ih walked
      | down name =>
          unfold walk at walked ⊢
          split at walked
          · cases walked
          next short =>
            rw [if_neg short]
            split at walked
            · cases walked
            · cases walked
            next there =>
              rw [kept _ there]
              exact ih walked

/-- When a path can be followed up to its last step, and what is found out. -/
theorem approach_eq_ok_iff {there : Approach} :
    tree.approach path = .ok there ↔
      Path.Admissible path ∧
        tree.walk (tree.start path) (Path.steps path).dropLast = .ok there.directory ∧
        there.last = Path.lastStep path ∧ there.slash = Path.endsInSlash path := by
  unfold approach Path.lastStep
  simp only [bind, Except.bind, pure, Except.pure, throw, throwThe, MonadExceptOf.throw]
  constructor
  · intro found
    split at found
    · cases found
    next noNul =>
    split at found
    · cases found
    next nonempty =>
    split at found
    · cases found
    next short =>
    split at found
    · cases found
    next directory walked =>
    split at found
    next name last =>
      split at found
      · cases found
      next shortName =>
        cases found
        refine ⟨⟨Bool.eq_false_iff.2 noNul, nonempty, short, fun other eq => ?_⟩, walked,
          last.symm, rfl⟩
        rw [Path.lastStep, last] at eq
        cases eq
        exact shortName
    next last notDown =>
      cases found
      refine ⟨⟨Bool.eq_false_iff.2 noNul, nonempty, short, fun name eq => ?_⟩, walked, rfl, rfl⟩
      exact absurd eq (notDown name)
  · obtain ⟨directory, step, ends⟩ := there
    rintro ⟨admissible, walked, last, slash⟩
    dsimp only at walked last slash
    rw [admissible.noNul, if_neg Bool.false_ne_true, if_neg admissible.nonempty,
      if_neg admissible.short, walked]
    dsimp only
    rw [← last, slash]
    cases step with
    | down name => exact if_neg (admissible.shortName name last.symm)
    | stay => rfl
    | up => rfl

/-- A last step down leads from the directory it starts at to the place of the path. -/
theorem concat_eq_placeOf {directory : Location} {name : String} {slash : Bool}
    (found : tree.approach path = .ok ⟨directory, .down name, slash⟩) :
    directory ++ [name] = tree.placeOf path := by
  obtain ⟨-, walked, last, -⟩ := approach_eq_ok_iff.1 found
  have steps : Path.steps path = (Path.steps path).dropLast ++ [.down name] := by
    unfold Path.lastStep at last
    cases ends : (Path.steps path).getLast? with
    | none =>
        rw [ends] at last
        cases last
    | some step =>
        rw [ends] at last
        obtain ⟨front, eq⟩ := List.getLast?_eq_some_iff.1 ends
        rw [eq, List.dropLast_concat, show Step.down name = step from last]
  have ends : directory = follow (tree.start path) (Path.steps path).dropLast :=
    eq_follow_of_walk walked
  rw [placeOf, steps, follow_append, ends]
  rfl

/-- The place that a last step down leads to is not the top. -/
theorem placeOf_ne_nil {directory : Location} {name : String} {slash : Bool}
    (found : tree.approach path = .ok ⟨directory, .down name, slash⟩) : tree.placeOf path ≠ [] := by
  rw [← concat_eq_placeOf found]
  exact List.append_ne_nil_of_right_ne_nil _ (List.cons_ne_nil _ _)

/-- A path that can be followed can be followed after changes. -/
theorem Changes.approach {there : Approach} (changes : Changes made filled before after)
    (found : before.approach path = .ok there) : after.approach path = .ok there := by
  obtain ⟨admissible, walked, ends⟩ := approach_eq_ok_iff.1 found
  have start : after.start path = before.start path := by
    rw [start, changes.current]
    rfl
  refine approach_eq_ok_iff.2 ⟨admissible, ?_, ends⟩
  rw [start]
  exact walk_of_directories (fun _ there => changes.directory there) walked

-- ==================================================== reading and writing

/-- The path leads down to a place that a file can have. -/
def LeadsToFile (tree : Tree) (path : String) : Prop :=
  ∃ directory name, tree.approach path = .ok ⟨directory, .down name, false⟩

/-- What is written goes to the place of the path, where there must be no directory. -/
theorem write_eq_ok_iff {bytes : ByteArray} :
    tree.write path bytes = .ok after ↔
      tree.LeadsToFile path ∧ tree.entry? (tree.placeOf path) ≠ some .directory ∧
        after = tree.put (tree.placeOf path) (.file bytes) := by
  unfold write LeadsToFile
  cases found : tree.approach path with
  | error fault => simp [bind, Except.bind]
  | ok there =>
      obtain ⟨directory, last, slash⟩ := there
      cases last with
      | stay => simp [bind, Except.bind, throw, throwThe, MonadExceptOf.throw]
      | up => simp [bind, Except.bind, throw, throwThe, MonadExceptOf.throw]
      | down name =>
          simp only [bind, Except.bind, ← concat_eq_placeOf found]
          cases tree.entry? (directory ++ [name]) with
          | none => cases slash <;> simp [throw, throwThe, MonadExceptOf.throw, pure, Except.pure, eq_comm]
          | some entry =>
              cases entry with
              | directory => simp [throw, throwThe, MonadExceptOf.throw]
              | file old =>
                  cases slash <;>
                    simp [throw, throwThe, MonadExceptOf.throw, pure, Except.pure, eq_comm]

/-- What is read is in a file at the place of the path. -/
theorem read_eq_ok_iff {bytes : ByteArray} :
    tree.read path = .ok bytes ↔
      tree.LeadsToFile path ∧ tree.entry? (tree.placeOf path) = some (.file bytes) := by
  unfold read LeadsToFile
  cases found : tree.approach path with
  | error fault => simp [bind, Except.bind]
  | ok there =>
      obtain ⟨directory, last, slash⟩ := there
      cases last with
      | stay => simp [bind, Except.bind, throw, throwThe, MonadExceptOf.throw]
      | up => simp [bind, Except.bind, throw, throwThe, MonadExceptOf.throw]
      | down name =>
          simp only [bind, Except.bind, ← concat_eq_placeOf found]
          cases tree.entry? (directory ++ [name]) with
          | none => simp [throw, throwThe, MonadExceptOf.throw]
          | some entry =>
              cases entry with
              | directory => simp [throw, throwThe, MonadExceptOf.throw]
              | file old =>
                  cases slash <;>
                    simp [throw, throwThe, MonadExceptOf.throw, pure, Except.pure]

/-- A directory is made at the place of the path, where nothing must be. -/
theorem makeDirectory_eq_ok_iff :
    tree.makeDirectory path = .ok after ↔
      (∃ directory name slash, tree.approach path = .ok ⟨directory, .down name, slash⟩) ∧
        tree.entry? (tree.placeOf path) = none ∧
        after = tree.put (tree.placeOf path) .directory := by
  unfold makeDirectory
  cases found : tree.approach path with
  | error fault => simp [bind, Except.bind]
  | ok there =>
      obtain ⟨directory, last, slash⟩ := there
      cases last with
      | stay => simp [bind, Except.bind, throw, throwThe, MonadExceptOf.throw]
      | up => simp [bind, Except.bind, throw, throwThe, MonadExceptOf.throw]
      | down name =>
          simp only [bind, Except.bind, ← concat_eq_placeOf found]
          cases tree.entry? (directory ++ [name]) with
          | none => simp [pure, Except.pure, eq_comm]
          | some entry => simp [throw, throwThe, MonadExceptOf.throw]

/-- Writing fills the place of the path and changes nothing else. -/
theorem changes_write {bytes : ByteArray} (written : tree.write path bytes = .ok after) :
    Changes (fun _ => False) (fun place contents => place = tree.placeOf path ∧ contents = bytes)
      tree after := by
  obtain ⟨⟨directory, name, found⟩, noDirectory, rfl⟩ := write_eq_ok_iff.1 written
  refine ⟨rfl, fun place => ?_⟩
  rw [entry?_put (placeOf_ne_nil found)]
  by_cases here : place = tree.placeOf path
  · rw [if_pos here, here]
    exact .filled noDirectory ⟨rfl, rfl⟩
  · rw [if_neg here]
    exact .kept _

/-- What has been written is read back. -/
theorem read_of_write {bytes : ByteArray} (written : tree.write path bytes = .ok after) :
    after.read path = .ok bytes := by
  have changes := changes_write written
  obtain ⟨⟨directory, name, found⟩, -, rfl⟩ := write_eq_ok_iff.1 written
  refine read_eq_ok_iff.2 ⟨⟨directory, name, changes.approach found⟩, ?_⟩
  rw [changes.placeOf, entry?_put (placeOf_ne_nil found), if_pos rfl]

/-- What can be read is still read after changes elsewhere. -/
theorem Changes.read {bytes : ByteArray} (changes : Changes made filled before after)
    (elsewhere : ∀ contents, ¬filled (before.placeOf path) contents)
    (found : before.read path = .ok bytes) : after.read path = .ok bytes := by
  obtain ⟨⟨directory, name, approached⟩, file⟩ := read_eq_ok_iff.1 found
  refine read_eq_ok_iff.2 ⟨⟨directory, name, changes.approach approached⟩, ?_⟩
  rw [changes.placeOf]
  have change := changes.change (before.placeOf path)
  rw [file] at change
  generalize after.entry? (before.placeOf path) = entry at change
  cases change with
  | kept => rfl
  | filled _ allowed => exact absurd allowed (elsewhere _)

/-- A file that holds the bytes of a text is read as that text. -/
theorem readText_of_read {text : String} (found : tree.read path = .ok text.toUTF8) :
    tree.readText path = .ok text := by
  have valid : String.fromUTF8? text.toUTF8 = some text := by
    unfold String.fromUTF8?
    exact dif_pos text.isValidUTF8
  unfold readText
  rw [found]
  simp only [bind, Except.bind, valid]
  rfl

-- ======================================================== directories

/-- A directory that is made is the only change. -/
theorem changes_makeDirectory (h : tree.makeDirectory path = .ok after) :
    Changes (· = tree.placeOf path) (fun _ _ => False) tree after := by
  obtain ⟨⟨directory, name, slash, found⟩, nothing, rfl⟩ := makeDirectory_eq_ok_iff.1 h
  refine ⟨rfl, fun place => ?_⟩
  rw [entry?_put (placeOf_ne_nil found)]
  by_cases here : place = tree.placeOf path
  · rw [if_pos here, here, nothing]
    exact .made rfl
  · rw [if_neg here]
    exact .kept _

theorem unlessThere_fst (tree : Tree) (path : String) (fault : Fault) :
    (tree.unlessThere path fault).1 = tree := by
  unfold unlessThere
  split
  · rfl
  · rfl

/-- Making directories changes nothing but the places of the paths, also where it fails. -/
theorem changes_makeAll (tree : Tree) (paths : List String) :
    Changes (fun place => ∃ path ∈ paths, place = tree.placeOf path) (fun _ _ => False)
      tree (tree.makeAll paths).1 := by
  induction paths with
  | nil => exact .refl tree
  | cons path outer ih =>
      have first : ∀ {after}, tree.makeDirectory path = .ok after →
          Changes (fun place => ∃ other ∈ path :: outer, place = tree.placeOf other)
            (fun _ _ => False) tree after := fun made =>
        (changes_makeDirectory made).mono
          (fun _ here => ⟨path, List.mem_cons_self, here⟩) (fun _ _ => id)
      have below : Changes (fun place => ∃ other ∈ path :: outer, place = tree.placeOf other)
          (fun _ _ => False) tree (tree.makeAll outer).1 :=
        ih.mono (fun _ ⟨other, mem, here⟩ => ⟨other, List.mem_cons_of_mem path mem, here⟩)
          (fun _ _ => id)
      unfold makeAll
      split
      next after made => exact first made
      next missing =>
        generalize tree.makeAll outer = rest at below ⊢
        obtain ⟨middle, failed⟩ := rest
        cases failed with
        | some fault => exact below
        | none =>
            dsimp only
            split
            next after made =>
              refine below.trans ((changes_makeDirectory made).mono (fun place here => ?_)
                (fun _ _ => id))
              exact ⟨path, List.mem_cons_self, here.trans (below.placeOf path)⟩
            next fault _ =>
              rw [unlessThere_fst]
              exact below
      next fault _ _ =>
        rw [unlessThere_fst]
        exact .refl tree

/-- Making a directory with those on its way makes directories on its way, and changes nothing
else. -/
theorem changes_makeDirectories (tree : Tree) (path : String) :
    Changes (tree.OnWay path) (fun _ _ => False) tree (tree.makeDirectories path).1 := by
  refine (changes_makeAll tree (Path.ancestors path)).mono (fun place => ?_) (fun _ _ => id)
  rintro ⟨ancestor, mem, rfl⟩
  exact Path.onWay_of_mem_ancestors tree mem

/-- Where a directory has been made, there is one. -/
theorem isDirectory_of_makeDirectory (h : tree.makeDirectory path = .ok after) :
    after.isDirectory path = true := by
  have changes := changes_makeDirectory h
  obtain ⟨⟨directory, name, slash, found⟩, nothing, rfl⟩ := makeDirectory_eq_ok_iff.1 h
  unfold isDirectory
  rw [changes.approach found]
  dsimp only
  rw [concat_eq_placeOf found, entry?_put (placeOf_ne_nil found), if_pos rfl]

/-- Where a directory is, none can be made a second time. -/
theorem makeDirectory_of_isDirectory (there : tree.isDirectory path = true) :
    tree.makeDirectory path = .error .alreadyExists := by
  unfold isDirectory at there
  unfold makeDirectory
  cases found : tree.approach path with
  | error fault =>
      rw [found] at there
      cases there
  | ok approach =>
      obtain ⟨directory, last, slash⟩ := approach
      rw [found] at there
      cases last with
      | stay => rfl
      | up => rfl
      | down name =>
          dsimp only at there
          simp only [bind, Except.bind]
          split at there
          next entry =>
            rw [entry]
            rfl
          next => cases there

/-- An empty path leads nowhere, and so to no directory. -/
theorem ne_empty_of_isDirectory (there : tree.isDirectory path = true) : path ≠ "" := by
  rintro rfl
  cases there

/-- A directory that is there need not be made. -/
theorem makeDirectories_of_isDirectory (there : tree.isDirectory path = true) :
    tree.makeDirectories path = (tree, none) := by
  unfold makeDirectories Path.ancestors
  rw [if_neg (ne_empty_of_isDirectory there), makeAll, makeDirectory_of_isDirectory there]
  exact if_pos ⟨rfl, there⟩

theorem isDirectory_of_unlessThere {fault : Fault}
    (h : tree.unlessThere path fault = (after, none)) : after.isDirectory path = true := by
  unfold unlessThere at h
  split at h
  next there =>
    cases h
    exact there.2
  next => cases h

/-- Where making directories succeeds, the directory is there in the end. -/
theorem isDirectory_of_makeDirectories (nonempty : path ≠ "")
    (h : tree.makeDirectories path = (after, none)) : after.isDirectory path = true := by
  unfold makeDirectories Path.ancestors at h
  rw [if_neg nonempty, makeAll] at h
  split at h
  next made ok =>
    cases h
    exact isDirectory_of_makeDirectory ok
  next =>
    split at h
    next => cases h
    next below outer =>
      split at h
      next made ok =>
        cases h
        exact isDirectory_of_makeDirectory ok
      next => exact isDirectory_of_unlessThere h
  next => exact isDirectory_of_unlessThere h

end Tree

end SchemaClasses.Files
