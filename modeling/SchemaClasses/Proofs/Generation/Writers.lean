/-
Who wrote a class name last.

A run looks for the last writer of a class name among the outcomes so
far. What it finds is pinned down here by position: the outcome that
writes the name with none behind it that does. The search goes outcome
by outcome, the latest first, and so do the inductions.
-/
import SchemaClasses.Proofs.Generation.Turns

namespace SchemaClasses

namespace Outcome

variable {settings : Settings} {earlier outcomes front back : List Outcome} {tree after : Files.Tree}
  {entities : List Entity} {name : String}

/-- The last writer is found behind outcomes that do not write the name. -/
theorem lastWriter?_append (earlier : List Outcome) {later : List Outcome}
    (others : ∀ outcome ∈ later, outcome.className? ≠ some name) :
    lastWriter? name (later ++ earlier) = lastWriter? name earlier := by
  induction later with
  | nil => rfl
  | cons outcome rest ih =>
      have inner := ih fun outcome mem => others outcome (List.mem_cons_of_mem _ mem)
      cases outcome with
      | skipped => exact inner
      | failed => exact inner
      | written cls path previous =>
          have other : cls.name ≠ name := fun eq =>
            others _ List.mem_cons_self (congrArg some eq)
          rw [List.cons_append, lastWriter?, if_neg other, inner]

/-- There is no last writer of a name exactly if nothing has written it. -/
theorem lastWriter?_eq_none_iff :
    lastWriter? name earlier = none ↔ ∀ outcome ∈ earlier, outcome.className? ≠ some name := by
  constructor
  · intro none
    induction earlier with
    | nil => exact fun _ mem => absurd mem List.not_mem_nil
    | cons outcome rest ih =>
        rw [List.forall_mem_cons]
        cases outcome with
        | skipped => exact ⟨nofun, ih none⟩
        | failed => exact ⟨nofun, ih none⟩
        | written cls path previous =>
            unfold lastWriter? at none
            by_cases same : cls.name = name
            · rw [if_pos same] at none
              cases none
            · rw [if_neg same] at none
              exact ⟨fun eq => same (Option.some.inj eq), ih none⟩
  · intro others
    have found := lastWriter?_append [] others
    rwa [List.append_nil] at found

/-- The last writer of a name is the entity of the last class of that name. -/
theorem exists_of_lastWriter? {entity : String} (found : lastWriter? name earlier = some entity) :
    ∃ later cls path previous rest, earlier = later ++ .written cls path previous :: rest ∧
      cls.name = name ∧ cls.entity = entity ∧
      ∀ outcome ∈ later, outcome.className? ≠ some name := by
  induction earlier with
  | nil => cases found
  | cons outcome rest ih =>
      -- what is found further back is found behind this outcome too
      have further : outcome.className? ≠ some name → lastWriter? name rest = some entity →
          ∃ later cls path previous more, outcome :: rest =
            later ++ .written cls path previous :: more ∧ cls.name = name ∧ cls.entity = entity ∧
            ∀ outcome ∈ later, outcome.className? ≠ some name := by
        intro other found
        obtain ⟨later, cls, path, previous, more, rfl, named, own, others⟩ := ih found
        exact ⟨outcome :: later, cls, path, previous, more, rfl, named, own,
          List.forall_mem_cons.2 ⟨other, others⟩⟩
      cases outcome with
      | skipped => exact further nofun found
      | failed => exact further nofun found
      | written cls path previous =>
          unfold lastWriter? at found
          by_cases same : cls.name = name
          · rw [if_pos same] at found
            exact ⟨[], cls, path, previous, rest, rfl, same, Option.some.inj found,
              List.forall_mem_nil _⟩
          · rw [if_neg same] at found
            exact further (fun eq => same (Option.some.inj eq)) found

/-- The same with the outcomes in their order. -/
theorem exists_of_lastWriter?_reverse {entity : String}
    (found : lastWriter? name outcomes.reverse = some entity) :
    ∃ front cls path previous back, outcomes = front ++ .written cls path previous :: back ∧
      cls.name = name ∧ cls.entity = entity ∧
      ∀ outcome ∈ back, outcome.className? ≠ some name := by
  obtain ⟨later, cls, path, previous, rest, parts, named, own, others⟩ := exists_of_lastWriter? found
  refine ⟨rest.reverse, cls, path, previous, later.reverse, ?_, named, own,
    fun outcome mem => others outcome (List.mem_reverse.1 mem)⟩
  rw [← List.reverse_reverse outcomes, parts]
  simp

/-- A class that a turn writes is written over that of the last writer. -/
theorem Turn.previous_eq {cls : Class} {path : String} {previous : Option String} {entity : Entity}
    (turn : Turn settings earlier tree entity (.written cls path previous) after) :
    previous = lastWriter? cls.name earlier := by
  cases turn with
  | written => rfl

/-- A class is written over the class of the last writer before it. -/
theorem Turns.previous_eq {cls : Class} {path : String} {previous : Option String}
    (turns : Turns settings [] tree entities (front ++ .written cls path previous :: back) after) :
    previous = lastWriter? cls.name front.reverse := by
  obtain ⟨first, entity, rest, before, behind, rfl, -, turn, -⟩ := turns.turn_of_append
  rw [List.append_nil] at turn
  exact turn.previous_eq

/-- The last class of a name that was written. -/
theorem exists_last (written : ∃ outcome ∈ outcomes, outcome.className? = some name) :
    ∃ front cls path previous back, outcomes = front ++ .written cls path previous :: back ∧
      cls.name = name ∧ ∀ outcome ∈ back, outcome.className? ≠ some name := by
  cases found : lastWriter? name outcomes.reverse with
  | none =>
      obtain ⟨outcome, mem, same⟩ := written
      exact absurd same (lastWriter?_eq_none_iff.1 found outcome (List.mem_reverse.2 mem))
  | some entity =>
      obtain ⟨front, cls, path, previous, back, parts, named, -, others⟩ :=
        exists_of_lastWriter?_reverse found
      exact ⟨front, cls, path, previous, back, parts, named, others⟩

end Outcome

end SchemaClasses
