/-
What a run leaves behind.

The file of a class name has the text of the class that was written
last under the name, and an entity that failed has changed nothing. That
a class was written over another is never kept quiet: the warning stands
between the two events that tell of the classes, and there are no other
warnings of this kind.

What carries this is the turn. A class that is written looks for the
last outcome before it with a class of its name; the one it finds is the
one it warns about, so warnings and pairs of such classes match. They
are counted by taking the outcomes away one by one from the end: a class
is written over another exactly where its path is among the earlier
paths.
-/
import Mathlib.Data.List.Dedup
import Mathlib.Data.List.Induction
import SchemaClasses.Generation.Event
import SchemaClasses.Proofs.Generation.ClassFiles
import SchemaClasses.Proofs.Generation.Report
import SchemaClasses.Proofs.Generation.Writers

namespace SchemaClasses

open Files

-- ============================================================ warnings

/-- A class of an entity was written over that of an earlier entity. -/
structure Overwrite where
  entity : String
  previous : String
  className : String
deriving DecidableEq

/-- What the event says was written over. -/
def Event.overwrite? : Event → Option Overwrite
  | .overwritten entity previous className => some ⟨entity, previous, className⟩
  | _ => none

namespace Outcome

/-- What was written over. -/
def overwrite? : Outcome → Option Overwrite
  | .written cls _ (some previous) => some ⟨cls.entity, previous, cls.name⟩
  | _ => none

/-- Two classes of one name, one written after the other and none of the name in between. -/
def WritesOver (outcomes : List Outcome) (first second : Class) : Prop :=
  ∃ front path previous between path' previous' back,
    outcomes = front ++ .written first path previous ::
      (between ++ .written second path' previous' :: back) ∧
    first.name = second.name ∧ ∀ outcome ∈ between, outcome.className? ≠ some second.name

variable {settings : Settings} {outcomes front : List Outcome} {tree after : Tree}
  {entities : List Entity}

/-- Only a class that is written over another leaves a warning, which names the two. -/
theorem overwrite?_eq_some {outcome : Outcome} {warning : Overwrite}
    (warns : outcome.overwrite? = some warning) :
    ∃ cls path previous, outcome = .written cls path (some previous) ∧
      warning = ⟨cls.entity, previous, cls.name⟩ := by
  unfold overwrite? at warns
  split at warns
  next cls path previous => exact ⟨cls, path, previous, rfl, (Option.some.inj warns).symm⟩
  next => cases warns

/-- Columns without a field are no warnings of this kind. -/
theorem filterMap_propertySkipped (skipped : List FieldError) :
    (skipped.map Event.propertySkipped).filterMap Event.overwrite? = [] := by
  rw [List.filterMap_map, List.filterMap_eq_nil_iff]
  exact fun _ _ => rfl

/-- The warnings among the events of an outcome. -/
theorem filterMap_events (outcome : Outcome) :
    outcome.events.filterMap Event.overwrite? = outcome.overwrite?.toList := by
  cases outcome with
  | skipped => rfl
  | failed => rfl
  | written cls path previous =>
      rw [events, List.filterMap_append, List.filterMap_append, filterMap_propertySkipped]
      cases previous with
      | none => rfl
      | some previous => rfl

theorem filterMap_flatMap_events (outcomes : List Outcome) :
    (outcomes.flatMap events).filterMap Event.overwrite? = outcomes.filterMap overwrite? := by
  induction outcomes with
  | nil => rfl
  | cons outcome rest ih =>
      rw [List.flatMap_cons, List.filterMap_append, ih, filterMap_events, List.filterMap_cons]
      cases outcome.overwrite? with
      | none => rfl
      | some _ => rfl

/-- The warnings of a run are those of its outcomes. -/
theorem filterMap_log (outcomes : List Outcome) :
    (log outcomes).filterMap Event.overwrite? = outcomes.filterMap overwrite? := by
  rw [log, List.filterMap_append, filterMap_flatMap_events]
  exact List.append_nil _

-- =============================================== warnings and their pairs

/-- A warning stands for two classes, one written over the other. -/
theorem Turns.writesOver_of_overwrite {warning : Overwrite}
    (turns : Turns settings [] tree entities outcomes after)
    (mem : warning ∈ outcomes.filterMap overwrite?) :
    ∃ first second, WritesOver outcomes first second ∧
      warning = ⟨second.entity, first.entity, second.name⟩ := by
  obtain ⟨outcome, isOutcome, warns⟩ := List.mem_filterMap.1 mem
  obtain ⟨front, back, rfl⟩ := List.append_of_mem isOutcome
  obtain ⟨second, path, previous, rfl, rfl⟩ := overwrite?_eq_some warns
  obtain ⟨front, first, path', previous', between, rfl, named, own, others⟩ :=
    exists_of_lastWriter?_reverse turns.previous_eq.symm
  refine ⟨first, second, ⟨front, path', previous', between, path, some previous, back, ?_, named,
    others⟩, ?_⟩
  · rw [List.append_assoc, List.cons_append]
  · rw [own]

/-- Two classes, one written over the other, have one warning between the events that tell of
them. -/
theorem Turns.overwrite_of_writesOver {first second : Class}
    (turns : Turns settings [] tree entities outcomes after)
    (pair : WritesOver outcomes first second) :
    ∃ early middle late, log outcomes =
        early ++ .generated first.entity (first.path settings.outputDirectory) ::
          (middle ++ .generated second.entity (second.path settings.outputDirectory) :: late) ∧
      (middle.filterMap Event.overwrite?).filter (·.className = second.name) =
        [⟨second.entity, first.entity, second.name⟩] := by
  obtain ⟨front, path, previous, between, path', previous', back, rfl, named, others⟩ := pair
  have firstPath := (turns.rendered (List.mem_append_right front List.mem_cons_self)).2
  have secondPath := (turns.rendered (List.mem_append_right front
    (List.mem_cons_of_mem _ (List.mem_append_right between List.mem_cons_self)))).2
  have found : previous' = some first.entity := by
    rw [List.append_cons, ← List.append_assoc] at turns
    rw [turns.previous_eq, List.reverse_append, List.reverse_append,
      lastWriter?_append _ fun outcome mem => others outcome (List.mem_reverse.1 mem)]
    exact if_pos named
  subst found firstPath secondPath
  have quiet : (between.filterMap overwrite?).filter (·.className = second.name) = [] := by
    rw [List.filter_eq_nil_iff]
    intro warning mem same
    obtain ⟨outcome, isOutcome, warns⟩ := List.mem_filterMap.1 mem
    obtain ⟨cls, path, previous, rfl, rfl⟩ := overwrite?_eq_some warns
    exact others _ isOutcome (congrArg some (of_decide_eq_true same))
  rw [log]
  generalize (Report.ofOutcomes _).finished = finished
  refine ⟨front.flatMap events ++ (first.skipped.map Event.propertySkipped ++
      (previous.map fun previous => Event.overwritten first.entity previous first.name).toList),
    between.flatMap events ++ (second.skipped.map Event.propertySkipped ++
      [.overwritten second.entity first.entity second.name]),
    back.flatMap events ++ [finished], ?_, ?_⟩
  · simp [events]
  · rw [List.filterMap_append, List.filterMap_append, filterMap_flatMap_events,
      filterMap_propertySkipped, List.nil_append, List.filter_append, quiet, List.nil_append]
    exact List.filter_cons_of_pos (decide_eq_true rfl)

-- ============================================================ counting

/-- The outcomes of distinct entities have distinct warnings. -/
theorem nodup_overwrites (distinct : (outcomes.map entity).Nodup) :
    (outcomes.filterMap overwrite?).Nodup := by
  have entities : ((outcomes.filterMap overwrite?).map (·.entity)).Sublist (outcomes.map entity) := by
    induction outcomes with
    | nil => exact List.Sublist.refl []
    | cons outcome rest ih =>
        have inner := ih (List.nodup_cons.1 distinct).2
        rw [List.filterMap_cons, List.map_cons]
        cases outcome with
        | skipped => exact inner.cons _
        | failed => exact inner.cons _
        | written cls path previous =>
            cases previous with
            | none => exact inner.cons _
            | some previous => exact inner.cons_cons _
  exact List.Nodup.of_map _ (entities.nodup distinct)

/-- A class is written over another exactly if its path has been written to before. -/
theorem lastWriter?_isSome_iff {cls : Class}
    (turns : Turns settings [] tree entities front after)
    (named : Naming.isIdentifier cls.name = true) :
    (lastWriter? cls.name front.reverse).isSome = true ↔
      cls.path settings.outputDirectory ∈ front.filterMap writtenPath? := by
  rw [Option.isSome_iff_ne_none, ne_eq, lastWriter?_eq_none_iff, List.mem_filterMap]
  constructor
  · intro writer
    simp only [not_forall, not_not] at writer
    obtain ⟨outcome, mem, same⟩ := writer
    rw [List.mem_reverse] at mem
    cases outcome with
    | skipped => cases same
    | failed => cases same
    | written other path previous =>
        have name : other.name = cls.name := Option.some.inj same
        refine ⟨_, mem, ?_⟩
        rw [writtenPath?, (turns.rendered mem).2, Class.path, Class.fileName, name]
        rfl
  · rintro ⟨outcome, mem, here⟩ others
    cases outcome with
    | skipped => cases here
    | failed => cases here
    | written other path previous =>
        obtain ⟨⟨entity, -, -, rendered⟩, rfl⟩ := turns.rendered mem
        have otherNamed := (Class.source_of_render rendered).1
        have samePlace := congrArg tree.placeOf (Option.some.inj here)
        have name := Class.name_eq_of_placeOf_eq tree otherNamed named samePlace
        exact others _ (List.mem_reverse.2 mem) (congrArg some name)

/-- There are as many warnings as paths that are written to once more. -/
theorem Turns.length_overwrites (turns : Turns settings [] tree entities outcomes after) :
    (outcomes.filterMap overwrite?).length + (outcomes.filterMap writtenPath?).dedup.length =
      (outcomes.filterMap writtenPath?).length := by
  -- from the end, since the last class is written over one of those before it
  induction outcomes using List.reverseRecOn generalizing entities after with
  | nil => rfl
  | append_singleton front outcome ih =>
      obtain ⟨first, entity, rest, before, behind, rfl, earlier, turn, -⟩ := turns.turn_of_append
      have inner := ih earlier
      rw [List.append_nil] at turn
      rw [List.filterMap_append, List.filterMap_append, List.length_append, List.length_append,
        List.perm_append_comm.dedup.length_eq]
      cases turn with
      | skipped => exact inner
      | unrendered => exact inner
      | unwritten => exact inner
      | @written cls _ _ rendered _ =>
          have again := lastWriter?_isSome_iff earlier (Class.source_of_render rendered).1
          cases found : lastWriter? cls.name front.reverse with
          | none =>
              rw [found] at again
              have new : cls.path settings.outputDirectory ∉ front.filterMap writtenPath? :=
                fun mem => Bool.false_ne_true (again.2 mem)
              show _ + 0 + (List.dedup (_ :: front.filterMap writtenPath?)).length = _ + 1
              rw [List.dedup_cons_of_notMem new, List.length_cons]
              omega
          | some previous =>
              rw [found] at again
              show _ + 1 + (List.dedup (_ :: front.filterMap writtenPath?)).length = _ + 1
              rw [List.dedup_cons_of_mem (again.1 rfl)]
              omega

end Outcome

-- ========================================================= final state

/-- What a run leaves behind that has these outcomes. -/
structure FinalState (settings : Settings) (schema : Schema) (tree : Tree)
    (outcomes : List Outcome) : Prop where
  /-- The file of a class name has the text of the class of the last entity that was written under
  the name. -/
  text : ∀ name, (∃ outcome ∈ outcomes, outcome.className? = some name) →
    ∃ front cls path previous back, outcomes = front ++ .written cls path previous :: back ∧
      cls.name = name ∧ (∀ outcome ∈ back, outcome.className? ≠ some name) ∧
      ∃ first entity rest, schema.entities = first ++ entity :: rest ∧
        first.length = front.length ∧ Class.render entity settings.packageName = .ok cls ∧
        (run settings schema tree).tree.readText
          (Path.join settings.outputDirectory (name ++ ".java")) = .ok cls.source
  /-- The entity of an error has left the files as it found them. -/
  unchanged : ∀ error ∈ (Report.ofOutcomes outcomes).entityErrors,
    ∃ first entity rest, schema.entities = first ++ entity :: rest ∧ entity.name = error.entity ∧
      outcomes[first.length]? = some (.failed error) ∧
      (run settings ⟨first ++ [entity]⟩ tree).tree = (run settings ⟨first⟩ tree).tree
  /-- Where one class is written over another, there is one warning of the name between the events
  that tell of the two, and it names both. -/
  warned : ∀ first second, Outcome.WritesOver outcomes first second →
    ∃ early middle late, Outcome.log outcomes =
        early ++ .generated first.entity (first.path settings.outputDirectory) ::
          (middle ++ .generated second.entity (second.path settings.outputDirectory) :: late) ∧
      (middle.filterMap Event.overwrite?).filter (·.className = second.name) =
        [⟨second.entity, first.entity, second.name⟩]
  /-- There is no warning but for a class that is written over another. -/
  justified : ∀ warning ∈ (Outcome.log outcomes).filterMap Event.overwrite?,
    ∃ first second, Outcome.WritesOver outcomes first second ∧
      warning = ⟨second.entity, first.entity, second.name⟩
  /-- No warning is given twice. -/
  once : schema.names.Nodup → ((Outcome.log outcomes).filterMap Event.overwrite?).Nodup
  /-- There are as many warnings as written paths less distinct ones. -/
  count : ((Outcome.log outcomes).filterMap Event.overwrite?).length =
    (Report.ofOutcomes outcomes).written.length - (Report.ofOutcomes outcomes).written.dedup.length

variable {settings : Settings} {schema : Schema} {tree : Tree} {outcomes : List Outcome}

/-- A run leaves the class of the last writer under every name, nothing of an entity that failed,
and one warning for each class that is written over another. -/
theorem finalState_of_run (ran : (run settings schema tree).result = .ok outcomes) :
    FinalState settings schema tree outcomes := by
  obtain ⟨made, directories, turns⟩ := run_result_eq_ok_iff.1 ran
  refine ⟨?_, ?_, ?_, ?_, ?_, ?_⟩
  · intro name written
    obtain ⟨front, cls, path, previous, back, rfl, rfl, last⟩ := Outcome.exists_last written
    obtain ⟨first, entity, rest, parts, place, turn⟩ := turn_of_outcome ran
    obtain ⟨-, rendered, rfl⟩ := turn.rendered
    exact ⟨front, cls, _, previous, back, rfl, rfl, last, first, entity, rest, parts, place,
      rendered, turns.readText last⟩
  · intro error mem
    obtain ⟨front, back, rfl⟩ := List.append_of_mem (Report.mem_entityErrors.1 mem)
    obtain ⟨first, entity, rest, parts, place, turn⟩ := turn_of_outcome ran
    refine ⟨first, entity, rest, parts, turn.entity_eq.symm, ?_, turn.tree_eq rfl⟩
    rw [place, List.getElem?_append_right (Nat.le_refl _), Nat.sub_self]
    rfl
  · exact fun first second pair => turns.overwrite_of_writesOver pair
  · intro warning mem
    rw [Outcome.filterMap_log] at mem
    exact turns.writesOver_of_overwrite mem
  · intro distinct
    rw [Outcome.filterMap_log]
    refine Outcome.nodup_overwrites ?_
    rw [turns.map_entity]
    exact distinct
  · rw [Outcome.filterMap_log]
    exact Nat.eq_sub_of_add_eq turns.length_overwrites

/-- A schema in which the second entity is written over the first, the third fails and the fourth is
bookkeeping. -/
def rewrittenAccounts : Schema :=
  .ofEntries [
    ("account", .mapping [("_attributes", .mapping [("phpName", .string "Account")]),
      ("old_name", .mapping [("type", .string "VARCHAR")])]),
    ("account_v2", .mapping [("_attributes", .mapping [("phpName", .string "Account")]),
      ("new_name", .mapping [("type", .string "VARCHAR")])]),
    ("broken", .mapping []),
    ("_meta", .mapping [])]

theorem finalState_rewrittenAccounts :
    ∃ outcomes, (run ⟨"schema.yml", "demo.model", "out"⟩ rewrittenAccounts .empty).result =
        .ok outcomes ∧
      (Outcome.log outcomes).filterMap Event.overwrite? = [⟨"account_v2", "account", "Account"⟩] ∧
      FinalState ⟨"schema.yml", "demo.model", "out"⟩ rewrittenAccounts .empty outcomes := by
  have ran : ∃ outcomes, (run ⟨"schema.yml", "demo.model", "out"⟩ rewrittenAccounts .empty).result =
      .ok outcomes ∧ (Outcome.log outcomes).filterMap Event.overwrite? =
        [⟨"account_v2", "account", "Account"⟩] := ⟨_, rfl, by decide⟩
  obtain ⟨outcomes, ran, warnings⟩ := ran
  exact ⟨outcomes, ran, warnings, finalState_of_run ran⟩

end SchemaClasses
