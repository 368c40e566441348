/-
Which entities have a class.

Whether there is a class is settled by what the definition of the entity
says under two keys, and by nothing else in it: its attributes must be a
mapping, the class name in them a string, and that string an identifier.
What stands in the way first is the reason why there is no class.

The verdicts (`Verdict`) are given on definitions as a document has
them, one rule for each. Every definition has a verdict, and it is what
the entity comes to (`nameOf_ofDefinition`), whether its name makes
bookkeeping of all that it holds or only of the keys with an underscore:
the key of the attributes has one itself, so they are found either way.
So no two rules ever apply with different verdicts, and columns, of
whatever shape, have no say (`render_of_verdict_iff`).
-/
import SchemaClasses.Generation.Run
import SchemaClasses.Proofs.Class.Source
import SchemaClasses.Proofs.Schema.Distinct
import SchemaClasses.Proofs.Value.Lookup

namespace SchemaClasses

-- ============================================================= verdicts

/-- The attributes in a definition are a mapping. -/
def Value.HasAttributes (definition : Value) (attributes : Entries) : Prop :=
  ∃ entries : Entries, definition = .mapping entries ∧
    entries.get? "_attributes" = some (.mapping attributes)

/-- The class name in the attributes of a definition is a string. -/
def Value.AsksFor (definition : Value) (className : String) : Prop :=
  ∃ attributes, definition.HasAttributes attributes ∧
    attributes.get? "phpName" = some (.string className)

/-- What a definition comes to: a class name, or the reason why there is none. -/
inductive Verdict (definition : Value) : Except ClassFault String → Prop
  | otherKind (other : definition.kind ∈ [.boolean, .number, .string, .sequence]) :
      Verdict definition (.error (.notAMapping definition.kind))
  | noAttributes (shaped : definition.kind ∈ [.null, .mapping])
      (absent : ∀ attributes, ¬definition.HasAttributes attributes) :
      Verdict definition (.error .missingAttributes)
  | noName {attributes : Entries} (has : definition.HasAttributes attributes)
      (absent : ∀ className, ¬definition.AsksFor className) :
      Verdict definition (.error .missingOutputTypeName)
  | noIdentifier {className : String} (asks : definition.AsksFor className)
      (invalid : Naming.isIdentifier className = false) :
      Verdict definition (.error (.invalidOutputTypeName className))
  | named {className : String} (asks : definition.AsksFor className)
      (valid : Naming.isIdentifier className = true) : Verdict definition (.ok className)

-- ======================================================== what is found

/-- The attributes are among what is said about an entity, whatever the entity is called. -/
theorem Entity.attributes?_ofDefinition (name : String) (entries : Entries) :
    (Entity.ofDefinition name (.mapping entries)).attributes? =
      (entries.get? "_attributes").bind Value.mapping? := by
  cases generatable : Naming.isGeneratable name with
  | true =>
      simp only [Entity.ofDefinition, generatable, if_true, Entity.attributes?, Entries.get?]
      rw [@lookup_filter_key _ (fun key => !Naming.isGeneratable key) "_attributes" (by decide)]
  | false =>
      simp [Entity.ofDefinition, generatable, Entity.attributes?]

section

variable (name : String) {definition : Value} {attributes : Entries} {className : String}

/-- A definition with attributes is of a kind that can say something. -/
theorem Value.HasAttributes.shaped (has : definition.HasAttributes attributes) :
    definition.kind ∈ [.null, .mapping] := by
  obtain ⟨entries, rfl, -⟩ := has
  simp [Value.kind]

/-- What an entity is said to have for attributes is what its definition has. -/
theorem Entity.attributes?_eq_some_iff :
    (Entity.ofDefinition name definition).attributes? = some attributes ↔
      definition.HasAttributes attributes := by
  constructor
  · intro found
    cases definition with
    | mapping entries =>
        rw [Entity.attributes?_ofDefinition, Option.bind_eq_some_iff] at found
        obtain ⟨value, found, isMapping⟩ := found
        cases value with
        | mapping => cases isMapping; exact ⟨entries, rfl, found⟩
        | _ => cases isMapping
    | _ => cases found
  · rintro ⟨entries, rfl, found⟩
    rw [Entity.attributes?_ofDefinition, found]
    rfl

/-- The class name that an entity asks for is the one its definition asks for. -/
theorem Entity.outputTypeName?_eq_some_iff :
    (Entity.ofDefinition name definition).outputTypeName? = some className ↔
      definition.AsksFor className := by
  unfold Entity.outputTypeName? Value.AsksFor
  simp only [bind, Option.bind_eq_some_iff, Entity.attributes?_eq_some_iff]
  refine exists_congr fun attributes => and_congr_right fun _ => ?_
  constructor
  · rintro ⟨value, found, isString⟩
    cases value with
    | string => cases isString; exact found
    | _ => cases isString
  · exact fun found => ⟨.string className, found, rfl⟩

/-- A definition that can say something is not kept. -/
theorem Entity.nonMapping_eq_none (shaped : definition.kind ∈ [.null, .mapping]) :
    (Entity.ofDefinition name definition).nonMapping = none := by
  cases definition with
  | null => rfl
  | mapping =>
      cases generatable : Naming.isGeneratable name <;> simp [Entity.ofDefinition, generatable]
  | _ => simp [Value.kind] at shaped

/-- A definition of any other kind is kept. -/
theorem Entity.nonMapping_eq_some
    (other : definition.kind ∈ [.boolean, .number, .string, .sequence]) :
    (Entity.ofDefinition name definition).nonMapping = some definition := by
  cases definition with
  | null | mapping => simp [Value.kind] at other
  | _ => rfl

/-- A definition that asks for a class name is found to have attributes and to ask for it. -/
theorem Entity.found_of_asksFor (asks : definition.AsksFor className) :
    (Entity.ofDefinition name definition).nonMapping = none ∧
      (Entity.ofDefinition name definition).attributes?.isNone = false ∧
        (Entity.ofDefinition name definition).outputTypeName? = some className := by
  have found := (outputTypeName?_eq_some_iff name).2 asks
  obtain ⟨attributes, has, -⟩ := asks
  refine ⟨nonMapping_eq_none name has.shaped, ?_, found⟩
  rw [(attributes?_eq_some_iff name).2 has]
  rfl

-- ============================================== what entities come to

/-- An entity has the class name, or the fault, that is the verdict on its definition. -/
theorem Class.nameOf_of_verdict {outcome : Except ClassFault String}
    (verdict : Verdict definition outcome) :
    nameOf (Entity.ofDefinition name definition) = outcome := by
  cases verdict with
  | otherKind other =>
      simp [nameOf, Entity.nonMapping_eq_some name other, bind, Except.bind, throw, throwThe,
        MonadExceptOf.throw]
  | noAttributes shaped absent =>
      have missing : (Entity.ofDefinition name definition).attributes? = none :=
        Option.eq_none_iff_forall_ne_some.2 fun attributes found =>
          absent attributes ((Entity.attributes?_eq_some_iff name).1 found)
      simp [nameOf, Entity.nonMapping_eq_none name shaped, missing, bind, Except.bind, throw,
        throwThe, MonadExceptOf.throw]
  | noName has absent =>
      have missing : (Entity.ofDefinition name definition).outputTypeName? = none :=
        Option.eq_none_iff_forall_ne_some.2 fun className found =>
          absent className ((Entity.outputTypeName?_eq_some_iff name).1 found)
      simp [nameOf, Entity.nonMapping_eq_none name has.shaped,
        (Entity.attributes?_eq_some_iff name).2 has, missing, throw, throwThe,
        MonadExceptOf.throw]
  | noIdentifier asks invalid =>
      obtain ⟨nonMapping, attributes, found⟩ := Entity.found_of_asksFor name asks
      simp [nameOf, nonMapping, attributes, found, invalid, throw, throwThe, MonadExceptOf.throw]
  | named asks valid =>
      obtain ⟨nonMapping, attributes, found⟩ := Entity.found_of_asksFor name asks
      simp [nameOf, nonMapping, attributes, found, valid, pure, Except.pure]

/-- Every definition has a verdict. -/
theorem Verdict.total (definition : Value) : ∃ outcome, Verdict definition outcome := by
  by_cases shaped : definition.kind ∈ [.null, .mapping]
  · by_cases attributed : ∃ attributes, definition.HasAttributes attributes
    · obtain ⟨attributes, has⟩ := attributed
      by_cases named : ∃ className, definition.AsksFor className
      · obtain ⟨className, asks⟩ := named
        cases valid : Naming.isIdentifier className with
        | false => exact ⟨_, .noIdentifier asks valid⟩
        | true => exact ⟨_, .named asks valid⟩
      · exact ⟨_, .noName has (not_exists.1 named)⟩
    · exact ⟨_, .noAttributes shaped (not_exists.1 attributed)⟩
  · refine ⟨_, .otherKind ?_⟩
    revert shaped
    cases definition.kind <;> decide

/-- What an entity comes to is the verdict on its definition, the only one. -/
theorem Class.nameOf_ofDefinition {outcome : Except ClassFault String} :
    nameOf (Entity.ofDefinition name definition) = outcome ↔ Verdict definition outcome := by
  constructor
  · -- some verdict is right, and the entity comes to it, so it is this one
    obtain ⟨other, verdict⟩ := Verdict.total definition
    rintro rfl
    rw [nameOf_of_verdict name verdict]
    exact verdict
  · exact nameOf_of_verdict name

end

namespace Class

/-- The fault of a class, or its name, are those that its entity comes to. -/
theorem map_name_render (entity : Entity) (package : String) :
    (render entity package).map Class.name = nameOf entity := by
  unfold render
  cases nameOf entity with
  | error fault => rfl
  | ok name => rfl

/-- Only what a definition says of its attributes matters to what the entity comes to. -/
theorem nameOf_congr {entries others : Entries} (name : String)
    (same : others.get? "_attributes" = entries.get? "_attributes") :
    nameOf (Entity.ofDefinition name (.mapping others)) =
      nameOf (Entity.ofDefinition name (.mapping entries)) := by
  have shaped (entries : Entries) : (Value.mapping entries).kind ∈ [.null, .mapping] := by
    simp [Value.kind]
  simp only [nameOf, Entity.outputTypeName?, Entity.attributes?_ofDefinition, same,
    Entity.nonMapping_eq_none name (shaped _)]

/-- There is a class for an entity under the name that its definition asks for, and no class for
the reason that is the verdict on the definition, whatever else the definition holds. -/
theorem render_iff_verdict (name : String) (definition : Value) (package : String) :
    (∀ outcome, (render (Entity.ofDefinition name definition) package).map Class.name = outcome ↔
        Verdict definition outcome) ∧
      (∀ cls, render (Entity.ofDefinition name definition) package = .ok cls →
        cls.entity = name) ∧
      (∀ fault, render (Entity.ofDefinition name definition) package = .error fault →
        ∀ directory tree, emit (Entity.ofDefinition name definition) package directory tree =
          .error ⟨name, .noClass fault⟩) ∧
      ∀ entries others : Entries, definition = .mapping entries →
        others.get? "_attributes" = entries.get? "_attributes" →
          (render (Entity.ofDefinition name (.mapping others)) package).map Class.name =
            (render (Entity.ofDefinition name definition) package).map Class.name := by
  refine ⟨?_, ?_, ?_, ?_⟩
  · intro outcome
    rw [map_name_render]
    exact nameOf_ofDefinition name
  · intro cls rendered
    rw [entity_of_render rendered]
    exact Entity.name_ofDefinition name definition
  · intro fault failed directory tree
    rw [emit, failed, Entity.name_ofDefinition]
  · intro entries others isMapping same
    rw [isMapping, map_name_render, map_name_render]
    exact nameOf_congr name same

/-- A number of beds, where a column should be, leaves the ward its class; a ward whose class
could not be called what it asks for has none. -/
theorem render_verdict_ward :
    (render (Entity.ofDefinition "ward" (.mapping [("beds", .number (.whole 4)),
        ("_attributes", .mapping [("phpName", .string "Ward")])])) "demo.model").map Class.name =
        .ok "Ward" ∧
      emit (Entity.ofDefinition "ward" (.mapping
          [("_attributes", .mapping [("phpName", .string "2nd")])])) "demo.model" "out" .empty =
        .error ⟨"ward", .noClass (.invalidOutputTypeName "2nd")⟩ := by
  constructor
  · obtain ⟨outcomes, -, -, others⟩ := render_iff_verdict "ward"
      (.mapping [("_attributes", .mapping [("phpName", .string "Ward")])]) "demo.model"
    rw [others _ _ rfl (by rfl)]
    exact (outcomes _).2 (.named ⟨_, ⟨_, rfl, by rfl⟩, by rfl⟩ (by decide))
  · obtain ⟨-, -, failure, -⟩ := render_iff_verdict "ward"
      (.mapping [("_attributes", .mapping [("phpName", .string "2nd")])]) "demo.model"
    exact failure _ rfl "out" .empty

end Class

end SchemaClasses
