/-
Which columns become fields.

A field is made from one column and carries it along, so all there is to
know of a field follows from what making one from its column checks. The
fields of an entity stand in the order of their columns, each column
gives at most one, and no two fields have one name: the later column is
the one that goes without.
-/
import SchemaClasses.Class.Field
import SchemaClasses.Proofs.Value.Lookup

namespace SchemaClasses

/-- The vocabulary has a name exactly if it has a category for it. -/
theorem mem_columnTypes_iff {name : String} :
    name ∈ columnTypes.map Prod.fst ↔ ∃ category, category? name = some category := by
  have distinct : (columnTypes.map Prod.fst).Nodup := by decide
  rw [List.mem_map]
  constructor
  · rintro ⟨⟨_, category⟩, mem, rfl⟩
    exact ⟨category, (lookup_eq_some_iff_mem distinct).2 mem⟩
  · rintro ⟨category, found⟩
    exact ⟨(name, category), (lookup_eq_some_iff_mem distinct).1 found, rfl⟩

/-- The name of a column is the key of its definition. -/
theorem Property.name_ofDefinition (name : String) (definition : Value) :
    (Property.ofDefinition name definition).name = name := by
  unfold Property.ofDefinition
  split
  · rfl
  · rfl
  · rfl

namespace Field

-- ======================================================== one column

/-- When a column, looked at on its own, gives a field, and which. -/
theorem ofProperty_eq_ok_iff {property : Property} {field : Field} :
    ofProperty property = .ok field ↔
      property.nonMapping = none ∧
        Naming.isIdentifier (Naming.camelCase property.name) = true ∧
          ∃ category, categoryOf property = .ok category ∧
            field = ⟨property, Naming.camelCase property.name, category.fieldType⟩ := by
  cases nonMapping : property.nonMapping with
  | some definition =>
      simp [ofProperty, nonMapping, bind, Except.bind, throw, throwThe, MonadExceptOf.throw]
  | none =>
      cases found : categoryOf property with
      | error fault => simp [ofProperty, nonMapping, found, bind, Except.bind]
      | ok category =>
          cases identifier : Naming.isIdentifier (Naming.camelCase property.name) with
          | false =>
              simp [ofProperty, nonMapping, found, identifier, bind, Except.bind, throw,
                throwThe, MonadExceptOf.throw]
          | true =>
              simp [ofProperty, nonMapping, found, identifier, bind, Except.bind, pure,
                Except.pure, eq_comm]

/-- A column that is kept with what defines it gives none. -/
theorem ofProperty_of_nonMapping {property : Property} {definition : Value}
    (h : property.nonMapping = some definition) :
    ofProperty property = .error (.notAMapping definition.kind) := by
  unfold ofProperty
  rw [h]
  rfl

/-- A column whose type is of no category gives none. -/
theorem ofProperty_of_categoryOf {property : Property} {fault : FieldFault}
    (nonMapping : property.nonMapping = none) (h : categoryOf property = .error fault) :
    ofProperty property = .error fault := by
  unfold ofProperty
  rw [nonMapping, h]
  rfl

/-- A column whose name in camel case is no identifier gives none. -/
theorem ofProperty_of_name {property : Property} {category : Category}
    (nonMapping : property.nonMapping = none) (type : categoryOf property = .ok category)
    (h : Naming.isIdentifier (Naming.camelCase property.name) = false) :
    ofProperty property = .error (.invalidIdentifier (Naming.camelCase property.name)) := by
  simp [ofProperty, nonMapping, type, h, bind, Except.bind, throw, throwThe, MonadExceptOf.throw]

/-- What can be wrong with the type of a column. -/
theorem categoryOf_error_cases {property : Property} {fault : FieldFault}
    (h : categoryOf property = .error fault) :
    fault = .missingType ∨ (∃ text, fault = .nonStringType text) ∨
      ∃ name, fault = .unknownType name := by
  unfold categoryOf at h
  split at h
  · cases h
    exact .inl rfl
  · cases h
    exact .inl rfl
  · split at h
    · cases h
    · cases h
      exact .inr (.inr ⟨_, rfl⟩)
  · cases h
    exact .inr (.inl ⟨_, rfl⟩)

/-- What can be wrong with a column that is looked at on its own. -/
theorem ofProperty_error_cases {property : Property} {fault : FieldFault}
    (h : ofProperty property = .error fault) :
    (∃ found, fault = .notAMapping found) ∨ categoryOf property = .error fault ∨
      Naming.isIdentifier (Naming.camelCase property.name) = false ∧
        fault = .invalidIdentifier (Naming.camelCase property.name) := by
  cases nonMapping : property.nonMapping with
  | some definition =>
      rw [ofProperty_of_nonMapping nonMapping] at h
      cases h
      exact .inl ⟨_, rfl⟩
  | none =>
      cases found : categoryOf property with
      | error other =>
          rw [ofProperty_of_categoryOf nonMapping found] at h
          cases h
          exact .inr (.inl rfl)
      | ok category =>
          cases identifier : Naming.isIdentifier (Naming.camelCase property.name) with
          | false =>
              rw [ofProperty_of_name nonMapping found identifier] at h
              cases h
              exact .inr (.inr ⟨rfl, rfl⟩)
          | true =>
              rw [ofProperty_eq_ok_iff.2 ⟨nonMapping, identifier, category, found, rfl⟩] at h
              cases h

/-- On its own no column clashes with another. -/
theorem ofProperty_ne_duplicateIdentifier {property : Property} {identifier : String} :
    ofProperty property ≠ .error (.duplicateIdentifier identifier) := by
  intro alone
  rcases ofProperty_error_cases alone with ⟨_, eq⟩ | type | ⟨-, eq⟩
  · cases eq
  · rcases categoryOf_error_cases type with eq | ⟨_, eq⟩ | ⟨_, eq⟩ <;> cases eq
  · cases eq

/-- The fault of a column that cannot be called by its name tells the truth. -/
theorem isIdentifier_of_ofProperty_invalidIdentifier {property : Property} {identifier : String}
    (alone : ofProperty property = .error (.invalidIdentifier identifier)) :
    Naming.isIdentifier (Naming.camelCase property.name) = false := by
  rcases ofProperty_error_cases alone with ⟨_, eq⟩ | type | ⟨foreign, -⟩
  · cases eq
  · rcases categoryOf_error_cases type with eq | ⟨_, eq⟩ | ⟨_, eq⟩ <;> cases eq
  · exact foreign

/-- A field carries the column it was made from. -/
theorem property_of_ofProperty {property : Property} {field : Field}
    (h : ofProperty property = .ok field) : field.property = property := by
  obtain ⟨-, -, category, -, rfl⟩ := ofProperty_eq_ok_iff.1 h
  rfl

/-- A field has the camel case of its column's name. -/
theorem name_of_ofProperty {property : Property} {field : Field}
    (h : ofProperty property = .ok field) : field.name = Naming.camelCase property.name := by
  obtain ⟨-, -, category, -, rfl⟩ := ofProperty_eq_ok_iff.1 h
  rfl

/-- The name of a field is an identifier. -/
theorem isIdentifier_of_ofProperty {property : Property} {field : Field}
    (h : ofProperty property = .ok field) : Naming.isIdentifier field.name = true := by
  obtain ⟨-, identifier, category, -, rfl⟩ := ofProperty_eq_ok_iff.1 h
  exact identifier

/-- The type of a field is that of some category. -/
theorem type_of_ofProperty {property : Property} {field : Field}
    (h : ofProperty property = .ok field) : ∃ category : Category, field.type = category.fieldType := by
  obtain ⟨-, -, category, -, rfl⟩ := ofProperty_eq_ok_iff.1 h
  exact ⟨category, rfl⟩

-- ======================================================= one after others

/-- A name is taken if it is one of those of the fields. -/
theorem any_name_iff {earlier : List Field} {name : String} :
    earlier.any (·.name == name) = true ↔ name ∈ earlier.map (·.name) := by
  rw [List.any_eq_true, List.mem_map]
  simp only [beq_iff_eq]

/-- A column gives a field after others when it does on its own and the name is not taken. -/
theorem ofPropertyAfter_eq_ok_iff {earlier : List Field} {property : Property} {field : Field} :
    ofPropertyAfter earlier property = .ok field ↔
      ofProperty property = .ok field ∧ field.name ∉ earlier.map (·.name) := by
  cases made : ofProperty property with
  | error fault => simp [ofPropertyAfter, made, bind, Except.bind]
  | ok other =>
      by_cases taken : other.name ∈ earlier.map (·.name)
      · have any : earlier.any (·.name == other.name) = true := any_name_iff.2 taken
        simp only [ofPropertyAfter, made, bind, Except.bind, any, if_true]
        constructor
        · intro h
          cases h
        · rintro ⟨eq, free⟩
          cases eq
          exact absurd taken free
      · have any : earlier.any (·.name == other.name) = false :=
          Bool.eq_false_iff.2 fun h => taken (any_name_iff.1 h)
        simp only [ofPropertyAfter, made, bind, Except.bind, any, pure, Except.pure]
        constructor
        · intro h
          cases h
          exact ⟨rfl, taken⟩
        · rintro ⟨eq, -⟩
          cases eq
          rfl

/-- A column that gives no field on its own gives none after others. -/
theorem ofPropertyAfter_of_error {earlier : List Field} {property : Property} {fault : FieldFault}
    (h : ofProperty property = .error fault) : ofPropertyAfter earlier property = .error fault := by
  unfold ofPropertyAfter
  rw [h]
  rfl

/-- A column whose field would have the name of an earlier one gives none. -/
theorem ofPropertyAfter_of_taken {earlier : List Field} {property : Property} {field : Field}
    (h : ofProperty property = .ok field) (taken : field.name ∈ earlier.map (·.name)) :
    ofPropertyAfter earlier property = .error (.duplicateIdentifier field.name) := by
  have any : earlier.any (·.name == field.name) = true := any_name_iff.2 taken
  simp [ofPropertyAfter, h, any, bind, Except.bind, throw, throwThe, MonadExceptOf.throw]

-- ======================================================= all columns

/-- A column that gives a field puts it in front of the later ones, which come after it. -/
theorem ofProperties_cons_of_ok {entity : String} {earlier : List Field} {property : Property}
    {rest : List Property} {field : Field} (made : ofPropertyAfter earlier property = .ok field) :
    ofProperties entity earlier (property :: rest) =
      (field :: (ofProperties entity (earlier ++ [field]) rest).1,
        (ofProperties entity (earlier ++ [field]) rest).2) := by
  rw [ofProperties, made]

/-- A column that gives none puts its fault in front of the later ones. -/
theorem ofProperties_cons_of_error {entity : String} {earlier : List Field} {property : Property}
    {rest : List Property} {fault : FieldFault}
    (made : ofPropertyAfter earlier property = .error fault) :
    ofProperties entity earlier (property :: rest) =
      ((ofProperties entity earlier rest).1,
        ⟨entity, property.name, fault⟩ :: (ofProperties entity earlier rest).2) := by
  rw [ofProperties, made]

/-- The fields stand in the order of their columns. -/
theorem sublist_ofProperties (entity : String) :
    ∀ (properties : List Property) (earlier : List Field),
      ((ofProperties entity earlier properties).1.map (·.property)).Sublist properties := by
  intro properties
  induction properties with
  | nil => intro earlier; exact List.Sublist.refl []
  | cons property rest ih =>
      intro earlier
      cases made : ofPropertyAfter earlier property with
      | error fault =>
          rw [ofProperties_cons_of_error made]
          exact (ih earlier).cons property
      | ok field =>
          have origin : field.property = property :=
            property_of_ofProperty (ofPropertyAfter_eq_ok_iff.1 made).1
          rw [ofProperties_cons_of_ok made, List.map_cons, origin]
          exact (ih (earlier ++ [field])).cons_cons property

/-- Every field is what its column gives on its own. -/
theorem ofProperty_of_mem_ofProperties (entity : String) :
    ∀ (properties : List Property) (earlier : List Field),
      ∀ field ∈ (ofProperties entity earlier properties).1,
        ofProperty field.property = .ok field := by
  intro properties
  induction properties with
  | nil =>
      intro earlier field mem
      cases mem
  | cons property rest ih =>
      intro earlier field mem
      cases made : ofPropertyAfter earlier property with
      | error fault =>
          rw [ofProperties_cons_of_error made] at mem
          exact ih earlier field mem
      | ok first =>
          rw [ofProperties_cons_of_ok made] at mem
          rcases List.mem_cons.1 mem with rfl | later
          · have own := (ofPropertyAfter_eq_ok_iff.1 made).1
            rwa [property_of_ofProperty own]
          · exact ih (earlier ++ [first]) field later

/-- The fields have names of their own, none of them that of an earlier field. -/
theorem nodup_ofProperties (entity : String) :
    ∀ (properties : List Property) (earlier : List Field),
      (earlier.map (·.name)).Nodup →
        ((earlier ++ (ofProperties entity earlier properties).1).map (·.name)).Nodup := by
  intro properties
  induction properties with
  | nil =>
      intro earlier distinct
      simpa [ofProperties] using distinct
  | cons property rest ih =>
      intro earlier distinct
      cases made : ofPropertyAfter earlier property with
      | error fault =>
          rw [ofProperties_cons_of_error made]
          exact ih earlier distinct
      | ok field =>
          rw [ofProperties_cons_of_ok made]
          have free := (ofPropertyAfter_eq_ok_iff.1 made).2
          have extended : ((earlier ++ [field]).map (·.name)).Nodup := by
            rw [List.map_append, List.map_singleton, List.nodup_append]
            refine ⟨distinct, by simp, fun a ha b hb eq => ?_⟩
            rw [List.mem_singleton] at hb
            exact free (hb ▸ eq ▸ ha)
          have later := ih (earlier ++ [field]) extended
          rwa [List.append_assoc, List.singleton_append] at later

/-- Every column gives either a field or a fault. -/
theorem perm_ofProperties (entity : String) (properties : List Property) (earlier : List Field) :
    ((ofProperties entity earlier properties).1.map (·.property.name) ++
      (ofProperties entity earlier properties).2.map (·.property)).Perm
        (properties.map (·.name)) := by
  induction properties generalizing earlier with
  | nil => exact List.Perm.refl []
  | cons property rest ih =>
      cases made : ofPropertyAfter earlier property with
      | error fault =>
          rw [ofProperties_cons_of_error made]
          exact List.perm_middle.trans ((ih earlier).cons property.name)
      | ok field =>
          have origin : field.property = property :=
            property_of_ofProperty (ofPropertyAfter_eq_ok_iff.1 made).1
          rw [ofProperties_cons_of_ok made, List.map_cons, origin]
          exact (ih (earlier ++ [field])).cons property.name

/-- Of columns behind others, the fields and the faults come behind those of the others. -/
theorem ofProperties_append (entity : String) (front back : List Property) (earlier : List Field) :
    ofProperties entity earlier (front ++ back) =
      ((ofProperties entity earlier front).1 ++
          (ofProperties entity (earlier ++ (ofProperties entity earlier front).1) back).1,
        (ofProperties entity earlier front).2 ++
          (ofProperties entity (earlier ++ (ofProperties entity earlier front).1) back).2) := by
  induction front generalizing earlier with
  | nil =>
      rw [ofProperties, List.append_nil]
      rfl
  | cons property rest ih =>
      rw [List.cons_append]
      cases made : ofPropertyAfter earlier property with
      | error fault =>
          rw [ofProperties_cons_of_error made, ofProperties_cons_of_error made, ih]
          rfl
      | ok field =>
          rw [ofProperties_cons_of_ok made, ofProperties_cons_of_ok made, ih]
          simp only [List.append_assoc, List.cons_append, List.nil_append]

/-- The faults are those of the columns that give no field after the columns before them, and each
names its column. -/
theorem mem_ofProperties_iff {entity : String} {properties : List Property} {earlier : List Field}
    {error : FieldError} :
    error ∈ (ofProperties entity earlier properties).2 ↔
      ∃ front property back fault, properties = front ++ property :: back ∧
        ofPropertyAfter (earlier ++ (ofProperties entity earlier front).1) property =
          .error fault ∧
        error = ⟨entity, property.name, fault⟩ := by
  constructor
  · intro mem
    induction properties generalizing earlier with
    | nil => cases mem
    | cons property rest ih =>
        cases made : ofPropertyAfter earlier property with
        | error fault =>
            rw [ofProperties_cons_of_error made] at mem
            rcases List.mem_cons.1 mem with rfl | later
            · exact ⟨[], property, rest, fault, rfl, by rwa [ofProperties, List.append_nil], rfl⟩
            · obtain ⟨front, other, back, fault, rfl, found, rfl⟩ := ih later
              refine ⟨property :: front, other, back, fault, rfl, ?_, rfl⟩
              rwa [ofProperties_cons_of_error made]
        | ok field =>
            rw [ofProperties_cons_of_ok made] at mem
            obtain ⟨front, other, back, fault, rfl, found, rfl⟩ := ih mem
            refine ⟨property :: front, other, back, fault, rfl, ?_, rfl⟩
            rwa [ofProperties_cons_of_ok made, ← List.singleton_append, ← List.append_assoc]
  · rintro ⟨front, property, back, fault, rfl, found, rfl⟩
    rw [ofProperties_append, ofProperties_cons_of_error found]
    exact List.mem_append_right _ List.mem_cons_self

/-- A fault names the entity that the column is one of. -/
theorem entity_of_mem_ofProperties {entity : String} {properties : List Property}
    {earlier : List Field} {error : FieldError}
    (mem : error ∈ (ofProperties entity earlier properties).2) : error.entity = entity := by
  obtain ⟨front, property, back, fault, -, -, rfl⟩ := mem_ofProperties_iff.1 mem
  rfl

/-- Columns without a field leave nothing behind: with any of them away, the fields are the same,
and so are the faults but for those of the columns that are away. -/
theorem ofProperties_filter (entity : String) (drop : String → Bool) (properties : List Property)
    (earlier : List Field)
    (kept : ∀ field ∈ (ofProperties entity earlier properties).1, drop field.property.name = false) :
    ofProperties entity earlier (properties.filter fun property => !drop property.name) =
      ((ofProperties entity earlier properties).1,
        (ofProperties entity earlier properties).2.filter fun error => !drop error.property) := by
  induction properties generalizing earlier with
  | nil => rfl
  | cons property rest ih =>
      cases made : ofPropertyAfter earlier property with
      | error fault =>
          rw [ofProperties_cons_of_error made] at kept ⊢
          by_cases away : drop property.name = true
          · rw [List.filter_cons_of_neg (by simp [away]), ih earlier kept,
              List.filter_cons_of_neg (by simp [away])]
          · rw [List.filter_cons_of_pos (by simp [away]), ofProperties_cons_of_error made,
              ih earlier kept, List.filter_cons_of_pos (by simp [away])]
      | ok field =>
          rw [ofProperties_cons_of_ok made] at kept ⊢
          have origin : field.property = property :=
            property_of_ofProperty (ofPropertyAfter_eq_ok_iff.1 made).1
          have stays : drop property.name = false := origin ▸ kept field List.mem_cons_self
          rw [List.filter_cons_of_pos (by simp [stays]), ofProperties_cons_of_ok made,
            ih (earlier ++ [field]) fun other mem => kept other (List.mem_cons_of_mem field mem)]

end Field

-- ============================================ the fields of an entity

/-- The fields of the class that an entity becomes. -/
def Entity.fields (entity : Entity) : List Field :=
  (Field.ofProperties entity.name [] entity.properties).1

namespace Entity

variable {entity : Entity}

/-- The fields of an entity stand in the order of its columns. -/
theorem sublist_fields : (entity.fields.map (·.property)).Sublist entity.properties :=
  Field.sublist_ofProperties entity.name entity.properties []

/-- Every field of an entity is what its column gives on its own. -/
theorem ofProperty_of_mem_fields {field : Field} (mem : field ∈ entity.fields) :
    Field.ofProperty field.property = .ok field :=
  Field.ofProperty_of_mem_ofProperties entity.name entity.properties [] field mem

/-- No two fields of an entity have one name. -/
theorem nodup_names_fields : (entity.fields.map (·.name)).Nodup := by
  have distinct := Field.nodup_ofProperties entity.name entity.properties [] List.nodup_nil
  rwa [List.nil_append] at distinct

/-- Where no two columns have one name, no two fields come from columns of one name. -/
theorem nodup_columns_fields (distinct : (entity.properties.map (·.name)).Nodup) :
    (entity.fields.map (·.property.name)).Nodup := by
  have names : (entity.fields.map (·.property.name)).Sublist (entity.properties.map (·.name)) := by
    have fields : (entity.fields.map (·.property)).Sublist entity.properties := sublist_fields
    have := fields.map (·.name)
    rwa [List.map_map] at this
  exact names.nodup distinct

end Entity

end SchemaClasses
