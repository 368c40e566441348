/-
What becomes of each column of a document.

The document alone decides it: the key of the column, its value, and the
columns before it. There are six rules, asked in a fixed order, and each
has a fault of its own. The first rule that applies says why a column is
left out, and a column that no rule applies to is a field.

All rules but the last look at the column alone. The last one keeps
names apart: a name is taken once an earlier column has passed the
others with it. That column need not have become a field itself, but
then its name was taken before, so the names of the fields made so far
are just the names that are taken. This is what the induction over the
columns carries.
-/
import SchemaClasses.Proofs.Schema.Distinct

namespace SchemaClasses

/-- A column as a document has it. -/
structure RawColumn where
  key : String
  value : Value

namespace RawColumn

-- ============================================================ columns

/-- The columns among the entries of an entity, in order: those with a key that code can be
generated for. -/
def ofEntries (entries : Entries) : List RawColumn :=
  (entries.filter fun (key, _) => Naming.isGeneratable key).map fun (key, value) => ⟨key, value⟩

/-- What the column says its type is, of whatever kind. -/
def type? (column : RawColumn) : Option Value := column.value.mapping?.bind (Entries.get? · "type")

/-- What the column is called as a field. -/
def fieldName (column : RawColumn) : String := Naming.camelCase column.key

/-- The type that the vocabulary has for the values of the column. -/
def fieldType? (column : RawColumn) : Option FieldType :=
  (column.type?.bind Value.string?).bind fun name => (columnTypes.lookup name).map (·.fieldType)

/-- The column of a schema that the column of a document describes. -/
def property (column : RawColumn) : Property := Property.ofDefinition column.key column.value

@[simp] theorem name_property (column : RawColumn) : column.property.name = column.key :=
  Property.name_ofDefinition column.key column.value

-- ============================================================== rules

/-- A rule: the fault of a column that it applies to. -/
abbrev Rule := RawColumn → Option FieldFault

/-- The value is of a kind that says nothing about a column. -/
def otherKind : Rule := fun column =>
  if column.value.kind ∈ [.boolean, .number, .string, .sequence] then
    some (.notAMapping column.value.kind)
  else none

/-- The value is null or has no type, or a null one. -/
def noType : Rule := fun column =>
  match column.type? with
  | none | some .null => some .missingType
  | some _ => none

/-- The type is no string. -/
def otherType : Rule := fun column =>
  match column.type? with
  | none | some (.string _) => none
  | some type => some (.nonStringType type.text)

/-- The type is a string that the vocabulary does not have. -/
def unknownType : Rule := fun column =>
  match column.type? with
  | some (.string name) =>
    if name ∈ columnTypes.map Prod.fst then none else some (.unknownType name)
  | _ => none

/-- The name that the field would have is no identifier. -/
def invalidName : Rule := fun column =>
  if Naming.isIdentifier column.fieldName then none
  else some (.invalidIdentifier column.fieldName)

/-- The rules that look at the column alone, in the order they are asked in. -/
def ownRules : List Rule := [otherKind, noType, otherType, unknownType, invalidName]

/-- What the first of these rules that applies says; nothing, where the column passes them all. -/
def ownFault? (column : RawColumn) : Option FieldFault := ownRules.findSome? (· column)

/-- The name that the field would have is that of an earlier column that passes the other rules. -/
def takenName (earlier : List RawColumn) : Rule := fun column =>
  if ∃ other ∈ earlier, other.ownFault? = none ∧ other.fieldName = column.fieldName then
    some (.duplicateIdentifier column.fieldName)
  else none

/-- What the first of all rules that applies to a column after others says. -/
def fault? (earlier : List RawColumn) (column : RawColumn) : Option FieldFault :=
  (ownRules ++ [takenName earlier]).findSome? (· column)

/-- Each of the columns that come after `earlier`, with what the rules say of it. -/
def ruled (earlier : List RawColumn) : List RawColumn → List (RawColumn × Option FieldFault)
  | [] => []
  | column :: rest => (column, column.fault? earlier) :: ruled (earlier ++ [column]) rest

/-- The columns that no rule applies to, in order. -/
def kept (earlier columns : List RawColumn) : List RawColumn :=
  ((ruled earlier columns).filter (·.2.isNone)).map Prod.fst

/-- What is said of the other columns, in order. -/
def leftOut (entity : String) (earlier columns : List RawColumn) : List FieldError :=
  (ruled earlier columns).filterMap fun (column, fault?) =>
    fault?.map fun fault => ⟨entity, column.key, fault⟩

variable {column : RawColumn} {earlier rest : List RawColumn} {entity : String}

theorem kept_cons_of_fault {fault : FieldFault} (h : column.fault? earlier = some fault) :
    kept earlier (column :: rest) = kept (earlier ++ [column]) rest := by
  rw [kept, ruled, h, List.filter_cons_of_neg (by simp)]
  rfl

theorem kept_cons_of_none (h : column.fault? earlier = none) :
    kept earlier (column :: rest) = column :: kept (earlier ++ [column]) rest := by
  rw [kept, ruled, h, List.filter_cons_of_pos (by simp)]
  rfl

theorem leftOut_cons_of_fault {fault : FieldFault} (h : column.fault? earlier = some fault) :
    leftOut entity earlier (column :: rest) =
      ⟨entity, column.key, fault⟩ :: leftOut entity (earlier ++ [column]) rest := by
  rw [leftOut, ruled, h]
  exact List.filterMap_cons_some rfl

theorem leftOut_cons_of_none (h : column.fault? earlier = none) :
    leftOut entity earlier (column :: rest) = leftOut entity (earlier ++ [column]) rest := by
  rw [leftOut, ruled, h]
  exact List.filterMap_cons_none rfl

/-- The fault that a column has on its own is what all rules say of it. -/
theorem fault?_of_own {fault : FieldFault} (h : column.ownFault? = some fault) :
    column.fault? earlier = some fault := by
  rw [fault?, List.findSome?_append]
  exact Option.or_eq_some_iff.2 (.inl h)

/-- Of a column without a fault of its own only the last rule says something. -/
theorem fault?_of_none (h : column.ownFault? = none) :
    column.fault? earlier = takenName earlier column := by
  have own : ownRules.findSome? (· column) = none := h
  rw [fault?, List.findSome?_append, own, Option.none_or, List.findSome?_singleton]

-- ==================================================== one column alone

/-- The field of a column that passes the rules. -/
def field? (column : RawColumn) : Option Field :=
  column.fieldType?.map fun type => ⟨column.property, column.fieldName, type⟩

/-- The rules on types say what is wrong with the type of a column, and where they say nothing the
vocabulary has the type. -/
theorem categoryOf_eq {property : Property} (same : property.rawType? = column.type?) :
    match [noType, otherType, unknownType].findSome? (· column) with
    | some fault => Field.categoryOf property = .error fault
    | none => ∃ category, Field.categoryOf property = .ok category ∧
        column.fieldType? = some category.fieldType := by
  unfold Field.categoryOf
  rw [same]
  cases found : column.type? with
  | none => simp [noType, found]
  | some type =>
      cases type with
      | string name =>
          by_cases listed : name ∈ columnTypes.map Prod.fst
          · obtain ⟨category, known⟩ := mem_columnTypes_iff.1 listed
            have type : column.fieldType? = some category.fieldType := by
              rw [fieldType?, found]
              exact congrArg (Option.map Category.fieldType) known
            have silent : [noType, otherType, unknownType].findSome? (· column) = none := by
              simp [noType, otherType, unknownType, found, listed]
            rw [silent]
            simp only [known]
            exact ⟨category, rfl, type⟩
          · have unknown : category? name = none := by
              rw [Option.eq_none_iff_forall_ne_some]
              exact fun category known => listed (mem_columnTypes_iff.2 ⟨category, known⟩)
            simp [noType, otherType, unknownType, found, listed, unknown]
      | null => simp [noType, found]
      | bool b => simp [noType, otherType, found]
      | number n => simp [noType, otherType, found]
      | sequence items => simp [noType, otherType, found]
      | mapping members => simp [noType, otherType, found]

/-- A column is kept with what defines it if the rule on kinds applies; if not, its type is that of
the document. -/
theorem otherKind_cases (column : RawColumn) :
    (otherKind column = some (.notAMapping column.value.kind) ∧
        column.property.nonMapping = some column.value) ∨
      (otherKind column = none ∧ column.property.nonMapping = none ∧
        column.property.rawType? = column.type?) := by
  obtain ⟨key, value⟩ := column
  cases value with
  | null => exact .inr ⟨rfl, rfl, rfl⟩
  | mapping members => exact .inr ⟨rfl, rfl, rfl⟩
  | bool b => exact .inl ⟨rfl, rfl⟩
  | number n => exact .inl ⟨rfl, rfl⟩
  | string s => exact .inl ⟨rfl, rfl⟩
  | sequence items => exact .inl ⟨rfl, rfl⟩

/-- What becomes of a column alone is what the rules that look at it alone say. -/
theorem ofProperty_eq (column : RawColumn) :
    match column.ownFault? with
    | some fault => Field.ofProperty column.property = .error fault
    | none => ∃ field, Field.ofProperty column.property = .ok field ∧
        column.field? = some field := by
  have rules : column.ownFault? = ((otherKind column).or
      ([noType, otherType, unknownType].findSome? (· column))).or (invalidName column) := by
    rw [ownFault?, show ownRules = [otherKind] ++ [noType, otherType, unknownType] ++ [invalidName]
      from rfl, List.findSome?_append, List.findSome?_append, List.findSome?_singleton,
      List.findSome?_singleton]
  rw [rules]
  rcases column.otherKind_cases with ⟨applies, nonMapping⟩ | ⟨silent, nonMapping, type⟩
  · rw [applies]
    exact Field.ofProperty_of_nonMapping nonMapping
  · have category := categoryOf_eq type
    rw [silent, Option.none_or]
    cases said : [noType, otherType, unknownType].findSome? (· column) with
    | some fault =>
        rw [said] at category
        exact Field.ofProperty_of_categoryOf nonMapping category
    | none =>
        rw [said] at category
        obtain ⟨category, known, type⟩ := category
        rw [Option.none_or, invalidName]
        by_cases identifier : Naming.isIdentifier column.fieldName = true
        · rw [if_pos identifier]
          refine ⟨⟨column.property, column.fieldName, category.fieldType⟩, ?_, ?_⟩
          · refine Field.ofProperty_eq_ok_iff.2 ⟨nonMapping, ?_, category, known, ?_⟩
            · rw [name_property]
              exact identifier
            · rw [name_property]
              rfl
          · rw [field?, type]
            rfl
        · rw [if_neg identifier]
          have foreign := Field.ofProperty_of_name nonMapping known
            (by rw [name_property]; exact Bool.eq_false_iff.2 identifier)
          rw [name_property] at foreign
          exact foreign

-- ========================================================= one by one

/-- The names of the fields are those that the columns passing their own rules would have. -/
def Names (fields : List Field) (columns : List RawColumn) : Prop :=
  ∀ name, name ∈ fields.map (·.name) ↔
    ∃ column ∈ columns, column.ownFault? = none ∧ column.fieldName = name

variable {fields : List Field}

/-- A column with a fault of its own takes no name. -/
theorem Names.of_fault {fault : FieldFault} (names : Names fields earlier)
    (h : column.ownFault? = some fault) : Names fields (earlier ++ [column]) := by
  intro name
  rw [names name]
  simp [h]

/-- A column whose name is taken takes no other. -/
theorem Names.of_taken (names : Names fields earlier)
    (taken : ∃ other ∈ earlier, other.ownFault? = none ∧ other.fieldName = column.fieldName) :
    Names fields (earlier ++ [column]) := by
  intro name
  rw [names name]
  constructor
  · rintro ⟨other, mem, passes, eq⟩
    exact ⟨other, List.mem_append_left _ mem, passes, eq⟩
  · rintro ⟨other, mem, passes, eq⟩
    rcases List.mem_append.1 mem with before | last
    · exact ⟨other, before, passes, eq⟩
    · rw [List.mem_singleton] at last
      subst last
      exact eq ▸ taken

/-- A column that becomes a field takes its name. -/
theorem Names.concat {field : Field} (names : Names fields earlier)
    (passes : column.ownFault? = none) (named : field.name = column.fieldName) :
    Names (fields ++ [field]) (earlier ++ [column]) := by
  intro name
  rw [List.map_append, List.mem_append, names name, List.map_singleton, List.mem_singleton, named]
  constructor
  · rintro (⟨other, mem, own, eq⟩ | rfl)
    · exact ⟨other, List.mem_append_left _ mem, own, eq⟩
    · exact ⟨column, List.mem_append_right _ (List.mem_singleton.2 rfl), passes, rfl⟩
  · rintro ⟨other, mem, own, eq⟩
    rcases List.mem_append.1 mem with before | last
    · exact .inl ⟨other, before, own, eq⟩
    · rw [List.mem_singleton.1 last] at eq
      exact .inr eq.symm

/-- After fields that have the names of earlier columns, a column becomes what the rules say, and
the names are again those of the columns so far. -/
theorem ofPropertyAfter_eq (names : Names fields earlier) (column : RawColumn) :
    match column.fault? earlier with
    | some fault => Field.ofPropertyAfter fields column.property = .error fault ∧
        Names fields (earlier ++ [column])
    | none => ∃ field, Field.ofPropertyAfter fields column.property = .ok field ∧
        column.field? = some field ∧ Names (fields ++ [field]) (earlier ++ [column]) := by
  have own := column.ofProperty_eq
  cases said : column.ownFault? with
  | some fault =>
      rw [said] at own
      rw [fault?_of_own said]
      exact ⟨Field.ofPropertyAfter_of_error own, names.of_fault said⟩
  | none =>
      rw [said] at own
      obtain ⟨field, own, same⟩ := own
      have named : field.name = column.fieldName := by
        rw [Field.name_of_ofProperty own, name_property]
        rfl
      -- only its name can stand against it now
      rw [fault?_of_none said, takenName]
      by_cases taken : ∃ other ∈ earlier,
          other.ownFault? = none ∧ other.fieldName = column.fieldName
      · have used : field.name ∈ fields.map (·.name) := (names _).2 (named ▸ taken)
        rw [if_pos taken, ← named]
        exact ⟨Field.ofPropertyAfter_of_taken own used, names.of_taken taken⟩
      · have unused : field.name ∉ fields.map (·.name) :=
          fun used => taken (named ▸ (names _).1 used)
        rw [if_neg taken]
        exact ⟨field, Field.ofPropertyAfter_eq_ok_iff.2 ⟨own, unused⟩, same,
          names.concat said named⟩

/-- After fields that have the names of earlier columns, columns become fields and faults as the
rules say. -/
theorem ofProperties_eq (entity : String) (columns : List RawColumn) (names : Names fields earlier) :
    ((Field.ofProperties entity fields (columns.map property)).1.map some =
        (kept earlier columns).map field?) ∧
      (Field.ofProperties entity fields (columns.map property)).2 =
        leftOut entity earlier columns := by
  induction columns generalizing fields earlier with
  | nil => exact ⟨rfl, rfl⟩
  | cons column rest ih =>
      have step := ofPropertyAfter_eq names column
      rw [List.map_cons]
      cases said : column.fault? earlier with
      | some fault =>
          rw [said] at step
          obtain ⟨made, names⟩ := step
          obtain ⟨fieldsOfRest, faultsOfRest⟩ := ih names
          rw [Field.ofProperties_cons_of_error made, kept_cons_of_fault said,
            leftOut_cons_of_fault said, name_property, faultsOfRest]
          exact ⟨fieldsOfRest, rfl⟩
      | none =>
          rw [said] at step
          obtain ⟨field, made, same, names⟩ := step
          obtain ⟨fieldsOfRest, faultsOfRest⟩ := ih names
          rw [Field.ofProperties_cons_of_ok made, kept_cons_of_none said, leftOut_cons_of_none said,
            List.map_cons, List.map_cons, same, fieldsOfRest, faultsOfRest]
          exact ⟨rfl, rfl⟩

/-- The columns of an entity that code can be generated for are those of its definition. -/
theorem properties_ofDefinition {name : String} (hname : Naming.isGeneratable name = true)
    (entries : Entries) :
    (Entity.ofDefinition name (.mapping entries)).properties =
      (ofEntries entries).map property := by
  rw [Entity.ofDefinition, if_pos hname, ofEntries, List.map_map]
  rfl

end RawColumn

namespace Class

/-- The fields of a class are the columns of its definition that no rule applies to, in order, each
with its name in camel case and the type that the vocabulary has for it. What is reported beside
the class is, in order, what the first rule that applies says of each other column. -/
theorem columns_of_render {name package : String} {entries : Entries} {cls : Class}
    (hname : Naming.isGeneratable name = true)
    (rendered : render (Entity.ofDefinition name (.mapping entries)) package = .ok cls) :
    let columns := RawColumn.ofEntries entries
    cls.skipped = RawColumn.leftOut name [] columns ∧
      ∃ fields : List Field,
        fields.map some = (RawColumn.kept [] columns).map RawColumn.field? ∧
        cls.source = unlines (classLines package cls.name fields) ∧
        (Naming.isPackage package = true →
          Outline.ofText? cls.source =
            some ⟨package, importsOf fields, cls.name, fields.map Field.declared⟩) := by
  intro columns
  have own := Entity.name_ofDefinition name (.mapping entries)
  have properties := RawColumn.properties_ofDefinition hname entries
  generalize Entity.ofDefinition name (.mapping entries) = entity at *
  have unused : RawColumn.Names [] [] := fun _ => by simp
  obtain ⟨made, faults⟩ := RawColumn.ofProperties_eq name columns unused
  rw [← properties] at made faults
  have skipped := skipped_of_render rendered
  subst own
  exact ⟨skipped.trans faults, entity.fields, made, source_eq_of_render rendered,
    fun hpackage => Outline.ofText?_source hpackage rendered⟩

/-- The definition of an entity with a column for each thing that can become of one; the last
column has the name of one that is left out itself. -/
def ledgerEntries : Entries :=
  [("_attributes", .mapping [("phpName", .string "Ledger")]),
    ("open", .bool true),
    ("note", .null),
    ("size", .mapping [("type", .number (.whole 3))]),
    ("shape", .mapping [("type", .string "ENUM")]),
    ("class", .mapping [("type", .string "VARCHAR")]),
    ("owner_id", .mapping [("type", .string "INTEGER")]),
    ("ownerId", .mapping [("type", .string "BIGINT")]),
    ("owner__id", .mapping [("type", .string "TIME")])]

theorem columns_ledger :
    ∃ cls, render (Entity.ofDefinition "ledger" (.mapping ledgerEntries)) "demo.model" = .ok cls ∧
      cls.skipped =
        [⟨"ledger", "open", .notAMapping .boolean⟩, ⟨"ledger", "note", .missingType⟩,
          ⟨"ledger", "size", .nonStringType "3"⟩, ⟨"ledger", "shape", .unknownType "ENUM"⟩,
          ⟨"ledger", "class", .invalidIdentifier "class"⟩,
          ⟨"ledger", "ownerId", .duplicateIdentifier "ownerId"⟩,
          ⟨"ledger", "owner__id", .duplicateIdentifier "ownerId"⟩] ∧
      (Outline.ofText? cls.source).map (·.declarations) =
        some [⟨"Integer", "ownerId", some "owner_id"⟩] := by
  have rendered : ∃ cls,
      render (Entity.ofDefinition "ledger" (.mapping ledgerEntries)) "demo.model" = .ok cls :=
    ⟨_, rfl⟩
  obtain ⟨cls, rendered⟩ := rendered
  obtain ⟨skipped, fields, made, -, read⟩ := columns_of_render (by decide) rendered
  have kept : (RawColumn.kept [] (RawColumn.ofEntries ledgerEntries)).map RawColumn.field? =
      [some ⟨⟨"owner_id", [("type", .string "INTEGER")], none⟩, "ownerId", ⟨"Integer", none⟩⟩] := by
    rfl
  have only : fields = [_] :=
    List.map_injective_iff.2 (fun _ _ => Option.some.inj) (made.trans kept)
  refine ⟨cls, rendered, skipped.trans (by decide +kernel), ?_⟩
  rw [read (by decide), only]
  rfl

end Class

end SchemaClasses
