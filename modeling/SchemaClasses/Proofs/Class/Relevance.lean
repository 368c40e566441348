/-
What of an entity matters for its code.

An entity may have any metadata of its own, its attributes may have
other entries than the class name, and a column may have other metadata
than its type. Of all that only the metadata of columns is seen in a
class, and only in comments. So two entities that agree in the rest
become classes with the same code, line by line, or neither becomes one,
for the same reason.

The columns of the two are gone through side by side. What one looks at
of the fields made so far is their names, so it is enough that these
agree, and a column gives a field on both sides or one fault on both.
-/
import SchemaClasses.Proofs.Schema.Distinct

namespace SchemaClasses

-- ==================================================== alike outcomes

/-- Both fail, and for one reason, or both succeed with results that `R` relates. -/
inductive Alike {ε α : Type} (R : α → α → Prop) : Except ε α → Except ε α → Prop
  | fault (e : ε) : Alike R (.error e) (.error e)
  | value {a b : α} (related : R a b) : Alike R (.ok a) (.ok b)

/-- Alike steps after alike ones are alike. -/
theorem Alike.bind {ε α β : Type} {R : α → α → Prop} {Q : β → β → Prop} {x y : Except ε α}
    {f g : α → Except ε β} (first : Alike R x y) (next : ∀ a b, R a b → Alike Q (f a) (g b)) :
    Alike Q (x >>= f) (y >>= g) := by
  cases first with
  | fault e => exact .fault e
  | value related => exact next _ _ related

/-- Two columns that say the same as far as code goes. -/
structure Property.SameForCode (p q : Property) : Prop where
  name : p.name = q.name
  kind : p.nonMapping.map Value.kind = q.nonMapping.map Value.kind
  type : p.rawType? = q.rawType?

/-- Two fields that look the same in code, from columns that `S` relates. -/
structure Field.Same (S : Property → Property → Prop) (f g : Field) : Prop where
  name : f.name = g.name
  type : f.type = g.type
  property : S f.property g.property

/-- Two entities that say the same as far as code goes. -/
structure Entity.SameForCode (a b : Entity) : Prop where
  name : a.name = b.name
  kind : a.nonMapping.map Value.kind = b.nonMapping.map Value.kind
  attributes : a.attributes?.isSome = b.attributes?.isSome
  className : a.attributes?.bind (Entries.get? · "phpName") =
    b.attributes?.bind (Entries.get? · "phpName")
  properties : List.Forall₂ Property.SameForCode a.properties b.properties

-- ============================================================= fields

namespace Field

variable {S : Property → Property → Prop} {p q : Property} {ps qs : List Property}
  {fs gs : List Field}

/-- A column gives a field of the same look, or one fault, whatever else is said of it. -/
theorem alike_ofProperty (same : p.SameForCode q) (related : S p q) :
    Alike (Same S) (ofProperty p) (ofProperty q) := by
  have category : categoryOf p = categoryOf q := by
    unfold categoryOf
    rw [same.type]
  have kinds := same.kind
  cases first : p.nonMapping with
  | some definition =>
      cases second : q.nonMapping with
      | some other =>
          rw [first, second] at kinds
          rw [ofProperty_of_nonMapping first, ofProperty_of_nonMapping second,
            Option.some.inj kinds]
          exact .fault _
      | none =>
          rw [first, second] at kinds
          cases kinds
  | none =>
      cases second : q.nonMapping with
      | some other =>
          rw [first, second] at kinds
          cases kinds
      | none =>
          cases found : categoryOf p with
          | error fault =>
              rw [ofProperty_of_categoryOf first found,
                ofProperty_of_categoryOf second (category ▸ found)]
              exact .fault fault
          | ok known =>
              cases identifier : Naming.isIdentifier (Naming.camelCase p.name) with
              | false =>
                  rw [ofProperty_of_name first found identifier,
                    ofProperty_of_name second (category ▸ found) (same.name ▸ identifier),
                    same.name]
                  exact .fault _
              | true =>
                  rw [ofProperty_eq_ok_iff.2 ⟨first, identifier, known, found, rfl⟩,
                    ofProperty_eq_ok_iff.2
                      ⟨second, same.name ▸ identifier, known, category ▸ found, rfl⟩]
                  exact .value ⟨congrArg Naming.camelCase same.name, rfl, related⟩

/-- So it does after fields of the same names. -/
theorem alike_ofPropertyAfter (same : p.SameForCode q) (related : S p q)
    (names : fs.map (·.name) = gs.map (·.name)) :
    Alike (Same S) (ofPropertyAfter fs p) (ofPropertyAfter gs q) := by
  unfold ofPropertyAfter
  refine (alike_ofProperty same related).bind fun f g look => ?_
  have taken : fs.any (·.name == f.name) = gs.any (·.name == g.name) := by
    have any : ∀ (fields : List Field) (name : String),
        fields.any (·.name == name) = (fields.map (·.name)).any (· == name) := by
      intro fields name
      rw [List.any_map]
      rfl
    rw [any, any, names, look.name]
  rw [taken, look.name]
  split
  · exact .fault _
  · exact .value look

/-- Columns that are related one by one give fields of the same look, and the same faults. -/
theorem same_ofProperties (sameForCode : ∀ p q, S p q → p.SameForCode q) (entity : String)
    (related : List.Forall₂ S ps qs) (names : fs.map (·.name) = gs.map (·.name)) :
    List.Forall₂ (Same S) (ofProperties entity fs ps).1 (ofProperties entity gs qs).1 ∧
      (ofProperties entity fs ps).2 = (ofProperties entity gs qs).2 := by
  induction related generalizing fs gs with
  | nil => exact ⟨.nil, rfl⟩
  | @cons p q ps qs first others ih =>
      have same := sameForCode p q first
      have alike := alike_ofPropertyAfter same first names
      generalize made : ofPropertyAfter fs p = front, made' : ofPropertyAfter gs q = back at alike
      cases alike with
      | fault fault =>
          rw [ofProperties_cons_of_error made, ofProperties_cons_of_error made', same.name]
          obtain ⟨fields, faults⟩ := ih names
          exact ⟨fields, congrArg (List.cons _) faults⟩
      | @value f g look =>
          rw [ofProperties_cons_of_ok made, ofProperties_cons_of_ok made']
          have extended : (fs ++ [f]).map (·.name) = (gs ++ [g]).map (·.name) := by
            rw [List.map_append, List.map_append, names, List.map_singleton, List.map_singleton,
              look.name]
          obtain ⟨fields, faults⟩ := ih extended
          exact ⟨.cons look fields, faults⟩

/-- Fields of one look are bound to one name, if to any. -/
theorem Same.serializedName?_eq {f g : Field} (same : Same S f g)
    (sameForCode : ∀ p q, S p q → p.SameForCode q) : f.serializedName? = g.serializedName? := by
  unfold serializedName?
  rw [same.name, (sameForCode _ _ same.property).name]

/-- Fields of one look have one code. -/
theorem Same.code_eq {f g : Field} (same : Same S f g)
    (sameForCode : ∀ p q, S p q → p.SameForCode q) : f.code = g.code := by
  unfold Field.code declaration
  rw [same.serializedName?_eq sameForCode, same.type, same.name]

/-- Fields of one look ask for the same imports. -/
theorem importsOf_eq (sameForCode : ∀ p q, S p q → p.SameForCode q)
    (same : List.Forall₂ (Same S) fs gs) : importsOf fs = importsOf gs := by
  have parts : fs.any (·.serializedName?.isSome) = gs.any (·.serializedName?.isSome) ∧
      fs.filterMap (·.type.importName) = gs.filterMap (·.type.importName) := by
    induction same with
    | nil => exact ⟨rfl, rfl⟩
    | cons first others ih =>
        rw [List.any_cons, List.any_cons, List.filterMap_cons, List.filterMap_cons,
          first.serializedName?_eq sameForCode, first.type, ih.1, ih.2]
        exact ⟨rfl, rfl⟩
  unfold importsOf
  rw [parts.1, parts.2]

end Field

/-- Entities of one name whose columns are related one by one have fields of the same look, and the
same faults. -/
theorem Entity.same_fields {S : Property → Property → Prop} {a b : Entity}
    (sameForCode : ∀ p q, S p q → p.SameForCode q) (name : a.name = b.name)
    (related : List.Forall₂ S a.properties b.properties) :
    List.Forall₂ (Field.Same S) a.fields b.fields ∧
      (Field.ofProperties a.name [] a.properties).2 =
        (Field.ofProperties b.name [] b.properties).2 := by
  rw [fields, fields, name]
  exact Field.same_ofProperties sameForCode b.name related rfl

-- ============================================================== lines

/-- The lines of a text. -/
def linesOf (text : String) : List String := (Text.pieces '\n' text.toList).map String.ofList

/-- The lines of a text that are no comments. -/
def codeLines (text : String) : List String := (linesOf text).filter (!isComment ·)

/-- Two lines are the same, comments apart. -/
def SameLine (first second : String) : Prop :=
  first = second ∨ isComment first = true ∧ isComment second = true

/-- A text of lines has these, and an empty one after the last end. -/
theorem linesOf_unlines {lines : List String} (whole : ∀ line ∈ lines, '\n' ∉ line.toList) :
    linesOf (unlines lines) = lines ++ [""] := by
  rw [linesOf, pieces_unlines whole, List.map_append, List.map_map]
  simp

/-- Where lines are the same one by one, comments apart, they are the same without the comments. -/
theorem filter_eq_of_sameLine {front back : List String} (same : List.Forall₂ SameLine front back) :
    front.filter (!isComment ·) = back.filter (!isComment ·) := by
  induction same with
  | nil => rfl
  | cons first others ih =>
      rcases first with rfl | ⟨comment, comment'⟩
      · rw [List.filter_cons, List.filter_cons, ih]
      · rw [List.filter_cons_of_neg (by simp [comment]), List.filter_cons_of_neg (by simp [comment']),
          ih]

theorem forall₂_sameLine_refl (lines : List String) : List.Forall₂ SameLine lines lines :=
  List.forall₂_same.2 fun _ _ => .inl rfl

/-- The layouts of fields of the same look differ in comments only. -/
theorem sameLine_layout {S : Property → Property → Prop} {fs gs : List Field}
    (sameForCode : ∀ p q, S p q → p.SameForCode q) (same : List.Forall₂ (Field.Same S) fs gs)
    (package name : String) :
    List.Forall₂ SameLine (layout package name fs) (layout package name gs) := by
  have body : List.Forall₂ SameLine (fs.flatMap fun field => field.comment :: field.code)
      (gs.flatMap fun field => field.comment :: field.code) := by
    induction same with
    | nil => exact .nil
    | @cons f g fs gs first others ih =>
        rw [List.flatMap_cons, List.flatMap_cons, first.code_eq sameForCode]
        exact .cons (.inr ⟨f.isComment_comment, g.isComment_comment⟩)
          (List.rel_append (forall₂_sameLine_refl _) ih)
  unfold layout
  rw [Field.importsOf_eq sameForCode same]
  exact List.rel_append (List.rel_append (forall₂_sameLine_refl _) body) (forall₂_sameLine_refl _)

/-- Related one by one, and with the same image one by one. -/
theorem forall₂_and_of_map_eq {α β : Type} {R : α → α → Prop} {f : α → β} {front back : List α}
    (related : List.Forall₂ R front back) (images : front.map f = back.map f) :
    List.Forall₂ (fun a b => R a b ∧ f a = f b) front back := by
  induction related with
  | nil => exact .nil
  | cons first others ih =>
      obtain ⟨image, images⟩ := List.cons.inj images
      exact .cons ⟨first, image⟩ (ih images)

/-- With the same metadata they do not even differ in these. -/
theorem layout_eq {S : Property → Property → Prop} {fs gs : List Field}
    (sameForCode : ∀ p q, S p q → p.SameForCode q)
    (metadata : ∀ p q, S p q → p.metadata = q.metadata)
    (same : List.Forall₂ (Field.Same S) fs gs) (package name : String) :
    layout package name fs = layout package name gs := by
  have body : (fs.flatMap fun field => field.comment :: field.code) =
      gs.flatMap fun field => field.comment :: field.code := by
    induction same with
    | nil => rfl
    | cons first others ih =>
        rw [List.flatMap_cons, List.flatMap_cons, ih, first.code_eq sameForCode, Field.comment,
          Field.comment, Field.shown, Field.shown, metadata _ _ first.property]
  unfold layout
  rw [Field.importsOf_eq sameForCode same, body]

-- ============================================================ classes

/-- Entities that say the same for code have one class name, or one reason to have none. -/
theorem Entity.SameForCode.nameOf_eq {a b : Entity} (same : a.SameForCode b) :
    Class.nameOf a = Class.nameOf b := by
  have kinds := same.kind
  have attributes : a.attributes?.isNone = b.attributes?.isNone := by
    rw [← Option.not_isSome, ← Option.not_isSome, same.attributes]
  have className : a.outputTypeName? = b.outputTypeName? := by
    have asked : ∀ entity : Entity, entity.outputTypeName? =
        (entity.attributes?.bind (Entries.get? · "phpName")).bind Value.string? :=
      fun entity => (Option.bind_assoc _ _ _).symm
    rw [asked, asked, same.className]
  cases first : a.nonMapping with
  | some definition =>
      cases second : b.nonMapping with
      | some other =>
          rw [first, second] at kinds
          unfold Class.nameOf
          rw [first, second]
          exact congrArg (fun kind => Except.error (ClassFault.notAMapping kind))
            (Option.some.inj kinds)
      | none =>
          rw [first, second] at kinds
          cases kinds
  | none =>
      cases second : b.nonMapping with
      | some other =>
          rw [first, second] at kinds
          cases kinds
      | none =>
          unfold Class.nameOf
          rw [first, second, attributes, className]

namespace Class

variable {a b : Entity} {package other : String}

/-- Where two entities have one class name or one reason to have none, they become classes that are
related, or no classes for one reason. -/
theorem alike_render {R : Class → Class → Prop} (named : nameOf a = nameOf b)
    (related : ∀ first second, render a package = .ok first → render b other = .ok second →
      first.name = second.name → R first second) :
    Alike R (render a package) (render b other) := by
  cases found : nameOf a with
  | error fault =>
      have failed : ∀ {entity package}, nameOf entity = .error fault →
          render entity package = .error fault := by
        intro entity package h
        unfold render
        rw [h]
        rfl
      rw [failed found, failed (named ▸ found)]
      exact .fault fault
  | ok name =>
      have first : render a package = .ok _ := render_eq_ok_iff.2 ⟨name, found, rfl⟩
      have second : render b other = .ok _ := render_eq_ok_iff.2 ⟨name, named ▸ found, rfl⟩
      rw [first, second]
      exact .value (related _ _ first second rfl)

/-- The lines of a class in a package. -/
theorem linesOf_source {cls : Class} (hpackage : Naming.isPackage package = true)
    (rendered : render a package = .ok cls) :
    linesOf cls.source = layout package cls.name a.fields ++ [""] := by
  obtain ⟨named, source⟩ := source_of_render rendered
  rw [source]
  exact linesOf_unlines
    (notMem_layout hpackage named (fun _ => Entity.ofProperty_of_mem_fields) (by decide))

/-- Two classes with the same code: they are in files of one name, report the same, and their texts
differ in comments only. -/
structure SameCode (first second : Class) : Prop where
  name : first.name = second.name
  fileName : first.fileName = second.fileName
  skipped : first.skipped = second.skipped
  lines : List.Forall₂ SameLine (linesOf first.source) (linesOf second.source)
  code : codeLines first.source = codeLines second.source

/-- Two classes that differ in the package of their first lines only. -/
structure SameButPackage (package other : String) (first second : Class) : Prop where
  name : first.name = second.name
  fileName : first.fileName = second.fileName
  skipped : first.skipped = second.skipped
  lines : ∃ rest, linesOf first.source = ("package " ++ package ++ ";") :: rest ∧
    linesOf second.source = ("package " ++ other ++ ";") :: rest

/-- Entities that say the same for code become classes with the same code, and if their columns have
the same metadata too, with the same text. -/
theorem alike_of_sameForCode (hpackage : Naming.isPackage package = true)
    (same : a.SameForCode b) :
    Alike (fun first second => first.SameCode second ∧
        (a.properties.map (·.metadata) = b.properties.map (·.metadata) →
          first.source = second.source))
      (render a package) (render b package) := by
  refine alike_render same.nameOf_eq fun first second rendered rendered' name => ?_
  obtain ⟨fields, faults⟩ := Entity.same_fields (fun _ _ => id) same.name same.properties
  have lines : List.Forall₂ SameLine (linesOf first.source) (linesOf second.source) := by
    rw [linesOf_source hpackage rendered, linesOf_source hpackage rendered', name]
    exact List.rel_append (sameLine_layout (fun _ _ => id) fields package second.name)
      (forall₂_sameLine_refl _)
  refine ⟨⟨name, ?_, ?_, lines, filter_eq_of_sameLine lines⟩, fun metadata => ?_⟩
  · rw [fileName, fileName, name]
  · rw [skipped_of_render rendered, skipped_of_render rendered', faults]
  · -- the columns agree in more now, and so do the fields made from them
    have full := forall₂_and_of_map_eq same.properties metadata
    obtain ⟨fields, -⟩ := Entity.same_fields (fun _ _ => And.left) same.name full
    rw [(source_of_render rendered).2, (source_of_render rendered').2, name]
    exact congrArg unlines
      (layout_eq (fun _ _ => And.left) (fun _ _ => And.right) fields package second.name)

/-- An entity becomes classes that differ in their first lines alone, whatever the packages. -/
theorem alike_of_packages (hpackage : Naming.isPackage package = true)
    (hother : Naming.isPackage other = true) :
    Alike (SameButPackage package other) (render a package) (render a other) := by
  refine alike_render rfl fun first second rendered rendered' name => ?_
  refine ⟨name, by rw [fileName, fileName, name], ?_, ?_⟩
  · rw [skipped_of_render rendered, skipped_of_render rendered']
  · rw [linesOf_source hpackage rendered, linesOf_source hother rendered', name]
    exact ⟨_, rfl, rfl⟩

/-- The code of a class depends on the name of its entity, on the class name that the attributes
ask for, and on the names, types and kinds of the columns. Other metadata shows in comments, as far
as it is that of columns, and nowhere else. The package shows in the first line alone. -/
theorem sameCode_of_agree {name package : String} {entries others : Entries}
    (hpackage : Naming.isPackage package = true)
    (attributes : (Entity.ofDefinition name (.mapping entries)).attributes?.isSome =
      (Entity.ofDefinition name (.mapping others)).attributes?.isSome)
    (className :
      (Entity.ofDefinition name (.mapping entries)).attributes?.bind (Entries.get? · "phpName") =
        (Entity.ofDefinition name (.mapping others)).attributes?.bind (Entries.get? · "phpName"))
    (columns : List.Forall₂ Property.SameForCode
      (Entity.ofDefinition name (.mapping entries)).properties
      (Entity.ofDefinition name (.mapping others)).properties) :
    Alike (fun first second => first.SameCode second ∧
        ((Entity.ofDefinition name (.mapping entries)).properties.map (·.metadata) =
            (Entity.ofDefinition name (.mapping others)).properties.map (·.metadata) →
          first.source = second.source))
      (render (Entity.ofDefinition name (.mapping entries)) package)
      (render (Entity.ofDefinition name (.mapping others)) package) ∧
    ∀ (entity : Entity) (other : String), Naming.isPackage other = true →
      Alike (SameButPackage package other) (render entity package) (render entity other) := by
  have kept : ∀ entries,
      (Entity.ofDefinition name (.mapping entries)).nonMapping = none := by
    intro entries
    rw [Entity.ofDefinition]
    split
    · rfl
    · rfl
  refine ⟨alike_of_sameForCode hpackage ⟨?_, ?_, attributes, className, columns⟩,
    fun _ _ hother => alike_of_packages hpackage hother⟩
  · rw [Entity.name_ofDefinition, Entity.name_ofDefinition]
  · rw [kept, kept]

/-- The definition of an entity with metadata of every kind, and with a column that is no
mapping. -/
def wardEntries (key : String) (metadata : Value) : Entries :=
  [("_attributes", .mapping [("phpName", .string "Ward"), (key, metadata)]),
    ("_origin", metadata),
    ("bed_count", .mapping [(key, metadata), ("type", .string "INTEGER")]),
    ("open", .sequence [metadata])]

theorem sameCode_ward :
    ∃ first second third,
      render (Entity.ofDefinition "ward" (.mapping (wardEntries "note" (.string "beds\n\x7d"))))
        "demo.model" = .ok first ∧
      render (Entity.ofDefinition "ward" (.mapping (wardEntries "size" .null))) "demo.model" =
        .ok second ∧
      render (Entity.ofDefinition "ward" (.mapping (wardEntries "size" .null))) "other.model" =
        .ok third ∧
      first.SameCode second ∧ SameButPackage "demo.model" "other.model" second third := by
  have rendered : ∀ metadata package,
      (∃ cls, render (Entity.ofDefinition "ward" (.mapping (wardEntries "note" metadata)))
        package = .ok cls) ∧
      ∃ cls, render (Entity.ofDefinition "ward" (.mapping (wardEntries "size" metadata)))
        package = .ok cls :=
    fun _ _ => ⟨⟨_, rfl⟩, ⟨_, rfl⟩⟩
  obtain ⟨⟨first, one⟩, -⟩ := rendered (.string "beds\n\x7d") "demo.model"
  obtain ⟨-, ⟨second, two⟩⟩ := rendered .null "demo.model"
  obtain ⟨-, ⟨third, three⟩⟩ := rendered .null "other.model"
  have columns : List.Forall₂ Property.SameForCode
      (Entity.ofDefinition "ward"
        (.mapping (wardEntries "note" (.string "beds\n\x7d")))).properties
      (Entity.ofDefinition "ward" (.mapping (wardEntries "size" .null))).properties :=
    .cons ⟨rfl, rfl, rfl⟩ (.cons ⟨rfl, rfl, rfl⟩ .nil)
  obtain ⟨code, packages⟩ := @sameCode_of_agree "ward" "demo.model"
    (wardEntries "note" (.string "beds\n\x7d")) (wardEntries "size" .null) (by decide) rfl rfl
    columns
  have package := packages (Entity.ofDefinition "ward" (.mapping (wardEntries "size" .null)))
    "other.model" (by decide)
  rw [one, two] at code
  rw [two, three] at package
  cases code with
  | value related =>
      cases package with
      | value others => exact ⟨first, second, third, one, two, three, related.1, others⟩

end Class

end SchemaClasses
