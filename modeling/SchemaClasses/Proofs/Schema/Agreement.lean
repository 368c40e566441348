/-
Schemas of one tree in different formats.

A document is read as the schema of the tree that it spells, in the order
of the document, if it is a YAML or a JSON document. Reading a TOML
document puts the keys of every mapping in ascending order. So a TOML
document agrees with the others exactly if its tree was in that order, as
far as a schema shows any.
-/
import SchemaClasses.Proofs.Json.Documents
import SchemaClasses.Proofs.Json.Reading
import SchemaClasses.Proofs.Toml.Documents
import SchemaClasses.Proofs.Toml.Reading
import SchemaClasses.Proofs.Yaml.Documents
import SchemaClasses.Proofs.Yaml.Reading

namespace SchemaClasses

variable {tree : SchemaTree}

theorem Schema.ofText_of_entries? {format : Format} {text : String}
    (h : format.entries? text = some (some tree.bindings)) :
    Schema.ofText format text = .ok tree.schema := by
  rw [Schema.ofText, h, ← SchemaTree.ofEntries_bindings]

/-- A YAML document is read as the schema of its tree. -/
theorem Yaml.ofText_of_spells {text : String} (h : Yaml.Spells text tree) :
    Schema.ofText .yaml text = .ok tree.schema :=
  Schema.ofText_of_entries? (Yaml.entries?_of_spells h)

/-- A JSON document is read as the schema of its tree. -/
theorem Json.ofText_of_spells {text : String} (h : Json.Spells text tree) :
    Schema.ofText .json text = .ok tree.schema :=
  Schema.ofText_of_entries? (Json.entries?_of_spells h)

/-- A TOML document is read as the schema of its tree with all keys in ascending order. -/
theorem Toml.ofText_of_spells {text : String} (h : Toml.Spells text tree) :
    Schema.ofText .toml text = .ok tree.ascending.schema :=
  Schema.ofText_of_entries? (Toml.entries?_of_spells h)

/-- Every schema tree has documents in all three formats. -/
theorem SchemaTree.exists_documents (tree : SchemaTree) :
    ∃ yaml json toml, Yaml.Spells yaml tree ∧ Json.Spells json tree ∧ Toml.Spells toml tree := by
  obtain ⟨yaml, hyaml⟩ := Yaml.exists_spells tree
  obtain ⟨json, hjson⟩ := Json.exists_spells tree
  obtain ⟨toml, htoml⟩ := Toml.exists_spells tree
  exact ⟨yaml, json, toml, hyaml, hjson, htoml⟩

-- ================================================= one tree, three texts

/-- What is said of a column of whole numbers. -/
def wholeColumn : Column where
  entries := [("type", .text "INTEGER")]
  distinct := by decide

/-- An entity with such a column. -/
def idDefinition : Definition where
  entries := [("id", wholeColumn)]
  distinct := by decide

/-- Two entities that do not come in ascending order. -/
def usersAndAccounts : SchemaTree where
  entries := [("users", idDefinition), ("accounts", idDefinition)]
  distinct := by decide

def usersAndAccountsYaml : String :=
  "propel:\n  users:\n    id:\n      type: INTEGER\n  accounts:\n    id:\n      type: INTEGER\n"

def usersAndAccountsJson : String :=
  "\x7b\"propel\": \x7b\"users\": \x7b\"id\": \x7b\"type\": \"INTEGER\"\x7d\x7d,\n" ++
    "\"accounts\": \x7b\"id\": \x7b\"type\": \"INTEGER\"\x7d\x7d\x7d\x7d\n"

def usersAndAccountsToml : String :=
  "[propel.users.id]\ntype = 'INTEGER'\n\n[propel.accounts.id]\ntype = 'INTEGER'\n"

theorem Yaml.spells_usersAndAccounts : Spells usersAndAccountsYaml usersAndAccounts := by
  refine ⟨by decide, ?_⟩
  have noGap : IsGap [] := by simp [IsGap]
  have space : IsGap [' '] := by simp [IsGap, isBlank]
  have indent : ∀ column, IsIndent column ('\n' :: List.replicate column ' ') :=
    fun _ => .intro (separates_of_isGap noGap)
  have word : ∀ {s : String}, s.toList ≠ [] → s.toList.all isLetter = true →
      SpellsScalar false true s.toList s := fun nonempty h => .plain (isPlain_of_all nonempty h)
  have type : SpellsBlockLeaf 6 _ (.text "INTEGER") :=
    .intro space (by simp) (.plain (word (s := "INTEGER") (by decide) (by decide)) rfl)
  have column : SpellsBlockColumn 4 _ wholeColumn := .block (by decide) (indent 6)
    (.single (word (by decide) (by decide)) noGap (by decide) type)
  have definition : SpellsBlockDefinition 2 _ idDefinition := .block (by decide) (indent 4)
    (.single (word (by decide) (by decide)) noGap (by decide) column)
  have tree : SpellsBlockTree 0 _ usersAndAccounts := .block (by decide) (indent 2)
    (.cons (word (by decide) (by decide)) noGap (by decide) definition (indent 2)
      (.single (word (by decide) (by decide)) noGap (by decide) definition))
  have root : SpellsBlock SpellsBlockTree 0 _ [(containerKey, usersAndAccounts)] :=
    .single (word (by decide) (by decide)) noGap (by decide) tree
  have lineEnd : Separates ['\n'] true := ⟨.lineBreak .nil, by simp⟩
  exact .intro (.unmarked .nil) root (.fill lineEnd)

theorem Json.spells_usersAndAccounts : Spells usersAndAccountsJson usersAndAccounts := by
  have space : IsGap [' '] := by simp [IsGap, blanks]
  have lineEnd : IsGap ['\n'] := by simp [IsGap, blanks]
  have key : ∀ {s : String}, s.toList.all (fun c => 0x20 ≤ c.toNat && c != '"' && c != '\\') = true →
      SpellsString ('"' :: s.toList ++ ['"']) s := spellsString_of_all
  have column : SpellsColumn _ wholeColumn := .members (.single
    (.intro isGap_nil (key (by decide)) isGap_nil space (.text (key (by decide))) isGap_nil))
  have definition : SpellsDefinition _ idDefinition := .members (.single
    (.intro isGap_nil (key (by decide)) isGap_nil space column isGap_nil))
  have tree : SpellsTree _ usersAndAccounts := .members (.cons
    (.intro isGap_nil (key (by decide)) isGap_nil space definition isGap_nil) (.single
    (.intro lineEnd (key (by decide)) isGap_nil space definition isGap_nil)))
  exact .document isGap_nil (.members (.single
    (.intro isGap_nil (key (by decide)) isGap_nil space tree isGap_nil))) lineEnd

theorem Toml.spells_usersAndAccounts : Spells usersAndAccountsToml usersAndAccounts := by
  have space : IsGap [' '] := by simp [IsGap, isBlank]
  have broken : ∀ {text rest statements more}, SpellsLine text statements →
      SpellsLines rest more → SpellsLines (text ++ ['\n'] ++ rest) (statements ++ more) :=
    fun line others => .cons line (.inl rfl) others
  have container : SpellsKey _ containerKey := spellsKey_of_all (by decide) (by decide)
  have users : SpellsKey _ "users" := spellsKey_of_all (by decide) (by decide)
  have accounts : SpellsKey _ "accounts" := spellsKey_of_all (by decide) (by decide)
  have id : SpellsKey _ "id" := spellsKey_of_all (by decide) (by decide)
  have type : SpellsKey _ "type" := spellsKey_of_all (by decide) (by decide)
  have header : ∀ {text name}, SpellsKey text name →
      SpellsLine _ [.header [containerKey, name, "id"]] := fun own =>
    .statement isGap_nil (.header isGap_nil (.cons container isGap_nil isGap_nil
      (.cons own isGap_nil isGap_nil (.single id isGap_nil))) (Nat.le_succ 3)) isGap_nil .none
  have word : SpellsString ('\'' :: "INTEGER".toList ++ ['\'']) "INTEGER" :=
    .literal (by simp [isTextChar])
  have assigned : SpellsLine _ [.assignment ["type"] (.scalar (.string "INTEGER"))] :=
    .statement isGap_nil (.assignment (.intro (.single type space) (by decide) space
      (.inl (.inl (.inl ⟨_, rfl, .string word⟩))))) isGap_nil .none
  have empty : SpellsLine [] [] := .empty isGap_nil .none
  have lines := broken (header users) (broken assigned (broken empty
    (broken (header accounts) (broken assigned (.last empty)))))
  have leaf : StatesLeaf (.text "INTEGER") [([], .scalar (.string "INTEGER"))] := rfl
  have column : SectionedColumn wholeColumn _ := Sectioned.whole (.cons leaf .nil)
  have definition : SectionedDefinition idDefinition _ := .implied (by decide) (.cons column .nil)
  have tree : SectionedTree usersAndAccounts _ :=
    .implied (by simp [usersAndAccounts]) (.cons definition (.cons definition .nil))
  exact .document lines (.sectioned tree)

-- =========================================================== agreement

/-- Documents of one tree are read in all three formats, and as one schema, that of the tree in its
order, exactly if no order is lost when keys ascend. -/
theorem Schema.formats_agree_iff {yaml json toml : String} (hyaml : Yaml.Spells yaml tree)
    (hjson : Json.Spells json tree) (htoml : Toml.Spells toml tree) :
    Schema.ofText .yaml yaml = .ok tree.schema ∧ Schema.ofText .json json = .ok tree.schema ∧
      Schema.ofText .toml toml = .ok tree.ascending.schema ∧
      (Schema.ofText .toml toml = .ok tree.schema ↔ tree.InOrder) := by
  refine ⟨Yaml.ofText_of_spells hyaml, Json.ofText_of_spells hjson, Toml.ofText_of_spells htoml, ?_⟩
  rw [Toml.ofText_of_spells htoml, Except.ok.injEq]
  exact tree.schema_ascending_eq_iff

theorem Schema.formats_agree_iff_usersAndAccounts :
    Yaml.Spells usersAndAccountsYaml usersAndAccounts ∧
      Json.Spells usersAndAccountsJson usersAndAccounts ∧
      Toml.Spells usersAndAccountsToml usersAndAccounts ∧
      Schema.ofText .yaml usersAndAccountsYaml = .ok usersAndAccounts.schema ∧
      Schema.ofText .json usersAndAccountsJson = .ok usersAndAccounts.schema ∧
      Schema.ofText .toml usersAndAccountsToml = .ok usersAndAccounts.ascending.schema ∧
      (Schema.ofText .toml usersAndAccountsToml = .ok usersAndAccounts.schema ↔
        usersAndAccounts.InOrder) :=
  ⟨Yaml.spells_usersAndAccounts, Json.spells_usersAndAccounts, Toml.spells_usersAndAccounts,
    Schema.formats_agree_iff Yaml.spells_usersAndAccounts Json.spells_usersAndAccounts
      Toml.spells_usersAndAccounts⟩

/-- From TOML the entities of this tree come in another order than from the other formats. -/
theorem Schema.formats_disagree :
    (Yaml.Spells usersAndAccountsYaml usersAndAccounts ∧
      Json.Spells usersAndAccountsJson usersAndAccounts ∧
      Toml.Spells usersAndAccountsToml usersAndAccounts) ∧
    (Schema.ofText .yaml usersAndAccountsYaml).map Schema.names = .ok ["users", "accounts"] ∧
    (Schema.ofText .json usersAndAccountsJson).map Schema.names = .ok ["users", "accounts"] ∧
    (Schema.ofText .toml usersAndAccountsToml).map Schema.names = .ok ["accounts", "users"] := by
  refine ⟨⟨Yaml.spells_usersAndAccounts, Json.spells_usersAndAccounts,
    Toml.spells_usersAndAccounts⟩, ?_, ?_, ?_⟩
  · rw [Yaml.ofText_of_spells Yaml.spells_usersAndAccounts]
    rfl
  · rw [Json.ofText_of_spells Json.spells_usersAndAccounts]
    rfl
  · have names : usersAndAccounts.ascending.schema.names = ["accounts", "users"] := by decide
    rw [Toml.ofText_of_spells Toml.spells_usersAndAccounts, ← names]
    rfl

end SchemaClasses
