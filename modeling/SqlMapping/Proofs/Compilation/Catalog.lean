import SqlMapping.Declaration.Catalog
import SqlMapping.Proofs.Schema.Acceptance
import SqlMapping.Proofs.Statement.Alignment

/-!
# Declarations of catalog tables

A table that is there has names, and one key column if it is to be mapped.  Its declaration has no
other options than those that follow from its columns, and these fit together: the key is a field,
and values that the database fills in are marked only where rows can be inserted.

The main statement says that every such table is declared, accepted and compiled, and that its
schema follows its columns.
-/

namespace SqlMapping

namespace CatalogColumn

/-- The database numbers a key column: always, or by itself because it holds integers. -/
def IsNumbered (column : CatalogColumn) : Prop :=
  column.numbering = .always ∨
    column.numbering = .automatic ∧ column.type.fieldType? = some .integer

/-- The database fills a column in: it has a default for it, or the column is a numbered key. -/
def IsFilledIn (column : CatalogColumn) : Prop :=
  column.hasDefault = true ∨ column.isKey = true ∧ column.IsNumbered

instance (column : CatalogColumn) : Decidable column.IsNumbered :=
  inferInstanceAs (Decidable (_ ∨ _))

instance (column : CatalogColumn) : Decidable column.IsFilledIn :=
  inferInstanceAs (Decidable (_ ∨ _))

theorem isGenerated_iff {column : CatalogColumn} :
    column.isGenerated = true ↔ column.IsFilledIn := by
  rw [isGenerated, IsFilledIn, IsNumbered]
  cases column.numbering with
  | automatic => simp
  | always => simp
  | never => simp

/-- The field of a column is marked as generated if the database fills the column in. -/
theorem isGenerated_declaration_iff {column : CatalogColumn} :
    (column.declaration []).IsGenerated ↔ column.IsFilledIn := by
  rw [FieldDeclaration.IsGenerated, declaration, ← isGenerated_iff]
  cases column.isGenerated with
  | true => simp [Attribute.value?]
  | false => simp [Attribute.value?]

theorem accepts_declaration (column : CatalogColumn) :
    OptionGrammar.tableField.Accepts (column.declaration []).attributes := by
  rw [declaration]
  cases column.isGenerated with
  | true =>
      refine ⟨?_, by simp, ?_⟩
      · simp [OptionGrammar.tableField]
      · intro option member shape isShape
        cases List.mem_singleton.1 member
        cases isShape
        exact ⟨true, rfl⟩
  | false =>
      refine ⟨?_, by simp, ?_⟩
      · simp
      · simp

theorem accessorNames_declaration (column : CatalogColumn) :
    (column.declaration []).accessorNames = [] := by
  rw [FieldDeclaration.accessorNames, FieldDeclaration.accessorOptions, declaration]
  cases column.isGenerated with
  | true => simp [Attribute.value?]
  | false => simp [Attribute.value?]

end CatalogColumn

namespace CatalogTable

/-- A table with a name and columns with names of their own. -/
structure IsNamed (table : CatalogTable) : Prop where
  name : table.name ≠ ""
  columns : ∀ column ∈ table.columns, column.name ≠ ""
  distinct : (table.columns.map CatalogColumn.name).Nodup

variable {table : CatalogTable} {key : CatalogColumn}

/-- What is declared for a table with a key, under the name of an entity. -/
def declared (table : CatalogTable) (key : CatalogColumn) (entity : String) : Declaration where
  name := entity
  attributes := (table.derivedOptions key).map fun (key, value) => ⟨key, value⟩
  fields := table.columns.map fun column => column.declaration []

theorem givenName_text (name : Option String) :
    givenName ((name.map Value.text).or none) =
      .ok (name.filter fun name => !name.isEmpty) := by
  cases name with
  | none => rfl
  | some content =>
      rw [Option.map_some, Option.some_or, givenName, Value.truthy, Option.filter_some]
      cases content.isEmpty with
      | true => rfl
      | false => rfl

/-- Without further options, nothing but the name of the entity is to be chosen. -/
theorem declarationFor_eq
    (distinct : (table.columns.map CatalogColumn.name).Nodup)
    (name : Option String) :
    table.declarationFor (name.map Value.text) [] [] = table.declaration name [] [] := by
  have checked : table.checkColumns = .ok () := if_pos distinct
  rw [declarationFor, checked, Outcome.ok_bind]
  simp only [List.find?_nil, List.lookup_nil, Option.isSome_none, Bool.false_eq_true, if_false,
    List.filter_nil]
  rw [givenName_text, declaration, declaration]
  cases table.keyColumns with
  | nil => rfl
  | cons key rest =>
      cases rest with
      | nil => rfl
      | cons other others => rfl

/-- Without further options, a table with one key is declared under some name. -/
theorem exists_declarationFor
    (distinct : (table.columns.map CatalogColumn.name).Nodup)
    (one : table.keyColumns = [key])
    (name : Option String) :
    ∃ entity,
      table.declarationFor (name.map Value.text) [] [] = .ok (table.declared key entity) := by
  rw [declarationFor_eq distinct, declaration, one]
  exact ⟨_, rfl⟩

/-- A table without a key, or with a composite one, is not declared. -/
theorem declarationFor_eq_error
    (distinct : (table.columns.map CatalogColumn.name).Nodup)
    (notOne : table.keyColumns.length ≠ 1)
    (name : Option String) :
    table.declarationFor (name.map Value.text) [] [] =
      .error (.notOneKey table.name table.keyColumns.length) := by
  rw [declarationFor_eq distinct, declaration]
  split
  · rename_i key one
    rw [one] at notOne
    exact absurd rfl notOne
  · rfl

theorem attributes_declared (entity : String) :
    (table.declared key entity).attributes =
      [⟨"table", .text table.name⟩, ⟨"id", .text key.name⟩] ++
        if ∃ column ∈ table.columns, column.IsFilledIn then [⟨"insertable", .bool true⟩]
        else [] := by
  have isFilled :
      table.columns.any CatalogColumn.isGenerated = true ↔
        ∃ column ∈ table.columns, column.IsFilledIn := by
    rw [List.any_eq_true]
    exact exists_congr fun column => and_congr_right fun _ => CatalogColumn.isGenerated_iff
  rw [declared, derivedOptions, List.map_append]
  simp only [isFilled]
  split_ifs
  · rfl
  · rfl

theorem mem_columns_of_keyColumns (one : table.keyColumns = [key]) : key ∈ table.columns := by
  have member : key ∈ table.keyColumns := one ▸ List.mem_singleton_self key
  exact List.mem_of_mem_filter member

/-- The options of a declared table are allowed, and each is given once. -/
theorem accepts_declared
    (named : table.IsNamed)
    (isColumn : key ∈ table.columns)
    (entity : String) :
    OptionGrammar.table.Accepts (table.declared key entity).attributes := by
  have keyName := named.columns key isColumn
  have fits (option : Attribute) (shape : OptionShape)
      (isShape : OptionGrammar.table.lookup option.key = some shape)
      (has : shape.Fits option.value) :
      OptionGrammar.table.Fits option := by
    intro other isOther
    rw [isShape] at isOther
    cases isOther
    exact has
  have fitsTable : OptionGrammar.table.Fits ⟨"table", .text table.name⟩ :=
    fits _ .text rfl ⟨table.name, named.name, rfl⟩
  have fitsId : OptionGrammar.table.Fits ⟨"id", .text key.name⟩ :=
    fits _ .text rfl ⟨key.name, keyName, rfl⟩
  have fitsInsertable : OptionGrammar.table.Fits ⟨"insertable", .bool true⟩ :=
    fits _ .insertable rfl (.inl rfl)
  rw [attributes_declared]
  split_ifs
  · refine ⟨?_, by simp, ?_⟩
    · simp [OptionGrammar.table]
    · simp [fitsTable, fitsId, fitsInsertable]
  · refine ⟨?_, by simp, ?_⟩
    · simp [OptionGrammar.table]
    · simp [fitsTable, fitsId]

theorem backendChoice_declared (entity : String) (choice : BackendChoice) :
    (table.declared key entity).backendChoice choice = choice := by
  rw [Declaration.backendChoice, attributes_declared]
  split_ifs
  · rfl
  · rfl

theorem text?_table_declared (entity : String) :
    Attribute.text? (table.declared key entity).attributes "table" = some table.name := by
  rw [attributes_declared]
  rfl

theorem text?_id_declared (entity : String) :
    Attribute.text? (table.declared key entity).attributes "id" = some key.name := by
  rw [attributes_declared]
  split_ifs
  · rfl
  · rfl

/-- Rows of a declared table can be inserted if the database fills in one of its columns. -/
theorem exists_insertable_iff (entity : String) :
    (∃ option ∈ (table.declared key entity).attributes, option.key = "insertable") ↔
      ∃ column ∈ table.columns, column.IsFilledIn := by
  rw [attributes_declared]
  split_ifs with isFilled
  · simp [isFilled]
  · simp [isFilled]

/-- A table with names and one key has a well-formed declaration. -/
theorem isWellFormed_declared
    {workspace : Workspace}
    {choice : BackendChoice}
    (named : table.IsNamed)
    (one : table.keyColumns = [key])
    (has : workspace.Has choice)
    (entity : String) :
    (table.declared key entity).IsWellFormed workspace choice := by
  have isColumn := mem_columns_of_keyColumns one
  constructor
  case options => exact accepts_declared named isColumn entity
  case backend =>
    rw [backendChoice_declared]
    exact has
  case table =>
    rw [attributes_declared]
    exact ⟨_, List.mem_cons_self, rfl⟩
  case identifier =>
    rw [attributes_declared]
    exact ⟨_, List.mem_cons_of_mem _ List.mem_cons_self, rfl⟩
  case isField =>
    intro name isName
    rw [text?_id_declared] at isName
    cases isName
    rw [Declaration.fieldNames, declared, List.map_map]
    exact List.mem_map_of_mem isColumn
  case fields =>
    intro field member
    rcases List.mem_map.1 member with ⟨column, -, rfl⟩
    exact column.accepts_declaration
  case insertable =>
    intro field member isGenerated
    rcases List.mem_map.1 member with ⟨column, isColumn, rfl⟩
    rw [exists_insertable_iff]
    exact ⟨column, isColumn, CatalogColumn.isGenerated_declaration_iff.1 isGenerated⟩
  case names =>
    -- No function is asked for, so that there are no names that could collide.
    have noName : (table.declared key entity).accessors = [] := by
      rw [Declaration.accessors, List.flatMap_eq_nil_iff]
      intro field member
      rcases List.mem_map.1 member with ⟨column, -, rfl⟩
      rw [CatalogColumn.accessorNames_declaration, List.map_nil]
    rw [noName]
    exact List.nodup_nil

/-- What the schema of a catalog table has to be. -/
structure IsFollowedBy
    (table : CatalogTable)
    (key : CatalogColumn)
    (schema : TableSchema) :
    Prop where
  name : schema.table = table.name
  fields :
    schema.fields.map (fun field => (field.name, field.column)) =
      table.columns.map fun column => (column.name, column.name)
  identifier : schema.identifier ∈ schema.fields ∧ schema.identifier.name = key.name
  insertable : schema.insertable.isSome = true ↔ ∃ column ∈ table.columns, column.IsFilledIn
  insertFields :
    schema.insertFields.map Field.name =
      (table.columns.filter fun column => ¬column.IsFilledIn).map CatalogColumn.name

/-- A field of a catalog table has the column that it is made from. -/
theorem column_of_isRead
    {backend : Backend}
    {entity identifierName : String}
    {column : CatalogColumn}
    {field : Field}
    (isRead : Field.IsRead backend entity identifierName (column.declaration []) field) :
    field.column = column.name := by
  rcases isRead with ⟨options, collected, rfl⟩
  have noOption : Attribute.text? (column.declaration []).attributes "column" = none := by
    rw [CatalogColumn.declaration]
    cases column.isGenerated with
    | true => rfl
    | false => rfl
  rw [Field.ofOptions, Options.text?_of_collect collected rfl, noOption]
  rfl

/-- The fields that a declared table is read as follow its columns. -/
theorem map_of_isRead
    {backend : Backend}
    {entity identifierName : String}
    {columns : List CatalogColumn}
    {fields : List Field}
    (reads :
      List.Forall₂ (Field.IsRead backend entity identifierName)
        (columns.map fun column => column.declaration []) fields) :
    fields.map (fun field => (field.name, field.column)) =
        columns.map (fun column => (column.name, column.name)) ∧
      (fields.filter fun field => !field.isDefaultGenerated).map Field.name =
        (columns.filter fun column => ¬column.IsFilledIn).map CatalogColumn.name := by
  rw [List.forall₂_map_left_iff] at reads
  induction reads with
  | nil => exact ⟨rfl, rfl⟩
  | @cons column field rest others isRead _ inductionHypothesis =>
      have isGenerated := Field.isDefaultGenerated_iff_of_isRead isRead
      rw [CatalogColumn.isGenerated_declaration_iff] at isGenerated
      have sameName : field.name = column.name := Field.name_of_isRead isRead
      have sameColumn : field.column = column.name := column_of_isRead isRead
      rcases inductionHypothesis with ⟨isFields, isInserted⟩
      constructor
      · rw [List.map_cons, List.map_cons, isFields, sameName, sameColumn]
      · rw [List.filter_cons, List.filter_cons]
        by_cases isFilled : column.IsFilledIn
        · rw [isGenerated.2 isFilled, decide_eq_false (not_not.2 isFilled)]
          exact isInserted
        · rw [Bool.eq_false_iff.2 (mt isGenerated.1 isFilled), decide_eq_true isFilled]
          rw [Bool.not_false, if_pos rfl, if_pos rfl, List.map_cons, List.map_cons, isInserted,
            sameName]

/-- The schema of an accepted catalog table follows its columns. -/
theorem isFollowedBy_of_ofDeclaration
    {workspace : Workspace}
    {choice : BackendChoice}
    {entity : String}
    {schema : TableSchema}
    (accepted :
      (TableSchema.ofDeclaration workspace choice (table.declared key entity)).outcome =
        .ok schema) :
    table.IsFollowedBy key schema := by
  rcases TableSchema.ofDeclaration_eq_ok_iff.1 accepted with
    ⟨options, backend, name, identifierName, fields, identifier, collected, -, isTable, isName, -,
      reads, -, found, -, rfl⟩
  rw [Options.text?_of_collect collected rfl] at isTable isName
  rw [text?_id_declared] at isName
  cases isName
  rcases map_of_isRead reads with ⟨isFields, isInserted⟩
  constructor
  case name =>
    rw [text?_table_declared] at isTable
    exact (Option.some.inj isTable).symm
  case fields => exact isFields
  case identifier =>
    have member := List.mem_of_find?_eq_some found
    have isNamed := Field.isIdentifier_iff_of_isRead reads identifier member
    exact ⟨member, isNamed.1 (List.find?_some found)⟩
  case insertable =>
    rw [Option.isSome_map, Options.isSome_insertable?_of_collect collected rfl,
      Attribute.isSome_value?_iff]
    exact exists_insertable_iff entity
  case insertFields => exact isInserted

/-- What the plan of a catalog table has to be: it inserts what the database leaves open. -/
structure IsServedBy (table : CatalogTable) (plan : TablePlan) : Prop where
  inserts : plan.insert.isSome = true ↔ ∃ column ∈ table.columns, column.IsFilledIn
  params :
    ∀ insert ∈ plan.insert,
      insert.statement.params =
        (table.columns.filter fun column => ¬column.IsFilledIn).map CatalogColumn.name

theorem isServedBy_of_compile
    {schema : TableSchema}
    {backend : Backend}
    {plan : TablePlan}
    (follows : table.IsFollowedBy key schema)
    (compiled : (schema.compile backend).outcome = .ok plan) :
    table.IsServedBy plan := by
  constructor
  case inserts =>
    rw [TableSchema.isSome_insert_of_compile compiled]
    exact follows.insertable
  case params =>
    intro insert isInsert
    have planned := TableSchema.insertPlan_of_compile compiled isInsert
    rw [TableSchema.params_of_insertPlan planned]
    exact follows.insertFields

/--
Without further options, a table with names and one key is declared, accepted and compiled by every
standard backend, and its schema and its plan follow its columns.  A table without a key, or with a
composite one, is refused.
-/
theorem compiles_declarationFor :
    (∀ (table : CatalogTable) (key : CatalogColumn) (name : Option String)
        (workspace : Workspace) (choice : BackendChoice) (backend : Backend),
        table.IsNamed →
          table.keyColumns = [key] →
            backend ∈ standardBackends →
              workspace.resolve choice = .ok backend →
                ∃ (declaration : Declaration) (schema : TableSchema) (plan : TablePlan),
                  table.declarationFor (name.map Value.text) [] [] = .ok declaration ∧
                    (TableSchema.ofDeclaration workspace choice declaration).outcome =
                        .ok schema ∧
                      (schema.compile backend).outcome = .ok plan ∧
                        table.IsFollowedBy key schema ∧ table.IsServedBy plan) ∧
      ∀ (table : CatalogTable) (name : Option String),
        (table.columns.map CatalogColumn.name).Nodup →
          table.keyColumns.length ≠ 1 →
            table.declarationFor (name.map Value.text) [] [] =
              .error (.notOneKey table.name table.keyColumns.length) := by
  constructor
  · intro table key name workspace choice backend named one standard resolved
    have has : workspace.Has choice := by
      have decides := TableSchema.decides_resolve workspace choice
      rw [resolved] at decides
      exact Requirement.allHold_singleton_iff.1 decides
    rcases exists_declarationFor named.distinct one name with ⟨entity, declared⟩
    have decides := TableSchema.decides_ofDeclaration workspace choice (table.declared key entity)
    have isWellFormed := isWellFormed_declared named one has entity
    rcases decides.exists_ok_iff.2 (Declaration.allHold_requirements_iff.2 isWellFormed) with
      ⟨schema, accepted⟩
    have follows := isFollowedBy_of_ofDeclaration accepted
    rcases schema.exists_compile (TableSchema.able_of_standard standard) with ⟨plan, compiled⟩
    exact
      ⟨_, schema, plan, declared, accepted, compiled, follows,
        isServedBy_of_compile follows compiled⟩
  · intro table name distinct notOne
    exact declarationFor_eq_error distinct notOne name

/-- A table of notes that are numbered and dated by the database. -/
def noteTable : CatalogTable where
  name := "notes"
  columns :=
    [{ name := "id", type := .integer, isKey := true },
      { name := "title", type := .text },
      { name := "created", type := .datetime, hasDefault := true }]

/-- A table of links between notes, whose key consists of both columns. -/
def linkTable : CatalogTable where
  name := "links"
  columns :=
    [{ name := "source", type := .integer, isKey := true },
      { name := "target", type := .integer, isKey := true }]

theorem isNamed_noteTable : noteTable.IsNamed where
  name := by decide
  columns := by simp [noteTable]
  distinct := by simp [noteTable]

/-- The table of notes is compiled, and notes are inserted by their titles; links are refused. -/
theorem compiles_declarationFor_notes :
    (∃ (key : CatalogColumn) (declaration : Declaration) (schema : TableSchema)
        (plan : TablePlan),
        (noteTable.IsNamed ∧ noteTable.keyColumns = [key] ∧ Backend.sqlite ∈ standardBackends ∧
            Workspace.standard.resolve (.registered "sqlite") = .ok .sqlite) ∧
          noteTable.declarationFor none [] [] = .ok declaration ∧
            (schema.compile .sqlite).outcome = .ok plan ∧
              schema.identifier.name = "id" ∧ schema.insertFields.map Field.name = ["title"]) ∧
      ((linkTable.columns.map CatalogColumn.name).Nodup ∧ linkTable.keyColumns.length ≠ 1) ∧
        linkTable.declarationFor none [] [] = .error (.notOneKey "links" 2) := by
  have standard : Backend.sqlite ∈ standardBackends := by simp [standardBackends]
  have distinct : (linkTable.columns.map CatalogColumn.name).Nodup := by simp [linkTable]
  have notOne : linkTable.keyColumns.length ≠ 1 := by decide
  constructor
  · rcases compiles_declarationFor.1 noteTable _ none .standard (.registered "sqlite") .sqlite
        isNamed_noteTable rfl standard rfl with
      ⟨declaration, schema, plan, declared, accepted, compiled, follows, -⟩
    exact
      ⟨_, declaration, schema, plan, ⟨isNamed_noteTable, rfl, standard, rfl⟩, declared, compiled,
        follows.identifier.2, follows.insertFields⟩
  · exact ⟨⟨distinct, notOne⟩, compiles_declarationFor.2 linkTable none distinct notOne⟩

end CatalogTable

end SqlMapping
