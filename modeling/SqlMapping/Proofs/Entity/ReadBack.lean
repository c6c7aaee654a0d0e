import Mathlib.Data.List.Perm.Basic
import SqlMapping.Entity.Insertion
import SqlMapping.Proofs.Database.Exchange
import SqlMapping.Proofs.Entity.Definitions
import SqlMapping.Proofs.Entries
import SqlMapping.Proofs.Statement.Alignment

/-!
# Values that are read back

After an insert the generated values of the row are read back: from the insert itself, which then
returns the identifier and every other generated column, or by the query for the generated
identifier and the selection of the other generated columns.

A database is seen here through its answers to texts with arguments.  The main statements say
what either way reads back from a database that has stored a row, and that the values of the row
overlaid with it are the whole stored row.
-/

namespace SqlMapping

/-- A stored row: the value of every column. -/
abbrev StoredRow := String → Value

namespace Field

/-- The name under which the selected item of a field is reported: its label, or else its column. -/
def reportedName (field : Field) : String :=
  match field.selectItem.getLast? with
  | some (.identifier name) | some (.label name) => name
  | _ => field.column

/-- Whether the name of a field is free of blanks and dollar signs, as identifiers are. -/
def IsNamedByWord (field : Field) : Prop :=
  ' ' ∉ field.name.toList ∧ '$' ∉ field.name.toList

/-- What a field is in a stored row. -/
def entry (stored : StoredRow) (field : Field) : String × Value :=
  (field.name, stored field.column)

/-- The reported name of a field stands for the field. -/
theorem outputName_reportedName
    {field : Field}
    (named : field.IsNamedByWord) :
    outputName field.reportedName = field.name := by
  have unmarked : outputName field.name = field.name := by
    rw [outputName, dropMarker, if_neg, String.ofList_toList]
    intro isSuffix
    rcases List.isSuffixOf_iff_suffix.1 isSuffix with ⟨before, equal⟩
    apply named.1
    rw [← equal]
    exact List.mem_append_right before (by decide)
  rw [reportedName, selectItem]
  split_ifs with isCustom isRenamed
  · exact outputName_append_typeMarker field.name
  · exact unmarked
  · rw [not_ne_iff] at isRenamed
    dsimp only [List.getLast?_singleton]
    rw [isRenamed, unmarked]

theorem argumentName?_name
    {field : Field}
    (named : field.IsNamedByWord) :
    Statement.argumentName? field.name = none := by
  rw [Statement.argumentName?]
  split
  · rename_i rest equal
    refine absurd ?_ named.2
    rw [equal]
    exact List.mem_cons_self
  · rfl

end Field

/-- A reply with a row, which can be fetched. -/
structure Reply.HasRow (reply : Reply) (row : List Value) : Prop where
  succeeds : reply.fault = none
  fetches : reply.fetchFault = none
  first : reply.rows.head? = some row

/-- A reply with the stored values of some fields, under the names that selecting them gives. -/
structure Reply.Reports (reply : Reply) (stored : StoredRow) (fields : List Field) : Prop
    extends reply.HasRow (fields.map fun field => stored field.column) where
  columns : reply.columns = fields.map Field.reportedName

/-- The reply that consists of the stored values of some fields. -/
def Reply.ofStored (stored : StoredRow) (fields : List Field) : Reply where
  columns := fields.map Field.reportedName
  rows := [fields.map fun field => stored field.column]

theorem Reply.reports_ofStored (stored : StoredRow) (fields : List Field) :
    (Reply.ofStored stored fields).Reports stored fields :=
  ⟨⟨rfl, rfl, rfl⟩, rfl⟩

namespace TableSchema

/-- The fields that can be read back: the identifier, and the other generated fields. -/
def readBack (schema : TableSchema) : List Field :=
  schema.identifier :: schema.otherDefaults

/-- The generated fields, the identifier first if it is among them. -/
def generatedFields (schema : TableSchema) : List Field :=
  if schema.identifier.isDefaultGenerated then schema.readBack else schema.otherDefaults

/-- A whole stored row: the fields that the caller supplied, and then the generated ones. -/
def wholeRow (schema : TableSchema) (stored : StoredRow) : List (String × Value) :=
  (schema.insertFields ++ schema.generatedFields).map (Field.entry stored)

/-- The text of an insert that lists columns. -/
def insertText (schema : TableSchema) (backend : Backend) (columns : List String) : String :=
  "INSERT INTO " ++ backend.quote schema.table ++ Statement.insertedText backend columns

/-- The text of a selection of fields from the row of an identifier. -/
def selectText (schema : TableSchema) (backend : Backend) (fields : List Field) : String :=
  "SELECT " ++ columnList backend fields ++ " FROM " ++ backend.quote schema.table
    ++ " WHERE " ++ backend.quote schema.identifier.column ++ " = "
    ++ backend.placeholder 0

/--
The answers of a database in which an insert stores a row: the columns that the insert lists take
the values that it gives, in whatever order, and the others are generated.  Fields that the
insert returns, or that are selected from the row of the identifier, are reported.
-/
structure IsStoredBy
    (schema : TableSchema)
    (backend : Backend)
    (stored : StoredRow)
    (answer : Request → Reply) :
    Prop where
  begins : (answer (backend.beginSql, none)).fault = none
  confirms : (answer ("COMMIT", none)).fault = none
  inserts :
    ∀ columns : List String,
      columns.Perm (schema.insertFields.map Field.column) →
        (answer (schema.insertText backend columns, some (columns.map stored))).fault = none
  returns :
    backend.supportsReturning = true →
      ∀ columns : List String,
        columns.Perm (schema.insertFields.map Field.column) →
          ∀ fields : List Field,
            fields.Sublist schema.readBack →
              fields ≠ [] →
                (answer
                  (schema.insertText backend columns ++ " RETURNING "
                      ++ columnList backend fields,
                    some (columns.map stored))).Reports stored fields
  identifies :
    schema.identifier.isDefaultGenerated = true →
      ∀ query ∈ backend.lastInsertId,
        ∃ others : List Value,
          (answer (query, some [])).HasRow (stored schema.identifier.column :: others)
  selects :
    ∀ fields : List Field,
      fields.Sublist schema.readBack →
        fields ≠ [] →
          (answer
            (schema.selectText backend fields,
              some [stored schema.identifier.column])).Reports stored fields

/-! ## Generated texts -/

section Texts

variable (schema : TableSchema) (backend : Backend)

theorem sql_insert (params : List String) :
    (Statement.ofTemplate backend schema.insertTemplate params).sql =
      schema.insertText backend (schema.insertFields.map Field.column) := by
  apply String.toList_injective
  rw [Statement.ofTemplate, Template.toList_render, characters_insertTemplate]
  rfl

theorem sql_insert_returning (fields : List Field) (params : List String) :
    (Statement.ofTemplate backend
        (schema.insertTemplate ++ .word " RETURNING " :: selectList fields) params).sql =
      schema.insertText backend (schema.insertFields.map Field.column) ++ " RETURNING "
        ++ columnList backend fields := by
  apply String.toList_injective
  rw [Statement.ofTemplate, Template.toList_render, Template.characters_append,
    Template.characters_word, Template.characters_of_fixed (placeholderCount_selectList fields),
    characters_insertTemplate]
  simp only [insertText, columnList, String.toList_append, Template.toList_render,
    List.append_assoc]

theorem sql_selectFrom (fields : List Field) (params : List String) :
    (Statement.ofTemplate backend (schema.selectFrom fields ++ schema.whereIdentifier) params).sql =
      schema.selectText backend fields := by
  have listed := placeholderCount_selectList fields
  have selected := schema.placeholderCount_selectFrom fields
  apply String.toList_injective
  rw [Statement.ofTemplate, Template.toList_render, Template.characters_append, selected,
    selectFrom, whereIdentifier, selectText]
  simp only [List.cons_append, Template.characters_word, Template.characters_append,
    Template.characters_identifier, Template.characters_placeholder, Template.characters_nil,
    String.toList_append, columnList, Template.toList_render, List.append_assoc, List.append_nil]

end Texts

/-! ## Fields of a stored row -/

/-- The fields of a table have different words as names, and one of them is the identifier. -/
structure IsWellNamed (schema : TableSchema) : Prop where
  distinct : (schema.fields.map Field.name).Nodup
  words : ∀ field ∈ schema.fields, field.IsNamedByWord
  hasIdentifier : schema.identifier ∈ schema.fields
  isIdentifier_iff :
    ∀ field ∈ schema.fields, field.isIdentifier = true ↔ field = schema.identifier

/-- The values of the fields that the caller supplies are those of a stored row. -/
structure Supplies
    (schema : TableSchema)
    (stored : StoredRow)
    (values : List (String × Value)) :
    Prop where
  names : values.map Prod.fst = schema.insertFields.map Field.name
  values :
    ∀ field ∈ schema.insertFields, values.lookup field.name = some (stored field.column)

variable {schema : TableSchema} {backend : Backend} {stored : StoredRow}

theorem mem_otherDefaults_iff
    {field : Field} :
    field ∈ schema.otherDefaults ↔
      (field ∈ schema.fields ∧ field.isDefaultGenerated = true) ∧ field.isIdentifier = false := by
  rw [otherDefaults, defaultFields, List.mem_filter, List.mem_filter, Bool.not_eq_true']

namespace IsWellNamed

theorem nodup_fields (named : schema.IsWellNamed) : schema.fields.Nodup :=
  List.Nodup.of_map Field.name named.distinct

theorem identifier_not_mem_otherDefaults
    (named : schema.IsWellNamed) :
    schema.identifier ∉ schema.otherDefaults := by
  intro member
  rw [mem_otherDefaults_iff] at member
  have isIdentifier := (named.isIdentifier_iff _ named.hasIdentifier).2 rfl
  rw [member.2] at isIdentifier
  cases isIdentifier

theorem nodup_otherDefaults (named : schema.IsWellNamed) : schema.otherDefaults.Nodup :=
  (named.nodup_fields.filter _).filter _

theorem nodup_readBack (named : schema.IsWellNamed) : schema.readBack.Nodup :=
  List.nodup_cons.2 ⟨named.identifier_not_mem_otherDefaults, named.nodup_otherDefaults⟩

theorem mem_fields_of_mem_readBack
    (named : schema.IsWellNamed)
    {field : Field}
    (member : field ∈ schema.readBack) :
    field ∈ schema.fields := by
  rcases List.mem_cons.1 member with rfl | isOther
  · exact named.hasIdentifier
  · exact (mem_otherDefaults_iff.1 isOther).1.1

theorem nodup_names_of_sublist
    (named : schema.IsWellNamed)
    {fields : List Field}
    (selected : fields.Sublist schema.readBack) :
    (fields.map Field.name).Nodup := by
  apply List.Nodup.map_on ?_ (named.nodup_readBack.sublist selected)
  intro first firstMember second secondMember
  exact
    List.inj_on_of_nodup_map named.distinct
      (named.mem_fields_of_mem_readBack (selected.subset firstMember))
      (named.mem_fields_of_mem_readBack (selected.subset secondMember))

/-- An identifier that is not generated is supplied. -/
theorem mem_insertFields
    (named : schema.IsWellNamed)
    (supplied : ¬ schema.identifier.isDefaultGenerated = true) :
    schema.identifier ∈ schema.insertFields := by
  rw [insertFields, List.mem_filter, Bool.not_eq_true']
  exact ⟨named.hasIdentifier, Bool.of_not_eq_true supplied⟩

/-- Generated fields are those that the database generates, in another order. -/
theorem perm_generatedFields
    (named : schema.IsWellNamed) :
    schema.generatedFields.Perm schema.defaultFields := by
  have isDefault
      {field : Field} :
      field ∈ schema.defaultFields ↔ field ∈ schema.fields ∧ field.isDefaultGenerated = true :=
    List.mem_filter
  have distinct : schema.defaultFields.Nodup := named.nodup_fields.filter _
  have other
      {field : Field}
      (member : field ∈ schema.fields) :
      field.isIdentifier = false ↔ field ≠ schema.identifier := by
    rw [← Bool.not_eq_true, named.isIdentifier_iff field member]
  rw [generatedFields]
  split_ifs with generated
  · rw [List.perm_ext_iff_of_nodup named.nodup_readBack distinct]
    intro field
    rw [readBack, List.mem_cons, mem_otherDefaults_iff, isDefault]
    constructor
    · rintro (rfl | ⟨member, -⟩)
      · exact ⟨named.hasIdentifier, generated⟩
      · exact member
    · intro member
      by_cases isIdentifier : field = schema.identifier
      · exact Or.inl isIdentifier
      · exact Or.inr ⟨member, (other member.1).2 isIdentifier⟩
  · rw [List.perm_ext_iff_of_nodup named.nodup_otherDefaults distinct]
    intro field
    rw [mem_otherDefaults_iff, isDefault]
    constructor
    · exact fun member => member.1
    · intro member
      refine ⟨member, (other member.1).2 ?_⟩
      rintro rfl
      exact generated member.2

/-- A whole row has every field of the table. -/
theorem perm_wholeRow
    (named : schema.IsWellNamed)
    (stored : StoredRow) :
    ((schema.wholeRow stored).map Prod.fst).Perm (schema.fields.map Field.name) := by
  have parts : (schema.insertFields ++ schema.defaultFields).Perm schema.fields := by
    apply List.Perm.trans List.perm_append_comm
    exact List.filter_append_perm Field.isDefaultGenerated schema.fields
  have all : (schema.insertFields ++ schema.generatedFields).Perm schema.fields :=
    (named.perm_generatedFields.append_left schema.insertFields).trans parts
  rw [wholeRow, List.map_map]
  exact all.map Field.name

end IsWellNamed

theorem Supplies.eq_map_entry
    {values : List (String × Value)}
    (named : schema.IsWellNamed)
    (supplies : schema.Supplies stored values) :
    values = schema.insertFields.map (Field.entry stored) := by
  apply Entries.eq_map_of_lookup supplies.names
  · exact named.distinct.sublist (List.filter_sublist.map Field.name)
  · exact supplies.values

/-- A generated identifier stands before the other generated fields. -/
theorem putAll_otherDefaults
    (named : schema.IsWellNamed) :
    Entries.putAll
        (if schema.identifier.isDefaultGenerated then [schema.identifier.entry stored] else [])
        (schema.otherDefaults.map (Field.entry stored)) =
      schema.generatedFields.map (Field.entry stored) := by
  have distinct := named.nodup_names_of_sublist (List.Sublist.refl schema.readBack)
  rw [readBack, List.map_cons, List.nodup_cons] at distinct
  have othersDistinct :
      ((schema.otherDefaults.map (Field.entry stored)).map Prod.fst).Nodup := by
    rw [List.map_map]
    exact distinct.2
  rw [generatedFields]
  split_ifs with generated
  · apply Entries.putAll_of_fresh othersDistinct
    intro name isOther isIdentifier
    rw [List.map_map] at isOther
    rw [List.mem_singleton.1 isIdentifier] at isOther
    exact distinct.1 isOther
  · apply Entries.putAll_of_fresh othersDistinct
    intro name _ member
    cases member

/-- The supplied values overlaid with the generated ones are the whole row. -/
theorem putAll_generatedFields
    {values : List (String × Value)}
    (named : schema.IsWellNamed)
    (supplies : schema.Supplies stored values) :
    Entries.putAll values (schema.generatedFields.map (Field.entry stored)) =
      schema.wholeRow stored := by
  have distinct : ((schema.wholeRow stored).map Prod.fst).Nodup :=
    (named.perm_wholeRow stored).nodup_iff.2 named.distinct
  rw [wholeRow, List.map_append, List.map_append, List.nodup_append,
    ← supplies.eq_map_entry named] at distinct
  rcases distinct with ⟨-, generatedDistinct, apart⟩
  rw [wholeRow, List.map_append, ← supplies.eq_map_entry named]
  apply Entries.putAll_of_fresh generatedDistinct
  intro name isGenerated isSupplied
  exact apart name isSupplied name isGenerated rfl

/-- An identifier that the caller supplied may be read back as well. -/
theorem putAll_readBack
    {values : List (String × Value)}
    (named : schema.IsWellNamed)
    (supplies : schema.Supplies stored values) :
    Entries.putAll values (schema.readBack.map (Field.entry stored)) =
      schema.wholeRow stored := by
  rw [← putAll_generatedFields named supplies, generatedFields]
  split_ifs with generated
  · rfl
  · have unchanged :
        Entries.put values schema.identifier.name (stored schema.identifier.column) = values :=
      Entries.put_of_lookup (supplies.values _ (named.mem_insertFields generated))
    show Entries.putAll (Entries.put values _ _) _ = _
    rw [unchanged]

/-! ## Reading back -/

/-- A row with the stored values of some fields is read under the names of the fields. -/
theorem namedRow_of_reports
    (named : schema.IsWellNamed)
    {fields : List Field}
    (selected : fields.Sublist schema.readBack)
    {reply : Reply}
    (reports : reply.Reports stored fields) :
    Database.namedRow (Database.columnNames reply) (fields.map fun field => stored field.column) =
      fields.map (Field.entry stored) := by
  have names : Database.columnNames reply = fields.map Field.name := by
    rw [Database.columnNames, reports.columns, List.map_map]
    apply List.map_congr_left
    intro field member
    apply Field.outputName_reportedName
    exact named.words field (named.mem_fields_of_mem_readBack (selected.subset member))
  rw [Database.namedRow, names, List.zip_map']
  apply Entries.putAll_of_fresh
  · rw [List.map_map]
    exact named.nodup_names_of_sublist selected
  · intro name _ member
    cases member

end TableSchema

namespace InsertRow

open Database (Gives Proceeds bound)

variable {answer : Request → Reply} {endpoint : Endpoint}
  {schema : TableSchema} {backend : Backend} {plan : InsertPlan} {stored : StoredRow}
  {row : InsertRow}

theorem proceeds_firstColumn (sql : String) (cursor : Cursor) :
    Proceeds (firstColumn sql cursor) := by
  apply Proceeds.bind (Database.proceeds_fetchOne cursor (some sql))
  rintro ⟨columns, rest⟩
  cases columns with
  | none => exact Database.proceeds_throw _
  | some columns =>
      cases columns with
      | nil => exact Database.proceeds_throw _
      | cons value others => exact Database.proceeds_pure _

theorem gives_firstColumn
    {cursor : Cursor}
    {value : Value}
    {others : List Value}
    (hasRow : cursor.reply.HasRow (value :: others))
    (sql : String) :
    Gives answer endpoint (firstColumn sql cursor) fun found => found = value := by
  refine Gives.bind (Database.gives_fetchOne hasRow.fetches (some sql)) ?_ ?_
  · rintro ⟨columns, rest⟩
    cases columns with
    | none => exact Database.proceeds_throw _
    | some columns =>
        cases columns with
        | nil => exact Database.proceeds_throw _
        | cons value others => exact Database.proceeds_pure _
  · rintro ⟨columns, rest⟩ isFirst
    dsimp only at isFirst
    rw [hasRow.first] at isFirst
    subst isFirst
    exact Database.gives_pure rfl

/-- A statement is executed, and its only row is read. -/
def readRow (cursor : Cursor) (sql : String) (arguments : List Value) :
    Database (List (String × Value)) := do
  let cursor ← Database.run cursor sql arguments
  let (row, _) ← Database.fetchRow cursor sql
  return row

theorem proceeds_readRow (cursor : Cursor) (sql : String) (arguments : List Value) :
    Proceeds (readRow cursor sql arguments) := by
  apply Proceeds.bind (Database.proceeds_execute cursor sql (some arguments))
  intro cursor
  apply Proceeds.bind (Database.proceeds_fetchRow cursor sql)
  exact fun _ => Database.proceeds_pure _

theorem gives_readRow
    (named : schema.IsWellNamed)
    {fields : List Field}
    (selected : fields.Sublist schema.readBack)
    {sql : String}
    {arguments : List Value}
    (cursor : Cursor)
    (reports : (answer (sql, some arguments)).Reports stored fields) :
    Gives answer endpoint (readRow cursor sql arguments) fun row =>
      row = fields.map (Field.entry stored) := by
  refine Gives.bind (Database.gives_execute cursor reports.succeeds) ?_ ?_
  · intro cursor
    apply Proceeds.bind (Database.proceeds_fetchRow cursor sql)
    exact fun _ => Database.proceeds_pure _
  · intro cursor isReply
    rw [← isReply] at reports
    refine Gives.bind (Database.gives_fetchRow reports.fetches reports.first sql) ?_ ?_
    · exact fun _ => Database.proceeds_pure _
    · rintro ⟨row, rest⟩ isRow
      apply Database.gives_pure
      exact isRow.trans (TableSchema.namedRow_of_reports named selected reports)

theorem proceeds_fetchIdentifier
    (name : String)
    (cursor : Cursor)
    (query : Option Statement) :
    Proceeds (fetchIdentifier name cursor query) := by
  cases query with
  | none => exact Database.proceeds_pure _
  | some statement =>
      apply Proceeds.bind (Database.proceeds_execute cursor statement.sql (some []))
      intro cursor
      apply Proceeds.bind (proceeds_firstColumn statement.sql cursor)
      exact fun _ => Database.proceeds_pure _

theorem proceeds_fetchDefaults
    (identifier : Value)
    (cursor : Cursor)
    (query : Option Statement) :
    Proceeds (fetchDefaults identifier cursor query) := by
  cases query with
  | none => exact Database.proceeds_pure _
  | some statement =>
      apply Proceeds.bind (Database.proceeds_require _)
      exact proceeds_readRow cursor statement.sql

/-- The insert binds the values of the row that are stored. -/
theorem bound_insert
    {statement : Statement}
    (named : schema.IsWellNamed)
    (supplies : schema.Supplies stored row.fields)
    (params : statement.params = schema.insertFields.map Field.name) :
    bound statement row.fields [] =
      .ok ((schema.insertFields.map Field.column).map stored) := by
  rw [bound, Outcome.mapError_eq_ok_iff, Statement.bind, params, Outcome.mapM_eq_ok_iff,
    List.map_map, List.forall₂_map_left_iff, List.forall₂_map_right_iff, List.forall₂_same]
  intro field member
  have isField : field ∈ schema.fields := (List.mem_filter.1 member).1
  rw [Statement.bindParameter, Field.argumentName?_name (named.words field isField)]
  dsimp only
  rw [supplies.values field member]
  rfl

/-- An insert that returns columns gives those that can be read back. -/
theorem gives_insertReturning
    (named : schema.IsWellNamed)
    (supplies : schema.Supplies stored row.fields)
    (isStored : schema.IsStoredBy backend stored answer)
    (returning : backend.supportsReturning = true)
    (planned : schema.insertPlan backend = .ok plan)
    (dialect : Option String) :
    Gives answer endpoint (row.insertReturning plan dialect) fun generated =>
      generated = schema.readBack.map (Field.entry stored) := by
  have reports :=
    isStored.returns returning _ (List.Perm.refl _) _ (List.Sublist.refl _) (List.cons_ne_nil _ _)
  rw [← schema.sql_insert_returning backend _ (schema.insertFields.map Field.name)] at reports
  rw [TableSchema.eq_of_insertPlan_of_returning returning planned]
  apply Gives.withCursor
  intro cursor
  refine Gives.bind (Database.gives_require (bound_insert named supplies rfl) rfl) ?_ ?_
  · exact fun arguments => proceeds_readRow cursor _ arguments
  · rintro _ rfl
    exact gives_readRow named (List.Sublist.refl _) cursor reports

/-- The query for a generated identifier gives the stored one. -/
theorem gives_fetchIdentifier
    (isStored : schema.IsStoredBy backend stored answer)
    (noReturning : backend.supportsReturning = false)
    (planned : schema.insertPlan backend = .ok plan)
    (cursor : Cursor) :
    Gives answer endpoint (fetchIdentifier schema.identifier.name cursor plan.lastInsertId)
      fun generated =>
        generated =
          if schema.identifier.isDefaultGenerated then [schema.identifier.entry stored]
          else [] := by
  rw [TableSchema.eq_of_insertPlan noReturning planned]
  dsimp only
  split_ifs with generated
  · rcases TableSchema.exists_lastInsertId_of_insertPlan noReturning planned generated with
      ⟨sql, isQuery⟩
    rcases isStored.identifies generated sql isQuery with ⟨others, hasRow⟩
    rw [isQuery]
    refine Gives.bind (Database.gives_execute cursor hasRow.succeeds) ?_ ?_
    · intro cursor
      apply Proceeds.bind (proceeds_firstColumn sql cursor)
      exact fun _ => Database.proceeds_pure _
    · intro cursor isReply
      rw [← isReply] at hasRow
      refine Gives.bind (gives_firstColumn hasRow sql) (fun _ => Database.proceeds_pure _) ?_
      rintro _ rfl
      exact Database.gives_pure rfl
  · exact Database.gives_pure rfl

/-- The selection of the other generated columns gives the stored ones. -/
theorem gives_fetchDefaults
    (named : schema.IsWellNamed)
    (isStored : schema.IsStoredBy backend stored answer)
    (noReturning : backend.supportsReturning = false)
    (planned : schema.insertPlan backend = .ok plan)
    (cursor : Cursor) :
    Gives answer endpoint
      (fetchDefaults (stored schema.identifier.column) cursor plan.fetchDefaults)
      fun generated => generated = schema.otherDefaults.map (Field.entry stored) := by
  rw [TableSchema.eq_of_insertPlan noReturning planned]
  dsimp only
  split_ifs with noDefaults
  · rw [List.isEmpty_iff] at noDefaults
    rw [noDefaults]
    exact Database.gives_pure rfl
  · rw [List.isEmpty_iff] at noDefaults
    have selected : schema.otherDefaults.Sublist schema.readBack := List.sublist_cons_self _ _
    have reports := isStored.selects schema.otherDefaults selected noDefaults
    rw [← schema.sql_selectFrom backend _ ["$id"]] at reports
    have bindsIdentifier :
        bound
            (.ofTemplate backend
              (schema.selectFrom schema.otherDefaults ++ schema.whereIdentifier) ["$id"])
            [] [("id", stored schema.identifier.column)] =
          .ok [stored schema.identifier.column] := rfl
    refine Gives.bind (Database.gives_require bindsIdentifier rfl) ?_ ?_
    · exact proceeds_readRow cursor _
    · rintro _ rfl
      exact gives_readRow named selected cursor reports

/-- An insert that queries gives the generated fields. -/
theorem gives_insertThenFetch
    (named : schema.IsWellNamed)
    (supplies : schema.Supplies stored row.fields)
    (isStored : schema.IsStoredBy backend stored answer)
    (noReturning : backend.supportsReturning = false)
    (planned : schema.insertPlan backend = .ok plan)
    (dialect : Option String) :
    Gives answer endpoint (row.insertThenFetch plan schema.identifier.name dialect)
      fun generated => generated = schema.generatedFields.map (Field.entry stored) := by
  have accepted := isStored.inserts _ (List.Perm.refl _)
  have isInsert :
      plan.statement =
        .ofTemplate backend schema.insertTemplate (schema.insertFields.map Field.name) := by
    rw [TableSchema.eq_of_insertPlan noReturning planned]
  rw [← schema.sql_insert backend (schema.insertFields.map Field.name), ← isInsert] at accepted
  -- The parts that follow each step, for whatever it gives.
  have fetches (cursor : Cursor) (generated : List (String × Value)) :=
    (proceeds_fetchDefaults
      (((generated.lookup schema.identifier.name).orElse fun _ =>
        row.fields.lookup schema.identifier.name).getD .null)
      cursor plan.fetchDefaults).bind fun others =>
        Database.proceeds_pure (Entries.putAll generated others)
  have asks (cursor : Cursor) :=
    (proceeds_fetchIdentifier schema.identifier.name cursor plan.lastInsertId).bind
      (fetches cursor)
  have executes (cursor : Cursor) (arguments : List Value) :=
    (Database.proceeds_execute cursor plan.statement.sql (some arguments)).bind asks
  apply Gives.withCursor
  intro cursor
  have binds :
      bound plan.statement row.fields [] =
        .ok ((schema.insertFields.map Field.column).map stored) := by
    apply bound_insert named supplies
    rw [isInsert]
    rfl
  refine Gives.bind (Database.gives_require binds rfl) (executes cursor) ?_
  rintro _ rfl
  refine Gives.bind (Database.gives_execute cursor accepted) asks ?_
  intro cursor _
  refine
    Gives.bind (gives_fetchIdentifier isStored noReturning planned cursor) (fetches cursor) ?_
  rintro generated isGenerated
  have isKey :
      ((generated.lookup schema.identifier.name).orElse fun _ =>
          row.fields.lookup schema.identifier.name).getD .null =
        stored schema.identifier.column := by
    rw [isGenerated]
    split_ifs with fromDatabase
    · rw [Field.entry, List.lookup_cons_self]
      rfl
    · rw [supplies.values schema.identifier (named.mem_insertFields fromDatabase)]
      rfl
  rw [isKey]
  refine
    Gives.bind (gives_fetchDefaults named isStored noReturning planned cursor)
      (fun _ => Database.proceeds_pure _) ?_
  rintro _ rfl
  apply Database.gives_pure
  rw [isGenerated, TableSchema.putAll_otherDefaults named]

/--
Whichever way the generated values are read back, the values of the row overlaid with them are
the whole row that the database has stored.
-/
theorem exists_on_generate
    {compiled : CompiledTable}
    (isGenerated : compiled.IsGenerated)
    (isInsert : compiled.plan.insert = some plan)
    (named : compiled.plan.schema.IsWellNamed)
    (supplies : compiled.plan.schema.Supplies stored row.fields)
    (isStored : compiled.plan.schema.IsStoredBy compiled.backend stored answer)
    {connection : Connection}
    (serves : connection.Serves connection.workEndpoint)
    (answered : Database.IsAnswered answer (row.generate compiled plan) connection) :
    ∃ (generated : List (String × Value)) (after : Connection),
      (row.generate compiled plan).on connection = (.ok generated, after) ∧
        Entries.putAll row.fields generated = compiled.plan.schema.wholeRow stored := by
  rcases isGenerated with ⟨schema, generated⟩
  have planned := TableSchema.insertPlan_of_compile generated isInsert
  rw [← TableSchema.schema_of_compile generated] at planned
  refine Database.exists_on_acquire (fun endpoint => ?_) serves answered
  by_cases returning : compiled.backend.supportsReturning = true
  · have returns : plan.returning = true := by
      rw [TableSchema.eq_of_insertPlan_of_returning returning planned]
    rw [if_pos returns]
    apply Gives.mono ?_ (gives_insertReturning named supplies isStored returning planned _)
    rintro _ rfl
    exact TableSchema.putAll_readBack named supplies
  · have noReturning : compiled.backend.supportsReturning = false := Bool.of_not_eq_true returning
    have queries : plan.returning = false := by
      rw [TableSchema.eq_of_insertPlan noReturning planned]
    rw [queries, if_neg Bool.false_ne_true]
    apply Gives.mono ?_
      ((gives_insertThenFetch named supplies isStored noReturning planned _).unitOfWork
        isStored.begins isStored.confirms)
    rintro _ rfl
    exact TableSchema.putAll_generatedFields named supplies

end InsertRow

end SqlMapping
