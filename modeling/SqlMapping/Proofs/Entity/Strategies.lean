import Mathlib.Data.List.Sublists
import SqlMapping.Proofs.Compilation.SingleBackend
import SqlMapping.Proofs.Entity.Insertion
import SqlMapping.Proofs.Entity.ReadBack

/-!
# One class, two backends

A class can be defined for one backend or another.  What its schema owes to the backend is the
name of the backend and the marks of reserved names; the fields are the same otherwise.

The main statement says that an insert hands the same values to the validator of the entity for
either backend, no matter which statements the backends make of the insert, and that these are
values of all fields of the entity.
-/

namespace SqlMapping

/-! ## What a schema owes to its backend -/

/-- A field without the mark that its name is reserved. -/
def Field.unreserved (field : Field) : Field :=
  { field with isReserved := false }

namespace TableSchema

/-- A schema without what depends on the backend. -/
def withoutBackend (schema : TableSchema) : TableSchema :=
  { schema with
    identifier := schema.identifier.unreserved
    fields := schema.fields.map Field.unreserved
    backend := "" }

theorem insertFields_withoutBackend (schema : TableSchema) :
    schema.withoutBackend.insertFields = schema.insertFields.map Field.unreserved :=
  List.filter_map

theorem defaultFields_withoutBackend (schema : TableSchema) :
    schema.withoutBackend.defaultFields = schema.defaultFields.map Field.unreserved :=
  List.filter_map

theorem otherDefaults_withoutBackend (schema : TableSchema) :
    schema.withoutBackend.otherDefaults = schema.otherDefaults.map Field.unreserved := by
  rw [otherDefaults, defaultFields_withoutBackend, List.filter_map]
  rfl

theorem generatedFields_withoutBackend (schema : TableSchema) :
    schema.withoutBackend.generatedFields = schema.generatedFields.map Field.unreserved := by
  rw [generatedFields, readBack, otherDefaults_withoutBackend, generatedFields, readBack]
  show (if schema.identifier.isDefaultGenerated = true then _ else _) = _
  split_ifs
  · rfl
  · rfl

/-- A whole row does not depend on the backend. -/
theorem wholeRow_withoutBackend (schema : TableSchema) (stored : StoredRow) :
    schema.withoutBackend.wholeRow stored = schema.wholeRow stored := by
  rw [wholeRow, insertFields_withoutBackend, generatedFields_withoutBackend, ← List.map_append,
    List.map_map]
  rfl

end TableSchema

/-- Fields that are read from the same declarations differ in their reserved names only. -/
theorem Field.map_unreserved_of_isRead
    {backend other : Backend}
    {entity identifierName : String}
    {declarations : List FieldDeclaration}
    {fields others : List Field}
    (read : List.Forall₂ (IsRead backend entity identifierName) declarations fields)
    (otherRead : List.Forall₂ (IsRead other entity identifierName) declarations others) :
    fields.map unreserved = others.map unreserved := by
  induction read generalizing others with
  | nil =>
      cases otherRead
      rfl
  | cons here _ inductionHypothesis =>
      cases otherRead with
      | cons otherHere otherRest =>
          rcases here with ⟨options, collected, rfl⟩
          rcases otherHere with ⟨otherOptions, otherCollected, rfl⟩
          rw [collected] at otherCollected
          cases otherCollected
          rw [List.map_cons, List.map_cons, inductionHypothesis otherRest]
          rfl

namespace TableSchema

variable {declaration : Declaration} {schema : TableSchema}

/-- A declaration that is accepted is accepted with its backend given as such. -/
theorem exists_given_of_ofDeclaration
    {workspace : Workspace}
    {choice : BackendChoice}
    (checked : (ofDeclaration workspace choice declaration).outcome = .ok schema) :
    ∃ backend : Backend,
      (ofDeclaration workspace (.given backend) declaration.withoutBackend).outcome =
        .ok schema := by
  rcases ofDeclaration_eq_ok_iff.1 checked with
    ⟨options, backend, _, _, _, _, collected, resolved, -⟩
  rw [ofDeclaration_withoutBackend collected resolved] at checked
  exact ⟨backend, checked⟩

/-- Schemas of declarations that differ in the backend differ in what depends on it only. -/
theorem withoutBackend_eq_of_ofDeclaration
    {workspace otherWorkspace : Workspace}
    {choice otherChoice : BackendChoice}
    {otherDeclaration : Declaration}
    {other : TableSchema}
    (same : declaration.withoutBackend = otherDeclaration.withoutBackend)
    (checked : (ofDeclaration workspace choice declaration).outcome = .ok schema)
    (otherChecked :
      (ofDeclaration otherWorkspace otherChoice otherDeclaration).outcome = .ok other) :
    schema.withoutBackend = other.withoutBackend := by
  rcases exists_given_of_ofDeclaration checked with ⟨backend, given⟩
  rcases exists_given_of_ofDeclaration otherChecked with ⟨otherBackend, otherGiven⟩
  rw [← same] at otherGiven
  rcases ofDeclaration_eq_ok_iff.1 given with
    ⟨options, _, table, identifierName, fields, identifier, collected, -, isTable, isName, -, read,
      -, found, -, rfl⟩
  rcases ofDeclaration_eq_ok_iff.1 otherGiven with
    ⟨otherOptions, _, otherTable, otherName, others, otherIdentifier, otherCollected, -,
      otherIsTable, otherIsName, -, otherRead, -, otherFound, -, rfl⟩
  rw [collected, Except.ok.injEq] at otherCollected
  subst otherCollected
  rw [isTable, Option.some.injEq] at otherIsTable
  subst otherIsTable
  rw [isName, Option.some.injEq] at otherIsName
  subst otherIsName
  have sameFields := Field.map_unreserved_of_isRead read otherRead
  have sameIdentifier : identifier.unreserved = otherIdentifier.unreserved := by
    have marked := congrArg (List.find? Field.isIdentifier) sameFields
    rw [List.find?_map, List.find?_map] at marked
    have unmarked : Field.isIdentifier ∘ Field.unreserved = Field.isIdentifier := rfl
    rw [unmarked, found, otherFound] at marked
    exact Option.some.inj marked
  rw [withoutBackend, withoutBackend]
  dsimp only
  rw [sameFields, sameIdentifier]

/-- The names of a schema's fields are those of the declaration. -/
theorem map_name_of_ofDeclaration
    {workspace : Workspace}
    {choice : BackendChoice}
    (checked : (ofDeclaration workspace choice declaration).outcome = .ok schema) :
    schema.fields.map Field.name = declaration.fieldNames := by
  rcases ofDeclaration_eq_ok_iff.1 checked with
    ⟨_, _, _, _, fields, _, -, -, -, -, -, read, -, -, -, rfl⟩
  exact Field.map_name_of_isRead read

/-- The fields of an accepted declaration are well named if the declared names are. -/
theorem isWellNamed_of_ofDeclaration
    {workspace : Workspace}
    {choice : BackendChoice}
    (distinct : declaration.fieldNames.Nodup)
    (words : ∀ name ∈ declaration.fieldNames, ' ' ∉ name.toList ∧ '$' ∉ name.toList)
    (checked : (ofDeclaration workspace choice declaration).outcome = .ok schema) :
    schema.IsWellNamed := by
  have names := map_name_of_ofDeclaration checked
  rw [← names] at distinct words
  rcases ofDeclaration_eq_ok_iff.1 checked with
    ⟨_, _, _, identifierName, fields, identifier, -, -, -, -, -, read, -, found, -, rfl⟩
  have isIdentifier := Field.isIdentifier_iff_of_isRead read
  constructor
  case distinct => exact distinct
  case words => exact fun field member => words field.name (List.mem_map_of_mem member)
  case hasIdentifier => exact List.mem_of_find?_eq_some found
  case isIdentifier_iff =>
    intro field member
    have isField := List.mem_of_find?_eq_some found
    have marked := (isIdentifier identifier isField).1 (List.find?_some found)
    rw [isIdentifier field member, ← marked]
    constructor
    · exact List.inj_on_of_nodup_map distinct member isField
    · exact congrArg Field.name

end TableSchema

/-! ## Rows of defined classes -/

/-- Options without the one that names a backend. -/
def ClassMarker.withoutBackend : ClassMarker → ClassMarker
  | .options attributes => .options (attributes.filter fun option => option.key != "backend")
  | marker => marker

/-- A definition without the option that names a backend. -/
def ClassDefinition.withoutBackend (definition : ClassDefinition) : ClassDefinition :=
  { definition with marker := definition.marker.withoutBackend }

namespace TableClass

variable {workspace : Workspace} {base : Option TableClass} {definition : ClassDefinition}
  {table : TableClass} {compiled : CompiledTable}

theorem exists_checked_of_define
    (defined : (define workspace base definition).outcome = .ok table)
    (isCompiled : table.own.compiled = some compiled) :
    ∃ attributes : List Attribute,
      definition.marker = .options attributes ∧
        (TableSchema.ofDeclaration workspace .configured
            (ClassDefinition.declaration definition.name attributes
              (ofDefinition base definition).fields)).outcome =
          .ok compiled.plan.schema := by
  rcases exists_attributes_of_define defined isCompiled with ⟨attributes, marker, planned, -, -⟩
  rw [compileTable, Report.bind_outcome_eq_ok_iff] at planned
  rcases planned with ⟨schema, checked, planned⟩
  rw [Report.bind_outcome_eq_ok_iff] at planned
  rcases planned with ⟨backend, -, generated⟩
  rw [TableSchema.schema_of_compile generated]
  exact ⟨attributes, marker, checked⟩

theorem fields_of_define
    (defined : (define workspace base definition).outcome = .ok table)
    (isCompiled : table.own.compiled = some compiled) :
    table.fields = (ofDefinition base definition).fields := by
  rcases exists_attributes_of_define defined isCompiled with ⟨attributes, -, -, -, isTable⟩
  rw [isTable]
  rfl

theorem statements_of_own
    (isCompiled : table.own.compiled = some compiled) :
    table.statements = .ok compiled := by
  rw [statements, compiledOr, compiled?, layers, List.findSome?_cons, isCompiled]

/-- The statements of a defined class were generated by the backend that is kept with them. -/
theorem isGenerated_of_define
    (defined : (define workspace base definition).outcome = .ok table)
    (isCompiled : table.own.compiled = some compiled) :
    compiled.IsGenerated := by
  rcases exists_attributes_of_define defined isCompiled with ⟨attributes, marker, -⟩
  rw [define, marker] at defined
  rcases exists_generated_of_compile defined with ⟨own, generated, isOwn, -⟩
  rw [isCompiled, Option.some.injEq] at isOwn
  rw [isOwn]
  exact generated

theorem map_name_of_define
    (defined : (define workspace base definition).outcome = .ok table)
    (isCompiled : table.own.compiled = some compiled) :
    compiled.plan.schema.fields.map Field.name = table.fieldNames := by
  rcases exists_checked_of_define defined isCompiled with ⟨attributes, -, checked⟩
  rw [TableSchema.map_name_of_ofDeclaration checked, fieldNames,
    fields_of_define defined isCompiled]
  show List.map _ (List.map _ _) = _
  rw [List.map_map]
  rfl

/-- The fields of a compiled class are well named if their names are different words. -/
theorem isWellNamed_of_define
    (defined : (define workspace base definition).outcome = .ok table)
    (isCompiled : table.own.compiled = some compiled)
    (distinct : table.fieldNames.Nodup)
    (words : ∀ name ∈ table.fieldNames, ' ' ∉ name.toList ∧ '$' ∉ name.toList) :
    compiled.plan.schema.IsWellNamed := by
  have names := map_name_of_define defined isCompiled
  rcases exists_checked_of_define defined isCompiled with ⟨attributes, -, checked⟩
  rw [TableSchema.map_name_of_ofDeclaration checked] at names
  rw [← names] at distinct words
  exact TableSchema.isWellNamed_of_ofDeclaration distinct words checked

/-- Classes that differ in their backend have schemas that do not differ otherwise. -/
theorem withoutBackend_eq_of_define
    {otherWorkspace : Workspace}
    {otherDefinition : ClassDefinition}
    {other : TableClass}
    {otherCompiled : CompiledTable}
    (same : definition.withoutBackend = otherDefinition.withoutBackend)
    (defined : (define workspace base definition).outcome = .ok table)
    (otherDefined : (define otherWorkspace base otherDefinition).outcome = .ok other)
    (isCompiled : table.own.compiled = some compiled)
    (otherIsCompiled : other.own.compiled = some otherCompiled) :
    compiled.plan.schema.withoutBackend = otherCompiled.plan.schema.withoutBackend := by
  rcases exists_checked_of_define defined isCompiled with ⟨attributes, marker, checked⟩
  rcases exists_checked_of_define otherDefined otherIsCompiled with
    ⟨otherAttributes, otherMarker, otherChecked⟩
  have sameName : definition.name = otherDefinition.name := by
    have names := congrArg ClassDefinition.name same
    exact names
  have sameClass : ofDefinition base definition = ofDefinition base otherDefinition := by
    have classes := congrArg (ofDefinition base) same
    exact classes
  have sameOptions :
      (attributes.filter fun option => option.key != "backend") =
        otherAttributes.filter fun option => option.key != "backend" := by
    have markers := congrArg ClassDefinition.marker same
    rw [ClassDefinition.withoutBackend, ClassDefinition.withoutBackend, marker, otherMarker]
      at markers
    exact ClassMarker.options.inj markers
  refine TableSchema.withoutBackend_eq_of_ofDeclaration ?_ checked otherChecked
  show ClassDefinition.declaration definition.name (attributes.filter _) _ =
    ClassDefinition.declaration otherDefinition.name (otherAttributes.filter _) _
  rw [sameName, sameClass, sameOptions]

/-- The insert model of a compiled class has the fields that the caller supplies. -/
theorem fieldNames_insertModel
    (own : ClassLayer)
    (schema : TableSchema)
    (spec : InsertSpec)
    (isField : ∀ field ∈ schema.fields, field.name ∈ own.fields.map fun field => field.field.name) :
    (insertModel own schema spec).fieldNames = schema.insertFields.map Field.name := by
  have supplied :
      ∀ field ∈ schema.insertFields, field.name ∈ own.fields.map fun field => field.field.name :=
    fun field member => isField field (List.mem_filter.1 member).1
  rw [Model.fieldNames, insertModel]
  dsimp only
  generalize schema.insertFields = fields at supplied ⊢
  induction fields with
  | nil => rfl
  | cons field rest inductionHypothesis =>
      have restNames := inductionHypothesis fun other member =>
        supplied other (List.mem_cons_of_mem field member)
      rcases List.mem_map.1 (supplied field List.mem_cons_self) with ⟨declared, member, named⟩
      cases found : own.fields.find? fun candidate => candidate.field.name = field.name with
      | none =>
          have absent := List.find?_eq_none.1 found declared member
          simp [named] at absent
      | some candidate =>
          have sameName := List.find?_some found
          rw [decide_eq_true_eq] at sameName
          rw [List.filterMap_cons, found]
          dsimp only [Option.map_some]
          rw [List.map_cons, List.map_cons, restNames, sameName]

/-- A compiled class whose rows can be inserted has the insert model as a member. -/
theorem member?_insert
    {spec : InsertSpec}
    (defined : (define workspace base definition).outcome = .ok table)
    (isCompiled : table.own.compiled = some compiled)
    (insertable : compiled.plan.schema.insertable = some spec) :
    table.member? "Insert" =
      some
        (.insert (insertModel (ofDefinition base definition).own compiled.plan.schema spec)) := by
  rcases exists_attributes_of_define defined isCompiled with ⟨attributes, -, -, -, isTable⟩
  generalize ofDefinition base definition = source at isTable ⊢
  have generated :
      (generatedMembers source.own compiled.plan).lookup "Insert" =
        some (.insert (insertModel source.own compiled.plan.schema spec)) := by
    rw [generatedMembers, insertable]
    exact Entries.lookup_putAll_append_singleton
  have distinct : ((generatedMembers source.own compiled.plan).map Prod.fst).Nodup :=
    Entries.nodup_putAll List.nodup_nil
  rw [isTable, member?, layers, List.findSome?_cons]
  dsimp only
  rw [Entries.lookup_putAll_of_mem distinct (Entries.mem_of_lookup generated)]

end TableClass

theorem CompiledTable.IsGenerated.exists_insert
    {compiled : CompiledTable}
    (isGenerated : compiled.IsGenerated)
    (insertable : compiled.plan.schema.insertable.isSome = true) :
    ∃ plan, compiled.plan.insert = some plan := by
  rcases isGenerated with ⟨schema, generated⟩
  rw [TableSchema.schema_of_compile generated] at insertable
  exact TableSchema.exists_insert_of_compile generated insertable

namespace InsertRow

/-- A row of the insert model of a class, with a value for every field of the model. -/
structure BelongsTo (row : InsertRow) (table : TableClass) : Prop where
  table_eq : row.table = table
  isModel : table.member? "Insert" = some (.insert row.model)
  complete : row.fields.map Prod.fst = row.model.fieldNames

/--
A row is inserted through a connection that serves, with the answers of a database that stores
the values of the row.
-/
structure IsStored
    (row : InsertRow)
    (compiled : CompiledTable)
    (stored : StoredRow)
    (answer : Request → Reply)
    (connection : Connection) :
    Prop where
  values :
    ∀ field ∈ compiled.plan.schema.insertFields,
      row.fields.lookup field.name = some (stored field.column)
  isStored : compiled.plan.schema.IsStoredBy compiled.backend stored answer
  serves : connection.Serves connection.workEndpoint
  answered : Database.IsAnswered answer row.insert connection

/--
An insert generates, and hands the values of the row overlaid with what was generated to the
validator of the entity, whose outcome is that of the insert.
-/
def HandsOver
    (row : InsertRow)
    (connection : Connection)
    (values : List (String × Value)) :
    Prop :=
  ∃ (compiled : CompiledTable) (plan : InsertPlan) (generated : List (String × Value))
    (after : Connection),
    row.table.statements = .ok compiled ∧
      compiled.plan.insert = some plan ∧
      (row.generate compiled plan).on connection = (.ok generated, after) ∧
      Entries.putAll row.fields generated = values ∧
      row.insert.on connection =
        ((Database.decodeNamed row.table.decoder plan.statement.sql values).map fun entity =>
            ⟨entity, generated⟩,
          after)

variable {workspace : Workspace} {base : Option TableClass} {definition : ClassDefinition}
  {table : TableClass} {compiled : CompiledTable} {row : InsertRow} {stored : StoredRow}
  {answer : Request → Reply} {connection : Connection}

theorem BelongsTo.map_fst
    {spec : InsertSpec}
    (belongs : row.BelongsTo table)
    (defined : (TableClass.define workspace base definition).outcome = .ok table)
    (isCompiled : table.own.compiled = some compiled)
    (insertable : compiled.plan.schema.insertable = some spec) :
    row.fields.map Prod.fst = compiled.plan.schema.insertFields.map Field.name := by
  have isModel := belongs.isModel
  rw [TableClass.member?_insert defined isCompiled insertable, Option.some.injEq,
    Member.insert.injEq] at isModel
  rw [belongs.complete, ← isModel]
  apply TableClass.fieldNames_insertModel
  intro field member
  have names := TableClass.map_name_of_define defined isCompiled
  rw [TableClass.fieldNames, TableClass.fields_of_define defined isCompiled] at names
  show field.name ∈ (TableClass.ofDefinition base definition).fields.map _
  rw [← names]
  exact List.mem_map_of_mem member

/-- An insert into a database that stores the row hands the whole stored row over. -/
theorem handsOver_wholeRow
    (defined : (TableClass.define workspace base definition).outcome = .ok table)
    (isCompiled : table.own.compiled = some compiled)
    (insertable : compiled.plan.schema.insertable.isSome = true)
    (named : compiled.plan.schema.IsWellNamed)
    (belongs : row.BelongsTo table)
    (isStored : row.IsStored compiled stored answer connection) :
    row.HandsOver connection (compiled.plan.schema.wholeRow stored) := by
  rcases Option.isSome_iff_exists.1 insertable with ⟨spec, isSpec⟩
  have isGenerated := TableClass.isGenerated_of_define defined isCompiled
  rcases isGenerated.exists_insert insertable with ⟨plan, isInsert⟩
  have has : row.table.statements = .ok compiled := by
    rw [belongs.table_eq]
    exact TableClass.statements_of_own isCompiled
  have supplies : compiled.plan.schema.Supplies stored row.fields :=
    ⟨belongs.map_fst defined isCompiled isSpec, isStored.values⟩
  -- Reading the entity executes nothing more than generating does.
  have answered : Database.IsAnswered answer (row.generate compiled plan) connection := by
    have sameEnd :
        (row.insert.on connection).2 = ((row.generate compiled plan).on connection).2 := by
      rw [on_insert has isInsert]
      rcases (row.generate compiled plan).on connection with ⟨result, after⟩
      cases result with
      | error failure => rfl
      | ok read => rfl
    rw [Database.IsAnswered, ← sameEnd]
    exact isStored.answered
  rcases exists_on_generate isGenerated isInsert named supplies isStored.isStored
      isStored.serves answered with ⟨read, after, given, whole⟩
  refine ⟨compiled, plan, read, after, has, isInsert, given, whole, ?_⟩
  rw [on_insert has isInsert, given]
  dsimp only
  rw [whole]

/--
Whichever of two backends a class is defined for, with returned columns or without them: an
insert of the same values into a database that stores them hands the same values over to the
validator of the entity, one for each of its fields.
-/
theorem exists_values_handedOver
    {otherWorkspace : Workspace}
    {otherDefinition : ClassDefinition}
    {other : TableClass}
    {otherCompiled : CompiledTable}
    {otherRow : InsertRow}
    {otherAnswer : Request → Reply}
    {otherConnection : Connection}
    (same : definition.withoutBackend = otherDefinition.withoutBackend)
    (defined : (TableClass.define workspace base definition).outcome = .ok table)
    (otherDefined :
      (TableClass.define otherWorkspace base otherDefinition).outcome = .ok other)
    (isCompiled : table.own.compiled = some compiled)
    (otherIsCompiled : other.own.compiled = some otherCompiled)
    (insertable : compiled.plan.schema.insertable.isSome = true)
    (distinct : table.fieldNames.Nodup)
    (words : ∀ name ∈ table.fieldNames, ' ' ∉ name.toList ∧ '$' ∉ name.toList)
    (belongs : row.BelongsTo table)
    (otherBelongs : otherRow.BelongsTo other)
    (isStored : row.IsStored compiled stored answer connection)
    (otherIsStored : otherRow.IsStored otherCompiled stored otherAnswer otherConnection) :
    ∃ values : List (String × Value),
      (values.map Prod.fst).Perm table.fieldNames ∧
        row.HandsOver connection values ∧ otherRow.HandsOver otherConnection values := by
  have agree :=
    TableClass.withoutBackend_eq_of_define same defined otherDefined isCompiled otherIsCompiled
  have named := TableClass.isWellNamed_of_define defined isCompiled distinct words
  have sameNames : table.fieldNames = other.fieldNames := by
    have names := congrArg (fun schema => schema.fields.map Field.name) agree
    dsimp only [TableSchema.withoutBackend] at names
    rw [List.map_map, List.map_map] at names
    rw [← TableClass.map_name_of_define defined isCompiled,
      ← TableClass.map_name_of_define otherDefined otherIsCompiled]
    exact names
  have otherNamed : otherCompiled.plan.schema.IsWellNamed := by
    rw [sameNames] at distinct words
    exact TableClass.isWellNamed_of_define otherDefined otherIsCompiled distinct words
  have otherInsertable : otherCompiled.plan.schema.insertable.isSome = true := by
    rw [← insertable]
    exact congrArg (fun schema => schema.insertable.isSome) agree.symm
  have sameRow :
      compiled.plan.schema.wholeRow stored = otherCompiled.plan.schema.wholeRow stored := by
    rw [← TableSchema.wholeRow_withoutBackend, agree, TableSchema.wholeRow_withoutBackend]
  refine ⟨compiled.plan.schema.wholeRow stored, ?_, ?_, ?_⟩
  · rw [← TableClass.map_name_of_define defined isCompiled]
    exact named.perm_wholeRow stored
  · exact handsOver_wholeRow defined isCompiled insertable named belongs isStored
  · rw [sameRow]
    exact
      handsOver_wholeRow otherDefined otherIsCompiled otherInsertable otherNamed otherBelongs
        otherIsStored

/-! ## A class for two backends -/

/-- Notes whose numbers and dates are generated, for the backend of some key. -/
def datedDefinition (key : String) : ClassDefinition :=
  notesOf key [⟨"insertable", .bool true⟩]
    [{ numberOfNote with attributes := [⟨"default", .bool true⟩] },
      { bodyOfNote with attributes := [⟨"column", .text "content"⟩] },
      { field := { name := "created", type := .text }
        attributes :=
          [⟨"default", .bool true⟩, ⟨"column", .text "created_at"⟩,
            ⟨"custom_type", .bool true⟩] }]

theorem isOk_define_datedDefinition_postgres :
    (TableClass.define .standard none (datedDefinition "postgres")).outcome.isOk = true := by
  decide +kernel

theorem isOk_define_datedDefinition_sqlite :
    (TableClass.define .standard none (datedDefinition "sqlite")).outcome.isOk = true := by
  decide +kernel

/-- The class of dated notes for a backend that returns columns. -/
def returningClass : TableClass :=
  .ofAccepted (datedDefinition "postgres") isOk_define_datedDefinition_postgres

/-- The class of dated notes for a backend that is queried. -/
def queriedClass : TableClass :=
  .ofAccepted (datedDefinition "sqlite") isOk_define_datedDefinition_sqlite

/-- A dated note that is not stored yet. -/
def datedNote (table : TableClass) : InsertRow where
  table := table
  model := { name := "InsertNote", fields := [{ name := "body", type := .text }] }
  fields := [("body", .text "first")]

def storedNote : StoredRow := fun column =>
  if column = "id" then .int 7 else if column = "content" then .text "first" else .text "today"

def numberField : Field where
  name := "id"
  type := .type .integer
  column := "id"
  isIdentifier := true
  isDefaultGenerated := true

def dateField : Field where
  name := "created"
  type := .type .text
  column := "created_at"
  isCustomType := true
  isDefaultGenerated := true

def datedSchema (backend : String) : TableSchema where
  entity := "Note"
  table := "notes"
  identifier := numberField
  fields := [numberField, { name := "body", type := .type .text, column := "content" }, dateField]
  insertable := some ⟨"InsertNote", []⟩
  backend := backend

/-- The fields of the dated note that each text asks for, by their names. -/
def noteTexts : List (String × List String) :=
  [("INSERT INTO notes (content) VALUES ($1) RETURNING id", ["id"]),
    ("INSERT INTO notes (content) VALUES ($1) RETURNING created_at AS \"created: _\"",
      ["created"]),
    ("INSERT INTO notes (content) VALUES ($1) RETURNING id, created_at AS \"created: _\"",
      ["id", "created"]),
    ("SELECT id FROM notes WHERE id = $1", ["id"]),
    ("SELECT created_at AS \"created: _\" FROM notes WHERE id = $1", ["created"]),
    ("SELECT id, created_at AS \"created: _\" FROM notes WHERE id = $1", ["id", "created"]),
    ("INSERT INTO notes (content) VALUES (?)", []), ("SELECT last_insert_rowid()", ["id"]),
    ("SELECT id FROM notes WHERE id = ?", ["id"]),
    ("SELECT created_at AS \"created: _\" FROM notes WHERE id = ?", ["created"]),
    ("SELECT id, created_at AS \"created: _\" FROM notes WHERE id = ?", ["id", "created"])]

/-- The stored values of the fields of some names. -/
def noteReply (names : List String) : Reply :=
  .ofStored storedNote ([numberField, dateField].filter fun field => names.contains field.name)

/-- A database that has stored the dated note and answers by the fields it is asked for. -/
def noteAnswers : Request → Reply := fun request =>
  (noteTexts.lookup request.1).elim {} noteReply

/-- A connection on which the dated note is inserted. -/
def noteConnection (answers : List (List String)) : Connection where
  replies := answers.map noteReply

theorem fault_noteAnswers (request : Request) : (noteAnswers request).fault = none := by
  rw [noteAnswers]
  cases noteTexts.lookup request.1 with
  | none => rfl
  | some names => rfl

theorem forall_selected
    {backend : String}
    {property : List Field → Prop}
    (number : property [numberField])
    (date : property [dateField])
    (both : property [numberField, dateField]) :
    ∀ fields, fields.Sublist (datedSchema backend).readBack → fields ≠ [] → property fields := by
  intro fields selected notEmpty
  have member : fields ∈ [[], [numberField], [dateField], [numberField, dateField]] :=
    List.mem_sublists.2 selected
  simp only [List.mem_cons, List.not_mem_nil, or_false] at member
  rcases member with rfl | rfl | rfl | rfl
  · exact absurd rfl notEmpty
  · exact number
  · exact date
  · exact both

theorem reports_noteAnswers
    {sql : String}
    {arguments : Option (List Value)}
    {fields : List Field}
    (asked : noteTexts.lookup sql = some (fields.map Field.name))
    (known : .ofStored storedNote fields = noteReply (fields.map Field.name)) :
    (noteAnswers (sql, arguments)).Reports storedNote fields := by
  rw [noteAnswers, asked]
  show (noteReply (fields.map Field.name)).Reports storedNote fields
  rw [← known]
  exact Reply.reports_ofStored storedNote fields

theorem isStoredBy_postgres :
    (datedSchema "postgres").IsStoredBy .postgres storedNote noteAnswers := by
  constructor
  case begins => exact fault_noteAnswers _
  case confirms => exact fault_noteAnswers _
  case inserts => exact fun _ _ => fault_noteAnswers _
  case returns =>
    intro _ columns isOrder
    rw [List.perm_singleton.1 isOrder]
    apply forall_selected
    · exact reports_noteAnswers (by decide +kernel) rfl
    · exact reports_noteAnswers (by decide +kernel) rfl
    · exact reports_noteAnswers (by decide +kernel) rfl
  case identifies =>
    rintro - query impossible
    cases impossible
  case selects =>
    apply forall_selected
    · exact reports_noteAnswers (by decide +kernel) rfl
    · exact reports_noteAnswers (by decide +kernel) rfl
    · exact reports_noteAnswers (by decide +kernel) rfl

theorem isStoredBy_sqlite :
    (datedSchema "sqlite").IsStoredBy .sqlite storedNote noteAnswers := by
  constructor
  case begins => exact fault_noteAnswers _
  case confirms => exact fault_noteAnswers _
  case inserts => exact fun _ _ => fault_noteAnswers _
  case returns =>
    intro impossible
    cases impossible
  case identifies =>
    rintro - query ⟨⟩
    exact ⟨[], rfl, rfl, rfl⟩
  case selects =>
    apply forall_selected
    · exact reports_noteAnswers (by decide +kernel) rfl
    · exact reports_noteAnswers (by decide +kernel) rfl
    · exact reports_noteAnswers (by decide +kernel) rfl

theorem serves_noteConnection (answers : List (List String)) :
    (noteConnection answers).Serves (noteConnection answers).workEndpoint := by
  constructor
  case opens => rfl
  case opensEach => exact fun _ => rfl
  case commits => rfl
  case isOwner => rfl
  case tellsMode => exact ⟨false, rfl⟩

theorem map_noteAnswers
    {requests : List Request}
    (answers : List (List String))
    (asked : requests.map (fun request => noteTexts.lookup request.1) = answers.map some) :
    requests.map noteAnswers = answers.map noteReply := by
  have given :
      noteAnswers =
        (fun names? => Option.elim names? {} noteReply) ∘ fun request : Request =>
          noteTexts.lookup request.1 := rfl
  rw [given, ← List.map_map, asked, List.map_map]
  rfl

theorem exists_compiled_postgres :
    ∃ compiled : CompiledTable,
      returningClass.own.compiled = some compiled ∧
        compiled.plan.schema = datedSchema "postgres" ∧ compiled.backend = .postgres :=
  ⟨_, rfl, rfl, rfl⟩

theorem exists_compiled_sqlite :
    ∃ compiled : CompiledTable,
      queriedClass.own.compiled = some compiled ∧
        compiled.plan.schema = datedSchema "sqlite" ∧ compiled.backend = .sqlite :=
  ⟨_, rfl, rfl, rfl⟩

theorem isStored_datedNote
    {key : String}
    {table : TableClass}
    {compiled : CompiledTable}
    (isSchema : compiled.plan.schema = datedSchema key)
    (isStored : (datedSchema key).IsStoredBy compiled.backend storedNote noteAnswers)
    (answers : List (List String))
    (asked :
      ((noteConnection answers).asked
            ((datedNote table).insert.on (noteConnection answers)).2).map
          (fun request => noteTexts.lookup request.1) =
        answers.map some) :
    (datedNote table).IsStored compiled storedNote noteAnswers (noteConnection answers) := by
  constructor
  case values =>
    rw [isSchema]
    intro field member
    rw [List.mem_singleton.1 member]
    rfl
  case isStored =>
    rw [isSchema]
    exact isStored
  case serves => exact serves_noteConnection answers
  case answered =>
    rw [Database.IsAnswered, map_noteAnswers answers asked]
    exact List.prefix_rfl

/-- A note is read alike from a backend that returns columns and from one that is queried. -/
theorem exists_values_handedOver_datedNote :
    ∃ compiled otherCompiled : CompiledTable,
      (returningClass.own.compiled = some compiled ∧
          compiled.backend.supportsReturning = true ∧
          (datedNote returningClass).IsStored compiled storedNote noteAnswers
            (noteConnection [["id", "created"]])) ∧
        (queriedClass.own.compiled = some otherCompiled ∧
          otherCompiled.backend.supportsReturning = false ∧
          (datedNote queriedClass).IsStored otherCompiled storedNote noteAnswers
            (noteConnection [[], ["id"], ["created"]])) ∧
        ∃ values : List (String × Value),
          (values.map Prod.fst).Perm returningClass.fieldNames ∧
            (datedNote returningClass).HandsOver (noteConnection [["id", "created"]]) values ∧
            (datedNote queriedClass).HandsOver (noteConnection [[], ["id"], ["created"]])
              values := by
  have defined :=
    TableClass.define_ofAccepted (datedDefinition "postgres") isOk_define_datedDefinition_postgres
  have otherDefined :=
    TableClass.define_ofAccepted (datedDefinition "sqlite") isOk_define_datedDefinition_sqlite
  have same :
      (datedDefinition "postgres").withoutBackend = (datedDefinition "sqlite").withoutBackend := rfl
  have names : returningClass.fieldNames = ["id", "body", "created"] := rfl
  have belongs : (datedNote returningClass).BelongsTo returningClass := ⟨rfl, rfl, rfl⟩
  have otherBelongs : (datedNote queriedClass).BelongsTo queriedClass := ⟨rfl, rfl, rfl⟩
  rcases exists_compiled_postgres with ⟨compiled, isCompiled, isSchema, isBackend⟩
  rcases exists_compiled_sqlite with ⟨otherCompiled, otherIsCompiled, otherIsSchema, otherIsBackend⟩
  have stored :
      (datedNote returningClass).IsStored compiled storedNote noteAnswers
        (noteConnection [["id", "created"]]) :=
    isStored_datedNote isSchema (isBackend ▸ isStoredBy_postgres) _ (by decide +kernel)
  have otherStored :
      (datedNote queriedClass).IsStored otherCompiled storedNote noteAnswers
        (noteConnection [[], ["id"], ["created"]]) :=
    isStored_datedNote otherIsSchema (otherIsBackend ▸ isStoredBy_sqlite) _ (by decide +kernel)
  refine
    ⟨compiled, otherCompiled, ⟨isCompiled, by rw [isBackend]; rfl, stored⟩,
      ⟨otherIsCompiled, by rw [otherIsBackend]; rfl, otherStored⟩, ?_⟩
  refine
    exists_values_handedOver same defined otherDefined isCompiled otherIsCompiled ?_ ?_ ?_ belongs
      otherBelongs stored otherStored
  · rw [isSchema]
    rfl
  · rw [names]
    decide
  · rw [names]
    decide

end InsertRow

end SqlMapping
