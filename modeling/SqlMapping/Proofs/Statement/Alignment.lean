import SqlMapping.Proofs.Statement.Numbering

/-!
# Alignment of generated statements

The text of a statement and the names of its parameters are generated side by side.  They belong
together: the placeholders that the text shows are the first ones of the backend, one for each
parameter; an assignment and a listed column stand at the place of the parameter of their field;
and a parameter is an argument of the call or a field of the row that the statement is bound to.

The main statement says so for every statement of a table and of a patch.
-/

namespace SqlMapping

open Query

namespace Statement

/-- Every parameter is one of some arguments or else one of some fields. -/
def BindsFrom (fields arguments : List String) (statement : Statement) : Prop :=
  ∀ parameter ∈ statement.params,
    match argumentName? parameter with
    | some name => name ∈ arguments
    | none => parameter ∈ fields

/--
An update of the row of a key: the placeholder at a position is assigned to the column at the
same position, and the parameters are those of the columns in their order, and last the key's.
-/
structure Assigns
    (backend : Backend)
    (table : String)
    (targets : List (String × String))
    (key : String × String)
    (statement : Statement) :
    Prop where
  sql_eq :
    statement.sql =
      "UPDATE " ++ backend.quote table ++ " SET "
        ++ ", ".intercalate
          (targets.zipIdx.map fun ((column, _), position) =>
            backend.quote column ++ " = " ++ backend.placeholder position)
        ++ " WHERE " ++ backend.quote key.1 ++ " = "
        ++ backend.placeholder targets.length
  params_eq : statement.params = targets.map Prod.snd ++ [key.2]

/-- What an insert says after the table: columns, and a placeholder at the place of each. -/
def insertedText (backend : Backend) : List String → String
  | [] => " DEFAULT VALUES"
  | column :: others =>
    " (" ++ ", ".intercalate ((column :: others).map backend.quote) ++ ") VALUES ("
      ++ ", ".intercalate
        ((List.range (column :: others).length).map backend.placeholder) ++ ")"

/-- An insert that lists columns, and binds the parameters of the columns in their order. -/
structure Inserts
    (backend : Backend)
    (table : String)
    (targets : List (String × String))
    (statement : Statement) :
    Prop where
  sql_eq :
    ∃ returning : String,
      statement.sql =
        "INSERT INTO " ++ backend.quote table ++ insertedText backend (targets.map Prod.fst)
          ++ returning
  params_eq : statement.params = targets.map Prod.snd

end Statement

/-! ## Texts of assignments and of listed columns -/

namespace Template

/-- Templates with one placeholder each are joined like their texts, each at its own position. -/
theorem characters_separated_of_one
    {templates : List Template}
    (single : ∀ template ∈ templates, template.placeholderCount = 1)
    (backend : Backend)
    (used : Nat) :
    characters backend used (separated templates) =
      joinItems
        ((templates.zipIdx used).map fun (template, position) =>
          characters backend position template) := by
  induction templates generalizing used with
  | nil => rfl
  | cons first others inductionHypothesis =>
      have firstSingle := single first List.mem_cons_self
      have othersJoined :=
        inductionHypothesis
          (fun template member => single template (List.mem_cons_of_mem first member)) (used + 1)
      cases others with
      | nil =>
          rw [separated, List.zipIdx_singleton, List.map_singleton, joinItems,
            List.intercalate_singleton]
      | cons second rest =>
          rw [List.zipIdx_cons, List.map_cons] at othersJoined
          rw [separated, characters_append, firstSingle, characters_word, othersJoined,
            List.zipIdx_cons, List.zipIdx_cons, List.map_cons, List.map_cons, joinItems_cons_cons]
          rfl

theorem characters_assignments (backend : Backend) (columns : List String) :
    (assignments columns).characters backend 0 =
      (", ".intercalate
        (columns.zipIdx.map fun (column, position) =>
          backend.quote column ++ " = " ++ backend.placeholder position)).toList := by
  rw [assignments,
    characters_separated_of_one fun template member => placeholderCount_of_mem_assignments member,
    String.toList_intercalate, List.zipIdx_map, List.map_map, List.map_map, joinItems]
  congr 1
  apply List.map_congr_left
  rintro ⟨column, position⟩ -
  simp

theorem characters_columns (backend : Backend) (fields : List Field) :
    (separated (fields.map fun field => [.identifier field.column])).characters backend 0 =
      (", ".intercalate ((fields.map Field.column).map backend.quote)).toList := by
  rw [characters_separated fun template member => placeholderCount_of_mem_columns member,
    String.toList_intercalate, List.map_map, List.map_map, List.map_map, joinItems]
  congr 1
  apply List.map_congr_left
  intro field _
  exact List.append_nil (backend.quote field.column).toList

theorem characters_placeholders {α : Type} (backend : Backend) (items : List α) :
    (separated (items.map fun _ => [.placeholder])).characters backend 0 =
      (", ".intercalate ((List.range items.length).map backend.placeholder)).toList := by
  rw [
    characters_separated_of_one fun template member => placeholderCount_of_mem_placeholders member,
    String.toList_intercalate, List.zipIdx_map, List.map_map, List.map_map, joinItems,
    List.range_eq_range', ← List.zipIdx_map_snd 0 items, List.map_map]
  congr 1
  apply List.map_congr_left
  rintro ⟨item, position⟩ -
  exact List.append_nil (backend.placeholder position).toList

end Template

namespace TableSchema

theorem characters_listedInsert
    (backend : Backend)
    (table : String)
    (fields : List Field) :
    (listedInsert table fields).characters backend 0 =
      ("INSERT INTO " ++ backend.quote table ++ " ("
        ++ ", ".intercalate ((fields.map Field.column).map backend.quote) ++ ") VALUES ("
        ++ ", ".intercalate ((List.range fields.length).map backend.placeholder)
        ++ ")").toList := by
  have columns := Template.characters_columns backend fields
  have signs := Template.characters_placeholders backend fields
  have counted := Template.placeholderCount_columns fields
  simp only [listedInsert, Template.characters_append, Template.characters_word,
    Template.characters_identifier, Template.characters_nil, List.cons_append, List.nil_append,
    List.append_assoc, List.append_nil, counted, Nat.add_zero, columns, signs,
    String.toList_append]

theorem characters_insertTemplate (backend : Backend) (schema : TableSchema) :
    schema.insertTemplate.characters backend 0 =
      ("INSERT INTO " ++ backend.quote schema.table
        ++ Statement.insertedText backend (schema.insertFields.map Field.column)).toList := by
  cases inserted : schema.insertFields with
  | nil =>
      rw [insertTemplate, inserted]
      simp [Statement.insertedText]
  | cons field others =>
      rw [insertTemplate_of_cons inserted, characters_listedInsert, List.map_cons,
        Statement.insertedText, List.length_cons, List.length_cons, List.length_map]
      simp only [String.toList_append, List.append_assoc]

end TableSchema

namespace Statement

/-- The text of a template that updates columns of the row of a key. -/
theorem assigns_ofTemplate
    (backend : Backend)
    (table : String)
    (targets : List (String × String))
    (key : String × String) :
    (ofTemplate backend
      ([.word "UPDATE ", .identifier table, .word " SET "]
        ++ assignments (targets.map Prod.fst)
        ++ [.word " WHERE ", .identifier key.1, .word " = ", .placeholder])
      (targets.map Prod.snd ++ [key.2])).Assigns backend table targets key := by
  have assigned := Template.characters_assignments backend (targets.map Prod.fst)
  have counted := Template.placeholderCount_assignments (targets.map Prod.fst)
  rw [List.zipIdx_map, List.map_map] at assigned
  rw [List.length_map] at counted
  constructor
  · apply String.toList_injective
    rw [ofTemplate, Template.toList_render, Template.characters_append,
      Template.characters_append]
    simp only [Template.placeholderCount_append, Template.placeholderCount_word,
      Template.placeholderCount_identifier, Template.placeholderCount_nil, assigned, counted]
    simp [Function.comp_def]
  · rfl

/-- The text of an insert, whatever it is asked to return. -/
theorem inserts_ofTemplate
    (backend : Backend)
    (schema : TableSchema)
    (returning : Template) :
    (ofTemplate backend (schema.insertTemplate ++ returning)
      (schema.insertFields.map Field.name)).Inserts backend schema.table
        (schema.insertFields.map fun field => (field.column, field.name)) := by
  have columns :
      (schema.insertFields.map fun field => (field.column, field.name)).map Prod.fst =
        schema.insertFields.map Field.column := List.map_map
  have names :
      (schema.insertFields.map fun field => (field.column, field.name)).map Prod.snd =
        schema.insertFields.map Field.name := List.map_map
  constructor
  · use String.ofList (returning.characters backend (0 + schema.insertTemplate.placeholderCount))
    apply String.toList_injective
    rw [columns, ofTemplate, Template.toList_render, Template.characters_append,
      TableSchema.characters_insertTemplate]
    simp only [String.toList_append, String.toList_ofList]
  · exact names.symm

/-- A name without signs is not that of an argument. -/
theorem argumentName?_of_showsNoSign
    {name : String}
    (plain : ShowsNoSign name.toList) :
    Statement.argumentName? name = none := by
  rw [Statement.argumentName?]
  cases characters : name.toList with
  | nil => rfl
  | cons first rest =>
      have notDollar : first ≠ '$' :=
        (plain first (by rw [characters]; exact List.mem_cons_self)).2
      split
      · rename_i equal
        exact absurd (List.cons.inj equal).1 notDollar
      · rfl

/-- A statement whose parameters are fields without signs binds from these fields. -/
theorem bindsFrom_of_fields
    {statement : Statement}
    {fields arguments : List String}
    (plain : ∀ name ∈ fields, ShowsNoSign name.toList)
    (bound :
      ∀ parameter ∈ statement.params,
        parameter ∈ fields ∨ ∃ name ∈ arguments, Statement.argumentName? parameter = some name) :
    statement.BindsFrom fields arguments := by
  intro parameter member
  rcases bound parameter member with isField | ⟨name, isArgument, named⟩
  · rw [argumentName?_of_showsNoSign (plain parameter isField)]
    exact isField
  · rw [named]
    exact isArgument

theorem bindsFrom_of_arguments
    {backend : Backend}
    {template : Template}
    {params arguments : List String}
    (bound :
      ∀ parameter ∈ params, ∃ name ∈ arguments, Statement.argumentName? parameter = some name) :
    (Statement.ofTemplate backend template params).BindsFrom [] arguments := by
  apply bindsFrom_of_fields
  · intro name member
    cases member
  · exact fun parameter member => Or.inr (bound parameter member)

end Statement

/-! ## Statements of a table -/

/--
The texts of a table's statements and the parameters they bind belong together.  Writing a row
binds the row itself, an insert binds the fields of the row that is inserted, and every other
statement binds the arguments of its call.
-/
structure TableSchema.IsAligned
    (schema : TableSchema)
    (backend : Backend)
    (plan : TablePlan) :
    Prop where
  numbered : ∀ statement ∈ plan.statements, statement.IsNumbered backend
  updateAssigns :
    ∀ statement ∈ plan.update,
      statement.Assigns backend schema.table
        (schema.fieldsExceptIdentifier.map fun field => (field.column, field.name))
        (schema.identifier.column, schema.identifier.name)
  settersAssign :
    ∀ setter ∈ plan.setters, ∃ field ∈ schema.fields,
      setter.fieldName = field.name ∧
        setter.statement.Assigns backend schema.table [(field.column, "$value")]
          (schema.identifier.column, "$id")
  insertInserts :
    ∀ insert ∈ plan.insert,
      insert.statement.Inserts backend schema.table
        (schema.insertFields.map fun field => (field.column, field.name))
  getBinds : plan.get.BindsFrom [] ["id"]
  allBinds : plan.all.BindsFrom [] []
  paginatedBinds : plan.paginated.BindsFrom [] ["limit", "offset"]
  updateBinds : ∀ statement ∈ plan.update, statement.BindsFrom (schema.fields.map Field.name) []
  deleteBinds : ∀ statement ∈ plan.delete, statement.BindsFrom [] ["id"]
  settersBind : ∀ setter ∈ plan.setters, setter.statement.BindsFrom [] ["value", "id"]
  gettersBind : ∀ getter ∈ plan.getters, getter.statement.BindsFrom [] ["by"]
  insertBinds :
    ∀ insert ∈ plan.insert,
      insert.statement.BindsFrom (schema.insertFields.map Field.name) [] ∧
        (∀ statement ∈ insert.lastInsertId, statement.BindsFrom [] []) ∧
          ∀ statement ∈ insert.fetchDefaults, statement.BindsFrom [] ["id"]

namespace TableSchema

variable {schema : TableSchema} {backend : Backend}

theorem inserts_of_insertPlan
    {plan : InsertPlan}
    (planned : schema.insertPlan backend = .ok plan) :
    plan.statement.Inserts backend schema.table
      (schema.insertFields.map fun field => (field.column, field.name)) := by
  by_cases returning : backend.supportsReturning = true
  · rw [eq_of_insertPlan_of_returning returning planned]
    exact Statement.inserts_ofTemplate backend schema _
  · have noReturning : backend.supportsReturning = false := Bool.of_not_eq_true returning
    rw [eq_of_insertPlan noReturning planned]
    have written := Statement.inserts_ofTemplate backend schema []
    rwa [List.append_nil] at written

theorem binds_of_insertPlan
    {plan : InsertPlan}
    (plain : schema.HasPlainNames)
    (planned : schema.insertPlan backend = .ok plan) :
    plan.statement.BindsFrom (schema.insertFields.map Field.name) [] ∧
      (∀ statement ∈ plan.lastInsertId, statement.BindsFrom [] []) ∧
        ∀ statement ∈ plan.fetchDefaults, statement.BindsFrom [] ["id"] := by
  have namesPlain : ∀ name ∈ schema.insertFields.map Field.name, ShowsNoSign name.toList := by
    intro name member
    rcases List.mem_map.1 member with ⟨field, inserted, rfl⟩
    exact (plain.fields field (List.mem_of_mem_filter inserted)).1
  refine ⟨?_, ?_, ?_⟩
  · apply Statement.bindsFrom_of_fields namesPlain
    rw [(inserts_of_insertPlan planned).params_eq, List.map_map]
    exact fun parameter member => Or.inl member
  · intro statement isQuery
    by_cases returning : backend.supportsReturning = true
    · rw [eq_of_insertPlan_of_returning returning planned] at isQuery
      cases isQuery
    · rw [eq_of_insertPlan (Bool.of_not_eq_true returning) planned] at isQuery
      dsimp only at isQuery
      split_ifs at isQuery
      · rcases Option.map_eq_some_iff.1 isQuery with ⟨sql, -, rfl⟩
        intro parameter member
        cases member
      · cases isQuery
  · intro statement fetched
    rw [(fetchDefaults_of_insertPlan planned fetched).2]
    exact Statement.bindsFrom_of_arguments (by decide)

/-- The assignments and the parameters of a row that is written. -/
theorem assigns_of_update
    {statement : Statement}
    (isUpdate : schema.update? backend = some statement) :
    statement.Assigns backend schema.table
      (schema.fieldsExceptIdentifier.map fun field => (field.column, field.name))
      (schema.identifier.column, schema.identifier.name) := by
  rw [update?] at isUpdate
  split_ifs at isUpdate
  have written :=
    Statement.assigns_ofTemplate backend schema.table
      (schema.fieldsExceptIdentifier.map fun field => (field.column, field.name))
      (schema.identifier.column, schema.identifier.name)
  rw [List.map_map, List.map_map] at written
  rw [← Option.some.inj isUpdate]
  exact written

theorem binds_of_update
    (plain : schema.HasPlainNames)
    (listed : schema.identifier ∈ schema.fields)
    {statement : Statement}
    (isUpdate : schema.update? backend = some statement) :
    statement.BindsFrom (schema.fields.map Field.name) [] := by
  apply Statement.bindsFrom_of_fields
  · intro name member
    rcases List.mem_map.1 member with ⟨field, isField, rfl⟩
    exact (plain.fields field isField).1
  · intro parameter member
    rw [(assigns_of_update isUpdate).params_eq, List.map_map] at member
    rcases List.mem_append.1 member with isField | isKey
    · rcases List.mem_map.1 isField with ⟨field, kept, rfl⟩
      exact Or.inl (List.mem_map_of_mem (List.mem_of_mem_filter kept))
    · rw [List.mem_singleton.1 isKey]
      exact Or.inl (List.mem_map_of_mem listed)

theorem assigns_of_mem_setters
    {setter : Setter}
    (member : setter ∈ schema.setters backend) :
    ∃ field ∈ schema.fields,
      setter.fieldName = field.name ∧
        setter.statement.Assigns backend schema.table [(field.column, "$value")]
          (schema.identifier.column, "$id") := by
  rcases List.mem_filterMap.1 member with ⟨field, isField, named⟩
  rcases Option.map_eq_some_iff.1 named with ⟨name, -, rfl⟩
  exact
    ⟨field, isField, rfl,
      Statement.assigns_ofTemplate backend schema.table [(field.column, "$value")]
        (schema.identifier.column, "$id")⟩

theorem isAligned_of_compile
    {plan : TablePlan}
    (standard : backend ∈ standardBackends)
    (plain : schema.HasPlainNames)
    (listed : schema.identifier ∈ schema.fields)
    (compiled : (schema.compile backend).outcome = .ok plan) :
    schema.IsAligned backend plan := by
  have isPlan := eq_of_compile compiled
  have isInsert : ∀ insert ∈ plan.insert, schema.insertPlan backend = .ok insert :=
    fun insert inserted => insertPlan_of_compile compiled inserted
  constructor
  case numbered =>
    intro statement member
    exact isNumbered_of_mem_statements standard plain listed compiled member
  case updateAssigns =>
    intro statement isUpdate
    rw [isPlan] at isUpdate
    exact assigns_of_update isUpdate
  case settersAssign =>
    intro setter member
    rw [isPlan] at member
    exact assigns_of_mem_setters member
  case insertInserts =>
    intro insert inserted
    exact inserts_of_insertPlan (isInsert insert inserted)
  case getBinds =>
    rw [isPlan]
    exact Statement.bindsFrom_of_arguments (by decide)
  case allBinds =>
    rw [isPlan]
    exact Statement.bindsFrom_of_arguments (by decide)
  case paginatedBinds =>
    rw [isPlan]
    exact Statement.bindsFrom_of_arguments (by decide)
  case updateBinds =>
    intro statement isUpdate
    rw [isPlan] at isUpdate
    exact binds_of_update plain listed isUpdate
  case deleteBinds =>
    intro statement isDelete
    rw [isPlan] at isDelete
    dsimp only at isDelete
    split_ifs at isDelete
    · rw [← Option.some.inj isDelete]
      exact Statement.bindsFrom_of_arguments (by decide)
    · cases isDelete
  case settersBind =>
    intro setter member
    rw [isPlan] at member
    rcases List.mem_filterMap.1 member with ⟨field, -, named⟩
    rcases Option.map_eq_some_iff.1 named with ⟨name, -, rfl⟩
    exact Statement.bindsFrom_of_arguments (by decide)
  case gettersBind =>
    intro getter member
    rw [isPlan] at member
    rcases List.mem_map.1 member with ⟨⟨field, kind, spec⟩, -, rfl⟩
    exact Statement.bindsFrom_of_arguments (by decide)
  case insertBinds =>
    intro insert inserted
    exact binds_of_insertPlan plain (isInsert insert inserted)

theorem exists_compile
    (schema : TableSchema)
    (able : backend.supportsReturning = true ∨ backend.lastInsertId.isSome = true) :
    ∃ plan : TablePlan, (schema.compile backend).outcome = .ok plan := by
  have planned : ∃ insert : Option InsertPlan, schema.insertPlan? backend = .ok insert := by
    rw [insertPlan?]
    cases schema.insertable with
    | none => exact ⟨none, rfl⟩
    | some spec =>
        rcases schema.exists_insertPlan able with ⟨plan, success⟩
        exact ⟨some plan, by rw [success]; rfl⟩
  rcases planned with ⟨insert, success⟩
  rw [compile, success]
  exact ⟨_, rfl⟩

end TableSchema

/-! ## The statement of a patch -/

/-- The text of a patch and its parameters belong together; it binds its fields and a key. -/
structure PatchSchema.IsAligned
    (schema : PatchSchema)
    (backend : Backend)
    (plan : PatchPlan) :
    Prop where
  numbered : plan.statement.IsNumbered backend
  assigns :
    plan.statement.Assigns backend schema.targetTable
      (schema.fields.map fun field => (field.column, field.name))
      (schema.identifierColumn, "$id")
  binds : plan.statement.BindsFrom (schema.fields.map PatchField.name) ["id"]

namespace PatchSchema

theorem exists_compile
    {schema : PatchSchema}
    (notEmpty : schema.fields ≠ [])
    (backend : Backend) :
    ∃ plan : PatchPlan,
      (schema.compile backend).outcome = .ok plan ∧
        plan.statement =
          .ofTemplate backend schema.template (schema.fields.map PatchField.name ++ ["$id"]) := by
  rw [compile, if_neg (by rwa [List.isEmpty_iff])]
  exact ⟨_, rfl, rfl⟩

theorem isAligned_of_statement
    {schema : PatchSchema}
    {backend : Backend}
    {plan : PatchPlan}
    (standard : backend ∈ standardBackends)
    (plain : schema.HasPlainNames)
    (isStatement :
      plan.statement =
        .ofTemplate backend schema.template (schema.fields.map PatchField.name ++ ["$id"])) :
    schema.IsAligned backend plan := by
  rcases Backend.exists_writesPlainly standard with ⟨mark, plainly⟩
  constructor
  case numbered =>
    rw [isStatement]
    apply isNumbered_ofTemplate
    · apply isLegible_restrict plainly plain.identifierColumn
      apply Template.IsLegible.word _ (by decide)
      apply Template.IsLegible.identifier _ plainly plain.targetTable
      apply Template.IsLegible.word _ (by decide)
      apply isLegible_assignments plainly
      intro column member
      rcases List.mem_map.1 member with ⟨field, isField, rfl⟩
      exact (plain.fields field isField).2
    · rw [template, Template.placeholderCount_append, Template.placeholderCount_append,
        Template.placeholderCount_assignments]
      simp
  case assigns =>
    have written :=
      Statement.assigns_ofTemplate backend schema.targetTable
        (schema.fields.map fun field => (field.column, field.name))
        (schema.identifierColumn, "$id")
    rw [List.map_map, List.map_map] at written
    rw [isStatement]
    exact written
  case binds =>
    apply Statement.bindsFrom_of_fields
    · intro name member
      rcases List.mem_map.1 member with ⟨field, isField, rfl⟩
      exact (plain.fields field isField).1
    · intro parameter member
      rw [isStatement] at member
      rcases List.mem_append.1 member with isField | isKey
      · exact Or.inl isField
      · rw [List.mem_singleton.1 isKey]
        exact Or.inr ⟨"id", List.mem_singleton_self "id", by decide⟩

end PatchSchema

/--
Every statement of a table and of a patch is aligned with its parameters, whichever standard
backend it is generated for.
-/
theorem compile_isAligned
    {backend : Backend}
    (standard : backend ∈ standardBackends) :
    (∀ schema : TableSchema, schema.HasPlainNames → schema.identifier ∈ schema.fields →
      ∃ plan : TablePlan,
        (schema.compile backend).outcome = .ok plan ∧ schema.IsAligned backend plan) ∧
      ∀ schema : PatchSchema, schema.HasPlainNames → schema.fields ≠ [] →
        ∃ plan : PatchPlan,
          (schema.compile backend).outcome = .ok plan ∧ schema.IsAligned backend plan := by
  constructor
  · intro schema plain listed
    rcases schema.exists_compile (TableSchema.able_of_standard standard) with ⟨plan, compiled⟩
    exact ⟨plan, compiled, TableSchema.isAligned_of_compile standard plain listed compiled⟩
  · intro schema plain notEmpty
    rcases PatchSchema.exists_compile notEmpty backend with ⟨plan, compiled, isStatement⟩
    exact ⟨plan, compiled, PatchSchema.isAligned_of_statement standard plain isStatement⟩

/-- A patch of the total of an order. -/
def orderPatch : PatchSchema where
  entity := "OrderPatch"
  targetTable := "order"
  targetPath := "shop.Order"
  identifierColumn := "id"
  fields := [{ name := "from", column := "As" }, { name := "total", column := "all" }]
  backend := "postgres"

theorem compile_isAligned_orders :
    (Backend.postgres ∈ standardBackends ∧
        (TableSchema.orders.HasPlainNames ∧
            TableSchema.orders.identifier ∈ TableSchema.orders.fields) ∧
          orderPatch.HasPlainNames ∧ orderPatch.fields ≠ []) ∧
      (∃ plan : TablePlan,
          (TableSchema.orders.compile .postgres).outcome = .ok plan ∧
            TableSchema.orders.IsAligned .postgres plan) ∧
        ∃ plan : PatchPlan,
          (orderPatch.compile .postgres).outcome = .ok plan ∧
            orderPatch.IsAligned .postgres plan := by
  have standard : Backend.postgres ∈ standardBackends := List.mem_cons_self
  have ordersPlain : TableSchema.orders.HasPlainNames := ⟨by decide, by decide⟩
  have listed : TableSchema.orders.identifier ∈ TableSchema.orders.fields := List.mem_cons_self
  have patchPlain : orderPatch.HasPlainNames := ⟨by decide, by decide, by decide⟩
  have notEmpty : orderPatch.fields ≠ [] := List.cons_ne_nil _ _
  have aligned := compile_isAligned standard
  exact
    ⟨⟨standard, ⟨ordersPlain, listed⟩, patchPlain, notEmpty⟩,
      aligned.1 TableSchema.orders ordersPlain listed, aligned.2 orderPatch patchPlain notEmpty⟩

end SqlMapping
