import SqlMapping.Proofs.Statement.OutputNames
import SqlMapping.Proofs.Statement.Placeholders
import SqlMapping.Statement.Patch

/-!
# Numbered statements

A statement is numbered if the placeholders that its text shows are the first ones of its
backend, one for each parameter.  Generated statements are, as long as no name of the table
brings a sign of its own into the text.

The main statement is about every statement of a compiled table.
-/

namespace SqlMapping

/-- The placeholders in the text are the first ones of the backend, one for each parameter. -/
def Statement.IsNumbered (backend : Backend) (statement : Statement) : Prop :=
  shownPlaceholders statement.sql.toList = backend.placeholders 0 statement.params.length

theorem isNumbered_ofTemplate
    {backend : Backend}
    {template : Template}
    {params : List String}
    (legible : template.IsLegible backend)
    (counted : template.placeholderCount = params.length) :
    (Statement.ofTemplate backend template params).IsNumbered backend := by
  show shownPlaceholders (template.render backend).toList = backend.placeholders 0 params.length
  rw [legible.shown_render, counted]

/-! ## Numbers of placeholders -/

namespace Template

theorem placeholderCount_separated
    {templates : List Template}
    {count : Nat}
    (each : ∀ template ∈ templates, template.placeholderCount = count) :
    (separated templates).placeholderCount = templates.length * count := by
  induction templates with
  | nil => rw [List.length_nil, Nat.zero_mul]; rfl
  | cons first others inductionHypothesis =>
      have firstCount := each first List.mem_cons_self
      have othersCount :=
        inductionHypothesis fun template member => each template (List.mem_cons_of_mem first member)
      cases others with
      | nil => rw [separated, firstCount, List.length_singleton, Nat.one_mul]
      | cons second rest =>
          rw [separated, placeholderCount_append, placeholderCount_word, othersCount, firstCount,
            Nat.add_comm, ← Nat.succ_mul]
          rfl

theorem placeholderCount_of_mem_assignments
    {columns : List String}
    {template : Template}
    (member :
      template ∈ columns.map fun column => [.identifier column, .word " = ", .placeholder]) :
    template.placeholderCount = 1 := by
  rcases List.mem_map.1 member with ⟨column, -, rfl⟩
  rfl

theorem placeholderCount_assignments (columns : List String) :
    (assignments columns).placeholderCount = columns.length := by
  rw [assignments,
    placeholderCount_separated fun template member => placeholderCount_of_mem_assignments member,
    List.length_map, Nat.mul_one]

theorem placeholderCount_of_mem_columns
    {fields : List Field}
    {template : Template}
    (member : template ∈ fields.map fun field => [.identifier field.column]) :
    template.placeholderCount = 0 := by
  rcases List.mem_map.1 member with ⟨field, -, rfl⟩
  rfl

theorem placeholderCount_columns (fields : List Field) :
    (separated (fields.map fun field => [.identifier field.column])).placeholderCount = 0 := by
  rw [placeholderCount_separated fun template member => placeholderCount_of_mem_columns member,
    Nat.mul_zero]

theorem placeholderCount_of_mem_placeholders
    {α : Type}
    {items : List α}
    {template : Template}
    (member : template ∈ items.map fun _ => [.placeholder]) :
    template.placeholderCount = 1 := by
  rcases List.mem_map.1 member with ⟨item, -, rfl⟩
  rfl

theorem placeholderCount_placeholders {α : Type} (items : List α) :
    (separated (items.map fun _ => [.placeholder])).placeholderCount = items.length := by
  rw [placeholderCount_separated fun template member => placeholderCount_of_mem_placeholders member,
    List.length_map, Nat.mul_one]

end Template

theorem placeholderCount_selectList (fields : List Field) :
    (selectList fields).placeholderCount = 0 := by
  have fixed : ∀ template ∈ fields.map Field.selectItem, template.placeholderCount = 0 := by
    intro template member
    rcases List.mem_map.1 member with ⟨field, -, rfl⟩
    exact field.placeholderCount_selectItem
  rw [selectList, Template.placeholderCount_separated fixed, Nat.mul_zero]

namespace TableSchema

/-- An insert of some fields, with a placeholder for each of them. -/
def listedInsert (table : String) (fields : List Field) : Template :=
  [.word "INSERT INTO ", .identifier table, .word " ("]
    ++ Template.separated (fields.map fun field => [.identifier field.column])
    ++ .word ") VALUES ("
      :: Template.separated (fields.map fun _ => [.placeholder]) ++ [.word ")"]

theorem insertTemplate_of_cons
    {schema : TableSchema}
    {first : Field}
    {others : List Field}
    (inserted : schema.insertFields = first :: others) :
    schema.insertTemplate = listedInsert schema.table (first :: others) := by
  rw [TableSchema.insertTemplate, inserted]
  rfl

theorem placeholderCount_selectFrom (schema : TableSchema) (fields : List Field) :
    (schema.selectFrom fields).placeholderCount = 0 := by
  rw [selectFrom, List.cons_append, Template.placeholderCount_word,
    Template.placeholderCount_append, placeholderCount_selectList]
  rfl

theorem placeholderCount_updateTemplate (schema : TableSchema) (columns : List String) :
    (schema.updateTemplate columns).placeholderCount = columns.length + 1 := by
  rw [updateTemplate, Template.placeholderCount_append, Template.placeholderCount_append,
    Template.placeholderCount_assignments]
  simp [whereIdentifier]

theorem placeholderCount_insertTemplate (schema : TableSchema) :
    schema.insertTemplate.placeholderCount = schema.insertFields.length := by
  cases inserted : schema.insertFields with
  | nil =>
      rw [insertTemplate, inserted]
      rfl
  | cons first others =>
      rw [insertTemplate_of_cons inserted, listedInsert]
      simp only [Template.placeholderCount_append, Template.placeholderCount_word,
        Template.placeholderCount_identifier, Template.placeholderCount_nil,
        Template.placeholderCount_columns, Template.placeholderCount_placeholders,
        List.cons_append, Nat.zero_add, Nat.add_zero]

theorem placeholderCount_lookupCondition (kind : LookupKind) (field : Field) :
    (lookupCondition kind field).placeholderCount = 1 := by
  cases kind with
  | one => rfl
  | optional => rfl
  | many => rfl
  | anyOf => rfl

end TableSchema

/-! ## Names without signs -/

/-- A field whose name and column show no placeholder. -/
def Field.HasPlainNames (field : Field) : Prop :=
  ShowsNoSign field.name.toList ∧ ShowsNoSign field.column.toList

instance (field : Field) : Decidable field.HasPlainNames :=
  inferInstanceAs (Decidable (_ ∧ _))

/-- A table none of whose names shows a placeholder. -/
structure TableSchema.HasPlainNames (schema : TableSchema) : Prop where
  table : ShowsNoSign schema.table.toList
  fields : ∀ field ∈ schema.fields, field.HasPlainNames

/-- A patch none of whose names shows a placeholder. -/
structure PatchSchema.HasPlainNames (schema : PatchSchema) : Prop where
  targetTable : ShowsNoSign schema.targetTable.toList
  identifierColumn : ShowsNoSign schema.identifierColumn.toList
  fields :
    ∀ field ∈ schema.fields, ShowsNoSign field.name.toList ∧ ShowsNoSign field.column.toList

theorem Backend.exists_writesPlainly
    {backend : Backend}
    (standard : backend ∈ standardBackends) :
    ∃ mark, backend.WritesPlainly mark := by
  have cases : backend = .postgres ∨ backend = .mysql ∨ backend = .sqlite := by
    simpa [standardBackends] using standard
  rcases cases with rfl | rfl | rfl
  · exact ⟨'"', rfl, by decide, ⟨.numbered, rfl⟩, .anyOf, rfl⟩
  · exact ⟨'\x60', rfl, by decide, ⟨.questionMark, rfl⟩, .memberOf, rfl⟩
  · exact ⟨'"', rfl, by decide, ⟨.questionMark, rfl⟩, .arrayRows, rfl⟩

/-! ## Legible templates -/

section Legible

variable {backend : Backend} {mark : Char}

theorem Field.isLegible_selectItem
    {field : Field}
    (plainly : backend.WritesPlainly mark)
    (plain : field.HasPlainNames) :
    field.selectItem.IsLegible backend := by
  rcases plain with ⟨namePlain, columnPlain⟩
  have labelPlain : ShowsNoSign (field.name ++ typeMarker).toList := by
    have markerPlain : ShowsNoSign typeMarker.toList := by decide
    rw [String.toList_append]
    exact List.forall_mem_append.2 ⟨namePlain, markerPlain⟩
  have nothing : Template.IsLegible backend [] := Template.isLegible_nil
  rw [selectItem]
  split_ifs
  · apply Template.IsLegible.identifier _ plainly columnPlain
    apply Template.IsLegible.word _ (by decide)
    exact nothing.label plainly labelPlain
  · apply Template.IsLegible.identifier _ plainly columnPlain
    apply Template.IsLegible.word _ (by decide)
    exact nothing.identifier plainly namePlain
  · exact nothing.identifier plainly columnPlain

theorem isLegible_selectList
    {fields : List Field}
    (plainly : backend.WritesPlainly mark)
    (plain : ∀ field ∈ fields, field.HasPlainNames) :
    (selectList fields).IsLegible backend := by
  apply Template.IsLegible.separated
  intro template member
  rcases List.mem_map.1 member with ⟨field, listed, rfl⟩
  exact Field.isLegible_selectItem plainly (plain field listed)

theorem isLegible_assignments
    {columns : List String}
    (plainly : backend.WritesPlainly mark)
    (plain : ∀ column ∈ columns, ShowsNoSign column.toList) :
    (assignments columns).IsLegible backend := by
  apply Template.IsLegible.separated
  intro template member
  rcases List.mem_map.1 member with ⟨column, listed, rfl⟩
  apply Template.IsLegible.identifier _ plainly (plain column listed)
  apply Template.IsLegible.word _ (by decide)
  exact Template.isLegible_nil.placeholder plainly Template.standsApart_nil

/-- Restricting a statement to the row of a key keeps it legible. -/
theorem isLegible_restrict
    {key : String}
    (plainly : backend.WritesPlainly mark)
    (plain : ShowsNoSign key.toList)
    {template : Template}
    (legible : template.IsLegible backend) :
    Template.IsLegible backend
      (template ++ [.word " WHERE ", .identifier key, .word " = ", .placeholder]) := by
  apply legible.append
  · apply Template.IsLegible.word _ (by decide)
    apply Template.IsLegible.identifier _ plainly plain
    apply Template.IsLegible.word _ (by decide)
    exact Template.isLegible_nil.placeholder plainly Template.standsApart_nil
  · exact Template.standsApart_word (by decide) (by decide) _

variable {schema : TableSchema} {fields : List Field}

theorem TableSchema.isLegible_selectFrom
    (plainly : backend.WritesPlainly mark)
    (plain : schema.HasPlainNames)
    (fieldsPlain : ∀ field ∈ fields, field.HasPlainNames) :
    (schema.selectFrom fields).IsLegible backend := by
  apply Template.IsLegible.word _ (by decide)
  apply (isLegible_selectList plainly fieldsPlain).append
  · apply Template.IsLegible.word _ (by decide)
    exact Template.isLegible_nil.identifier plainly plain.table
  · exact Template.standsApart_word (by decide) (by decide) _

theorem TableSchema.isLegible_updateTemplate
    {columns : List String}
    (plainly : backend.WritesPlainly mark)
    (plain : schema.HasPlainNames)
    (identifierPlain : ShowsNoSign schema.identifier.column.toList)
    (columnsPlain : ∀ column ∈ columns, ShowsNoSign column.toList) :
    (schema.updateTemplate columns).IsLegible backend := by
  apply isLegible_restrict plainly identifierPlain
  apply Template.IsLegible.word _ (by decide)
  apply Template.IsLegible.identifier _ plainly plain.table
  apply Template.IsLegible.word _ (by decide)
  exact isLegible_assignments plainly columnsPlain

/-- The parts of the test of a set are legible in every standard style. -/
theorem isLegible_ofTest
    {column : String}
    (plainly : backend.WritesPlainly mark)
    (plain : ShowsNoSign column.toList)
    (style : SetStyle) :
    (Template.ofTest style column).IsLegible backend := by
  have closing :
      Template.IsLegible backend [.word style.frame.2] ∧
        Template.StandsApart backend [.word style.frame.2] := by
    cases style with
    | anyOf =>
        exact ⟨Template.isLegible_nil.word (by decide),
          Template.standsApart_word (by decide) (by decide) _⟩
    | memberOf =>
        exact ⟨Template.isLegible_nil.word (by decide),
          Template.standsApart_word (by decide) (by decide) _⟩
    | arrayRows =>
        exact ⟨Template.isLegible_nil.word (by decide),
          Template.standsApart_word (by decide) (by decide) _⟩
  have opening : ShowsNoSign style.frame.1.toList := by
    cases style with
    | anyOf => decide
    | memberOf => decide
    | arrayRows => decide
  apply Template.IsLegible.identifier _ plainly plain
  apply Template.IsLegible.word _ opening
  exact closing.1.placeholder plainly closing.2

theorem TableSchema.isLegible_lookupCondition
    {field : Field}
    (plainly : backend.WritesPlainly mark)
    (plain : field.HasPlainNames)
    (kind : LookupKind) :
    (lookupCondition kind field).IsLegible backend := by
  have compared :
      Template.IsLegible backend [.identifier field.column, .word " = ", .placeholder] := by
    apply Template.IsLegible.identifier _ plainly plain.2
    apply Template.IsLegible.word _ (by decide)
    exact Template.isLegible_nil.placeholder plainly Template.standsApart_nil
  rcases plainly.tests with ⟨style, tests⟩
  cases kind with
  | anyOf => exact .membership_of_test tests (isLegible_ofTest plainly plain.2 style)
  | one => exact compared
  | optional => exact compared
  | many => exact compared

theorem TableSchema.isLegible_insertTemplate
    (plainly : backend.WritesPlainly mark)
    (plain : schema.HasPlainNames) :
    schema.insertTemplate.IsLegible backend := by
  have nothing : Template.IsLegible backend [] := Template.isLegible_nil
  have columnsPlain : ∀ field ∈ schema.insertFields, ShowsNoSign field.column.toList :=
    fun field member => (plain.fields field (List.mem_of_mem_filter member)).2
  cases inserted : schema.insertFields with
  | nil =>
      rw [insertTemplate, inserted]
      apply Template.IsLegible.word _ (by decide)
      apply Template.IsLegible.identifier _ plainly plain.table
      exact nothing.word (by decide)
  | cons first others =>
      rw [insertTemplate_of_cons inserted, ← inserted, listedInsert]
      apply Template.IsLegible.word _ (by decide)
      apply Template.IsLegible.identifier _ plainly plain.table
      apply Template.IsLegible.word _ (by decide)
      apply Template.IsLegible.append
      · apply Template.IsLegible.append
        · apply Template.IsLegible.separated
          intro template member
          rcases List.mem_map.1 member with ⟨field, listed, rfl⟩
          exact nothing.identifier plainly (columnsPlain field listed)
        · apply Template.IsLegible.word _ (by decide)
          apply Template.IsLegible.separated
          intro template member
          rcases List.mem_map.1 member with ⟨field, -, rfl⟩
          exact nothing.placeholder plainly Template.standsApart_nil
        · exact Template.standsApart_word (by decide) (by decide) _
      · exact nothing.word (by decide)
      · exact Template.standsApart_word (by decide) (by decide) _

end Legible

/-! ## Statements of a table -/

/-- Every statement of a table. -/
def TablePlan.statements (plan : TablePlan) : List Statement :=
  [plan.get, plan.all, plan.paginated] ++ plan.update.toList ++ plan.delete.toList
    ++ (plan.insert.map InsertPlan.statements).getD []
    ++ plan.setters.map Setter.statement ++ plan.getters.map Getter.statement

namespace TableSchema

variable {schema : TableSchema} {backend : Backend} {mark : Char}

/-- The query of a standard backend for a generated identifier has no placeholder. -/
theorem shown_lastInsertId
    (standard : backend ∈ standardBackends)
    {sql : String}
    (isQuery : backend.lastInsertId = some sql) :
    shownPlaceholders sql.toList = [] := by
  have each :
      ∀ backend ∈ standardBackends, ∀ sql ∈ backend.lastInsertId,
        shownPlaceholders sql.toList = [] := by
    decide
  exact each backend standard sql isQuery

theorem mem_fields_of_mem_otherDefaults
    {field : Field}
    (member : field ∈ schema.otherDefaults) :
    field ∈ schema.fields :=
  List.mem_of_mem_filter (List.mem_of_mem_filter member)

theorem mem_fields_of_mem_lookups
    {field : Field}
    {kind : LookupKind}
    {spec : LookupSpec}
    (member : (field, kind, spec) ∈ schema.lookups) :
    field ∈ schema.fields := by
  rcases List.mem_flatMap.1 member with ⟨other, isField, declared⟩
  rcases List.mem_map.1 declared with ⟨⟨otherKind, otherSpec⟩, -, equal⟩
  cases equal
  exact isField

theorem isNumbered_of_mem_insertPlan
    {plan : InsertPlan}
    (standard : backend ∈ standardBackends)
    (plain : schema.HasPlainNames)
    (listed : schema.identifier ∈ schema.fields)
    (planned : schema.insertPlan backend = .ok plan)
    {statement : Statement}
    (member : statement ∈ plan.statements) :
    statement.IsNumbered backend := by
  rcases Backend.exists_writesPlainly standard with ⟨mark, plainly⟩
  have identifierPlain := plain.fields schema.identifier listed
  have defaultsPlain : ∀ field ∈ schema.otherDefaults, field.HasPlainNames :=
    fun field isDefault => plain.fields field (mem_fields_of_mem_otherDefaults isDefault)
  have insertLegible := isLegible_insertTemplate plainly plain
  have counted := schema.placeholderCount_insertTemplate
  by_cases returning : backend.supportsReturning = true
  · rw [eq_of_insertPlan_of_returning returning planned] at member
    rw [List.mem_singleton.1 member]
    apply isNumbered_ofTemplate
    · apply insertLegible.append
      · apply Template.IsLegible.word _ (by decide)
        exact isLegible_selectList plainly (List.forall_mem_cons.2 ⟨identifierPlain, defaultsPlain⟩)
      · exact Template.standsApart_word (by decide) (by decide) _
    · rw [Template.placeholderCount_append, Template.placeholderCount_word, counted,
        placeholderCount_selectList, List.length_map]
      rfl
  · have noReturning : backend.supportsReturning = false := Bool.of_not_eq_true returning
    rw [eq_of_insertPlan noReturning planned, InsertPlan.statements] at member
    dsimp only at member
    rcases List.mem_cons.1 member with rfl | isQuery
    · apply isNumbered_ofTemplate insertLegible
      rw [counted, List.length_map]
    · rcases List.mem_append.1 isQuery with isIdentifier | isDefaults
      · split_ifs at isIdentifier
        · rcases Option.map_eq_some_iff.1 (Option.mem_toList.1 isIdentifier) with
            ⟨sql, isSql, rfl⟩
          exact shown_lastInsertId standard isSql
        · cases isIdentifier
      · split_ifs at isDefaults
        · cases isDefaults
        · rw [List.mem_singleton.1 isDefaults]
          apply isNumbered_ofTemplate
          · exact isLegible_restrict plainly identifierPlain.2
              (isLegible_selectFrom plainly plain defaultsPlain)
          · rw [Template.placeholderCount_append, placeholderCount_selectFrom]
            rfl

theorem isNumbered_of_update
    (plainly : backend.WritesPlainly mark)
    (plain : schema.HasPlainNames)
    (listed : schema.identifier ∈ schema.fields)
    {statement : Statement}
    (isUpdate : schema.update? backend = some statement) :
    statement.IsNumbered backend := by
  rw [update?] at isUpdate
  split_ifs at isUpdate
  rw [← Option.some.inj isUpdate]
  apply isNumbered_ofTemplate
  · apply isLegible_updateTemplate plainly plain (plain.fields schema.identifier listed).2
    intro column member
    rcases List.mem_map.1 member with ⟨field, isField, rfl⟩
    exact (plain.fields field (List.mem_of_mem_filter isField)).2
  · rw [placeholderCount_updateTemplate, List.length_append, List.length_map, List.length_map,
      List.length_singleton]

theorem isNumbered_of_mem_setters
    (plainly : backend.WritesPlainly mark)
    (plain : schema.HasPlainNames)
    (listed : schema.identifier ∈ schema.fields)
    {setter : Setter}
    (member : setter ∈ schema.setters backend) :
    setter.statement.IsNumbered backend := by
  rcases List.mem_filterMap.1 member with ⟨field, isField, named⟩
  rcases Option.map_eq_some_iff.1 named with ⟨name, -, rfl⟩
  apply isNumbered_ofTemplate
  · apply isLegible_updateTemplate plainly plain (plain.fields schema.identifier listed).2
    intro column isColumn
    rw [List.mem_singleton.1 isColumn]
    exact (plain.fields field isField).2
  · exact schema.placeholderCount_updateTemplate [field.column]

theorem isNumbered_of_mem_getters
    (plainly : backend.WritesPlainly mark)
    (plain : schema.HasPlainNames)
    {getter : Getter}
    (member : getter ∈ schema.getters backend) :
    getter.statement.IsNumbered backend := by
  rcases List.mem_map.1 member with ⟨⟨field, kind, spec⟩, lookup, rfl⟩
  have isField : field ∈ schema.fields := mem_fields_of_mem_lookups lookup
  apply isNumbered_ofTemplate
  · apply (isLegible_selectFrom plainly plain plain.fields).append
    · exact (isLegible_lookupCondition plainly (plain.fields field isField) kind).word (by decide)
    · exact Template.standsApart_word (by decide) (by decide) _
  · rw [lookupTemplate, Template.placeholderCount_append, Template.placeholderCount_word,
      placeholderCount_selectFrom, placeholderCount_lookupCondition]
    rfl

theorem isLegible_deleteTemplate
    (plainly : backend.WritesPlainly mark)
    (plain : schema.HasPlainNames)
    (listed : schema.identifier ∈ schema.fields) :
    schema.deleteTemplate.IsLegible backend := by
  apply isLegible_restrict plainly (plain.fields schema.identifier listed).2
  apply Template.IsLegible.word _ (by decide)
  exact Template.isLegible_nil.identifier plainly plain.table

theorem isNumbered_of_reading
    (plainly : backend.WritesPlainly mark)
    (plain : schema.HasPlainNames)
    (listed : schema.identifier ∈ schema.fields)
    {statement : Statement}
    (isReading :
      statement ∈
        [.ofTemplate backend schema.getTemplate ["$id"], .ofTemplate backend schema.allTemplate [],
          .ofTemplate backend schema.paginatedTemplate ["$limit", "$offset"]]) :
    statement.IsNumbered backend := by
  have nothing : Template.IsLegible backend [] := Template.isLegible_nil
  have selected : (schema.selectFrom schema.fields).IsLegible backend :=
    isLegible_selectFrom plainly plain plain.fields
  have counted := schema.placeholderCount_selectFrom schema.fields
  rcases isReading with _ | ⟨_, _ | ⟨_, _ | ⟨_, isNone⟩⟩⟩
  · apply isNumbered_ofTemplate
    · exact isLegible_restrict plainly (plain.fields schema.identifier listed).2 selected
    · rw [getTemplate, Template.placeholderCount_append, counted]
      rfl
  · exact isNumbered_ofTemplate selected counted
  · apply isNumbered_ofTemplate
    · apply selected.append
      · apply Template.IsLegible.word _ (by decide)
        apply Template.IsLegible.placeholder _ plainly
        · exact Template.standsApart_word (by decide) (by decide) _
        · exact (nothing.placeholder plainly Template.standsApart_nil).word (by decide)
      · exact Template.standsApart_word (by decide) (by decide) _
    · rw [paginatedTemplate, Template.placeholderCount_append, counted]
      rfl
  · cases isNone

/-- Every statement of a compiled table is numbered. -/
theorem isNumbered_of_mem_statements
    {plan : TablePlan}
    (standard : backend ∈ standardBackends)
    (plain : schema.HasPlainNames)
    (listed : schema.identifier ∈ schema.fields)
    (compiled : (schema.compile backend).outcome = .ok plan)
    {statement : Statement}
    (member : statement ∈ plan.statements) :
    statement.IsNumbered backend := by
  rcases Backend.exists_writesPlainly standard with ⟨mark, plainly⟩
  have identifierPlain := plain.fields schema.identifier listed
  have selected : (schema.selectFrom schema.fields).IsLegible backend :=
    isLegible_selectFrom plainly plain plain.fields
  rw [eq_of_compile compiled, TablePlan.statements] at member
  simp only [List.mem_append] at member
  rcases member with ((((isReading | isUpdate) | isDelete) | isInsert) | setting) | getting
  · exact isNumbered_of_reading plainly plain listed isReading
  · exact isNumbered_of_update plainly plain listed (Option.mem_toList.1 isUpdate)
  · split_ifs at isDelete
    · rw [List.mem_singleton.1 isDelete]
      exact isNumbered_ofTemplate (isLegible_deleteTemplate plainly plain listed) rfl
    · cases isDelete
  · cases inserted : plan.insert with
    | none =>
        rw [inserted] at isInsert
        cases isInsert
    | some insert =>
        rw [inserted] at isInsert
        exact isNumbered_of_mem_insertPlan standard plain listed
          (insertPlan_of_compile compiled inserted) isInsert
  · rcases List.mem_map.1 setting with ⟨setter, isSetter, rfl⟩
    exact isNumbered_of_mem_setters plainly plain listed isSetter
  · rcases List.mem_map.1 getting with ⟨getter, isGetter, rfl⟩
    exact isNumbered_of_mem_getters plainly plain isGetter

end TableSchema

end SqlMapping
