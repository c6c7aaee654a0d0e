import SqlMapping.Proofs.Outcome
import SqlMapping.Proofs.Schema.Table
import SqlMapping.Proofs.Statement.Rendering
import SqlMapping.Statement.Table

/-!
# Statements of an insert

A backend that cannot return columns gets an insert in several statements: the insert itself,
the query for the generated identifier, and the query for the other generated columns.

The main statement says what these statements begin with: every one of them is an insert or a
selection, except for the query that the backend itself contributes.
-/

namespace SqlMapping

namespace TableSchema

variable {schema : TableSchema} {backend : Backend} {plan : InsertPlan}

/-- What is generated for an insert if the backend cannot return columns. -/
theorem eq_of_insertPlan
    (noReturning : backend.supportsReturning = false)
    (planned : schema.insertPlan backend = .ok plan) :
    plan =
      { statement :=
          .ofTemplate backend schema.insertTemplate (schema.insertFields.map Field.name)
        returning := false
        returnedFields := schema.otherDefaults.map Field.name
        lastInsertId :=
          if schema.identifier.isDefaultGenerated then
            backend.lastInsertId.map fun sql => ⟨sql, [], backend.name⟩
          else none
        fetchDefaults :=
          if schema.otherDefaults.isEmpty then none
          else
            some
              (.ofTemplate backend
                (schema.selectFrom schema.otherDefaults ++ schema.whereIdentifier) ["$id"]) } := by
  rw [insertPlan] at planned
  dsimp only at planned
  rw [noReturning, if_neg Bool.false_ne_true] at planned
  by_cases generated : schema.identifier.isDefaultGenerated = true
  · rw [if_pos generated] at planned ⊢
    cases query : backend.lastInsertId with
    | none =>
        rw [query] at planned
        cases planned
    | some sql =>
        rw [query] at planned
        cases planned
        rfl
  · rw [if_neg generated] at planned ⊢
    cases planned
    rfl

/-- A generated identifier can be asked for if the backend cannot return it. -/
theorem exists_lastInsertId_of_insertPlan
    (noReturning : backend.supportsReturning = false)
    (planned : schema.insertPlan backend = .ok plan)
    (generated : schema.identifier.isDefaultGenerated = true) :
    ∃ sql, backend.lastInsertId = some sql := by
  cases query : backend.lastInsertId with
  | some sql => exact ⟨sql, rfl⟩
  | none =>
      rw [insertPlan] at planned
      dsimp only at planned
      rw [noReturning, if_neg Bool.false_ne_true, if_pos generated, query] at planned
      cases planned

/-- What is generated for an insert if the backend returns columns. -/
theorem eq_of_insertPlan_of_returning
    (returning : backend.supportsReturning = true)
    (planned : schema.insertPlan backend = .ok plan) :
    plan =
      { statement :=
          .ofTemplate backend
            (schema.insertTemplate
              ++ .word " RETURNING " :: selectList (schema.identifier :: schema.otherDefaults))
            (schema.insertFields.map Field.name)
        returning := true
        returnedFields := (schema.identifier :: schema.otherDefaults).map Field.name
        lastInsertId := none
        fetchDefaults := none } := by
  rw [insertPlan] at planned
  dsimp only at planned
  rw [if_pos returning] at planned
  cases planned
  rfl

/-- What a table is compiled to. -/
theorem eq_of_compile
    {table : TablePlan}
    (compiled : (schema.compile backend).outcome = .ok table) :
    table =
      { schema := schema
        columns := columnList backend schema.fields
        get := .ofTemplate backend schema.getTemplate ["$id"]
        all := .ofTemplate backend schema.allTemplate []
        paginated := .ofTemplate backend schema.paginatedTemplate ["$limit", "$offset"]
        update := schema.update? backend
        delete :=
          if schema.deletable then some (.ofTemplate backend schema.deleteTemplate ["$id"])
          else none
        insert := table.insert
        setters := schema.setters backend
        getters := schema.getters backend } := by
  rw [compile, Report.bind_outcome_eq_ok_iff] at compiled
  rcases compiled with ⟨insert, -, built⟩
  cases built
  rfl

/-- A compiled table keeps the schema that it was compiled from. -/
theorem schema_of_compile
    {table : TablePlan}
    (compiled : (schema.compile backend).outcome = .ok table) :
    table.schema = schema := by
  rw [compile, Report.bind_outcome_eq_ok_iff] at compiled
  rcases compiled with ⟨insert, -, built⟩
  cases built
  rfl

/-- The insert of a compiled table is generated from the schema. -/
theorem insertPlan_of_compile
    {table : TablePlan}
    (compiled : (schema.compile backend).outcome = .ok table)
    (isInsert : table.insert = some plan) :
    schema.insertPlan backend = .ok plan := by
  rw [compile, Report.bind_outcome_eq_ok_iff] at compiled
  rcases compiled with ⟨insert, generated, built⟩
  rw [Report.outcome_ofExcept, insertPlan?] at generated
  cases built
  cases insertable : schema.insertable with
  | none =>
      rw [insertable] at generated
      cases generated
      cases isInsert
  | some spec =>
      rw [insertable] at generated
      cases success : schema.insertPlan backend with
      | error error =>
          rw [success] at generated
          cases generated
      | ok other =>
          rw [success, Outcome.map_ok, Except.ok.injEq] at generated
          rw [← generated] at isInsert
          rw [Option.some.inj isInsert]

/-- A table whose rows can be inserted is compiled with an insert. -/
theorem exists_insert_of_compile
    {table : TablePlan}
    (compiled : (schema.compile backend).outcome = .ok table)
    (insertable : schema.insertable.isSome = true) :
    ∃ plan, table.insert = some plan := by
  rcases Option.isSome_iff_exists.1 insertable with ⟨spec, isSpec⟩
  rw [compile, Report.bind_outcome_eq_ok_iff] at compiled
  rcases compiled with ⟨insert, generated, built⟩
  rw [Report.outcome_ofExcept, insertPlan?, isSpec] at generated
  cases built
  cases success : schema.insertPlan backend with
  | error error =>
      rw [success] at generated
      cases generated
  | ok plan =>
      rw [success] at generated
      cases generated
      exact ⟨plan, rfl⟩

/-- A compiled table has an insert exactly if rows can be inserted. -/
theorem isSome_insert_of_compile
    {table : TablePlan}
    (compiled : (schema.compile backend).outcome = .ok table) :
    table.insert.isSome = schema.insertable.isSome := by
  cases insertable : schema.insertable with
  | none =>
      rw [compile, insertPlan?, insertable] at compiled
      cases compiled
      rfl
  | some spec =>
      have isInsertable : schema.insertable.isSome = true := by rw [insertable, Option.isSome_some]
      rcases exists_insert_of_compile compiled isInsertable with ⟨insert, isInsert⟩
      rw [isInsert, Option.isSome_some, Option.isSome_some]

/-- An insert binds the fields that the caller supplies. -/
theorem params_of_insertPlan
    (planned : schema.insertPlan backend = .ok plan) :
    plan.statement.params = schema.insertFields.map Field.name := by
  cases returning : backend.supportsReturning with
  | true => rw [eq_of_insertPlan_of_returning returning planned, Statement.ofTemplate]
  | false => rw [eq_of_insertPlan returning planned, Statement.ofTemplate]

/-- A template that begins with a word is rendered as a text that begins with it. -/
theorem startsWith_ofTemplate
    (backend : Backend)
    (word : String)
    (rest : Template)
    (params : List String) :
    word.toList <+: (Statement.ofTemplate backend (.word word :: rest) params).sql.toList := by
  rw [Statement.ofTemplate, Template.toList_render, Template.characters_word]
  exact List.prefix_append _ _

theorem startsWith_insert
    (schema : TableSchema)
    (backend : Backend)
    (params : List String) :
    "INSERT INTO ".toList <+:
      (Statement.ofTemplate backend schema.insertTemplate params).sql.toList := by
  rw [insertTemplate]
  cases schema.insertFields with
  | nil => exact startsWith_ofTemplate _ _ _ _
  | cons field rest => exact startsWith_ofTemplate _ _ _ _

/--
Every statement of an insert in several statements inserts or selects, unless it is the query of
the backend for the generated identifier.
-/
theorem sql_of_mem_statements
    (noReturning : backend.supportsReturning = false)
    (planned : schema.insertPlan backend = .ok plan)
    {statement : Statement}
    (member : statement ∈ plan.statements) :
    "INSERT INTO ".toList <+: statement.sql.toList ∨
      "SELECT ".toList <+: statement.sql.toList ∨
        backend.lastInsertId = some statement.sql := by
  rw [eq_of_insertPlan noReturning planned, InsertPlan.statements] at member
  dsimp only at member
  rcases List.mem_cons.1 member with rfl | isQuery
  · exact Or.inl (startsWith_insert schema backend _)
  · rcases List.mem_append.1 isQuery with isIdentifier | isDefaults
    · right
      right
      split_ifs at isIdentifier with generated
      · cases query : backend.lastInsertId with
        | none =>
            rw [query] at isIdentifier
            cases isIdentifier
        | some sql =>
            rw [query] at isIdentifier
            rw [List.mem_singleton.1 isIdentifier]
      · cases isIdentifier
    · right
      left
      split_ifs at isDefaults with noDefaults
      · cases isDefaults
      · rw [List.mem_singleton.1 isDefaults]
        exact startsWith_ofTemplate _ _ _ _

end TableSchema

end SqlMapping
