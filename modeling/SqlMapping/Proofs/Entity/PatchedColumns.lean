import SqlMapping.Proofs.Entity.Changes
import SqlMapping.Proofs.Entity.Writing
import SqlMapping.Proofs.Schema.Patch

/-!
# Columns that patches write

The table of an entity and a patch of it are declared apart, each with columns of its own.  An
update writes a field to the column of the table's declaration, a patch to that of its own.  The
patch writes what an update writes of its fields exactly if both declarations give these the same
columns.

The main statement says this of the statement of an accepted patch, and of the row and the entity
after the entity was patched.
-/

namespace SqlMapping

/-- The columns that a declared patch writes, each with the field that its value comes from. -/
def Declaration.patchTargets (declaration : Declaration) : List (String × String) :=
  declaration.fields.map fun field => (field.patchedColumn, field.name)

theorem Declaration.map_snd_patchTargets (declaration : Declaration) :
    declaration.patchTargets.map Prod.snd = declaration.fieldNames := by
  rw [patchTargets, List.map_map]
  rfl

namespace TableSchema

/-- The columns that an update writes, each with the field that its value comes from. -/
def updateTargets (schema : TableSchema) : List (String × String) :=
  schema.fieldsExceptIdentifier.map fun field => (field.column, field.name)

/-- The column that an update writes a field to. -/
def updateColumn? (schema : TableSchema) (name : String) : Option String :=
  (schema.fieldsExceptIdentifier.find? fun field => field.name == name).map Field.column

/-- What an update writes of some fields, in their order. -/
def restrictedTargets (schema : TableSchema) (names : List String) : List (String × String) :=
  names.filterMap fun name => (schema.updateColumn? name).map fun column => (column, name)

end TableSchema

/-- A declared patch gives its fields the columns that a table gives them. -/
def Declaration.MapsLike (declaration : Declaration) (target : TableSchema) : Prop :=
  ∀ field ∈ declaration.fields, target.updateColumn? field.name = some field.patchedColumn

namespace TableSchema

variable {schema : TableSchema}

/-- A field that can be patched is one that an update writes. -/
theorem isSome_updateColumn?_of_isPatchable
    {name : String}
    (patchable : PatchSchema.isPatchable schema name = true) :
    (schema.updateColumn? name).isSome = true := by
  rw [PatchSchema.isPatchable] at patchable
  cases found : schema.field? name with
  | none =>
      rw [found] at patchable
      cases patchable
  | some field =>
      rw [found] at patchable
      have isField := List.mem_of_find?_eq_some found
      have isName := List.find?_some found
      rw [updateColumn?, Option.isSome_map, List.find?_isSome]
      exact ⟨field, List.mem_filter.2 ⟨isField, patchable⟩, isName⟩

/-- Names that can be patched are those of fields. -/
theorem mem_map_name_of_isPatchable
    {name : String}
    (patchable : PatchSchema.isPatchable schema name = true) :
    name ∈ schema.fields.map Field.name := by
  have isSome := isSome_updateColumn?_of_isPatchable patchable
  rw [updateColumn?, Option.isSome_map, List.find?_isSome] at isSome
  rcases isSome with ⟨field, isField, isName⟩
  rw [← beq_iff_eq.1 isName]
  exact List.mem_map_of_mem (List.mem_of_mem_filter isField)

end TableSchema

namespace Declaration

variable {declaration : Declaration} {target : TableSchema}

/-- A patch writes what an update writes of its fields if both give these the same columns. -/
theorem patchTargets_eq_restrictedTargets_iff
    (written :
      ∀ field ∈ declaration.fields, (target.updateColumn? field.name).isSome = true) :
    declaration.patchTargets = target.restrictedTargets declaration.fieldNames ↔
      declaration.MapsLike target := by
  rw [patchTargets, fieldNames, TableSchema.restrictedTargets, MapsLike]
  generalize declaration.fields = fields at written
  induction fields with
  | nil => simp
  | cons field rest inductionHypothesis =>
      rcases Option.isSome_iff_exists.1 (written field List.mem_cons_self) with ⟨column, isColumn⟩
      have restWritten := fun other member => written other (List.mem_cons_of_mem field member)
      rw [List.map_cons, List.map_cons, List.filterMap_cons, isColumn, Option.map_some,
        List.cons.injEq, inductionHypothesis restWritten, List.forall_mem_cons, isColumn,
        Option.some.injEq, Prod.mk.injEq]
      constructor
      · rintro ⟨⟨same, -⟩, others⟩
        exact ⟨same.symm, others⟩
      · rintro ⟨same, others⟩
        exact ⟨⟨same.symm, rfl⟩, others⟩

/-- A patch that maps like a table writes the identifier's column only where the table does. -/
theorem MapsLike.mem_columns_iff
    (mapsLike : declaration.MapsLike target)
    {column : String} :
    column ∈ declaration.patchTargets.map Prod.fst ↔
      ∃ name ∈ declaration.fieldNames, target.updateColumn? name = some column := by
  rw [patchTargets, List.map_map, List.mem_map, fieldNames]
  constructor
  · rintro ⟨field, isField, rfl⟩
    exact ⟨field.name, List.mem_map_of_mem isField, mapsLike field isField⟩
  · rintro ⟨name, isName, isColumn⟩
    rcases List.mem_map.1 isName with ⟨field, isField, rfl⟩
    rw [mapsLike field isField, Option.some.injEq] at isColumn
    exact ⟨field, isField, isColumn⟩

end Declaration

/-! ## The statement -/

/-- A generated patch writes what its declaration says, which an update may write elsewhere. -/
structure PatchPlan.Writes
    (plan : PatchPlan)
    (backend : Backend)
    (target : TableSchema)
    (declaration : Declaration) :
    Prop where
  areFields :
    ∀ field ∈ declaration.fields, (target.updateColumn? field.name).isSome = true
  patches :
    ∃ table key : String,
      Attribute.text? declaration.attributes "table_name" = some table ∧
        Attribute.text? declaration.attributes "id" = some key ∧
        plan.statement.Assigns backend table declaration.patchTargets (key, "$id")
  updates :
    ∀ statement, target.update? backend = some statement →
      statement.Assigns backend target.table target.updateTargets
        (target.identifier.column, target.identifier.name)
  restricts_iff :
    declaration.patchTargets = target.restrictedTargets declaration.fieldNames ↔
      declaration.MapsLike target
  writesIdentifier_iff :
    declaration.MapsLike target →
      (target.identifier.column ∈ declaration.patchTargets.map Prod.fst ↔
        ∃ name ∈ declaration.fieldNames,
          target.updateColumn? name = some target.identifier.column)

namespace PatchPlan

variable {workspace : Workspace} {choice : BackendChoice} {target : TableSchema}
  {declaration : Declaration} {backend : Backend} {plan : PatchPlan}

/-- The targets of a schema that was read are those of its declaration. -/
theorem targets_of_isRead
    {entity : String}
    {fields : List PatchField}
    (areRead :
      List.Forall₂ (PatchField.IsRead backend (some target) entity) declaration.fields fields) :
    fields.map (fun field => (field.column, field.name)) = declaration.patchTargets := by
  rw [Declaration.patchTargets]
  generalize declaration.fields = declarations at areRead
  induction areRead with
  | nil => rfl
  | cons isRead others inductionHypothesis =>
      rcases isRead with ⟨options, -, -, rfl⟩
      rw [List.map_cons, List.map_cons, inductionHypothesis]

theorem isPatchable_of_isRead
    {entity : String}
    {fields : List PatchField}
    (areRead :
      List.Forall₂ (PatchField.IsRead backend (some target) entity) declaration.fields fields) :
    ∀ field ∈ declaration.fields, PatchSchema.isPatchable target field.name = true := by
  generalize declaration.fields = declarations at areRead
  induction areRead with
  | nil =>
      intro field member
      cases member
  | cons isRead others inductionHypothesis =>
      rcases isRead with ⟨options, -, patchable, -⟩
      rw [List.forall_mem_cons]
      exact ⟨patchable target rfl, inductionHypothesis⟩

/-- What a patch with a known target was generated from. -/
theorem exists_of_compilePatch
    (isPatch : (compilePatch workspace choice (some target) declaration).outcome = .ok plan) :
    ∃ generated : Backend,
      (∀ field ∈ declaration.fields, PatchSchema.isPatchable target field.name = true) ∧
        plan.schema.fields.map (fun field => (field.column, field.name)) =
          declaration.patchTargets ∧
        Attribute.text? declaration.attributes "table_name" = some plan.schema.targetTable ∧
        Attribute.text? declaration.attributes "id" = some plan.schema.identifierColumn ∧
        workspace.resolve (.ofKey? plan.schema.backend) = .ok generated ∧
        plan.statement.Assigns generated plan.schema.targetTable declaration.patchTargets
          (plan.schema.identifierColumn, "$id") := by
  rw [compilePatch] at isPatch
  rcases Report.bind_outcome_eq_ok_iff.1 isPatch with ⟨schema, accepted, isPatch⟩
  rcases Report.bind_outcome_eq_ok_iff.1 isPatch with ⟨generated, resolved, isPatch⟩
  rcases PatchSchema.exists_of_ofDeclaration accepted with
    ⟨checked, -, -, isTable, isKey, areRead⟩
  rw [PatchSchema.compile] at isPatch
  split_ifs at isPatch
  · cases isPatch
  · cases isPatch
    have targets := targets_of_isRead areRead
    have written :=
      Statement.assigns_ofTemplate generated schema.targetTable
        (schema.fields.map fun field => (field.column, field.name))
        (schema.identifierColumn, "$id")
    rw [targets] at written
    have columns : declaration.patchTargets.map Prod.fst = schema.fields.map PatchField.column := by
      rw [← targets, List.map_map]
      rfl
    have names : declaration.patchTargets.map Prod.snd = schema.fields.map PatchField.name := by
      rw [← targets, List.map_map]
      rfl
    rw [columns, names] at written
    exact
      ⟨generated, isPatchable_of_isRead areRead, targets, isTable, isKey, resolved, written⟩

/-- The statement of a patch writes the fields of its declaration. -/
theorem map_name_of_targets
    (targets :
      plan.schema.fields.map (fun field => (field.column, field.name)) =
        declaration.patchTargets) :
    plan.schema.fields.map PatchField.name = declaration.fieldNames := by
  have names := congrArg (List.map Prod.snd) targets
  rw [List.map_map, declaration.map_snd_patchTargets] at names
  exact names

theorem writes_of_isPatchable
    {table key : String}
    (patchable : ∀ field ∈ declaration.fields, PatchSchema.isPatchable target field.name = true)
    (isTable : Attribute.text? declaration.attributes "table_name" = some table)
    (isKey : Attribute.text? declaration.attributes "id" = some key)
    (assigns : plan.statement.Assigns backend table declaration.patchTargets (key, "$id")) :
    plan.Writes backend target declaration := by
  have areFields :
      ∀ field ∈ declaration.fields, (target.updateColumn? field.name).isSome = true :=
    fun field member => TableSchema.isSome_updateColumn?_of_isPatchable (patchable field member)
  constructor
  case areFields => exact areFields
  case patches => exact ⟨table, key, isTable, isKey, assigns⟩
  case updates =>
    intro statement isUpdate
    exact TableSchema.assigns_of_update isUpdate
  case restricts_iff => exact Declaration.patchTargets_eq_restrictedTargets_iff areFields
  case writesIdentifier_iff => exact fun mapsLike => mapsLike.mem_columns_iff

end PatchPlan

/-! ## The entity -/

namespace Entity

variable {entity : Entity}

/-- Assigning to a field of a defined class puts what is stored there, if it succeeds. -/
theorem exists_stored_of_assign
    {changed : Entity}
    {name : String}
    {value : Value}
    (isDefined : entity.table.IsDefined)
    (isField : name ∈ entity.table.fieldNames)
    (assigned : entity.assign name value = .ok changed) :
    ∃ kept : Value,
      entity.table.model.stored name value = .ok kept ∧
        changed = { entity with fields := Entries.put entity.fields name kept } := by
  have isFieldName := isDefined.isFieldName isField
  have known : entity.table.model.fieldNames.contains name = true := by
    have names : entity.table.model.fieldNames = entity.table.fieldNames := List.map_map
    rw [names]
    exact List.contains_iff_mem.2 isField
  rw [assign, Outcome.map_eq_ok_iff] at assigned
  rcases assigned with ⟨fields, put, rfl⟩
  rw [Model.assign] at put
  split at put
  · cases put
  rw [isFieldName, Bool.not_true, if_neg Bool.false_ne_true, Outcome.bind_eq_ok_iff] at put
  rcases put with ⟨-, -, put⟩
  rcases Outcome.bind_eq_ok_iff.1 put with ⟨kept, isKept, put⟩
  rw [Model.put, if_pos known] at put
  rw [← Except.ok.inj put]
  exact ⟨kept, isKept, rfl⟩

theorem lookup_of_fieldValue
    {source : List (String × Value)}
    {name : String}
    {value : Value}
    (isValue : fieldValue source name = .ok value) :
    source.lookup name = some value := by
  rw [fieldValue] at isValue
  cases found : source.lookup name with
  | none =>
      rw [found] at isValue
      cases isValue
  | some other =>
      rw [found] at isValue
      rw [Except.ok.inj isValue]

/-- Fields that were assigned with success have the values that they were assigned. -/
theorem takes_of_result_ofNames
    {source : List (String × Value)}
    {names : List String}
    (isDefined : entity.table.IsDefined)
    (areFields : ∀ name ∈ names, name ∈ entity.table.fieldNames)
    (keeps : entity.table.Keeps names source)
    (succeeds :
      (Assigned.ofNames assign (fieldValue source) entity names).result = .ok ()) :
    entity.Takes (Assigned.ofNames assign (fieldValue source) entity names).object names
      source := by
  induction names generalizing entity with
  | nil => exact ⟨rfl, fun name => rfl⟩
  | cons name rest inductionHypothesis =>
      cases assigned : fieldValue source name >>= entity.assign name with
      | error failure =>
          rw [Assigned.ofNames, assigned] at succeeds
          cases succeeds
      | ok changed =>
          rw [Assigned.ofNames, assigned] at succeeds ⊢
          rcases Outcome.bind_eq_ok_iff.1 assigned with ⟨value, isValue, isAssigned⟩
          have found := lookup_of_fieldValue isValue
          rcases
            exists_stored_of_assign isDefined (areFields name List.mem_cons_self) isAssigned with
            ⟨kept, isKept, rfl⟩
          rw [keeps name List.mem_cons_self value found] at isKept
          cases isKept
          refine Takes.cons found (inductionHypothesis isDefined ?_ ?_ succeeds)
          · exact fun other member => areFields other (List.mem_cons_of_mem name member)
          · exact fun other member => keeps other (List.mem_cons_of_mem name member)

end Entity

/-! ## The row -/

namespace Statement

variable {fieldValue : String → Option Value} {identifier : Value}

/-- Only one name is that of the identifier's argument. -/
theorem eq_of_argumentName?
    {parameter : String}
    (isIdentifier : argumentName? parameter = some "id") :
    parameter = "$id" := by
  rw [argumentName?] at isIdentifier
  split at isIdentifier
  · rename_i rest characters
    have isRest := congrArg String.toList (Option.some.inj isIdentifier)
    rw [String.toList_ofList] at isRest
    rw [← String.toList_inj, characters, isRest]
    rfl
  · cases isIdentifier

theorem fieldValue_of_bindParameter
    {parameter : String}
    {value : Value}
    (isField : parameter ≠ "$id")
    (isBound : bindParameter fieldValue [("id", identifier)] parameter = .ok value) :
    fieldValue parameter = some value := by
  rw [bindParameter] at isBound
  cases isArgument : argumentName? parameter with
  | none =>
      rw [isArgument] at isBound
      dsimp only at isBound
      cases found : fieldValue parameter with
      | none =>
          rw [found] at isBound
          cases isBound
      | some other =>
          rw [found] at isBound
          rw [Except.ok.inj isBound]
  | some name =>
      have notIdentifier : (name == "id") = false := by
        rw [beq_eq_false_iff_ne]
        rintro rfl
        exact isField (eq_of_argumentName? isArgument)
      rw [isArgument] at isBound
      dsimp only at isBound
      rw [List.lookup_cons, notIdentifier] at isBound
      cases isBound

/-- A statement with some fields and the identifier binds the values of the fields and it. -/
theorem exists_values_of_bind
    {statement : Statement}
    {names : List String}
    {arguments : List Value}
    (params : statement.params = names ++ ["$id"])
    (areFields : "$id" ∉ names)
    (isBound : statement.bind fieldValue [("id", identifier)] = .ok arguments) :
    ∃ values : List Value,
      arguments = values ++ [identifier] ∧ values.map some = names.map fieldValue := by
  rw [bind, params, Outcome.mapM_eq_ok_iff] at isBound
  clear params
  induction names generalizing arguments with
  | nil =>
      rcases List.forall₂_cons_left_iff.1 isBound with ⟨last, rest, isLast, isRest, rfl⟩
      rw [List.forall₂_nil_left_iff.1 isRest]
      have isIdentifier : Except.ok identifier = Except.ok last := isLast
      rw [Except.ok.inj isIdentifier]
      exact ⟨[], rfl, rfl⟩
  | cons name rest inductionHypothesis =>
      rw [List.cons_append] at isBound
      rcases List.forall₂_cons_left_iff.1 isBound with ⟨value, others, isValue, areOthers, rfl⟩
      rw [List.mem_cons, not_or] at areFields
      rcases inductionHypothesis areFields.2 areOthers with ⟨values, rfl, areValues⟩
      refine ⟨value :: values, rfl, ?_⟩
      rw [List.map_cons, List.map_cons, areValues,
        fieldValue_of_bindParameter (Ne.symm areFields.1) isValue]

end Statement

/-- A stored row after columns were given values; of two values for a column the last one counts. -/
def StoredRow.updated (stored : StoredRow) (given : List (String × Value)) : StoredRow :=
  fun column => ((Entries.putAll [] given).lookup column).getD (stored column)

/-- A row has, under some columns, the values of some fields of an entity. -/
def StoredRow.Holds
    (stored : StoredRow)
    (entity : Entity)
    (targets : List (String × String)) :
    Prop :=
  ∀ target ∈ targets, entity.fields.lookup target.2 = some (stored target.1)

/-- Values that are known one by one stand beside the keys of their items. -/
theorem exists_mem_zip
    {α β : Type}
    {valueOf : β → Option α}
    {items : List β}
    {values : List α}
    (areValues : values.map some = items.map valueOf)
    (keyOf : β → String)
    {item : β}
    (member : item ∈ items) :
    ∃ value, valueOf item = some value ∧ (keyOf item, value) ∈ (items.map keyOf).zip values := by
  induction items generalizing values with
  | nil => cases member
  | cons first rest inductionHypothesis =>
      rcases List.map_eq_cons_iff.1 areValues with ⟨value, others, rfl, isValue, areOthers⟩
      rw [List.map_cons, List.zip_cons_cons]
      rcases List.mem_cons.1 member with rfl | isRest
      · exact ⟨value, isValue.symm, List.mem_cons_self⟩
      · rcases inductionHypothesis areOthers isRest with ⟨other, isOther, isBeside⟩
        exact ⟨other, isOther, List.mem_cons_of_mem _ isBeside⟩

theorem StoredRow.holds_updated
    {targets : List (String × String)}
    {values : List Value}
    {entity : Entity}
    (distinct : (targets.map Prod.fst).Nodup)
    (areValues : values.map some = targets.map fun target => entity.fields.lookup target.2)
    (stored : StoredRow) :
    (stored.updated ((targets.map Prod.fst).zip values)).Holds entity targets := by
  have sameLength : values.length = targets.length := by
    have lengths := congrArg List.length areValues
    rwa [List.length_map, List.length_map] at lengths
  have givenDistinct : (((targets.map Prod.fst).zip values).map Prod.fst).Nodup := by
    rw [List.map_fst_zip]
    · exact distinct
    · rw [List.length_map, sameLength]
  intro target member
  rcases exists_mem_zip areValues Prod.fst member with ⟨value, isValue, isGiven⟩
  rw [isValue, updated, Entries.lookup_putAll_of_mem givenDistinct isGiven]
  rfl

/--
An entity was patched: the statement was executed with the values that the fields of the patch have
in the changed entity, and with the identifier.  A row in which the columns of the patch take these
values, if they differ, has them where the entity has them.
-/
def PatchPlan.Stores
    (plan : PatchPlan)
    (target : TableSchema)
    (declaration : Declaration)
    (row : PatchRow)
    (entity changed : Entity)
    (before after : Connection) :
    Prop :=
  ∃ (identifier : Value) (values : List Value) (events : List Event),
    entity.identifier = .ok identifier ∧
      before.LeadsTo events after ∧
      requestsOf events = [(plan.statement.sql, some (values ++ [identifier]))] ∧
      entity.Takes changed declaration.fieldNames row.fields ∧
      values.map some = declaration.fieldNames.map (changed.fields.lookup ·) ∧
      ((declaration.patchTargets.map Prod.fst).Nodup →
        ∀ stored : StoredRow,
          (stored.updated ((declaration.patchTargets.map Prod.fst).zip values)).Holds changed
              declaration.patchTargets ∧
            (declaration.MapsLike target →
              (stored.updated ((declaration.patchTargets.map Prod.fst).zip values)).Holds changed
                (target.restrictedTargets declaration.fieldNames)))

/-- Patching an entity stores what the statement binds, and the entity takes the same values. -/
theorem PatchPlan.stores_of_patch
    {plan : PatchPlan}
    {target : TableSchema}
    {declaration : Declaration}
    {entity : Entity}
    {table : CompiledTable}
    {compiled : CompiledPatch}
    {row : PatchRow}
    {patchName : String}
    {before after : Connection}
    {applied : Assigned Entity}
    (patchable : ∀ field ∈ declaration.fields, PatchSchema.isPatchable target field.name = true)
    (names : plan.schema.fields.map PatchField.name = declaration.fieldNames)
    (params : plan.statement.params = declaration.fieldNames ++ ["$id"])
    (restricts :
      declaration.MapsLike target →
        declaration.patchTargets = target.restrictedTargets declaration.fieldNames)
    (isDefined : entity.table.IsDefined)
    (isCompiled : entity.table.compiled? = some table)
    (isTarget : table.plan.schema = target)
    (isPlan : compiled.plan = plan)
    (areFields : "$id" ∉ declaration.fieldNames)
    (keeps : entity.table.Keeps declaration.fieldNames row.fields)
    (patched : (entity.patch row patchName compiled).on before = (.ok applied, after))
    (succeeds : applied.result = .ok ()) :
    plan.Stores target declaration row entity applied.object before after := by
  subst isPlan isTarget
  rcases Entity.exists_of_patch patched with
    ⟨-, isApplied, identifier, arguments, events, isIdentifier, isBound, leads, asked⟩
  rw [Database.bound, Outcome.mapError_eq_ok_iff] at isBound
  rcases Statement.exists_values_of_bind params areFields isBound with ⟨values, rfl, areValues⟩
  have inClass : ∀ name ∈ declaration.fieldNames, name ∈ entity.table.fieldNames := by
    intro name member
    rcases List.mem_map.1 member with ⟨field, isField, rfl⟩
    apply isDefined.schemaNames_subset isCompiled
    exact TableSchema.mem_map_name_of_isPatchable (patchable field isField)
  rw [PatchRow.applyTo, names] at isApplied
  rw [isApplied] at succeeds
  have takes := Entity.takes_of_result_ofNames isDefined inClass keeps succeeds
  rw [← isApplied] at takes
  have areTaken :
      values.map some = declaration.fieldNames.map (applied.object.fields.lookup ·) := by
    rw [areValues]
    apply List.map_congr_left
    intro name member
    rw [takes.2 name, if_pos member]
  have areTargets :
      values.map some =
        declaration.patchTargets.map fun target => applied.object.fields.lookup target.2 := by
    rw [areTaken, ← declaration.map_snd_patchTargets, List.map_map]
    rfl
  refine ⟨identifier, values, events, isIdentifier, leads, asked, takes, areTaken, ?_⟩
  intro distinct stored
  have holds := StoredRow.holds_updated distinct areTargets stored
  refine ⟨holds, fun mapsLike => ?_⟩
  rw [← restricts mapsLike]
  exact holds

/--
A patch writes its fields to the columns of its own declaration, and what an update writes of them
exactly if the table has them in the same columns.  The row and the entity agree after it.
-/
theorem PatchPlan.writes_of_compilePatch
    {workspace : Workspace}
    {choice : BackendChoice}
    {target : TableSchema}
    {declaration : Declaration}
    {backend : Backend}
    {plan : PatchPlan}
    (isPatch : (compilePatch workspace choice (some target) declaration).outcome = .ok plan)
    (isBackend : workspace.resolve (.ofKey? target.backend) = .ok backend)
    (sharesBackend : plan.schema.backend = target.backend) :
    plan.Writes backend target declaration ∧
      ∀ (entity : Entity) (table : CompiledTable) (compiled : CompiledPatch) (row : PatchRow)
        (patchName : String) (before after : Connection) (applied : Assigned Entity),
        entity.table.IsDefined →
          entity.table.compiled? = some table →
            table.plan.schema = target →
              compiled.plan = plan →
                "$id" ∉ declaration.fieldNames →
                  entity.table.Keeps declaration.fieldNames row.fields →
                    (entity.patch row patchName compiled).on before = (.ok applied, after) →
                      applied.result = .ok () →
                        plan.Stores target declaration row entity applied.object before after := by
  rcases exists_of_compilePatch isPatch with
    ⟨generated, patchable, targets, isTable, isKey, resolved, assigns⟩
  rw [sharesBackend, isBackend] at resolved
  cases resolved
  have writes : plan.Writes backend target declaration :=
    writes_of_isPatchable patchable isTable isKey assigns
  have names := map_name_of_targets targets
  have params : plan.statement.params = declaration.fieldNames ++ ["$id"] := by
    rw [assigns.params_eq, declaration.map_snd_patchTargets]
  refine ⟨writes, ?_⟩
  intro entity table compiled row patchName before after applied isDefined isCompiled isTarget
    isPlan areFields keeps patched succeeds
  exact
    stores_of_patch patchable names params writes.restricts_iff.2 isDefined isCompiled isTarget
      isPlan areFields keeps patched succeeds

/-! ## What an update would write -/

namespace PatchPlan

/-- The columns that a patch sets, each with the field that its value comes from. -/
def targets (plan : PatchPlan) : List (String × String) :=
  plan.schema.fields.map fun field => (field.column, field.name)

/-- A patch sets what an update sets of its fields, and not the column of the identifier. -/
def SetsAsUpdate (plan : PatchPlan) (target : TableSchema) : Prop :=
  plan.targets = target.restrictedTargets (plan.targets.map Prod.snd) ∧
    target.identifier.column ∉ plan.targets.map Prod.fst

/--
A patch sets what an update sets, and whatever entity with the schema is patched, the row and the
entity agree on the fields of the patch after it.
-/
structure WritesAsUpdate (plan : PatchPlan) (target : TableSchema) : Prop where
  sets : plan.SetsAsUpdate target
  agrees
      {entity : Entity}
      {table : CompiledTable}
      {compiled : CompiledPatch}
      {row : PatchRow}
      {patchName : String}
      {before after : Connection}
      {applied : Assigned Entity}
      (isDefined : entity.table.IsDefined)
      (isCompiled : entity.table.compiled? = some table)
      (isTarget : table.plan.schema = target)
      (isPlan : compiled.plan = plan)
      (patched : (entity.patch row patchName compiled).on before = (.ok applied, after))
      (succeeds : applied.result = .ok ()) :
      ∃ (identifier : Value) (values : List Value) (events : List Event),
        entity.identifier = .ok identifier ∧
          before.LeadsTo events after ∧
          requestsOf events = [(plan.statement.sql, some (values ++ [identifier]))] ∧
          ∀ stored : StoredRow,
            (stored.updated ((plan.targets.map Prod.fst).zip values)).Holds applied.object
              (target.restrictedTargets (plan.targets.map Prod.snd))

/-- Where a patch of one field writes what an update writes, it binds what the entity has then. -/
theorem WritesAsUpdate.head?_of_bound
    {plan : PatchPlan}
    {target : TableSchema}
    {column name : String}
    {entity : Entity}
    {table : CompiledTable}
    {backend : Backend}
    {row : PatchRow}
    {patchName : String}
    {identifier : Value}
    {arguments : List Value}
    {before after : Connection}
    {applied : Assigned Entity}
    (writes : plan.WritesAsUpdate target)
    (isSingle : plan.targets = [(column, name)])
    (isDefined : entity.table.IsDefined)
    (isCompiled : entity.table.compiled? = some table)
    (isTarget : table.plan.schema = target)
    (isIdentifier : entity.identifier = .ok identifier)
    (isBound :
      Database.bound plan.statement row.fields [("id", identifier)] = .ok arguments)
    (patched : (entity.patch row patchName ⟨plan, backend⟩).on before = (.ok applied, after))
    (succeeds : applied.result = .ok ()) :
    arguments.head? = applied.object.fields.lookup name := by
  rcases Entity.exists_of_patch patched with
    ⟨-, -, other, bound, events, isOther, isOtherBound, leads, asked⟩
  cases Except.ok.inj (isIdentifier.symm.trans isOther)
  cases Except.ok.inj (isBound.symm.trans isOtherBound)
  rcases writes.agrees isDefined isCompiled isTarget rfl patched succeeds with
    ⟨same, values, sameEvents, isSame, sameLeads, sameAsked, holds⟩
  cases Except.ok.inj (isIdentifier.symm.trans isSame)
  have eventsAgree : sameEvents = events :=
    List.append_cancel_left (sameLeads.journal.symm.trans leads.journal)
  rw [eventsAgree, asked] at sameAsked
  have areValues : arguments = values ++ [identifier] := by
    simpa using sameAsked
  rw [← writes.sets.1, isSingle] at holds
  have holdsAlways (stored : StoredRow) :
      applied.object.fields.lookup name = some (stored.updated ([column].zip values) column) :=
    holds stored (column, name) List.mem_cons_self
  rw [areValues]
  cases values with
  | nil =>
      -- Without a value the row would have to have whatever it had.
      have twice := (holdsAlways fun _ => .null).symm.trans (holdsAlways fun _ => .bool true)
      cases Option.some.inj twice
  | cons value rest =>
      rw [holdsAlways fun _ => .null]
      rw [List.zip_cons_cons, StoredRow.updated]
      simp [Entries.putAll, Entries.put]

/-- A patch that binds another text than the entity has then does not write as an update does. -/
theorem not_writesAsUpdate_of_bound
    {plan : PatchPlan}
    {target : TableSchema}
    {column name text : String}
    {entity : Entity}
    {table : CompiledTable}
    {backend : Backend}
    {row : PatchRow}
    {patchName : String}
    {identifier : Value}
    {arguments : List Value}
    {before : Connection}
    (isSingle : plan.targets = [(column, name)])
    (isDefined : entity.table.IsDefined)
    (isCompiled : entity.table.compiled? = some table)
    (isTarget : table.plan.schema = target)
    (isIdentifier : entity.identifier = .ok identifier)
    (isBound :
      Database.bound plan.statement row.fields [("id", identifier)] = .ok arguments)
    (takes :
      ((entity.patch row patchName ⟨plan, backend⟩).on before).1.toOption.any
        (fun applied =>
          applied.result.isOk &&
            (applied.object.fields.lookup name).bind Value.asText? == some text) = true)
    (differs : arguments.head?.bind Value.asText? ≠ some text) :
    ¬plan.WritesAsUpdate target := by
  intro writes
  rcases patched : (entity.patch row patchName ⟨plan, backend⟩).on before with ⟨outcome, after⟩
  rw [patched] at takes
  cases outcome with
  | error failure => cases takes
  | ok applied =>
      rcases Bool.and_eq_true_iff.1 takes with ⟨succeeds, isText⟩
      rcases Outcome.exists_eq_ok_of_isOk succeeds with ⟨⟨⟩, isOk⟩
      rw [writes.head?_of_bound isSingle isDefined isCompiled isTarget isIdentifier isBound patched
        isOk] at differs
      exact differs (beq_iff_eq.1 isText)

end PatchPlan

/-! ## Patches of notes -/

/-- Notes that have their title in another column than patches have it by default. -/
def noteDefinition : ClassDefinition :=
  notesOf "sqlite" []
    [numberOfNote,
      { field := { name := "title", type := .text }
        attributes := [⟨"column", .text "headline"⟩] },
      bodyOfNote,
      { field := { name := "$id", type := .text }
        attributes := [⟨"column", .text "mark"⟩] }]

def noteClass : TableClass := .ofAccepted noteDefinition (by decide +kernel)

theorem isDefined_noteClass : noteClass.IsDefined := TableClass.isDefined_ofAccepted _ _

def noteTable : CompiledTable :=
  noteClass.compiled?.get (by decide +kernel)

/-- A patch of notes, declared with some fields. -/
def notePatch (fields : List FieldDeclaration) : Declaration where
  name := "NotePatch"
  attributes :=
    [⟨"table_name", .text "notes"⟩, ⟨"table", .text "app.Note"⟩, ⟨"id", .text "id"⟩]
  fields := fields

/-- What a patch of notes with some fields is compiled to. -/
def compiledNotePatch (fields : List FieldDeclaration) : Except BuildError PatchPlan :=
  (compilePatch .standard .configured (some noteTable.plan.schema) (notePatch fields)).outcome

/-- A field that a patch of notes writes to a column of its own. -/
def patchedField (name column : String) : FieldDeclaration where
  name := name
  attributes := [⟨"column", .text column⟩]

def oldNote : Entity where
  table := noteClass
  fields :=
    [("id", .int 1), ("title", .text "old"), ("body", .text "old"), ("$id", .text "old")]

def newTitle : PatchRow where
  patch := 0
  model := { name := "NotePatch", fields := [{ name := "title", type := .text }] }
  fields := [("title", .text "new")]

/-- What is to be seen of a compiled patch: its backend, its text, and what it sets and binds. -/
def shownPatch (compiled : Except BuildError PatchPlan) :
    Option (Option String × String × List (String × String) × List String) :=
  compiled.toOption.map fun plan =>
    (plan.schema.backend, plan.statement.sql, plan.targets, plan.statement.params)

theorem exists_of_shownPatch
    {compiled : Except BuildError PatchPlan}
    {backend : Option String}
    {sql : String}
    {targets : List (String × String)}
    {params : List String}
    (shown : shownPatch compiled = some (backend, sql, targets, params)) :
    ∃ plan : PatchPlan,
      compiled = .ok plan ∧ plan.schema.backend = backend ∧ plan.statement.sql = sql ∧
        plan.targets = targets ∧ plan.statement.params = params := by
  cases compiled with
  | error error => cases shown
  | ok plan =>
      cases shown
      exact ⟨plan, rfl, rfl, rfl, rfl, rfl⟩

/-- A patch that has the title where notes have it. -/
def headlinePatch : Declaration := notePatch [patchedField "title" "headline"]

theorem compiled?_noteClass : noteClass.compiled? = some noteTable :=
  (Option.some_get _).symm

theorem backend_noteTable : noteTable.plan.schema.backend = some "sqlite" := by
  decide +kernel

/-- A patch that has the title where notes have it stores it there. -/
theorem writes_of_compilePatch_headline :
    ∃ (plan : PatchPlan) (applied : Assigned Entity) (after : Connection),
      (compiledNotePatch headlinePatch.fields = .ok plan ∧
          Workspace.standard.resolve (.ofKey? noteTable.plan.schema.backend) = .ok .sqlite ∧
          plan.schema.backend = noteTable.plan.schema.backend ∧
          oldNote.table.IsDefined ∧ oldNote.table.compiled? = some noteTable ∧
          "$id" ∉ headlinePatch.fieldNames ∧
          oldNote.table.Keeps headlinePatch.fieldNames newTitle.fields ∧
          (oldNote.patch newTitle "NotePatch" ⟨plan, .sqlite⟩).on {} = (.ok applied, after) ∧
          applied.result = .ok ()) ∧
        headlinePatch.MapsLike noteTable.plan.schema ∧
        plan.Writes .sqlite noteTable.plan.schema headlinePatch ∧
        plan.Stores noteTable.plan.schema headlinePatch newTitle oldNote applied.object {}
          after := by
  have shown :
      shownPatch (compiledNotePatch headlinePatch.fields) =
        some
          (some "sqlite", "UPDATE notes SET headline = ? WHERE id = ?", [("headline", "title")],
            ["title", "$id"]) := by
    decide +kernel
  have patches :
      (compiledNotePatch headlinePatch.fields).toOption.all (fun plan =>
        ((oldNote.patch newTitle "NotePatch" ⟨plan, .sqlite⟩).on {}).1.toOption.any
          fun applied => applied.result.isOk) = true := by
    decide +kernel
  have mapsLike : headlinePatch.MapsLike noteTable.plan.schema := by
    unfold Declaration.MapsLike
    decide +kernel
  have areFields : "$id" ∉ headlinePatch.fieldNames := by
    decide
  have keeps : oldNote.table.Keeps headlinePatch.fieldNames newTitle.fields :=
    TableClass.keeps_of_not_readsAssigned rfl _ _
  have resolves :
      Workspace.standard.resolve (.ofKey? noteTable.plan.schema.backend) = .ok .sqlite := by
    rw [backend_noteTable]
    rfl
  rcases exists_of_shownPatch shown with ⟨plan, isPatch, isBackend, -, -, -⟩
  have sharesBackend : plan.schema.backend = noteTable.plan.schema.backend := by
    rw [isBackend, backend_noteTable]
  rw [isPatch] at patches
  have succeeds :
      (((oldNote.patch newTitle "NotePatch" ⟨plan, .sqlite⟩).on {}).1.toOption.any
        fun applied => applied.result.isOk) = true := patches
  rcases patched : (oldNote.patch newTitle "NotePatch" ⟨plan, .sqlite⟩).on {} with
    ⟨outcome, after⟩
  rw [patched] at succeeds
  cases outcome with
  | error failure => cases succeeds
  | ok applied =>
      rcases Outcome.exists_eq_ok_of_isOk succeeds with ⟨⟨⟩, isOk⟩
      have both := PatchPlan.writes_of_compilePatch isPatch resolves sharesBackend
      have stores :=
        both.2 oldNote noteTable ⟨plan, .sqlite⟩ newTitle "NotePatch" {} after applied
          isDefined_noteClass compiled?_noteClass rfl rfl areFields keeps patched isOk
      exact
        ⟨plan, applied, after,
          ⟨isPatch, resolves, sharesBackend, isDefined_noteClass, compiled?_noteClass, areFields,
            keeps, patched, isOk⟩,
          mapsLike, both.1, stores⟩

/-- Notes whose fields read what is assigned to them, and texts in small letters. -/
def readingDefinition : ClassDefinition :=
  { noteDefinition with
    config := [("validate_assignment", .bool true), ("str_to_lower", .bool true)] }

def readingClass : TableClass := .ofAccepted readingDefinition (by decide +kernel)

def readingTable : CompiledTable :=
  readingClass.compiled?.get (by decide +kernel)

theorem isDefined_readingClass : readingClass.IsDefined := TableClass.isDefined_ofAccepted _ _

theorem compiled?_readingClass : readingClass.compiled? = some readingTable :=
  (Option.some_get _).symm

def readNote : Entity := { oldNote with table := readingClass }

/-- A patch of a title in capital letters. -/
def loudTitle : PatchRow := { newTitle with fields := [("title", .text "NEW")] }

/-- A patch of the field that is named like the argument of the identifier. -/
def newMark : PatchRow where
  patch := 0
  model := { name := "NotePatch", fields := [{ name := "$id", type := .text }] }
  fields := [("$id", .text "new")]

/--
A patch of one field that is compiled for some table, and binds another text than an entity of this
has then.
-/
theorem exists_not_writesAsUpdate
    {outcome : Except BuildError PatchPlan}
    {target : TableSchema}
    {column name sql text : String}
    {params : List String}
    {entity : Entity}
    {table : CompiledTable}
    {row : PatchRow}
    {identifier : Value}
    {arguments : List Value}
    (shown : shownPatch outcome = some (target.backend, sql, [(column, name)], params))
    (sets :
      [(column, name)] = target.restrictedTargets [name] ∧ target.identifier.column ≠ column)
    (isDefined : entity.table.IsDefined)
    (isCompiled : entity.table.compiled? = some table)
    (isTarget : table.plan.schema = target)
    (isIdentifier : entity.identifier = .ok identifier)
    (isBound :
      params.mapM
          (Statement.bindParameter (fun name => row.fields.lookup name) [("id", identifier)]) =
        .ok arguments)
    (takes :
      outcome.toOption.all (fun plan =>
        ((entity.patch row "NotePatch" ⟨plan, .sqlite⟩).on {}).1.toOption.any fun applied =>
          applied.result.isOk &&
            (applied.object.fields.lookup name).bind Value.asText? == some text) = true)
    (differs : arguments.head?.bind Value.asText? ≠ some text) :
    ∃ plan : PatchPlan,
      outcome = .ok plan ∧ plan.schema.backend = target.backend ∧
        plan.SetsAsUpdate target ∧ ¬plan.WritesAsUpdate target := by
  rcases exists_of_shownPatch shown with ⟨plan, rfl, isBackend, -, targets, areParams⟩
  refine ⟨plan, rfl, isBackend, ?_, ?_⟩
  · rw [PatchPlan.SetsAsUpdate, targets]
    exact ⟨sets.1, fun member => sets.2 (List.mem_singleton.1 member)⟩
  · have bound :
        Database.bound plan.statement row.fields [("id", identifier)] = .ok arguments := by
      rw [Database.bound, Statement.bind, areParams, isBound]
      rfl
    exact
      PatchPlan.not_writesAsUpdate_of_bound targets isDefined isCompiled isTarget isIdentifier
        bound takes differs

/--
A patch may have a title where notes have none, where they have the identifier, or where it has the
body too.  A field that is named like the argument of the identifier is bound to that, and a class
may store another value than the one that is assigned.
-/
theorem not_writes_as_update :
    (∃ plan : PatchPlan,
        compiledNotePatch [{ name := "title" }] = .ok plan ∧
          plan.schema.backend = noteTable.plan.schema.backend ∧
          plan.statement.sql = "UPDATE notes SET title = ? WHERE id = ?" ∧
          ¬plan.WritesAsUpdate noteTable.plan.schema) ∧
      (∃ plan : PatchPlan,
        compiledNotePatch [patchedField "title" "id"] = .ok plan ∧
          plan.schema.backend = noteTable.plan.schema.backend ∧
          plan.statement.sql = "UPDATE notes SET id = ? WHERE id = ?" ∧
          ¬plan.WritesAsUpdate noteTable.plan.schema) ∧
      (∃ plan : PatchPlan,
        compiledNotePatch [patchedField "title" "headline", patchedField "body" "headline"] =
            .ok plan ∧
          plan.schema.backend = noteTable.plan.schema.backend ∧
          plan.statement.sql = "UPDATE notes SET headline = ?, headline = ? WHERE id = ?" ∧
          ¬plan.WritesAsUpdate noteTable.plan.schema) ∧
      (∃ plan : PatchPlan,
        compiledNotePatch [patchedField "$id" "mark"] = .ok plan ∧
          plan.schema.backend = noteTable.plan.schema.backend ∧
          plan.SetsAsUpdate noteTable.plan.schema ∧
          ¬plan.WritesAsUpdate noteTable.plan.schema) ∧
      ∃ plan : PatchPlan,
        (compilePatch .standard .configured (some readingTable.plan.schema)
            headlinePatch).outcome = .ok plan ∧
          plan.schema.backend = readingTable.plan.schema.backend ∧
          plan.SetsAsUpdate readingTable.plan.schema ∧
          ¬plan.WritesAsUpdate readingTable.plan.schema := by
  have elsewhere :
      shownPatch (compiledNotePatch [{ name := "title" }]) =
        some
          (some "sqlite", "UPDATE notes SET title = ? WHERE id = ?", [("title", "title")],
            ["title", "$id"]) := by
    decide +kernel
  have atIdentifier :
      shownPatch (compiledNotePatch [patchedField "title" "id"]) =
        some
          (some "sqlite", "UPDATE notes SET id = ? WHERE id = ?", [("id", "title")],
            ["title", "$id"]) := by
    decide +kernel
  have twice :
      shownPatch
          (compiledNotePatch [patchedField "title" "headline", patchedField "body" "headline"]) =
        some
          (some "sqlite", "UPDATE notes SET headline = ?, headline = ? WHERE id = ?",
            [("headline", "title"), ("headline", "body")], ["title", "body", "$id"]) := by
    decide +kernel
  have bindsIdentifier :
      shownPatch (compiledNotePatch [patchedField "$id" "mark"]) =
        some
          (noteTable.plan.schema.backend, "UPDATE notes SET mark = ? WHERE id = ?",
            [("mark", "$id")], ["$id", "$id"]) := by
    decide +kernel
  have takesMark :
      (compiledNotePatch [patchedField "$id" "mark"]).toOption.all (fun plan =>
        ((oldNote.patch newMark "NotePatch" ⟨plan, .sqlite⟩).on {}).1.toOption.any fun applied =>
          applied.result.isOk &&
            (applied.object.fields.lookup "$id").bind Value.asText? == some "new") = true := by
    decide +kernel
  have bindsCapitals :
      shownPatch
          (compilePatch .standard .configured (some readingTable.plan.schema)
            headlinePatch).outcome =
        some
          (readingTable.plan.schema.backend, "UPDATE notes SET headline = ? WHERE id = ?",
            [("headline", "title")], ["title", "$id"]) := by
    decide +kernel
  have takesSmallLetters :
      (compilePatch .standard .configured (some readingTable.plan.schema)
          headlinePatch).outcome.toOption.all (fun plan =>
        ((readNote.patch loudTitle "NotePatch" ⟨plan, .sqlite⟩).on {}).1.toOption.any fun applied =>
          applied.result.isOk &&
            (applied.object.fields.lookup "title").bind Value.asText? == some "new") = true := by
    decide +kernel
  rw [backend_noteTable]
  refine ⟨?_, ?_, ?_, ?_, ?_⟩
  · rcases exists_of_shownPatch elsewhere with ⟨plan, isPlan, isBackend, sql, targets, -⟩
    refine ⟨plan, isPlan, isBackend, sql, fun writes => ?_⟩
    have restricts := writes.sets.1
    rw [targets] at restricts
    exact absurd restricts (by decide +kernel)
  · rcases exists_of_shownPatch atIdentifier with ⟨plan, isPlan, isBackend, sql, targets, -⟩
    refine ⟨plan, isPlan, isBackend, sql, fun writes => ?_⟩
    have avoids := writes.sets.2
    rw [targets] at avoids
    exact absurd avoids (by decide +kernel)
  · rcases exists_of_shownPatch twice with ⟨plan, isPlan, isBackend, sql, targets, -⟩
    refine ⟨plan, isPlan, isBackend, sql, fun writes => ?_⟩
    have restricts := writes.sets.1
    rw [targets] at restricts
    exact absurd restricts (by decide +kernel)
  · rw [← backend_noteTable]
    refine
      exists_not_writesAsUpdate bindsIdentifier ?_ isDefined_noteClass compiled?_noteClass rfl rfl
        rfl takesMark ?_
    · decide +kernel
    · decide
  · refine
      exists_not_writesAsUpdate bindsCapitals ?_ isDefined_readingClass compiled?_readingClass rfl
        rfl rfl takesSmallLetters ?_
    · decide +kernel
    · decide

end SqlMapping
