import SqlMapping.Proofs.Compilation.SingleBackend
import SqlMapping.Proofs.Statement.Alignment

/-!
# Telling backends apart

What a backend contributes to the statements of a table can be read off the statements of a few
tables.  One family of tables shows how identifiers, labels and set tests are written, another one
shows the placeholders one after the other; one table into which rows are inserted shows how an
insert works.

The main statement says that backends which generate the same for these tables render alike.
-/

namespace SqlMapping

namespace TableSchema

variable {left right : Backend} {schema : TableSchema}

/-- The statements that two backends share if they compile a table to the same plan. -/
structure SharesReading (left right : Backend) (schema : TableSchema) : Prop where
  columns : columnList left schema.fields = columnList right schema.fields
  all :
    Statement.ofTemplate left schema.allTemplate [] =
      Statement.ofTemplate right schema.allTemplate []
  get :
    Statement.ofTemplate left schema.getTemplate ["$id"] =
      Statement.ofTemplate right schema.getTemplate ["$id"]
  update : schema.update? left = schema.update? right
  getters : schema.getters left = schema.getters right

/-- A plan has the statements of an insert if there are any. -/
theorem outcome_compile (backend : Backend) (schema : TableSchema) :
    ∃ planOf : Option InsertPlan → TablePlan,
      (schema.compile backend).outcome = (schema.insertPlan? backend).map planOf ∧
        ∀ insert,
          (planOf insert).columns = columnList backend schema.fields ∧
            (planOf insert).all = .ofTemplate backend schema.allTemplate [] ∧
            (planOf insert).get = .ofTemplate backend schema.getTemplate ["$id"] ∧
            (planOf insert).update = schema.update? backend ∧
            (planOf insert).getters = schema.getters backend ∧
            (planOf insert).insert = insert := by
  refine
    ⟨fun insert =>
      { schema := schema
        columns := columnList backend schema.fields
        get := .ofTemplate backend schema.getTemplate ["$id"]
        all := .ofTemplate backend schema.allTemplate []
        paginated := .ofTemplate backend schema.paginatedTemplate ["$limit", "$offset"]
        update := schema.update? backend
        delete :=
          if schema.deletable then some (.ofTemplate backend schema.deleteTemplate ["$id"])
          else none
        insert := insert
        setters := schema.setters backend
        getters := schema.getters backend },
      ?_, fun insert => ⟨rfl, rfl, rfl, rfl, rfl, rfl⟩⟩
  rw [compile]
  cases schema.insertPlan? backend with
  | error error => rfl
  | ok insert => rfl

/-- A table without inserts is compiled to the same plan only with the same statements. -/
theorem sharesReading_of_compile_eq
    (notInsertable : schema.insertable = none)
    (same : (schema.compile left).outcome = (schema.compile right).outcome) :
    SharesReading left right schema := by
  rcases schema.outcome_compile left with ⟨leftPlan, leftOutcome, leftParts⟩
  rcases schema.outcome_compile right with ⟨rightPlan, rightOutcome, rightParts⟩
  have noInsert (backend : Backend) : schema.insertPlan? backend = .ok none := by
    rw [insertPlan?, notInsertable]
  rw [leftOutcome, rightOutcome, noInsert, noInsert, Outcome.map_ok, Outcome.map_ok,
    Except.ok.injEq] at same
  rcases leftParts none with ⟨columns, all, get, update, getters, -⟩
  rw [same] at columns all get update getters
  rcases rightParts none with ⟨columnsAlso, allAlso, getAlso, updateAlso, gettersAlso, -⟩
  exact
    ⟨columns.symm.trans columnsAlso, all.symm.trans allAlso, get.symm.trans getAlso,
      update.symm.trans updateAlso, getters.symm.trans gettersAlso⟩

/-- A table with inserts is compiled to the same plan only with the same statements of them. -/
theorem insertPlan_eq_of_compile_eq
    (insertable : schema.insertable.isSome = true)
    (same : (schema.compile left).outcome = (schema.compile right).outcome) :
    schema.insertPlan left = schema.insertPlan right := by
  rcases schema.outcome_compile left with ⟨leftPlan, leftOutcome, leftParts⟩
  rcases schema.outcome_compile right with ⟨rightPlan, rightOutcome, rightParts⟩
  rcases Option.isSome_iff_exists.1 insertable with ⟨spec, isSpec⟩
  have someInsert (backend : Backend) :
      schema.insertPlan? backend = (schema.insertPlan backend).map some := by
    rw [insertPlan?, isSpec]
  rw [leftOutcome, rightOutcome, someInsert, someInsert] at same
  cases leftInsert : schema.insertPlan left with
  | error leftError =>
      cases rightInsert : schema.insertPlan right with
      | error rightError =>
          rw [leftInsert, rightInsert] at same
          simpa using same
      | ok rightValue =>
          rw [leftInsert, rightInsert] at same
          cases same
  | ok leftValue =>
      cases rightInsert : schema.insertPlan right with
      | error rightError =>
          rw [leftInsert, rightInsert] at same
          cases same
      | ok rightValue =>
          rw [leftInsert, rightInsert, Outcome.map_ok, Outcome.map_ok, Outcome.map_ok,
            Outcome.map_ok, Except.ok.injEq] at same
          rcases leftParts (some leftValue) with ⟨-, -, -, -, -, leftHas⟩
          rcases rightParts (some rightValue) with ⟨-, -, -, -, -, rightHas⟩
          rw [same, rightHas, Option.some.injEq] at leftHas
          rw [leftHas]

namespace SharesReading

theorem name_eq (shares : SharesReading left right schema) : left.name = right.name :=
  congrArg Statement.dialect shares.all

/-- The select list is the same, and so is what follows it. -/
theorem characters_selectList (shares : SharesReading left right schema) :
    (selectList schema.fields).characters left 0 =
      (selectList schema.fields).characters right 0 := by
  have columns := congrArg String.toList shares.columns
  rwa [columnList, columnList, Template.toList_render, Template.toList_render] at columns

/-- The name of the table is quoted in the same way. -/
theorem quote_table (shares : SharesReading left right schema) :
    left.quote schema.table = right.quote schema.table := by
  have all := congrArg (fun statement => statement.sql.toList) shares.all
  simp only [Statement.ofTemplate, Template.toList_render, allTemplate, selectFrom,
    List.cons_append, Template.characters_word, Template.characters_append,
    shares.characters_selectList, Template.characters_identifier, Template.characters_nil,
    List.append_nil, List.append_cancel_left_eq, String.toList_inj] at all
  exact all

/-- What a statement selects is written in the same way. -/
theorem characters_selectFrom (shares : SharesReading left right schema) :
    (schema.selectFrom schema.fields).characters left 0 =
      (schema.selectFrom schema.fields).characters right 0 := by
  simp only [selectFrom, List.cons_append, Template.characters_word, Template.characters_append,
    shares.characters_selectList, Template.characters_identifier, Template.characters_nil,
    shares.quote_table]

end SharesReading

end TableSchema

/-! ## Tables for reading -/

/-- The option that names a backend, if it is named by one. -/
def backendOption (key? : Option String) : List Attribute :=
  (key?.map fun key => ⟨"backend", .text key⟩).toList

/-- A table with an identifier and a further field that can be looked up in a set. -/
def readingSpecimen (key? : Option String) (table name : String) (isCustom : Bool) :
    Declaration where
  name := "Entity"
  attributes := backendOption key? ++ [⟨"table", .text table⟩, ⟨"id", .text (name ++ "a")⟩]
  fields :=
    [{ name := name ++ "a" },
      { name := name
        attributes := [⟨"custom_type", .bool isCustom⟩, ⟨"get_by_any", .bool true⟩] }]

/-- A table with an identifier and so many fields that are written. -/
def writingSpecimen (key? : Option String) (count : Nat) : Declaration where
  name := "Entity"
  attributes := backendOption key? ++ [⟨"table", .text "t"⟩, ⟨"id", .text "a"⟩]
  fields := { name := "a" } :: List.replicate count { name := "b" }

/-- A table into which rows are inserted without any value. -/
def insertingSpecimen (key? : Option String) : Declaration where
  name := "Entity"
  attributes :=
    backendOption key?
      ++ [⟨"table", .text "t"⟩, ⟨"id", .text "a"⟩, ⟨"insertable", .bool true⟩]
  fields := [{ name := "a", attributes := [⟨"default", .bool true⟩] }]

/-- The fields of a table for reading. -/
def readingFields (backend : Backend) (name : String) (isCustom : Bool) : List Field :=
  [Field.ofOptions backend (name ++ "a") { name := name ++ "a" } [],
    Field.ofOptions backend (name ++ "a")
      { name := name
        attributes := [⟨"custom_type", .bool isCustom⟩, ⟨"get_by_any", .bool true⟩] }
      [("custom_type", .flag isCustom), ("get_by_any", .lookup {})]]

/-- The schema of a table for reading. -/
def readingSchema (backend : Backend) (table name : String) (isCustom : Bool) : TableSchema where
  entity := "Entity"
  visibility := TableSchema.visibilityOf "Entity"
  table := table
  identifier := Field.ofOptions backend (name ++ "a") { name := name ++ "a" } []
  fields := readingFields backend name isCustom
  backend := backend.name

theorem withoutBackend_attributes
    (key? : Option String)
    {others : List Attribute}
    (unnamed : ∀ option ∈ others, (option.key != "backend") = true) :
    (backendOption key? ++ others).filter (fun option => option.key != "backend") = others := by
  rw [List.filter_append, List.filter_eq_self.2 unnamed]
  cases key? with
  | none => rfl
  | some key => rfl

/-- The backend option is read like the others. -/
theorem collect_backendOption
    {key? : Option String}
    (proper : key? ≠ some "")
    {location : String}
    {others : List Attribute}
    {options : Options}
    (unnamed : ∀ option ∈ others, (option.key != "backend") = true)
    (collected : OptionGrammar.table.collect location others = .ok options) :
    ∃ all : Options,
      OptionGrammar.table.collect location (backendOption key? ++ others) = .ok all ∧
        all.text? "backend" = key? := by
  cases key? with
  | none =>
      have noOption := OptionGrammar.lookup_eq_none_of_collect collected unnamed
      refine ⟨options, collected, ?_⟩
      rw [Options.text?, noOption]
  | some key =>
      have notEmpty : key ≠ "" := fun equal => proper (congrArg some equal)
      have read :
          OptionGrammar.table.readOne location ⟨"backend", .text key⟩ = .ok (.text key) :=
        OptionGrammar.readOne_text rfl notEmpty
      rcases OptionGrammar.collect_eq_ok_iff.1 collected with ⟨distinct, readAll⟩
      refine ⟨("backend", .text key) :: options, ?_, rfl⟩
      refine OptionGrammar.collect_eq_ok_iff.2 ⟨?_, .cons ⟨rfl, read⟩ readAll⟩
      show ("backend" :: others.map Attribute.key).Nodup
      rw [List.nodup_cons]
      refine ⟨fun member => ?_, distinct⟩
      rcases List.mem_map.1 member with ⟨option, isOption, same⟩
      have other := unnamed option isOption
      rw [same] at other
      cases other

/-- The options of a table for reading. -/
theorem collect_readingSpecimen
    {table name : String}
    (named : table ≠ "") :
    OptionGrammar.table.collect "Entity"
        [⟨"table", .text table⟩, ⟨"id", .text (name ++ "a")⟩] =
      .ok [("table", .text table), ("id", .text (name ++ "a"))] := by
  have notEmpty : name ++ "a" ≠ "" := by
    intro equal
    have length := congrArg String.length equal
    rw [String.length_append] at length
    cases length
  refine OptionGrammar.collect_eq_ok_iff.2 ⟨by simp, ?_⟩
  refine .cons ⟨rfl, OptionGrammar.readOne_text rfl named⟩ ?_
  exact .cons ⟨rfl, OptionGrammar.readOne_text rfl notEmpty⟩ .nil

theorem ofDeclaration_readingSpecimen
    (workspace : Workspace)
    (backend : Backend)
    (key? : Option String)
    {table : String}
    (named : table ≠ "")
    (name : String)
    (isCustom : Bool) :
    (TableSchema.ofDeclaration workspace (.given backend)
        (readingSpecimen key? table name isCustom).withoutBackend).outcome =
      .ok (readingSchema backend table name isCustom) := by
  have attributes :
      (readingSpecimen key? table name isCustom).withoutBackend.attributes =
        [⟨"table", .text table⟩, ⟨"id", .text (name ++ "a")⟩] :=
    withoutBackend_attributes key? (by simp)
  refine TableSchema.ofDeclaration_eq_ok_iff.2
    ⟨[("table", .text table), ("id", .text (name ++ "a"))], backend, table, name ++ "a",
      readingFields backend name isCustom,
      Field.ofOptions backend (name ++ "a") { name := name ++ "a" } [], ?_, rfl, rfl, rfl,
      List.mem_cons_self, ?_, ?_, ?_, ?_, ?_⟩
  · rw [attributes]
    exact collect_readingSpecimen named
  · refine .cons ⟨[], rfl, rfl⟩ (.cons ⟨_, ?_, rfl⟩ .nil)
    rfl
  · rfl
  · simp [readingFields, Field.ofOptions]
  · rfl
  · rfl

theorem isAcceptedBy_readingSpecimen
    (workspace : Workspace)
    (backend : Backend)
    {key? : Option String}
    (proper : key? ≠ some "")
    {table : String}
    (named : table ≠ "")
    (name : String)
    (isCustom : Bool) :
    (readingSpecimen key? table name isCustom).IsAcceptedBy workspace backend key? where
  names := collect_backendOption proper (by simp) (collect_readingSpecimen named)
  checks := ⟨_, ofDeclaration_readingSpecimen workspace backend key? named name isCustom⟩

/-! ## What tables for reading tell -/

theorem selectItem_of_plain
    {field : Field}
    (plain : field.isCustomType = false)
    (same : field.column = field.name) :
    field.selectItem = [.identifier field.name] := by
  rw [Field.selectItem, plain, if_neg Bool.false_ne_true, if_neg (not_not.2 same), same]

theorem selectItem_of_custom
    {field : Field}
    (custom : field.isCustomType = true)
    (same : field.column = field.name) :
    field.selectItem =
      [.identifier field.name, .word " AS ", .label (field.name ++ typeMarker)] := by
  rw [Field.selectItem, if_pos custom, same]

/-- The select list of a table for reading, its last label only for a custom type. -/
theorem characters_readingFields
    (backend other : Backend)
    (name : String)
    (isCustom : Bool) :
    (selectList (readingFields other name isCustom)).characters backend 0 =
      (backend.quote (name ++ "a")).toList
        ++ (", ".toList
          ++ ((backend.quote name).toList
            ++ if isCustom then
                " AS ".toList ++ (backend.enclose (name ++ typeMarker)).toList
              else [])) := by
  have identifier :
      (Field.ofOptions other (name ++ "a") { name := name ++ "a" } []).selectItem =
        [.identifier (name ++ "a")] :=
    selectItem_of_plain rfl rfl
  rw [selectList, readingFields, List.map_cons, List.map_singleton, identifier]
  cases isCustom with
  | false =>
      rw [selectItem_of_plain rfl rfl]
      simp [Template.separated, Field.ofOptions]
  | true =>
      rw [selectItem_of_custom rfl rfl]
      simp [Template.separated, Field.ofOptions]

variable {left right : Backend}

/-- Identifiers are quoted alike. -/
theorem quote_eq_of_sharesReading
    (shares :
      ∀ table name isCustom, table ≠ "" →
        TableSchema.SharesReading left right (readingSchema right table name isCustom))
    (identifier : String) :
    left.quote identifier = right.quote identifier := by
  have ofTable
      {table : String}
      (named : table ≠ "") :
      left.quote table = right.quote table :=
    (shares table "" false named).quote_table
  by_cases empty : identifier = ""
  · subst identifier
    have list := (shares "t" "" false (by decide)).characters_selectList
    have first : left.quote ("" ++ "a") = right.quote ("" ++ "a") := ofTable (by decide)
    rw [readingSchema, characters_readingFields, characters_readingFields, first,
      List.append_cancel_left_eq, List.append_cancel_left_eq] at list
    simpa only [if_neg Bool.false_ne_true, List.append_nil, String.toList_inj] using list
  · exact ofTable empty

/-- Labels are written alike. -/
theorem label_eq_of_sharesReading
    (shares :
      ∀ table name isCustom, table ≠ "" →
        TableSchema.SharesReading left right (readingSchema right table name isCustom))
    (name : String) :
    left.enclose (name ++ typeMarker) = right.enclose (name ++ typeMarker) := by
  have list := (shares "t" name true (by decide)).characters_selectList
  rw [readingSchema, characters_readingFields, characters_readingFields,
    quote_eq_of_sharesReading shares (name ++ "a"), quote_eq_of_sharesReading shares name,
    List.append_cancel_left_eq, List.append_cancel_left_eq, List.append_cancel_left_eq] at list
  simpa only [if_pos, List.append_cancel_left_eq, String.toList_inj] using list

/-- The tests of sets are written alike. -/
theorem setTest_eq_of_sharesReading
    (shares :
      ∀ table name isCustom, table ≠ "" →
        TableSchema.SharesReading left right (readingSchema right table name isCustom))
    (column : String) :
    left.setTest column = right.setTest column := by
  have specimen := shares "t" column false (by decide)
  obtain ⟨field, spec, lookups, isColumn⟩ :
      ∃ field spec,
        (readingSchema right "t" column false).lookups = [(field, LookupKind.anyOf, spec)] ∧
          field.column = column :=
    ⟨_, _, rfl, rfl⟩
  have getters :=
    congrArg (List.map fun getter => getter.statement.sql.toList) specimen.getters
  rw [TableSchema.getters, TableSchema.getters, lookups] at getters
  simp only [List.map_cons, List.map_nil, List.cons.injEq, and_true, TableSchema.getter,
    Statement.ofTemplate, Template.toList_render, TableSchema.lookupTemplate,
    TableSchema.lookupCondition, Template.characters_append,
    TableSchema.placeholderCount_selectFrom, specimen.characters_selectFrom,
    Template.characters_word, Template.characters_membership,
    Template.characters_nil, List.append_nil, List.append_cancel_left_eq, String.toList_inj,
    isColumn] at getters
  exact getters

/-! ## Tables for writing -/

/-- The identifier of a table for writing. -/
def writingKey (backend : Backend) : Field :=
  Field.ofOptions backend "a" { name := "a" } []

/-- A field of a table for writing. -/
def writingField (backend : Backend) : Field :=
  Field.ofOptions backend "a" { name := "b" } []

/-- The schema of a table for writing. -/
def writingSchema (backend : Backend) (count : Nat) : TableSchema where
  entity := "Entity"
  visibility := TableSchema.visibilityOf "Entity"
  table := "t"
  identifier := writingKey backend
  fields := writingKey backend :: List.replicate count (writingField backend)
  backend := backend.name

theorem collect_writingSpecimen :
    OptionGrammar.table.collect "Entity" [⟨"table", .text "t"⟩, ⟨"id", .text "a"⟩] =
      .ok [("table", .text "t"), ("id", .text "a")] := rfl

theorem isRead_replicate (backend : Backend) (count : Nat) :
    List.Forall₂ (Field.IsRead backend "Entity" "a") (List.replicate count { name := "b" })
      (List.replicate count (writingField backend)) := by
  induction count with
  | zero => exact .nil
  | succ count inductionHypothesis => exact .cons ⟨[], rfl, rfl⟩ inductionHypothesis

theorem ofDeclaration_writingSpecimen
    (workspace : Workspace)
    (backend : Backend)
    (key? : Option String)
    (count : Nat) :
    (TableSchema.ofDeclaration workspace (.given backend)
        (writingSpecimen key? count).withoutBackend).outcome =
      .ok (writingSchema backend count) := by
  have attributes :
      (writingSpecimen key? count).withoutBackend.attributes =
        [⟨"table", .text "t"⟩, ⟨"id", .text "a"⟩] :=
    withoutBackend_attributes key? (by simp)
  have noDefault :
      (writingSchema backend count).fields.find? Field.isDefaultGenerated = none := by
    rw [List.find?_eq_none]
    intro field member
    rcases List.mem_cons.1 member with rfl | isWritten
    · exact Bool.false_ne_true
    · rw [List.eq_of_mem_replicate isWritten]
      exact Bool.false_ne_true
  have noName :
      ∀ count, TableSchema.checkGeneratedNames "Entity" []
        (List.replicate count (writingField backend)) = .ok () := by
    intro count
    induction count with
    | zero => rfl
    | succ count inductionHypothesis => exact inductionHypothesis
  refine TableSchema.ofDeclaration_eq_ok_iff.2
    ⟨[("table", .text "t"), ("id", .text "a")], backend, "t", "a",
      (writingSchema backend count).fields, writingKey backend, ?_, rfl, rfl, rfl,
      List.mem_cons_self, .cons ⟨[], rfl, rfl⟩ (isRead_replicate backend count), ?_, rfl,
      noName count, rfl⟩
  · rw [attributes]
    exact collect_writingSpecimen
  · unfold TableSchema.checkDefaults
    rw [noDefault]
    rfl

theorem isAcceptedBy_writingSpecimen
    (workspace : Workspace)
    (backend : Backend)
    {key? : Option String}
    (proper : key? ≠ some "")
    (count : Nat) :
    (writingSpecimen key? count).IsAcceptedBy workspace backend key? where
  names := collect_backendOption proper (by simp) collect_writingSpecimen
  checks := ⟨_, ofDeclaration_writingSpecimen workspace backend key? count⟩

/-- Statements that assign the same columns with the same placeholders end in the same one. -/
theorem Statement.Assigns.placeholder_eq
    {statement : Statement}
    {table : String}
    {targets : List (String × String)}
    {key : String × String}
    (quoteAlike : ∀ identifier, left.quote identifier = right.quote identifier)
    (earlier :
      ∀ position < targets.length, left.placeholder position = right.placeholder position)
    (leftAssigns : statement.Assigns left table targets key)
    (rightAssigns : statement.Assigns right table targets key) :
    left.placeholder targets.length = right.placeholder targets.length := by
  have assignedAlike :
      (targets.zipIdx.map fun target =>
          left.quote target.1.1 ++ " = " ++ left.placeholder target.2) =
        targets.zipIdx.map fun target =>
          right.quote target.1.1 ++ " = " ++ right.placeholder target.2 := by
    apply List.map_congr_left
    intro target member
    have isPosition : target.2 < targets.length := by
      simpa using (List.mem_zipIdx member).2.1
    rw [quoteAlike target.1.1, earlier target.2 isPosition]
  have same := leftAssigns.sql_eq.symm.trans rightAssigns.sql_eq
  rw [assignedAlike, quoteAlike table, quoteAlike key.1] at same
  exact String.append_right_inj _ |>.1 same

/-- The columns and parameters that a table for writing assigns. -/
def writingTargets (count : Nat) : List (String × String) :=
  List.replicate count ("b", "b")

theorem update?_writingSchema (backend other : Backend) (count : Nat) :
    (writingSchema other (count + 1)).update? backend =
      some
        (.ofTemplate backend
          ([.word "UPDATE ", .identifier "t", .word " SET "]
            ++ assignments ((writingTargets (count + 1)).map Prod.fst)
            ++ [.word " WHERE ", .identifier "a", .word " = ", .placeholder])
          ((writingTargets (count + 1)).map Prod.snd ++ ["a"])) := by
  have written :
      (writingSchema other (count + 1)).fieldsExceptIdentifier =
        List.replicate (count + 1) (writingField other) := by
    have all :
        ∀ field ∈ List.replicate (count + 1) (writingField other),
          (!field.isIdentifier) = true := by
      intro field member
      rw [List.eq_of_mem_replicate member]
      rfl
    exact List.filter_eq_self.2 all
  have notEmpty : ¬(List.replicate (count + 1) (writingField other)).isEmpty = true :=
    Bool.false_ne_true
  rw [TableSchema.update?, written, if_neg notEmpty, List.map_replicate, List.map_replicate,
    writingTargets, List.map_replicate, List.map_replicate]
  rfl

/-- Placeholders are written alike: each is the last one of a statement with all before it. -/
theorem placeholder_eq_of_sharesReading
    (quoteAlike : ∀ identifier, left.quote identifier = right.quote identifier)
    (shares : ∀ count, TableSchema.SharesReading left right (writingSchema right count))
    (used : Nat) :
    left.placeholder used = right.placeholder used := by
  induction used using Nat.strong_induction_on with
  | _ used earlier =>
      cases used with
      | zero =>
          have get := congrArg (fun statement => statement.sql.toList) (shares 0).get
          simp only [Statement.ofTemplate, Template.toList_render, TableSchema.getTemplate,
            TableSchema.whereIdentifier, Template.characters_append,
            TableSchema.placeholderCount_selectFrom, (shares 0).characters_selectFrom,
            Template.characters_word, Template.characters_identifier, quoteAlike,
            Template.characters_placeholder, Template.characters_nil, List.append_nil,
            List.append_cancel_left_eq, String.toList_inj] at get
          exact get
      | succ count =>
          have update := (shares (count + 1)).update
          rw [update?_writingSchema, update?_writingSchema, Option.some.injEq] at update
          have leftAssigns :=
            Statement.assigns_ofTemplate left "t" (writingTargets (count + 1)) ("a", "a")
          rw [update] at leftAssigns
          have rightAssigns :=
            Statement.assigns_ofTemplate right "t" (writingTargets (count + 1)) ("a", "a")
          have counted : (writingTargets (count + 1)).length = count + 1 := List.length_replicate
          rw [← counted]
          refine leftAssigns.placeholder_eq quoteAlike (fun position before => ?_) rightAssigns
          exact earlier position (counted ▸ before)

/-! ## A table for inserting -/

/-- The only field of a table for inserting. -/
def insertingField (backend : Backend) : Field :=
  Field.ofOptions backend "a" { name := "a", attributes := [⟨"default", .bool true⟩] }
    [("default", .flag true)]

/-- The schema of a table for inserting. -/
def insertingSchema (backend : Backend) : TableSchema where
  entity := "Entity"
  visibility := TableSchema.visibilityOf "Entity"
  table := "t"
  identifier := insertingField backend
  fields := [insertingField backend]
  insertable := some (TableSchema.insertSpec "Entity" {})
  backend := backend.name

theorem collect_insertingSpecimen :
    OptionGrammar.table.collect "Entity"
        [⟨"table", .text "t"⟩, ⟨"id", .text "a"⟩, ⟨"insertable", .bool true⟩] =
      .ok [("table", .text "t"), ("id", .text "a"), ("insertable", .insertable {})] := rfl

theorem ofDeclaration_insertingSpecimen
    (workspace : Workspace)
    (backend : Backend)
    (key? : Option String) :
    (TableSchema.ofDeclaration workspace (.given backend)
        (insertingSpecimen key?).withoutBackend).outcome =
      .ok (insertingSchema backend) := by
  have attributes :
      (insertingSpecimen key?).withoutBackend.attributes =
        [⟨"table", .text "t"⟩, ⟨"id", .text "a"⟩, ⟨"insertable", .bool true⟩] :=
    withoutBackend_attributes key? (by simp)
  refine TableSchema.ofDeclaration_eq_ok_iff.2
    ⟨[("table", .text "t"), ("id", .text "a"), ("insertable", .insertable {})], backend, "t", "a",
      [insertingField backend], insertingField backend, ?_, rfl, rfl, rfl,
      List.mem_cons_self, ?_, ?_, ?_, ?_, ?_⟩
  · rw [attributes]
    exact collect_insertingSpecimen
  · exact .cons ⟨[("default", .flag true)], rfl, rfl⟩ .nil
  · rfl
  · simp [insertingField, Field.ofOptions]
  · rfl
  · rfl

theorem isAcceptedBy_insertingSpecimen
    (workspace : Workspace)
    (backend : Backend)
    {key? : Option String}
    (proper : key? ≠ some "") :
    (insertingSpecimen key?).IsAcceptedBy workspace backend key? where
  names := collect_backendOption proper (by simp) collect_insertingSpecimen
  checks := ⟨_, ofDeclaration_insertingSpecimen workspace backend key?⟩

/-- What a plan says about how its backend inserts, if the identifier is generated. -/
theorem insert_of_insertPlan
    {schema : TableSchema}
    (backend : Backend)
    (generated : schema.identifier.isDefaultGenerated = true) :
    match schema.insertPlan backend with
    | .ok plan =>
      plan.returning = backend.supportsReturning ∧
        (backend.supportsReturning = false →
          plan.lastInsertId.map Statement.sql = backend.lastInsertId)
    | .error _ => backend.supportsReturning = false ∧ backend.lastInsertId = none := by
  rw [TableSchema.insertPlan]
  dsimp only
  by_cases returning : backend.supportsReturning = true
  · rw [if_pos returning]
    exact ⟨returning.symm, fun other => absurd returning (by rw [other]; exact Bool.false_ne_true)⟩
  · have noReturning : backend.supportsReturning = false := Bool.of_not_eq_true returning
    rw [if_neg returning, if_pos generated]
    cases query : backend.lastInsertId with
    | none => exact ⟨noReturning, rfl⟩
    | some sql => exact ⟨noReturning.symm, fun _ => rfl⟩

/-- An insert returns columns or not, and asks for the identifier alike. -/
theorem insert_eq_of_insertPlan_eq
    {schema : TableSchema}
    (generated : schema.identifier.isDefaultGenerated = true)
    (same : schema.insertPlan left = schema.insertPlan right) :
    left.supportsReturning = right.supportsReturning ∧
      (left.supportsReturning = false → left.lastInsertId = right.lastInsertId) := by
  have ofLeft := insert_of_insertPlan left generated
  have ofRight := insert_of_insertPlan right generated
  rw [same] at ofLeft
  cases planned : schema.insertPlan right with
  | error error =>
      rw [planned] at ofLeft ofRight
      exact
        ⟨ofLeft.1.trans ofRight.1.symm, fun _ => ofLeft.2.trans ofRight.2.symm⟩
  | ok plan =>
      rw [planned] at ofLeft ofRight
      have returning : left.supportsReturning = right.supportsReturning :=
        ofLeft.1.symm.trans ofRight.1
      refine ⟨returning, fun noReturning => ?_⟩
      exact (ofLeft.2 noReturning).symm.trans (ofRight.2 (returning ▸ noReturning))

/-! ## All kinds of tables -/

/-- Backends that compile the specimens to the same plans render alike. -/
theorem rendersAlike_of_compile_eq
    (reading :
      ∀ table name isCustom, table ≠ "" →
        ((readingSchema right table name isCustom).compile left).outcome =
          ((readingSchema right table name isCustom).compile right).outcome)
    (writing :
      ∀ count,
        ((writingSchema right count).compile left).outcome =
          ((writingSchema right count).compile right).outcome)
    (inserting :
      ((insertingSchema right).compile left).outcome =
        ((insertingSchema right).compile right).outcome) :
    left.RendersAlike right := by
  have reads :
      ∀ table name isCustom, table ≠ "" →
        TableSchema.SharesReading left right (readingSchema right table name isCustom) :=
    fun table name isCustom named =>
      TableSchema.sharesReading_of_compile_eq rfl (reading table name isCustom named)
  have writes : ∀ count, TableSchema.SharesReading left right (writingSchema right count) :=
    fun count => TableSchema.sharesReading_of_compile_eq rfl (writing count)
  have quoteAlike := quote_eq_of_sharesReading reads
  have insert :=
    insert_eq_of_insertPlan_eq rfl (TableSchema.insertPlan_eq_of_compile_eq rfl inserting)
  exact
    ⟨(writes 0).name_eq, quoteAlike, label_eq_of_sharesReading reads,
      placeholder_eq_of_sharesReading quoteAlike writes, setTest_eq_of_sharesReading reads,
      insert.1, insert.2⟩

end SqlMapping
