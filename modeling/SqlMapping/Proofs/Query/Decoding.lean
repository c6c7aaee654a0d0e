import SqlMapping.Database.Execution
import SqlMapping.Proofs.Entries
import SqlMapping.Proofs.Query.Dispatch

/-!
# Decoding the rows of checked queries

The rows of a compiled query are read into the fields of its model.  The check of the row shape
accepts a field under its own name and under its other one, while reading looks for the other
one alone, if there is one.

A row that is read as a tuple is one of named values in between, where names occur once.

The main statements say when every required field is found in every row of an accepted query,
namely when the query selects every required field that has another name under that name, and when
a tuple is the row that it was read from, namely when the names of the columns differ.
-/

namespace SqlMapping

/-- The key under which a field is found: its other name, if it has one. -/
def ModelField.key (field : ModelField) : String :=
  field.aliasName.getD field.name

namespace Model

/-- A model whose fields have names of their own and are found under their keys alone. -/
structure ReadsByKey (model : Model) : Prop where
  distinct : model.fieldNames.Nodup
  aliased : ∀ field ∈ model.fields, field.selectName = field.aliasName
  acceptsAliases : model.config.acceptsAliases = true
  acceptsNames : model.config.acceptsNames = false

/-- Every required field finds a value in some entries. -/
def FindsRequired (model : Model) (entries : List (String × Value)) : Prop :=
  ∀ field ∈ model.fields, field.isRequired = true → (model.find? entries field).isSome = true

variable {model : Model} {entries : List (String × Value)} {field : ModelField}

theorem ReadsByKey.keysOf_eq
    (reads : model.ReadsByKey)
    (field : ModelField) :
    model.keysOf field = [field.key] := by
  rw [keysOf, ModelField.key, reads.acceptsAliases, reads.acceptsNames]
  cases field.aliasName with
  | none => rfl
  | some key => rfl

theorem ReadsByKey.isSome_find?_iff
    (reads : model.ReadsByKey)
    (field : ModelField) :
    (model.find? entries field).isSome = true ↔ (entries.lookup field.key).isSome = true := by
  rw [find?, reads.keysOf_eq, List.findSome?_singleton, Option.isSome_map]

/-- A row has a value under each of its names, and under no other. -/
theorem isSome_lookup_namedRow_iff
    {names : List String}
    {row : List Value}
    {key : String}
    (sameLength : row.length = names.length) :
    ((Database.namedRow names row).lookup key).isSome = true ↔ key ∈ names := by
  have keys : (names.zip row).map Prod.fst = names :=
    List.map_fst_zip (Nat.le_of_eq sameLength.symm)
  rw [Database.namedRow, Entries.isSome_lookup_putAll_iff, keys]
  simp

/-- Every required field is found in a row exactly if its key is one of the names of the row. -/
theorem ReadsByKey.findsRequired_namedRow_iff
    (reads : model.ReadsByKey)
    {names : List String}
    {row : List Value}
    (sameLength : row.length = names.length) :
    model.FindsRequired (Database.namedRow names row) ↔
      ∀ field ∈ model.fields, field.isRequired = true → field.key ∈ names := by
  rw [FindsRequired]
  apply forall₃_congr
  intro field _ _
  rw [reads.isSome_find?_iff, isSome_lookup_namedRow_iff sameLength]

end Model

/-! ## Rows as tuples -/

namespace Database

variable {names : List String} {row : List Value}

/-- The values of a row are kept under names that differ. -/
theorem map_snd_namedRow
    (sameLength : row.length = names.length)
    (distinct : names.Nodup) :
    (namedRow names row).map Prod.snd = row := by
  have keys : (names.zip row).map Prod.fst = names :=
    List.map_fst_zip (Nat.le_of_eq sameLength.symm)
  rw [← keys] at distinct
  rw [namedRow, Entries.putAll_of_fresh distinct fun _ _ => List.not_mem_nil, List.nil_append]
  exact List.map_snd_zip (Nat.le_of_eq sameLength)

/-- A row has one value under each of its names. -/
theorem length_namedRow (sameLength : row.length = names.length) :
    (namedRow names row).length = names.dedup.length := by
  have keys : (names.zip row).map Prod.fst = names :=
    List.map_fst_zip (Nat.le_of_eq sameLength.symm)
  have lengths := (Entries.perm_map_fst_putAll (names.zip row)).length_eq
  rwa [List.length_map, keys] at lengths

/--
A row of as many values as columns is always read as a tuple.  The tuple has one value for each
name among the columns, and is the row itself if and only if these names differ.
-/
theorem decodeRow_tuple_iff
    {reply : Reply}
    (sameLength : row.length = reply.columns.length)
    (sql : String) :
    ∃ values,
      decodeRow Output.tuple.decode sql (columnNames reply) row = .ok (.tuple values) ∧
        values.length = (columnNames reply).dedup.length ∧
          (values = row ↔ (columnNames reply).Nodup) := by
  have alignedNames : row.length = (columnNames reply).length := by
    rw [columnNames, List.length_map]
    exact sameLength
  have lengths := length_namedRow alignedNames
  refine
    ⟨(namedRow (columnNames reply) row).map Prod.snd, rfl, by rwa [List.length_map], ?_, ?_⟩
  · intro same
    have nothingLost := congrArg List.length same
    rw [List.length_map, lengths, alignedNames] at nothingLost
    rw [← List.dedup_eq_self]
    exact (List.dedup_sublist (columnNames reply)).eq_of_length nothingLost
  · exact map_snd_namedRow alignedNames

/-- A marked column and one without a mark are kept side by side. -/
theorem decodeRow_tuple_marked :
    [Value.int 1, .text "a"].length = ["id: _", "name"].length ∧
      decodeRow Output.tuple.decode "SELECT" (columnNames { columns := ["id: _", "name"] })
          [.int 1, .text "a"] =
        .ok (.tuple [.int 1, .text "a"]) := by
  have sameLength : [Value.int 1, .text "a"].length = ["id: _", "name"].length := rfl
  have distinct : (columnNames { columns := ["id: _", "name"] }).Nodup := by decide +kernel
  rcases
    @decodeRow_tuple_iff [.int 1, .text "a"] { columns := ["id: _", "name"] } sameLength "SELECT"
      with ⟨values, decoded, -, isRow⟩
  rw [isRow.2 distinct] at decoded
  exact ⟨sameLength, decoded⟩

/-- Of two columns with one name, the value of the second one takes the place of the first. -/
theorem decodeRow_tuple_twice :
    [Value.int 1, .int 2].length = ["id", "id"].length ∧
      decodeRow Output.tuple.decode "SELECT a.id, b.id FROM a, b"
          (columnNames { columns := ["id", "id"] }) [.int 1, .int 2] =
        .ok (.tuple [.int 2]) ∧
      decodeRow Output.tuple.decode "SELECT a.id, b.id FROM a, b"
          (columnNames { columns := ["id", "id"] }) [.int 1, .int 2] ≠
        .ok (.tuple [.int 1, .int 2]) := by
  have decoded :
      decodeRow Output.tuple.decode "SELECT a.id, b.id FROM a, b"
          (columnNames { columns := ["id", "id"] }) [.int 1, .int 2] =
        .ok (.tuple [.int 2]) := by
    rfl
  refine ⟨rfl, decoded, ?_⟩
  rw [decoded]
  simp

end Database

namespace Query

/-! ## Accepted shapes -/

variable {model : Model} {names : List String} {name : String}

/-- A selected name stands for a field under its own name or under its other one. -/
theorem exists_field_of_fieldOf?
    {fieldName : String}
    (found : fieldOf? model name = some fieldName) :
    ∃ field ∈ model.fields,
      field.name = fieldName ∧ (name = field.name ∨ field.selectName = some name) := by
  rw [fieldOf?] at found
  have member := List.mem_reverse.1 (Entries.mem_of_lookup found)
  rcases List.mem_flatMap.1 member with ⟨field, isField, named⟩
  refine ⟨field, isField, ?_⟩
  rcases List.mem_cons.1 named with isOwn | isOther
  · cases isOwn
    exact ⟨rfl, Or.inl rfl⟩
  · rcases Option.map_eq_some_iff.1 (Option.mem_toList.1 isOther) with ⟨other, kept, equal⟩
    cases equal
    exact ⟨rfl, Or.inr (Option.eq_some_of_filter_eq_some kept)⟩

/-- An accepted shape selects every required field under one of its names. -/
theorem exists_name_of_checkModel
    (accepted : checkModel model names = .ok ())
    {field : ModelField}
    (isField : field ∈ model.fields)
    (required : field.isRequired = true) :
    ∃ name ∈ names, fieldOf? model name = some field.name := by
  rw [checkModel] at accepted
  dsimp only at accepted
  split_ifs at accepted with unknown missing
  have noneMissing :
      ∀ field ∈ model.fields,
        field.isRequired = true → ∃ name ∈ names, fieldOf? model name = some field.name := by
    simpa using missing
  exact noneMissing field isField required

/-- In an accepted shape, a required field without another name is found under its own. -/
theorem name_mem_of_checkModel
    (reads : model.ReadsByKey)
    (accepted : checkModel model names = .ok ())
    {field : ModelField}
    (isField : field ∈ model.fields)
    (required : field.isRequired = true)
    (unaliased : field.aliasName = none) :
    field.name ∈ names := by
  rcases exists_name_of_checkModel accepted isField required with ⟨name, selected, found⟩
  rcases exists_field_of_fieldOf? found with ⟨other, isOther, sameName, named⟩
  have same : other = field :=
    List.inj_on_of_nodup_map reads.distinct isOther isField sameName
  rw [same, reads.aliased field isField, unaliased] at named
  rcases named with isName | impossible
  · rwa [← isName]
  · cases impossible

/-- No shape differs from the first. -/
theorem firstOther?_eq_none_iff
    {expected : Option (List String)}
    {position : Nat}
    {shapes : List (Option (List String))} :
    firstOther? expected position shapes = none ↔ ∀ shape ∈ shapes, shape = expected := by
  induction shapes generalizing position with
  | nil => simp [firstOther?]
  | cons shape rest inductionHypothesis =>
      rw [firstOther?, List.forall_mem_cons]
      split_ifs with same
      · rw [inductionHypothesis, and_iff_right same]
      · constructor
        · intro impossible
          cases impossible
        · rintro ⟨equal, -⟩
          exact absurd equal same

/-- Statements whose shapes are accepted have one shape, which suits the output. -/
theorem checkShapes_eq_ok
    {sqls : List String}
    {output : Output}
    {dialect : Option String}
    {shape : Option (List String)}
    (accepted : checkShapes sqls output dialect = .ok shape) :
    sqls ≠ [] ∧ (∀ sql ∈ sqls, outputNames dialect sql = .ok shape) ∧
      checkOutput output shape = .ok () := by
  rw [checkShapes] at accepted
  split at accepted
  case h_1 => cases accepted
  case h_2 => cases accepted
  case h_3 first rest named =>
    split at accepted
    case h_1 => cases accepted
    case h_2 same =>
      split at accepted
      case h_1 => cases accepted
      case h_2 suits =>
        cases accepted
        refine ⟨?_, ?_, suits⟩
        · rintro rfl
          cases named
        · intro sql member
          rcases Outcome.exists_mem_of_mapM_eq_ok named member with ⟨other, isOther, evaluated⟩
          rcases List.mem_cons.1 isOther with isFirst | isRest
          · rwa [← isFirst]
          · rwa [← firstOther?_eq_none_iff.1 same other isRest]

namespace ConditionalQuery

variable {query : ConditionalQuery} {items : List SkeletonItem} {output : Output}

/-- The variants of a compiled query have one shape, which suits its output. -/
theorem shape_of_compile
    {workspace : Workspace}
    {choice : BackendChoice}
    {limit : Option Int}
    (compiled : compile workspace choice limit output items = .ok query) :
    query.variants ≠ [] ∧
      (∀ variant ∈ query.variants,
        Query.outputNames (some query.backend.name) variant.sql = .ok query.outputNames) ∧
        checkOutput output query.outputNames = .ok () := by
  rw [compile] at compiled
  rcases Outcome.bind_eq_ok_iff.1 compiled with ⟨tokens, -, compiled⟩
  rcases Outcome.bind_eq_ok_iff.1 compiled with ⟨backend, -, compiled⟩
  rcases Outcome.bind_eq_ok_iff.1 compiled with ⟨parts, -, compiled⟩
  rw [ofParts] at compiled
  rcases Outcome.bind_eq_ok_iff.1 compiled with ⟨branches, -, checked⟩
  dsimp only at checked
  split at checked
  case h_1 => cases checked
  case h_2 => cases checked
  case h_3 names accepted =>
    cases checked
    rcases checkShapes_eq_ok accepted with ⟨notEmpty, alike, suits⟩
    refine ⟨?_, ?_, suits⟩
    · intro none
      exact notEmpty (List.map_eq_nil_iff.2 none)
    · intro variant member
      exact alike variant.sql (List.mem_map_of_mem member)

/--
Every row of every variant has what each required field of the model is read from exactly if
the query selects every required field that has another name under that name.
-/
theorem findsRequired_iff
    {workspace : Workspace}
    {choice : BackendChoice}
    {limit : Option Int}
    {model : Model}
    (compiled : compile workspace choice limit (.record model) items = .ok query)
    (reads : model.ReadsByKey)
    (noStar : ∀ names ∈ query.outputNames, String.ofList star ∉ names) :
    (∀ variant ∈ query.variants, ∀ names : List String,
      Query.outputNames (some query.backend.name) variant.sql = .ok (some names) →
        ∀ row : List Value, row.length = names.length →
          model.FindsRequired (Database.namedRow names row)) ↔
      ∀ names ∈ query.outputNames, ∀ field ∈ model.fields, field.isRequired = true →
        ∀ other ∈ field.aliasName, other ∈ names := by
  rcases shape_of_compile compiled with ⟨notEmpty, alike, suits⟩
  constructor
  · intro found names isShape field isField required other isOther
    rcases List.exists_mem_of_ne_nil query.variants notEmpty with ⟨variant, isVariant⟩
    have named := alike variant isVariant
    rw [Option.mem_def.1 isShape] at named
    have sameLength : (names.map fun _ => Value.null).length = names.length := List.length_map _
    have keys :=
      (reads.findsRequired_namedRow_iff sameLength).1
        (found variant isVariant names named _ sameLength) field isField required
    rwa [ModelField.key, Option.mem_def.1 isOther] at keys
  · intro selected variant isVariant names named row sameLength
    rw [reads.findsRequired_namedRow_iff sameLength]
    intro field isField required
    have isShape : query.outputNames = some names := by
      rw [alike variant isVariant] at named
      exact Except.ok.inj named
    cases aliased : field.aliasName with
    | some other =>
        rw [ModelField.key, aliased]
        exact selected names isShape field isField required other aliased
    | none =>
        have absent : ¬ names.contains (String.ofList star) = true := by
          rw [List.contains_iff_mem]
          exact noStar names isShape
        rw [isShape] at suits
        have accepted : checkModel model names = .ok () := (if_neg absent).symm.trans suits
        rw [ModelField.key, aliased]
        exact name_mem_of_checkModel reads accepted isField required aliased

/-- A required number that is read from a key of another name. -/
def renamedNumber : Model where
  name := "Count"
  fields := [{ name := "a", type := .integer, aliasName := some "b", selectName := some "b" }]

theorem readsByKey_renamedNumber : renamedNumber.ReadsByKey where
  distinct := by decide
  aliased := by decide
  acceptsAliases := rfl
  acceptsNames := rfl

/-- The numbers of a table, selected under a name. -/
def numbersAs (name : String) : List SkeletonItem := [.literal ("SELECT " ++ name ++ " FROM t")]

theorem exists_query_numbersAs
    (name : String)
    (succeeds :
      (compile .standard (.registered "sqlite") none (.record renamedNumber)
          (numbersAs name)).toOption.map ConditionalQuery.outputNames =
        some (some [name])) :
    ∃ query : ConditionalQuery,
      compile .standard (.registered "sqlite") none (.record renamedNumber) (numbersAs name) =
          .ok query ∧
        query.outputNames = some [name] := by
  cases compiled : compile .standard (.registered "sqlite") none (.record renamedNumber)
      (numbersAs name) with
  | error error =>
      rw [compiled] at succeeds
      cases succeeds
  | ok query =>
      rw [compiled] at succeeds
      exact ⟨query, rfl, Option.some.inj succeeds⟩

/-- A number that is selected under its key is found. -/
theorem findsRequired_numbersAs_key :
    ∃ query : ConditionalQuery,
      (compile .standard (.registered "sqlite") none (.record renamedNumber) (numbersAs "b") =
            .ok query ∧
          renamedNumber.ReadsByKey ∧
            ∀ names ∈ query.outputNames, String.ofList star ∉ names) ∧
        ∀ variant ∈ query.variants, ∀ names : List String,
          Query.outputNames (some query.backend.name) variant.sql = .ok (some names) →
            ∀ row : List Value, row.length = names.length →
              renamedNumber.FindsRequired (Database.namedRow names row) := by
  rcases exists_query_numbersAs "b" (by decide +kernel) with ⟨query, compiled, named⟩
  have noStar : ∀ names ∈ query.outputNames, String.ofList star ∉ names := by
    rw [named]
    decide
  refine ⟨query, ⟨compiled, readsByKey_renamedNumber, noStar⟩, ?_⟩
  apply (findsRequired_iff compiled readsByKey_renamedNumber noStar).2
  rw [named]
  decide

/-- A number that is selected under its own name is accepted, and then missing from the row. -/
theorem missing_numbersAs_name :
    ∃ query : ConditionalQuery,
      (compile .standard (.registered "sqlite") none (.record renamedNumber) (numbersAs "a") =
            .ok query ∧
          renamedNumber.ReadsByKey ∧
            ∀ names ∈ query.outputNames, String.ofList star ∉ names) ∧
        ∃ variant ∈ query.variants,
          Query.outputNames (some query.backend.name) variant.sql = .ok (some ["a"]) ∧
            (Output.record renamedNumber).decode (Database.namedRow ["a"] [.int 1]) =
              .error [{ location := ["b"], kind := .missing }] := by
  rcases exists_query_numbersAs "a" (by decide +kernel) with ⟨query, compiled, named⟩
  rcases shape_of_compile compiled with ⟨notEmpty, alike, -⟩
  rcases List.exists_mem_of_ne_nil query.variants notEmpty with ⟨variant, isVariant⟩
  have noStar : ∀ names ∈ query.outputNames, String.ofList star ∉ names := by
    rw [named]
    decide
  refine ⟨query, ⟨compiled, readsByKey_renamedNumber, noStar⟩, variant, isVariant, ?_, rfl⟩
  rw [alike variant isVariant, named]

end ConditionalQuery

end Query

end SqlMapping
