import SqlMapping.Proofs.Schema.WellFormed

/-!
# Acceptance of table declarations

What is read under a key is what is declared under it, so that each check of a declaration decides
a requirement on the declaration itself.  The checks follow one another in the order of the
requirements.

The main statement says that exactly the well-formed declarations are accepted, and that any other
is refused for the first requirement that it does not meet.
-/

namespace SqlMapping

/-! ## Values as they are read -/

theorem Checked.eq_ok_of_both_eq_ok
    {α β : Type}
    {first : Checked α}
    {second : Checked β}
    {pair : α × β}
    (reads : both first second = .ok pair) :
    first = .ok pair.1 ∧ second = .ok pair.2 := by
  cases first with
  | error issues =>
      cases second with
      | error others => cases reads
      | ok other => cases reads
  | ok value =>
      cases second with
      | error issues => cases reads
      | ok other =>
          cases reads
          exact ⟨rfl, rfl⟩

/-- The name in a description is the text that it has there. -/
theorem name_of_entry
    {entries : List (String × Value)}
    {name : Option String}
    (reads : Checked.entry entries "name" (some none) Checked.text? = .ok name) :
    name = (entries.lookup "name").bind Value.encodedText? := by
  rw [Checked.entry] at reads
  cases found : entries.lookup "name" with
  | none =>
      rw [found] at reads
      cases reads
      rfl
  | some value =>
      rw [found] at reads
      cases value with
      | bytes content =>
          rw [Option.bind_some, Value.encodedText?]
          dsimp only [Checked.text?, Checked.text] at reads
          cases decoded : String.fromUTF8? ⟨content.toArray⟩ with
          | none =>
              rw [decoded] at reads
              cases reads
          | some text =>
              rw [decoded] at reads
              cases reads
              rfl
      | _ =>
          cases reads
          all_goals rfl

theorem LookupOption.name_of_ofEntries
    {entries : List (String × Value)}
    {option : LookupOption}
    (reads : ofEntries entries = .ok option) :
    option.name = (entries.lookup "name").bind Value.encodedText? := by
  rcases Outcome.bind_eq_ok_iff.1 reads with ⟨⟨⟨name, argumentType⟩, known⟩, parts, made⟩
  cases made
  have described := (Checked.eq_ok_of_both_eq_ok parts).1
  exact name_of_entry (Checked.eq_ok_of_both_eq_ok described).1

namespace OptionShape

variable {value : Value} {result : OptionValue}

theorem eq_text_of_read (reads : text.read value = .ok result) :
    ∃ content, value = .text content ∧ result = .text content := by
  rw [read] at reads
  cases isText : nonEmptyText? value with
  | none =>
      rw [isText] at reads
      cases reads
  | some content =>
      rw [isText] at reads
      cases reads
      exact ⟨content, (nonEmptyText?_eq_some_iff.1 isText).2, rfl⟩

theorem eq_flag_of_read (reads : flag.read value = .ok result) :
    ∃ isSet, value = .bool isSet ∧ result = .flag isSet := by
  cases value with
  | bool isSet =>
      cases reads
      exact ⟨isSet, rfl, rfl⟩
  | _ => cases reads

theorem givenName?_of_nonEmptyText?
    {name : String}
    (isText : nonEmptyText? value = some name) :
    value.givenName? = some name := by
  rcases nonEmptyText?_eq_some_iff.1 isText with ⟨filled, rfl⟩
  simp [Value.givenName?, filled]

theorem eq_functionName_of_read (reads : functionName.read value = .ok result) :
    result = .functionName value.givenName? := by
  by_cases isDefault : value = .bool true
  · rw [isDefault] at reads ⊢
    cases reads
    rfl
  · rw [read.eq_def] at reads
    dsimp only at reads
    split at reads
    · exact absurd rfl isDefault
    · cases isText : nonEmptyText? value with
      | none =>
          rw [isText] at reads
          cases reads
      | some name =>
          rw [isText] at reads
          cases reads
          rw [givenName?_of_nonEmptyText? isText]

/-- A lookup has the name that is given, unless that is empty. -/
theorem name_of_readLookup
    {option : LookupOption}
    (reads : readLookup value = .ok option) :
    (option.name.filter fun name => !name.isEmpty) = value.givenName? := by
  cases value with
  | bool isSet =>
      cases isSet with
      | true =>
          cases reads
          rfl
      | false => cases reads
  | text content =>
      rw [readLookup.eq_def] at reads
      dsimp only at reads
      cases isText : nonEmptyText? (.text content) with
      | none =>
          rw [isText] at reads
          cases reads
      | some name =>
          rw [isText] at reads
          cases reads
          have same := (nonEmptyText?_eq_some_iff.1 isText).2
          cases same
          rfl
  | lookupOption name argumentType =>
      cases reads
      rfl
  | object entries =>
      rw [readLookup] at reads
      cases described : LookupOption.ofEntries entries with
      | error issues =>
          rw [described] at reads
          cases reads
      | ok other =>
          rw [described] at reads
          cases reads
          rw [LookupOption.name_of_ofEntries described]
          rfl
  | _ => cases reads

end OptionShape

namespace OptionGrammar

variable
  {grammar : OptionGrammar}
  {location key : String}
  {attributes : List Attribute}
  {options : Options}
  {shape : OptionShape}

theorem read_of_readOne
    {option : Attribute}
    {result : OptionValue}
    (isShape : grammar.lookup option.key = some shape)
    (reads : grammar.readOne location option = .ok result) :
    shape.read option.value = .ok result := by
  rw [readOne, isShape] at reads
  dsimp only at reads
  cases read : shape.read option.value with
  | ok value =>
      rw [read] at reads
      cases reads
      rfl
  | error expectation =>
      rw [read] at reads
      cases reads

/-- What is read under a key is what is declared under it. -/
theorem lookup_of_collect
    (accepted : grammar.collect location attributes = .ok options)
    (isShape : grammar.lookup key = some shape) :
    (Attribute.value? attributes key = none ∧ options.lookup key = none) ∨
      ∃ value result,
        Attribute.value? attributes key = some value ∧
          shape.read value = .ok result ∧
          options.lookup key = some result := by
  rcases collect_eq_ok_iff.1 accepted with ⟨-, readAll⟩
  clear accepted
  induction readAll with
  | nil => exact .inl ⟨rfl, rfl⟩
  | @cons option entry rest entries reads _ inductionHypothesis =>
      rcases entry with ⟨name, result⟩
      rcases reads with ⟨sameKey, reads⟩
      dsimp only at sameKey reads
      subst sameKey
      rw [Attribute.value?, List.find?_cons, List.lookup_cons]
      by_cases isKey : option.key = key
      · subst isKey
        rw [decide_eq_true rfl, beq_self_eq_true]
        exact .inr ⟨option.value, result, rfl, read_of_readOne isShape reads, rfl⟩
      · rw [decide_eq_false isKey, beq_false_of_ne fun same => isKey same.symm]
        exact inductionHypothesis

end OptionGrammar

namespace Options

variable
  {grammar : OptionGrammar}
  {location key : String}
  {attributes : List Attribute}
  {options : Options}

theorem text?_of_collect
    (accepted : grammar.collect location attributes = .ok options)
    (isText : grammar.lookup key = some .text) :
    options.text? key = Attribute.text? attributes key := by
  rcases OptionGrammar.lookup_of_collect accepted isText with
    ⟨undeclared, absent⟩ | ⟨value, result, declared, reads, found⟩
  · rw [text?, Attribute.text?, undeclared, absent]
    rfl
  · rcases OptionShape.eq_text_of_read reads with ⟨content, rfl, rfl⟩
    rw [text?, Attribute.text?, declared, found]
    rfl

theorem isSome_text?_of_collect
    (accepted : grammar.collect location attributes = .ok options)
    (isText : grammar.lookup key = some .text) :
    (options.text? key).isSome = (Attribute.value? attributes key).isSome := by
  rcases OptionGrammar.lookup_of_collect accepted isText with
    ⟨undeclared, absent⟩ | ⟨value, result, declared, reads, found⟩
  · rw [text?, undeclared, absent]
    rfl
  · rcases OptionShape.eq_text_of_read reads with ⟨content, -, rfl⟩
    rw [text?, declared, found]
    rfl

theorem flag_iff_of_collect
    (accepted : grammar.collect location attributes = .ok options)
    (isFlag : grammar.lookup key = some .flag) :
    options.flag key = true ↔ Attribute.value? attributes key = some (.bool true) := by
  rcases OptionGrammar.lookup_of_collect accepted isFlag with
    ⟨undeclared, absent⟩ | ⟨value, result, declared, reads, found⟩
  · rw [flag, undeclared, absent]
    exact iff_of_false Bool.false_ne_true (Option.some_ne_none _).symm
  · rcases OptionShape.eq_flag_of_read reads with ⟨isSet, rfl, rfl⟩
    rw [flag, declared, found, Option.some.injEq, Value.bool.injEq]

theorem functionName?_of_collect
    (accepted : grammar.collect location attributes = .ok options)
    (isFunction : grammar.lookup key = some .functionName) :
    options.functionName? key = (Attribute.value? attributes key).map Value.givenName? := by
  rcases OptionGrammar.lookup_of_collect accepted isFunction with
    ⟨undeclared, absent⟩ | ⟨value, result, declared, reads, found⟩
  · rw [functionName?, undeclared, absent]
    rfl
  · rw [functionName?, declared, found, OptionShape.eq_functionName_of_read reads]
    rfl

theorem map_functionName_of_collect
    (accepted : grammar.collect location attributes = .ok options)
    (isLookup : grammar.lookup key = some .lookup)
    (defaultName : String)
    (defaultType : Value) :
    ((options.lookup? key).map fun option =>
        (LookupSpec.ofOption defaultName defaultType option).functionName) =
      (Attribute.value? attributes key).map fun value => value.givenName?.getD defaultName := by
  rcases OptionGrammar.lookup_of_collect accepted isLookup with
    ⟨undeclared, absent⟩ | ⟨value, result, declared, reads, found⟩
  · rw [lookup?, undeclared, absent]
    rfl
  · rw [OptionShape.read] at reads
    cases isOption : OptionShape.readLookup value with
    | error expectation =>
        rw [isOption] at reads
        cases reads
    | ok option =>
        rw [isOption] at reads
        cases reads
        rw [lookup?, declared, found, Option.map_some, Option.map_some, LookupSpec.ofOption,
          OptionShape.name_of_readLookup isOption]

theorem isSome_insertable?_of_collect
    (accepted : grammar.collect location attributes = .ok options)
    (isInsertable : grammar.lookup key = some .insertable) :
    (options.insertable? key).isSome = (Attribute.value? attributes key).isSome := by
  rcases OptionGrammar.lookup_of_collect accepted isInsertable with
    ⟨undeclared, absent⟩ | ⟨value, result, declared, reads, found⟩
  · rw [insertable?, undeclared, absent]
    rfl
  · rw [OptionShape.read] at reads
    cases isOption : OptionShape.readInsertable value with
    | error expectation =>
        rw [isOption] at reads
        cases reads
    | ok option =>
        rw [isOption] at reads
        cases reads
        rw [insertable?, declared, found]
        rfl

end Options

theorem Attribute.isSome_value?_iff {attributes : List Attribute} {key : String} :
    (value? attributes key).isSome = true ↔ ∃ option ∈ attributes, option.key = key := by
  rw [value?, Option.isSome_map, List.find?_isSome]
  simp

/-! ## Checks of fields -/

namespace Field

variable
  {backend : Backend}
  {entity identifierName : String}
  {declaration : FieldDeclaration}
  {field : Field}

theorem name_of_isRead (reads : IsRead backend entity identifierName declaration field) :
    field.name = declaration.name := by
  rcases reads with ⟨options, -, rfl⟩
  rfl

theorem isDefaultGenerated_iff_of_isRead
    (reads : IsRead backend entity identifierName declaration field) :
    field.isDefaultGenerated = true ↔ declaration.IsGenerated := by
  rcases reads with ⟨options, collected, rfl⟩
  exact Options.flag_iff_of_collect collected rfl

/-- The names of the lookups stand in the order of their kinds, and that of the setter is last. -/
theorem generatedNames_eq (field : Field) :
    field.generatedNames =
      (field.lookups.one.map LookupSpec.functionName).toList ++
        (field.lookups.optional.map LookupSpec.functionName).toList ++
        (field.lookups.many.map LookupSpec.functionName).toList ++
        (field.lookups.anyOf.map LookupSpec.functionName).toList ++
        field.setterName.toList := by
  have named (kind : LookupKind) (spec : Option LookupSpec) :
      (spec.map fun spec => (kind, spec)).toList.map (fun lookup => lookup.2.functionName) =
        (spec.map LookupSpec.functionName).toList := by
    cases spec with
    | none => rfl
    | some spec => rfl
  rw [generatedNames, Lookups.declared]
  simp only [List.map_append, named]

/-- The functions of a field have the names that its declaration gives them. -/
theorem generatedNames_of_isRead
    (reads : IsRead backend entity identifierName declaration field) :
    field.generatedNames = declaration.accessorNames := by
  rcases reads with ⟨options, collected, rfl⟩
  have looksUp (key defaultName : String) (defaultType : Value)
      (isLookup : OptionGrammar.tableField.lookup key = some .lookup) :=
    Options.map_functionName_of_collect collected isLookup defaultName defaultType
  have collects (function : String × String → Option String) (item : String × String)
      (items : List (String × String)) :
      (item :: items).filterMap function = (function item).toList ++ items.filterMap function := by
    rw [List.filterMap_cons]
    cases function item with
    | none => rfl
    | some name => rfl
  rw [FieldDeclaration.accessorNames, FieldDeclaration.accessorOptions, generatedNames_eq]
  simp only [collects, List.filterMap_nil, List.append_nil, ofOptions, Option.map_map,
    Function.comp_def]
  rw [looksUp "get_one" _ _ rfl, looksUp "get_optional" _ _ rfl, looksUp "get_many" _ _ rfl,
    looksUp "get_by_any" _ _ rfl, Options.functionName?_of_collect collected rfl, Option.map_map,
    List.append_assoc, List.append_assoc, List.append_assoc]
  rfl

/-- Whether a field is accepted depends on its options only. -/
theorem outcome_ofDeclaration (workspace : Workspace) :
    (ofDeclaration workspace backend entity identifierName declaration).outcome =
      (OptionGrammar.tableField.collect (entity ++ "." ++ declaration.name)
          declaration.attributes >>= fun options =>
        .ok (ofOptions backend identifierName declaration options)) := by
  rw [ofDeclaration, Report.outcome_bind]
  dsimp only
  congr 1
  funext options
  exact outcome_of_warned _ _ _ _ _ _

end Field

namespace TableSchema

variable {workspace : Workspace} {backend : Backend} {entity identifierName : String}

/-- Reading the fields decides what is required of their options. -/
theorem decides_checkFields (declarations : List FieldDeclaration) :
    Requirement.Decides
      (declarations.flatMap fun field =>
        OptionGrammar.tableField.requirements (entity ++ "." ++ field.name) [] field.attributes)
      (checkFields workspace backend entity identifierName declarations).outcome := by
  induction declarations with
  | nil => exact Requirement.decides_nil _
  | cons declaration rest inductionHypothesis =>
      rw [List.flatMap_cons, checkFields, Report.outcome_bind, Field.outcome_ofDeclaration]
      have decides :=
        OptionGrammar.decides_collectAfter .tableField (entity ++ "." ++ declaration.name) []
          declaration.attributes
      refine decides.map.bind fun field _ => ?_
      rw [Report.outcome_bind]
      exact inductionHypothesis.map

/-- A generated value is refused at the first field that has one, if rows are not inserted. -/
theorem decides_checkDefaults
    {declarations : List FieldDeclaration}
    {fields : List Field}
    {inserts : Option InsertSpec}
    {isInsertable : Prop}
    (reads : List.Forall₂ (Field.IsRead backend entity identifierName) declarations fields)
    (same : inserts.isSome = true ↔ isInsertable) :
    Requirement.Decides
      (declarations.map fun field =>
        ⟨field.IsGenerated → isInsertable, .defaultWithoutInsertable field.name entity⟩)
      (checkDefaults entity inserts fields) := by
  cases inserts with
  | some insertion =>
      rw [checkDefaults.eq_def]
      dsimp only
      rw [Requirement.Decides, Requirement.AllHold, List.forall_mem_map]
      exact fun _ _ _ => same.1 rfl
  | none =>
      have cannotInsert : ¬isInsertable := fun holds => Bool.false_ne_true (same.2 holds)
      induction reads with
      | nil => exact Requirement.decides_nil _
      | @cons declaration field rest others isRead _ inductionHypothesis =>
          have generates := Field.isDefaultGenerated_iff_of_isRead isRead
          rw [checkDefaults.eq_def, List.find?_cons]
          apply Requirement.Decides.cons
          · intro violated
            rcases Classical.not_imp.1 violated with ⟨isGenerated, -⟩
            rw [generates.2 isGenerated]
            dsimp only
            rw [Field.name_of_isRead isRead]
          · intro holds
            have given : field.isDefaultGenerated = false := by
              rw [← Bool.not_eq_true, generates]
              exact fun isGenerated => cannotInsert (holds isGenerated)
            rw [given]
            exact inductionHypothesis

/-- A name is refused if it was seen before, and what follows is checked if none is. -/
theorem decides_firstRepeated
    {field : String}
    {names seen earlier : List String}
    {rest : List (String × String)}
    {next : Except BuildError Unit}
    (same : ∀ name, name ∈ seen ↔ name ∈ earlier)
    (follows :
      ∀ later, (∀ name, name ∈ names ++ seen ↔ name ∈ later) →
        Requirement.Decides (Declaration.nameRequirements entity later rest) next) :
    Requirement.Decides
      (Declaration.nameRequirements entity earlier (names.map (fun name => (field, name)) ++ rest))
      (match firstRepeated? seen names with
        | some name => .error (.nameCollision name (entity ++ "." ++ field))
        | none => next) := by
  -- The names seen so far stand in another order in the check, which only asks for members.
  induction names generalizing seen earlier with
  | nil => exact follows earlier same
  | cons name others inductionHypothesis =>
      rw [firstRepeated?]
      apply Requirement.Decides.cons
      · intro repeated
        rw [if_pos (List.contains_iff_mem.2 ((same name).2 (not_not.1 repeated)))]
      · intro fresh
        rw [if_neg fun isSeen => fresh ((same name).1 (List.contains_iff_mem.1 isSeen))]
        apply inductionHypothesis
        · intro other
          rw [List.mem_cons, List.mem_cons, same]
        · intro later sameLater
          refine follows later fun other => ?_
          rw [← sameLater, List.cons_append, List.mem_cons, List.mem_append, List.mem_append,
            List.mem_cons, or_left_comm]

/-- Checking the generated names decides that they are all new. -/
theorem decides_checkGeneratedNames
    {declarations : List FieldDeclaration}
    {fields : List Field}
    {seen earlier : List String}
    (reads : List.Forall₂ (Field.IsRead backend entity identifierName) declarations fields)
    (same : ∀ name, name ∈ seen ↔ name ∈ earlier) :
    Requirement.Decides
      (Declaration.nameRequirements entity earlier
        (declarations.flatMap fun field => field.accessorNames.map fun name => (field.name, name)))
      (checkGeneratedNames entity seen fields) := by
  induction reads generalizing seen earlier with
  | nil => exact Requirement.decides_nil _
  | @cons declaration field rest others isRead _ inductionHypothesis =>
      rw [checkGeneratedNames, List.flatMap_cons, Field.name_of_isRead isRead,
        ← Field.generatedNames_of_isRead isRead]
      exact decides_firstRepeated same fun later sameLater => inductionHypothesis sameLater

/-! ## Checks of declarations -/

theorem decides_resolve (workspace : Workspace) (choice : BackendChoice) :
    Requirement.Decides
      [⟨workspace.Has choice,
        .compilation
          (.unsupportedBackend ((workspace.keyOf? choice).getD "") workspace.registry.keys)⟩]
      (workspace.resolve choice) := by
  have creates (key : String) (isKey : workspace.keyOf? choice = some key) :
      Requirement.Decides
        [⟨workspace.Has choice,
          .compilation
            (.unsupportedBackend ((workspace.keyOf? choice).getD "") workspace.registry.keys)⟩]
        (workspace.registry.create key) := by
    have has : workspace.Has choice ↔ (workspace.registry.find? key).isSome = true := by
      rw [Workspace.Has, isKey]
      exact ⟨fun has => has key rfl, fun isThere _ same => Option.some.inj same ▸ isThere⟩
    rw [Registry.create, has, isKey]
    cases workspace.registry.find? key with
    | none => exact .here Bool.false_ne_true
    | some backend => exact Requirement.allHold_singleton_iff.2 rfl
  cases choice with
  | configured => exact creates _ rfl
  | registered key => exact creates key rfl
  | given backend =>
      refine Requirement.allHold_singleton_iff.2 fun key impossible => ?_
      cases impossible

theorem decides_required
    {grammar : OptionGrammar}
    {key location : String}
    {attributes : List Attribute}
    {options : Options}
    (collected : grammar.collect location attributes = .ok options)
    (isText : grammar.lookup key = some .text) :
    Requirement.Decides
      [⟨∃ option ∈ attributes, option.key = key, .missingAttribute key location⟩]
      (required options key location) := by
  rw [← Attribute.isSome_value?_iff, ← Options.isSome_text?_of_collect collected isText, required]
  cases options.text? key with
  | none => exact .here Bool.false_ne_true
  | some content => exact Requirement.allHold_singleton_iff.2 rfl

/-- One of the fields is the identifier if it has been declared. -/
theorem exists_identifier_of_isRead
    {declarations : List FieldDeclaration}
    {fields : List Field}
    (reads : List.Forall₂ (Field.IsRead backend entity identifierName) declarations fields)
    (isField : identifierName ∈ declarations.map FieldDeclaration.name) :
    ∃ identifier, fields.find? Field.isIdentifier = some identifier := by
  rw [← Option.isSome_iff_exists, List.find?_isSome]
  induction reads with
  | nil => cases isField
  | @cons declaration field rest others isRead _ inductionHypothesis =>
      rcases List.mem_cons.1 isField with isHere | isRest
      · rcases isRead with ⟨options, -, rfl⟩
        refine ⟨_, List.mem_cons_self, ?_⟩
        exact beq_iff_eq.2 isHere.symm
      · rcases inductionHypothesis isRest with ⟨identifier, member, isIdentifier⟩
        exact ⟨identifier, List.mem_cons_of_mem field member, isIdentifier⟩

/-- The checks of a declaration decide what is required of it, in that order. -/
theorem decides_ofDeclaration
    (workspace : Workspace)
    (choice : BackendChoice)
    (declaration : Declaration) :
    Requirement.Decides (declaration.requirements workspace choice)
      (ofDeclaration workspace choice declaration).outcome := by
  rw [ofDeclaration, Declaration.requirements]
  dsimp only
  simp only [List.append_assoc, List.cons_append, List.nil_append]
  -- Each check decides the requirements at the head of the list and leaves those of the next ones.
  rw [Report.outcome_bind]
  refine (OptionGrammar.decides_collectAfter .table declaration.name [] _).bind ?_
  intro options collected
  have chosen : chosenBackend options choice = declaration.backendChoice choice := by
    rw [chosenBackend, Options.text?_of_collect collected rfl]
    rfl
  rw [Report.outcome_bind, chosen]
  refine (decides_resolve workspace _).bind fun backend _ => ?_
  rw [Report.outcome_bind]
  refine (decides_required collected rfl).bind fun table _ => ?_
  rw [Report.outcome_bind]
  refine (decides_required collected rfl).bind fun identifierName isName => ?_
  have declared : Attribute.text? declaration.attributes "id" = some identifierName := by
    rw [← Options.text?_of_collect collected rfl]
    exact required_eq_ok_iff.1 isName
  rw [declared]
  apply Requirement.Decides.cons
  · intro unknown
    have isNoField : identifierName ∉ declaration.fieldNames := by
      intro isField
      exact unknown fun name same => Option.some.inj same ▸ isField
    rw [if_neg fun contains => isNoField (List.contains_iff_mem.1 contains)]
    rfl
  · intro isField
    have known := isField identifierName rfl
    rw [if_pos (List.contains_iff_mem.2 known), Report.outcome_bind]
    refine (decides_checkFields declaration.fields).bind fun fields isChecked => ?_
    have reads := checkFields_eq_ok_iff.1 isChecked
    have inserts :
        ((options.insertable? "insertable").map (insertSpec declaration.name)).isSome = true ↔
          ∃ option ∈ declaration.attributes, option.key = "insertable" := by
      rw [Option.isSome_map, Options.isSome_insertable?_of_collect collected rfl,
        Attribute.isSome_value?_iff]
    rw [Report.outcome_bind]
    refine (decides_checkDefaults reads inserts).bind fun _ _ => ?_
    rcases exists_identifier_of_isRead reads known with ⟨identifier, found⟩
    rw [found]
    dsimp only
    rw [Report.outcome_bind]
    have decides := decides_checkGeneratedNames reads fun name => @Iff.rfl (name ∈ [])
    exact decides.map

/-- Exactly the well-formed declarations are accepted, and any other is refused as it is first. -/
theorem outcome_ofDeclaration_iff
    (workspace : Workspace)
    (choice : BackendChoice)
    (declaration : Declaration) :
    ((∃ schema, (ofDeclaration workspace choice declaration).outcome = .ok schema) ↔
        declaration.IsWellFormed workspace choice) ∧
      ∀ error,
        (ofDeclaration workspace choice declaration).outcome = .error error ↔
          Requirement.FirstRefusal (declaration.requirements workspace choice) error := by
  have decides := decides_ofDeclaration workspace choice declaration
  constructor
  · rw [decides.exists_ok_iff, Declaration.allHold_requirements_iff]
  · exact fun error => decides.eq_error_iff

end TableSchema

end SqlMapping
