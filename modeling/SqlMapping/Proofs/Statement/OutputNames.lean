import SqlMapping.Proofs.Outcome
import SqlMapping.Proofs.Query.Spellings
import SqlMapping.Proofs.Statement.Insertion

/-!
# Output names of generated statements

Every generated select list is read back as the names of the fields it was generated from:
reserved names are quoted, renamed columns have aliases, and the type mark of a custom type is
taken for what it is.

The main statement is about all reading statements of a table and about the query for the
generated columns of an insert.
-/

namespace SqlMapping

open Query

/-! ## Standard backends -/

/-- The backends that are always registered. -/
def standardBackends : List Backend := [.postgres, .mysql, .sqlite]

namespace Backend

/-- A backend that quotes with one of the two marks and reserves what the scanner looks for. -/
structure QuotesKeywords (backend : Backend) (mark : Char) : Prop where
  isQuoteMark : IsQuoteMark mark
  quoteMark_eq : backend.quoteMark.toList = [mark]
  reserves : ∀ keyword ∈ scannerWords, keyword ∈ backend.reserved

theorem exists_quotesKeywords
    {backend : Backend}
    (standard : backend ∈ standardBackends) :
    ∃ mark, backend.QuotesKeywords mark := by
  have cases : backend = .postgres ∨ backend = .mysql ∨ backend = .sqlite := by
    simpa [standardBackends] using standard
  rcases cases with rfl | rfl | rfl
  · exact ⟨'"', Or.inl rfl, rfl, by decide⟩
  · exact ⟨'\x60', Or.inr rfl, rfl, by decide⟩
  · exact ⟨'"', Or.inl rfl, rfl, by decide⟩

end Backend

/-- The upper-case form of a word is that of its characters. -/
theorem upperCharacters_of_isWordCharacter
    {characters : List Char}
    (isWord : ∀ character ∈ characters, isWordCharacter character = true) :
    Text.upperCharacters characters = characters.map Char.toUpper := by
  induction characters with
  | nil => rfl
  | cons character rest inductionHypothesis =>
      have here := isWord character List.mem_cons_self
      have low : character.toNat < 128 := by
        rw [isWordCharacter, Bool.or_eq_true, decide_eq_true_eq] at here
        rcases here with identifier | rfl
        · have bounds := toNat_of_isIdentifierCharacter identifier
          omega
        · decide
      have restUpper :=
        inductionHypothesis fun other member => isWord other (List.mem_cons_of_mem character member)
      rw [Text.upperCharacters, List.flatMap_cons, ← Text.upperCharacters, restUpper,
        Text.upperCharacter, if_pos low]
      rfl

namespace Backend

/-- A word that a backend does not reserve. -/
structure WritesBare (backend : Backend) (name : String) : Prop where
  isName : Query.isName name.toList = true
  notReserved : backend.isReserved name = false

namespace WritesBare

variable {backend : Backend} {name : String}

theorem upper_not_mem (bare : backend.WritesBare name) : Text.upper name ∉ backend.reserved := by
  intro reserved
  have notReserved := bare.notReserved
  rw [isReserved, List.contains_iff_mem.2 reserved] at notReserved
  cases notReserved

/-- A word that is not reserved is none of those that are, in any letter case. -/
theorem map_toUpper_ne
    (bare : backend.WritesBare name)
    {keyword : String}
    (reserved : keyword ∈ backend.reserved) :
    name.toList.map Char.toUpper ≠ keyword.toList := by
  intro equal
  have same : Text.upper name = keyword := by
    rw [Text.upper,
      upperCharacters_of_isWordCharacter fun character member =>
        isWordCharacter_of_isName bare.isName member,
      equal, String.ofList_toList]
  rw [← same] at reserved
  exact bare.upper_not_mem reserved

end WritesBare

end Backend

namespace Backend.QuotesKeywords

variable {backend : Backend} {mark : Char} {name : String}

/-- What encloses a name without the mark spells it. -/
theorem spelling_enclose
    (quotes : backend.QuotesKeywords mark)
    (absent : mark ∉ name.toList) :
    Spelling name.toList (backend.enclose name).toList := by
  rw [toList_enclose, quotes.quoteMark_eq, doubleMarks_of_not_mem absent]
  exact Spelling.quoted quotes.isQuoteMark absent

theorem not_mem_identifier
    (quotes : backend.QuotesKeywords mark)
    (identifier : isIdentifier name.toList = true) :
    mark ∉ name.toList := by
  intro member
  exact
    not_isQuoteMark_of_isIdentifierCharacter (isIdentifierCharacter_of_mem identifier member)
      quotes.isQuoteMark

/-- An identifier is spelled by the form in which it is emitted. -/
theorem spelling_quote
    (quotes : backend.QuotesKeywords mark)
    (identifier : isIdentifier name.toList = true) :
    Spelling name.toList (backend.quote name).toList := by
  rw [quote]
  split_ifs with reserved
  · exact quotes.spelling_enclose (quotes.not_mem_identifier identifier)
  · have bare : backend.WritesBare name :=
      ⟨isName_of_isIdentifier identifier, Bool.eq_false_iff.2 reserved⟩
    exact
      Spelling.bare identifier fun keyword isKeyword =>
        bare.map_toUpper_ne (quotes.reserves keyword isKeyword)

/-- A marked label is spelled by its enclosed form. -/
theorem spelling_label
    (quotes : backend.QuotesKeywords mark)
    (identifier : isIdentifier name.toList = true) :
    Spelling (name.toList ++ typeMarker.toList) (backend.enclose (name ++ typeMarker)).toList := by
  have absent : mark ∉ (name ++ typeMarker).toList := by
    rw [String.toList_append, List.mem_append, not_or]
    refine ⟨quotes.not_mem_identifier identifier, ?_⟩
    rcases quotes.isQuoteMark with rfl | rfl
    · decide
    · decide
  have spelled := quotes.spelling_enclose absent
  rwa [String.toList_append] at spelled

end Backend.QuotesKeywords

/-! ## Names without a mark -/

/-- A word does not end in the type mark. -/
theorem dropMarker_of_isName
    {name : List Char}
    (isNameHere : isName name = true) :
    dropMarker typeMarker.toList name = name := by
  rw [dropMarker, if_neg]
  intro isSuffix
  rcases List.isSuffixOf_iff_suffix.1 isSuffix with ⟨before, equal⟩
  have member : ':' ∈ name := by
    rw [← equal]
    exact List.mem_append_right before (by decide)
  exact absurd (isWordCharacter_of_isName isNameHere member) (by decide)

/-- A word is the name that it gives. -/
theorem nameOf_of_isName
    {name : List Char}
    (isNameHere : isName name = true) :
    nameOf name = name := by
  rw [nameOf, (Written.bare isNameHere).unquote_eq, dropMarker_of_isName isNameHere]

/-- An identifier does not end in the type mark. -/
theorem dropMarker_of_isIdentifier
    {name : List Char}
    (identifier : isIdentifier name = true) :
    dropMarker typeMarker.toList name = name :=
  dropMarker_of_isName (isName_of_isIdentifier identifier)

/-- A mark that was put behind a name is dropped again. -/
theorem dropMarker_append (name : List Char) :
    dropMarker typeMarker.toList (name ++ typeMarker.toList) = name := by
  have isEnd : typeMarker.toList.isSuffixOf (name ++ typeMarker.toList) = true :=
    List.isSuffixOf_iff_suffix.2 (List.suffix_append _ _)
  rw [dropMarker, if_pos isEnd, List.length_append, Nat.add_sub_cancel]
  exact List.take_left

/-! ## Rendered select lists -/

namespace Template

/-- Templates without placeholders are joined like their texts. -/
theorem characters_separated
    {templates : List Template}
    (fixed : ∀ template ∈ templates, template.placeholderCount = 0)
    (backend : Backend) :
    characters backend 0 (separated templates) =
      joinItems (templates.map (characters backend 0)) := by
  induction templates with
  | nil => rfl
  | cons first others inductionHypothesis =>
      have firstFixed := fixed first List.mem_cons_self
      have othersJoined :=
        inductionHypothesis fun template member =>
          fixed template (List.mem_cons_of_mem first member)
      cases others with
      | nil => rw [separated, List.map_singleton, joinItems, List.intercalate_singleton]
      | cons second rest =>
          rw [List.map_cons] at othersJoined
          rw [separated, characters_append, firstFixed, characters_word, othersJoined,
            List.map_cons, List.map_cons, joinItems_cons_cons]
          rfl

end Template

/-- Whether the names of a field are identifiers. -/
def Field.HasIdentifierNames (field : Field) : Prop :=
  Query.isIdentifier field.name.toList = true ∧ Query.isIdentifier field.column.toList = true

namespace Field

instance (field : Field) : Decidable field.HasIdentifierNames :=
  inferInstanceAs (Decidable (_ ∧ _))

variable {field : Field} {backend : Backend} {mark : Char}

theorem placeholderCount_selectItem (field : Field) : field.selectItem.placeholderCount = 0 := by
  rw [selectItem]
  split_ifs
  · rfl
  · rfl
  · rfl

/-- The select-list entry of a field is read back as the name of the field. -/
theorem isItemNamed_selectItem
    (named : field.HasIdentifierNames)
    (quotes : backend.QuotesKeywords mark) :
    IsItemNamed field.name.toList (field.selectItem.characters backend 0) := by
  rcases named with ⟨nameIdentifier, columnIdentifier⟩
  have columnSpelling := quotes.spelling_quote columnIdentifier
  rw [selectItem]
  split_ifs with isCustom isRenamed
  · have item := columnSpelling.isItemNamed_alias (quotes.spelling_label nameIdentifier)
    rw [dropMarker_append] at item
    simpa using item
  · have item := columnSpelling.isItemNamed_alias (quotes.spelling_quote nameIdentifier)
    rw [dropMarker_of_isIdentifier nameIdentifier] at item
    simpa using item
  · have notEmpty : field.column.toList ≠ [] := by
      intro empty
      rw [empty] at columnIdentifier
      cases columnIdentifier
    have item := columnSpelling.isItemNamed_column notEmpty
    rw [dropMarker_of_isIdentifier columnIdentifier] at item
    rw [← not_ne_iff.1 isRenamed]
    simpa using item

end Field

namespace TableSchema

variable {backend : Backend} {mark : Char} {fields : List Field}

/-- A statement that selects fields is read back as their names. -/
theorem outputNames_selectFrom
    (schema : TableSchema)
    (named : ∀ field ∈ fields, field.HasIdentifierNames)
    (quotes : backend.QuotesKeywords mark)
    (tail : Template)
    (params : List String)
    (dialect : Option String) :
    outputNames dialect
        (Statement.ofTemplate backend (schema.selectFrom fields ++ tail) params).sql =
      .ok (some (fields.map Field.name)) := by
  have fixed :
      ∀ template ∈ fields.map Field.selectItem, template.placeholderCount = 0 := by
    intro template member
    rcases List.mem_map.1 member with ⟨field, -, rfl⟩
    exact field.placeholderCount_selectItem
  have list :
      (selectList fields).characters backend 0 =
        joinItems (fields.map fun field => field.selectItem.characters backend 0) := by
    rw [selectList, Template.characters_separated fixed, List.map_map]
    rfl
  have item :
      ∀ field ∈ fields,
        IsItemNamed field.name.toList (field.selectItem.characters backend 0) :=
    fun field member => Field.isItemNamed_selectItem (named field member) quotes
  have written :
      (Statement.ofTemplate backend (schema.selectFrom fields ++ tail) params).sql.toList =
        "SELECT".toList
          ++ (' ' :: (joinItems (fields.map fun field => field.selectItem.characters backend 0)
              ++ [' '])
            ++ ("FROM".toList
              ++ ' ' :: ((backend.quote schema.table).toList
                ++ tail.characters backend (schema.selectFrom fields).placeholderCount))) := by
    rw [Statement.ofTemplate, Template.toList_render, Template.characters_append, selectFrom,
      List.cons_append, Template.characters_word, Template.characters_append, list]
    simp
  rw [outputNames_of_isItemNamed item ?_ written]
  · simp
  · intro first isFirst
    cases isFirst
    decide

/-- The follow-up query of an insert selects the fields that are read back. -/
theorem fetchDefaults_of_insertPlan
    {schema : TableSchema}
    {plan : InsertPlan}
    (planned : schema.insertPlan backend = .ok plan)
    {statement : Statement}
    (fetched : plan.fetchDefaults = some statement) :
    plan.returnedFields = schema.otherDefaults.map Field.name ∧
      statement =
        .ofTemplate backend
          (schema.selectFrom schema.otherDefaults ++ schema.whereIdentifier) ["$id"] := by
  by_cases returning : backend.supportsReturning = true
  · rw [insertPlan] at planned
    dsimp only at planned
    rw [if_pos returning] at planned
    cases planned
    cases fetched
  · have noReturning : backend.supportsReturning = false := Bool.of_not_eq_true returning
    rw [eq_of_insertPlan noReturning planned] at fetched ⊢
    dsimp only at fetched ⊢
    split_ifs at fetched
    exact ⟨rfl, (Option.some.inj fetched).symm⟩

/-- A backend that returns columns or knows the identifier it generated can insert rows. -/
theorem exists_insertPlan
    (schema : TableSchema)
    (able : backend.supportsReturning = true ∨ backend.lastInsertId.isSome = true) :
    ∃ plan : InsertPlan, schema.insertPlan backend = .ok plan := by
  rw [insertPlan]
  dsimp only
  by_cases returning : backend.supportsReturning = true
  · rw [if_pos returning]
    exact ⟨_, rfl⟩
  · rcases Option.isSome_iff_exists.1 (able.resolve_left returning) with ⟨query, isQuery⟩
    rw [if_neg returning, isQuery]
    by_cases generated : schema.identifier.isDefaultGenerated = true
    · rw [if_pos generated]
      exact ⟨_, rfl⟩
    · rw [if_neg generated]
      exact ⟨_, rfl⟩

theorem able_of_standard
    (standard : backend ∈ standardBackends) :
    backend.supportsReturning = true ∨ backend.lastInsertId.isSome = true := by
  revert backend
  decide

/--
The select lists of a table's statements are read back as the fields they were generated from:
those of reading statements as all fields, and that of an insert's follow-up query as the fields
it reads back.
-/
theorem outputNames_compile
    {schema : TableSchema}
    (named : ∀ field ∈ schema.fields, field.HasIdentifierNames)
    {backend : Backend}
    (standard : backend ∈ standardBackends) :
    ∃ plan : TablePlan,
      (schema.compile backend).outcome = .ok plan ∧
        (∀ statement ∈ plan.get :: plan.all :: plan.paginated :: plan.getters.map Getter.statement,
          outputNames (some backend.name) statement.sql =
            .ok (some (schema.fields.map Field.name))) ∧
          ∀ insert ∈ plan.insert, ∀ statement ∈ insert.fetchDefaults,
            outputNames (some backend.name) statement.sql = .ok (some insert.returnedFields) := by
  rcases Backend.exists_quotesKeywords standard with ⟨mark, quotes⟩
  have defaultsNamed : ∀ field ∈ schema.otherDefaults, field.HasIdentifierNames := by
    intro field member
    rw [otherDefaults, defaultFields, List.mem_filter, List.mem_filter] at member
    exact named field member.1.1
  have planned :
      ∃ insert : Option InsertPlan,
        schema.insertPlan? backend = .ok insert ∧
          ∀ plan ∈ insert, schema.insertPlan backend = .ok plan := by
    rw [insertPlan?]
    cases schema.insertable with
    | none => exact ⟨none, rfl, by simp⟩
    | some spec =>
        rcases schema.exists_insertPlan (able_of_standard standard) with ⟨plan, success⟩
        refine ⟨some plan, by rw [success]; rfl, ?_⟩
        rintro _ ⟨⟩
        exact success
  rcases planned with ⟨insert, success, isPlan⟩
  rw [compile, success]
  refine ⟨_, rfl, ?_, ?_⟩
  · intro statement member
    obtain ⟨tail, params, rfl⟩ :
        ∃ (tail : Template) (params : List String),
          statement = .ofTemplate backend (schema.selectFrom schema.fields ++ tail) params := by
      rcases member with _ | ⟨_, _ | ⟨_, _ | ⟨_, isGetter⟩⟩⟩
      · exact ⟨_, _, rfl⟩
      · exact ⟨[], [], by rw [List.append_nil]; rfl⟩
      · exact ⟨_, _, rfl⟩
      · rcases List.mem_map.1 isGetter with ⟨getter, listed, rfl⟩
        have generated : getter ∈ schema.getters backend := listed
        rw [getters] at generated
        rcases List.mem_map.1 generated with ⟨⟨field, kind, spec⟩, -, rfl⟩
        exact ⟨_, _, rfl⟩
    exact schema.outputNames_selectFrom named quotes tail params _
  · intro plan isInsert statement fetched
    rcases fetchDefaults_of_insertPlan (isPlan plan isInsert) fetched with ⟨returned, rfl⟩
    rw [returned]
    exact schema.outputNames_selectFrom defaultsNamed quotes _ _ _

/-- The identifier of an order, which the database generates. -/
def orderIdentifier : Field where
  name := "id"
  type := .type .text
  column := "id"
  isIdentifier := true
  isDefaultGenerated := true

/--
A table whose names are words of the language, renamed, or marked for conversion, with lookups, one
of them in a set, and a setter.
-/
def orders : TableSchema where
  entity := "Order"
  table := "order"
  identifier := orderIdentifier
  fields :=
    [orderIdentifier,
      { name := "from"
        type := .type .text
        column := "As"
        lookups := { many := some ⟨"by_from", .type .text⟩ } },
      { name := "total"
        type := .type .text
        column := "all"
        isCustomType := true
        lookups := { anyOf := some ⟨"get_by_any_total", .type (.sequence .text)⟩ }
        setterName := some "set_total" },
      { name := "created"
        type := .type .text
        column := "created_at"
        isDefaultGenerated := true }]
  insertable := some ⟨"NewOrder", []⟩
  deletable := true
  backend := "postgres"

theorem outputNames_orders :
    ((∀ field ∈ orders.fields, field.HasIdentifierNames) ∧ Backend.mysql ∈ standardBackends) ∧
      ∃ plan : TablePlan,
        (orders.compile .mysql).outcome = .ok plan ∧
          (∀ statement ∈
              plan.get :: plan.all :: plan.paginated :: plan.getters.map Getter.statement,
            outputNames (some Backend.mysql.name) statement.sql =
              .ok (some (orders.fields.map Field.name))) ∧
            ∀ insert ∈ plan.insert, ∀ statement ∈ insert.fetchDefaults,
              outputNames (some Backend.mysql.name) statement.sql =
                .ok (some insert.returnedFields) := by
  have named : ∀ field ∈ orders.fields, field.HasIdentifierNames := by decide +kernel
  have standard : Backend.mysql ∈ standardBackends := by simp [standardBackends]
  exact ⟨⟨named, standard⟩, outputNames_compile named standard⟩

end TableSchema

end SqlMapping
