import SqlMapping.Proofs.Schema.Requirements
import SqlMapping.Proofs.Schema.Table

/-!
# Well-formed table declarations

A table declaration is well-formed when its options and those of its fields are allowed, given once
and of their shapes, its backend is there, it names its table and one of its fields as identifier,
and the functions generated for its fields all have names of their own.

The main statement says that a declaration is well-formed when it meets each of a list of
requirements, which stand in the order in which a declaration is refused for them.
-/

namespace SqlMapping

/-! ## Options as they are declared -/

/-- The value that is declared under a key. -/
def Attribute.value? (attributes : List Attribute) (key : String) : Option Value :=
  (attributes.find? fun option => option.key = key).map Attribute.value

/-- The text that is declared under a key. -/
def Attribute.text? (attributes : List Attribute) (key : String) : Option String :=
  (value? attributes key).bind Value.asText?

/-- The name that an option value gives, if it gives one that is not empty. -/
def Value.givenName? (value : Value) : Option String :=
  let name :=
    match value with
    | .text name => some name
    | .lookupOption name _ => name
    | .object entries => (entries.lookup "name").bind encodedText?
    | _ => none
  name.filter fun name => !name.isEmpty

namespace FieldDeclaration

/-- The options that generate functions, with the beginnings of the names that these have. -/
def accessorOptions : List (String × String) :=
  [("get_one", "by_"), ("get_optional", "by_"), ("get_many", "by_"),
    ("get_by_any", "get_by_any_"), ("set", "set_")]

/-- The names of the functions generated for a field, given or made from the field's name. -/
def accessorNames (field : FieldDeclaration) : List String :=
  accessorOptions.filterMap fun (key, beginning) =>
    (Attribute.value? field.attributes key).map fun value =>
      value.givenName?.getD (beginning ++ field.name)

/-- The database generates the value of the field. -/
def IsGenerated (field : FieldDeclaration) : Prop :=
  Attribute.value? field.attributes "default" = some (.bool true)

end FieldDeclaration

/-- The key of the backend that is chosen, unless it is given as such. -/
def Workspace.keyOf? (workspace : Workspace) : BackendChoice → Option String
  | .configured => some workspace.settings.defaultBackend
  | .registered key => some key
  | .given _ => none

/-- A backend is registered for a choice, or is given with it. -/
def Workspace.Has (workspace : Workspace) (choice : BackendChoice) : Prop :=
  ∀ key, workspace.keyOf? choice = some key → (workspace.registry.find? key).isSome = true

namespace Declaration

/-- The choice of a backend that a declaration makes, or else that of its caller. -/
def backendChoice (declaration : Declaration) (choice : BackendChoice) : BackendChoice :=
  match Attribute.text? declaration.attributes "backend" with
  | some key => .registered key
  | none => choice

/-- The names of all generated functions, each with the name of its field. -/
def accessors (declaration : Declaration) : List (String × String) :=
  declaration.fields.flatMap fun field => field.accessorNames.map fun name => (field.name, name)

/-- A declaration that a table can be made of. -/
structure IsWellFormed
    (workspace : Workspace)
    (choice : BackendChoice)
    (declaration : Declaration) :
    Prop where
  options : OptionGrammar.table.Accepts declaration.attributes
  backend : workspace.Has (declaration.backendChoice choice)
  table : ∃ option ∈ declaration.attributes, option.key = "table"
  identifier : ∃ option ∈ declaration.attributes, option.key = "id"
  isField :
    ∀ name, Attribute.text? declaration.attributes "id" = some name →
      name ∈ declaration.fieldNames
  fields : ∀ field ∈ declaration.fields, OptionGrammar.tableField.Accepts field.attributes
  insertable :
    ∀ field ∈ declaration.fields, field.IsGenerated →
      ∃ option ∈ declaration.attributes, option.key = "insertable"
  names : (declaration.accessors.map Prod.snd).Nodup

/-- Names that are all new, each refused at its field. -/
def nameRequirements (entity : String) :
    (earlier : List String) → List (String × String) → List Requirement
  | _, [] => []
  | earlier, (field, name) :: rest =>
    ⟨name ∉ earlier, .nameCollision name (entity ++ "." ++ field)⟩ ::
      nameRequirements entity (name :: earlier) rest

/-- What is required of a declaration, in the order in which it is refused for it. -/
def requirements
    (workspace : Workspace)
    (choice : BackendChoice)
    (declaration : Declaration) :
    List Requirement :=
  let entity := declaration.name
  let choice := declaration.backendChoice choice
  let identifier := Attribute.text? declaration.attributes "id"
  OptionGrammar.table.requirements entity [] declaration.attributes ++
  [⟨workspace.Has choice,
      .compilation
        (.unsupportedBackend ((workspace.keyOf? choice).getD "") workspace.registry.keys)⟩,
    ⟨∃ option ∈ declaration.attributes, option.key = "table", .missingAttribute "table" entity⟩,
    ⟨∃ option ∈ declaration.attributes, option.key = "id", .missingAttribute "id" entity⟩,
    ⟨∀ name, identifier = some name → name ∈ declaration.fieldNames,
      .unknownIdentifierField (identifier.getD "") declaration.fieldNames entity⟩] ++
  (declaration.fields.flatMap fun field =>
    OptionGrammar.tableField.requirements (entity ++ "." ++ field.name) [] field.attributes) ++
  (declaration.fields.map fun field =>
    ⟨field.IsGenerated → ∃ option ∈ declaration.attributes, option.key = "insertable",
      .defaultWithoutInsertable field.name entity⟩) ++
  nameRequirements entity [] declaration.accessors

theorem allHold_nameRequirements_iff
    {entity : String}
    {earlier : List String}
    {accessors : List (String × String)} :
    Requirement.AllHold (nameRequirements entity earlier accessors) ↔
      (accessors.map Prod.snd).Nodup ∧ ∀ name ∈ accessors.map Prod.snd, name ∉ earlier := by
  induction accessors generalizing earlier with
  | nil =>
      constructor
      · intro _
        refine ⟨List.nodup_nil, fun name member => ?_⟩
        cases member
      · intro _ requirement member
        cases member
  | cons accessor rest inductionHypothesis =>
      rcases accessor with ⟨field, name⟩
      rw [nameRequirements, Requirement.allHold_cons_iff, inductionHypothesis, List.map_cons,
        List.nodup_cons, List.forall_mem_cons]
      constructor
      · rintro ⟨fresh, distinct, later⟩
        refine ⟨⟨fun isRest => ?_, distinct⟩, fresh, fun other isRest isEarlier => ?_⟩
        · exact later name isRest List.mem_cons_self
        · exact later other isRest (List.mem_cons_of_mem name isEarlier)
      · rintro ⟨⟨notRest, distinct⟩, fresh, others⟩
        refine ⟨fresh, distinct, fun other isRest isSeen => ?_⟩
        rcases List.mem_cons.1 isSeen with rfl | isEarlier
        · exact notRest isRest
        · exact others other isRest isEarlier

/-- A declaration is well-formed exactly when it meets every requirement. -/
theorem allHold_requirements_iff
    {workspace : Workspace}
    {choice : BackendChoice}
    {declaration : Declaration} :
    Requirement.AllHold (declaration.requirements workspace choice) ↔
      declaration.IsWellFormed workspace choice := by
  have names :
      Requirement.AllHold (nameRequirements declaration.name [] declaration.accessors) ↔
        (declaration.accessors.map Prod.snd).Nodup := by
    rw [allHold_nameRequirements_iff]
    exact and_iff_left fun _ _ => List.not_mem_nil
  have fields :
      Requirement.AllHold
          (declaration.fields.flatMap fun field =>
            OptionGrammar.tableField.requirements (declaration.name ++ "." ++ field.name) []
              field.attributes) ↔
        ∀ field ∈ declaration.fields, OptionGrammar.tableField.Accepts field.attributes := by
    rw [Requirement.AllHold, List.forall_mem_flatMap]
    exact forall₂_congr fun field _ => OptionGrammar.allHold_iff_accepts
  have defaults :
      Requirement.AllHold
          (declaration.fields.map fun field =>
            ⟨field.IsGenerated → ∃ option ∈ declaration.attributes, option.key = "insertable",
              .defaultWithoutInsertable field.name declaration.name⟩) ↔
        ∀ field ∈ declaration.fields, field.IsGenerated →
          ∃ option ∈ declaration.attributes, option.key = "insertable" := by
    rw [Requirement.AllHold, List.forall_mem_map]
  rw [requirements, Requirement.allHold_append_iff, Requirement.allHold_append_iff,
    Requirement.allHold_append_iff, Requirement.allHold_append_iff,
    OptionGrammar.allHold_iff_accepts, fields, defaults, names, Requirement.allHold_cons_iff,
    Requirement.allHold_cons_iff, Requirement.allHold_cons_iff, Requirement.allHold_cons_iff]
  constructor
  · rintro ⟨⟨⟨⟨options, backend, table, identifier, isField, -⟩, fields⟩, defaults⟩, names⟩
    exact ⟨options, backend, table, identifier, isField, fields, defaults, names⟩
  · rintro ⟨options, backend, table, identifier, isField, fields, defaults, names⟩
    refine ⟨⟨⟨⟨options, backend, table, identifier, isField, ?_⟩, fields⟩, defaults⟩, names⟩
    intro requirement member
    cases member

end Declaration

end SqlMapping
