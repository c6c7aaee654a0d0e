import Mathlib.Tactic.SplitIfs
import SqlMapping.Proofs.Statement.Numbering

/-!
# Backends that render alike

The statements of a table depend on few properties of the backend: how it quotes identifiers and
marked labels, how it writes placeholders and set tests, whether an insert returns columns, and
how the generated identifier is queried otherwise.

The main statement says that two backends which agree on these generate the same statements for
every table.
-/

namespace SqlMapping

namespace Backend

/-- The test that a column is among the members of the only argument. -/
def setTest (backend : Backend) (column : String) : String :=
  backend.membership (backend.quote column) (backend.placeholder 0)

/-- Two backends that generate the same statements. -/
structure RendersAlike (left right : Backend) : Prop where
  name_eq : left.name = right.name
  quote_eq : ∀ identifier, left.quote identifier = right.quote identifier
  label_eq : ∀ name, left.enclose (name ++ typeMarker) = right.enclose (name ++ typeMarker)
  placeholder_eq : ∀ used, left.placeholder used = right.placeholder used
  setTest_eq : ∀ column, left.setTest column = right.setTest column
  supportsReturning_eq : left.supportsReturning = right.supportsReturning
  lastInsertId_eq : left.supportsReturning = false → left.lastInsertId = right.lastInsertId

end Backend

/-! ## Templates with marked labels -/

/-- A part that is no set test, whose label is a name with the type mark. -/
@[simp]
def Piece.IsMarked : Piece → Prop
  | .label name => ∃ field, name = field ++ typeMarker
  | .membership _ => False
  | .word _ | .identifier _ | .placeholder => True

namespace Template

/-- A template of marked parts. -/
def IsMarked (template : Template) : Prop :=
  ∀ piece ∈ template, piece.IsMarked

variable {left right : Template}

theorem IsMarked.append (leftMarked : IsMarked left) (rightMarked : IsMarked right) :
    IsMarked (left ++ right) :=
  List.forall_mem_append.2 ⟨leftMarked, rightMarked⟩

@[simp]
theorem isMarked_nil : IsMarked [] :=
  List.forall_mem_nil Piece.IsMarked

@[simp]
theorem isMarked_cons_iff {piece : Piece} {rest : Template} :
    IsMarked (piece :: rest) ↔ piece.IsMarked ∧ IsMarked rest :=
  List.forall_mem_cons

theorem IsMarked.cons
    {piece : Piece}
    {rest : Template}
    (isMarked : piece.IsMarked)
    (restMarked : IsMarked rest) :
    IsMarked (piece :: rest) :=
  isMarked_cons_iff.2 ⟨isMarked, restMarked⟩

/-- Separated templates are marked if each of them is. -/
theorem isMarked_separated
    {templates : List Template}
    (marked : ∀ template ∈ templates, IsMarked template) :
    IsMarked (separated templates) := by
  induction templates with
  | nil => exact isMarked_nil
  | cons first others inductionHypothesis =>
      have firstMarked := marked first List.mem_cons_self
      have othersMarked :=
        inductionHypothesis fun template member =>
          marked template (List.mem_cons_of_mem first member)
      cases others with
      | nil => exact firstMarked
      | cons second rest => exact firstMarked.append (othersMarked.cons trivial)

theorem isMarked_separated_map
    {α : Type}
    {entries : List α}
    {templateOf : α → Template}
    (marked : ∀ entry, IsMarked (templateOf entry)) :
    IsMarked (separated (entries.map templateOf)) := by
  refine isMarked_separated fun template member => ?_
  rcases List.mem_map.1 member with ⟨entry, -, rfl⟩
  exact marked entry

/-- Marked templates are rendered alike by backends that render alike. -/
theorem texts_eq
    {first second : Backend}
    (alike : first.RendersAlike second)
    {template : Template}
    (marked : IsMarked template)
    (used : Nat) :
    template.texts first used = template.texts second used := by
  induction template generalizing used with
  | nil => rfl
  | cons piece rest inductionHypothesis =>
      rcases isMarked_cons_iff.1 marked with ⟨isMarked, restMarked⟩
      rw [texts, texts, inductionHypothesis restMarked]
      congr 1
      cases piece with
      | word content => rfl
      | identifier name => exact alike.quote_eq name
      | label name =>
          rcases isMarked with ⟨field, rfl⟩
          exact alike.label_eq field
      | placeholder => exact alike.placeholder_eq used
      | membership column => exact isMarked.elim

end Template

theorem Statement.ofTemplate_eq
    {first second : Backend}
    (alike : first.RendersAlike second)
    {template : Template}
    (marked : template.IsMarked)
    (params : List String) :
    ofTemplate first template params = ofTemplate second template params := by
  rw [ofTemplate, ofTemplate, Template.render, Template.render, Template.texts_eq alike marked,
    alike.name_eq]

/-! ## Templates of a table -/

theorem isMarked_selectList (fields : List Field) : (selectList fields).IsMarked := by
  refine Template.isMarked_separated fun template member => ?_
  rcases List.mem_map.1 member with ⟨field, -, rfl⟩
  rw [Field.selectItem]
  split_ifs
  · simp
  · simp
  · simp

theorem isMarked_assignments (columns : List String) : (assignments columns).IsMarked :=
  Template.isMarked_separated_map (by simp)

namespace TableSchema

theorem isMarked_whereIdentifier (schema : TableSchema) : schema.whereIdentifier.IsMarked := by
  simp [whereIdentifier]

theorem isMarked_selectFrom (schema : TableSchema) (fields : List Field) :
    (schema.selectFrom fields).IsMarked := by
  have table : Template.IsMarked [.word " FROM ", .identifier schema.table] := by
    simp
  exact ((isMarked_selectList fields).append table).cons trivial

theorem isMarked_updateTemplate (schema : TableSchema) (columns : List String) :
    (schema.updateTemplate columns).IsMarked := by
  have front : Template.IsMarked [.word "UPDATE ", .identifier schema.table, .word " SET "] := by
    simp
  exact (front.append (isMarked_assignments columns)).append schema.isMarked_whereIdentifier

theorem isMarked_insertTemplate (schema : TableSchema) : schema.insertTemplate.IsMarked := by
  rw [insertTemplate]
  split
  · simp
  · have front :
        Template.IsMarked [.word "INSERT INTO ", .identifier schema.table, .word " ("] := by
      simp
    have back : Template.IsMarked [.word ")"] := by simp
    have columns :
        (Template.separated
          (schema.insertFields.map fun field => [.identifier field.column])).IsMarked :=
      Template.isMarked_separated_map (by simp)
    have values :
        (Template.separated (schema.insertFields.map fun _ => [.placeholder])).IsMarked :=
      Template.isMarked_separated_map (by simp)
    exact ((front.append columns).append (values.cons (by trivial))).append back

/-! ## Statements of a table -/

variable {left right : Backend}

/-- Lookups test a set, if at all, at the first placeholder of the statement. -/
theorem ofTemplate_lookupTemplate_eq
    (alike : left.RendersAlike right)
    (schema : TableSchema)
    (kind : LookupKind)
    (field : Field)
    (params : List String) :
    Statement.ofTemplate left (schema.lookupTemplate kind field) params =
      Statement.ofTemplate right (schema.lookupTemplate kind field) params := by
  have selected := schema.isMarked_selectFrom schema.fields
  have compared :
      Template.IsMarked
        [.word " WHERE ", .identifier field.column, .word " = ", .placeholder] := by
    simp
  cases kind with
  | anyOf =>
      have tested :
          Template.texts left 0 [.word " WHERE ", .membership field.column] =
            Template.texts right 0 [.word " WHERE ", .membership field.column] :=
        congrArg (fun test => [" WHERE ", test]) (alike.setTest_eq field.column)
      rw [Statement.ofTemplate, Statement.ofTemplate, Template.render, Template.render,
        lookupTemplate, lookupCondition, Template.texts_append, Template.texts_append,
        schema.placeholderCount_selectFrom, Template.texts_eq alike selected, tested,
        alike.name_eq]
  | one => exact Statement.ofTemplate_eq alike (selected.append compared) params
  | optional => exact Statement.ofTemplate_eq alike (selected.append compared) params
  | many => exact Statement.ofTemplate_eq alike (selected.append compared) params

/-- The statements of an insert depend on what both backends agree on. -/
theorem insertPlan_eq
    (alike : left.RendersAlike right)
    (schema : TableSchema) :
    schema.insertPlan left = schema.insertPlan right := by
  have insert := schema.isMarked_insertTemplate
  have defaults :=
    (schema.isMarked_selectFrom schema.otherDefaults).append schema.isMarked_whereIdentifier
  have returned :
      (schema.insertTemplate
        ++ .word " RETURNING "
          :: selectList (schema.identifier :: schema.otherDefaults)).IsMarked :=
    insert.append ((isMarked_selectList _).cons trivial)
  rw [insertPlan, insertPlan]
  dsimp only
  rw [← alike.supportsReturning_eq]
  by_cases returning : left.supportsReturning = true
  · rw [if_pos returning, if_pos returning, Statement.ofTemplate_eq alike returned]
  · have noReturning : left.supportsReturning = false := Bool.of_not_eq_true returning
    rw [if_neg returning, if_neg returning, alike.lastInsertId_eq noReturning, alike.name_eq,
      Statement.ofTemplate_eq alike insert, Statement.ofTemplate_eq alike defaults]

/-- Backends that render alike generate the same statements, with the same notices. -/
theorem compile_eq
    (alike : left.RendersAlike right)
    (schema : TableSchema) :
    schema.compile left = schema.compile right := by
  have insert : schema.insertPlan? left = schema.insertPlan? right := by
    rw [insertPlan?, insertPlan?, insertPlan_eq alike]
  have columns : columnList left schema.fields = columnList right schema.fields := by
    rw [columnList, columnList, Template.render, Template.render,
      Template.texts_eq alike (isMarked_selectList schema.fields)]
  have readAll := schema.isMarked_selectFrom schema.fields
  have page :
      Template.IsMarked [.word " LIMIT ", .placeholder, .word " OFFSET ", .placeholder] := by
    simp
  have delete : schema.deleteTemplate.IsMarked := by
    have front : Template.IsMarked [.word "DELETE FROM ", .identifier schema.table] := by
      simp
    exact front.append schema.isMarked_whereIdentifier
  have update : schema.update? left = schema.update? right := by
    rw [update?, update?, Statement.ofTemplate_eq alike (schema.isMarked_updateTemplate _)]
  have setters : schema.setters left = schema.setters right := by
    simp only [setters, Statement.ofTemplate_eq alike (schema.isMarked_updateTemplate _)]
  have getters : schema.getters left = schema.getters right := by
    simp only [getters, getter, ofTemplate_lookupTemplate_eq alike]
  have get : schema.getTemplate.IsMarked := readAll.append schema.isMarked_whereIdentifier
  have all : schema.allTemplate.IsMarked := readAll
  have paginated : schema.paginatedTemplate.IsMarked := readAll.append page
  rw [compile, compile, insert, columns, Statement.ofTemplate_eq alike get,
    Statement.ofTemplate_eq alike all, Statement.ofTemplate_eq alike paginated,
    Statement.ofTemplate_eq alike delete, update, setters, getters]

end TableSchema

end SqlMapping
