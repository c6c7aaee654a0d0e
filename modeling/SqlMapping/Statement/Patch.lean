import SqlMapping.Report
import SqlMapping.Statement.SelectList

/-!
# The statement of a patch

A patch is one statement that assigns its fields, in order, to the row of an identifier.
-/

namespace SqlMapping

/-- A patch with its statement. -/
structure PatchPlan where
  schema : PatchSchema
  /-- Binds the fields of the patch and then the identifier. -/
  statement : Statement

namespace PatchSchema

/-- Writing the patched columns of the row of an identifier. -/
def template (schema : PatchSchema) : Template :=
  [.word "UPDATE ", .identifier schema.targetTable, .word " SET "]
    ++ assignments (schema.fields.map PatchField.column)
    ++ [.word " WHERE ", .identifier schema.identifierColumn, .word " = ", .placeholder]

/-- Generate the statement of a patch, which needs at least one field. -/
def compile (schema : PatchSchema) (backend : Backend) : Report PatchPlan :=
  if schema.fields.isEmpty then .fail (.compilation (.emptyPatch schema.entity))
  else
    let statement : Statement :=
      .ofTemplate backend schema.template (schema.fields.map PatchField.name ++ ["$id"])
    ⟨[.statement schema.entity "patch_row" statement.sql], .ok ⟨schema, statement⟩⟩

end PatchSchema

end SqlMapping
