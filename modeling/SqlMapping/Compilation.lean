import SqlMapping.Schema.Patch
import SqlMapping.Statement.Patch
import SqlMapping.Statement.Table

/-!
# Compiling declarations

A declaration is checked and then every statement is generated.  The statements are generated
by the backend that is registered under the name that the checking backend gives itself.
-/

namespace SqlMapping

/-- Check a table declaration and generate its statements. -/
def compileTable (workspace : Workspace) (choice : BackendChoice) (declaration : Declaration) :
    Report TablePlan := do
  let schema ← TableSchema.ofDeclaration workspace choice declaration
  let backend ← Report.ofExcept (workspace.resolve (.ofKey? schema.backend))
  schema.compile backend

/-- Check a patch declaration and generate its statement. -/
def compilePatch
    (workspace : Workspace)
    (choice : BackendChoice)
    (target : Option TableSchema)
    (declaration : Declaration) :
    Report PatchPlan := do
  let schema ← PatchSchema.ofDeclaration workspace choice target declaration
  let backend ← Report.ofExcept (workspace.resolve (.ofKey? schema.backend))
  schema.compile backend

end SqlMapping
