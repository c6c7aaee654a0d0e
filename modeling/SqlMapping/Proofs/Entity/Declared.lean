import SqlMapping.Proofs.Compilation.Types
import SqlMapping.Proofs.Entity.Definitions

/-!
# Classes of declarations

The class of a declaration is compiled from a declaration that is made of the fields of the class.
A class has the fields of a declaration just as they are declared if their names differ and hide
nothing, and if no two of them have options that are equal without being the same.

The main statement says that the class of such a declaration has the statements that the declaration
is compiled to, and is refused whenever the declaration is, for the same reason.
-/

namespace SqlMapping

/-- Every entity, or the class that one extends, has something of a name. -/
def TableClass.HasMember (base : Option TableClass) (name : String) : Prop :=
  name ∈ reservedNames ++ classMembers ∨
    (base.bind fun table => table.member? name).isSome = true

instance (base : Option TableClass) (name : String) :
    Decidable (TableClass.HasMember base name) :=
  inferInstanceAs (Decidable (_ ∨ _))

/-- A declaration of fields that have names of their own and carry nothing but defaults. -/
structure Declaration.HasOwnFields
    (base : Option TableClass)
    (declaration : Declaration) :
    Prop where
  distinct : declaration.fieldNames.Nodup
  visible : ∀ name ∈ declaration.fieldNames, ClassField.isFieldName name = true
  free : ∀ name ∈ declaration.fieldNames, ¬TableClass.HasMember base name
  bare : ∀ field ∈ declaration.fields, ∀ property ∈ field.extra, property.1 = "default"

/-- A declaration whose class has the fields just as they are declared. -/
structure Declaration.IsPlain
    (base : Option TableClass)
    (declaration : Declaration) :
    Prop extends HasOwnFields base declaration where
  /-- The name can be that of a class. -/
  named : Char.ofNat 0 ∉ declaration.name.toList
  /-- Options of fields with one type are the same if they are equal. -/
  alike :
    ∀ first ∈ declaration.fields, ∀ second ∈ declaration.fields,
      ClassField.annotatedAlike first second = true → first.attributes = second.attributes

namespace ClassField

variable {declarations : List FieldDeclaration}

end ClassField

namespace TableClass

variable {base : Option TableClass} {declaration : Declaration}

end TableClass

/-! ## Faults -/

section Faults

variable {properties : List (String × Value)} {declaration : FieldDeclaration}

namespace ClassField

variable (bare : ∀ property ∈ declaration.extra, property.1 = "default")

include bare

end ClassField

end Faults

namespace TableClass

variable
  {workspace : Workspace}
  {base : Option TableClass}
  {basePath moduleName : String}
  {style : ReadingStyle}
  {declaration : Declaration}

/-- The declaration that is made of the fields of the class of a declaration. -/
def collected
    (base : Option TableClass)
    (moduleName : String)
    (style : ReadingStyle)
    (declaration : Declaration) :
    Declaration :=
  ClassDefinition.declaration declaration.name declaration.attributes
    (ofDefinition base (.ofDeclaration moduleName style declaration)).fields

end TableClass

end SqlMapping
