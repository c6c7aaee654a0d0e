import SqlMapping.Database.Fault
import SqlMapping.Query.ItemName
import SqlMapping.Query.Branch
import SqlMapping.Settings
import SqlMapping.Text.Pattern.Fault
import SqlMapping.Validation.Issue
import SqlMapping.Value.Written

/-!
# Failures

The ways in which an operation on a database, or on the objects that stand for its rows, can
fail.  A failure is its cause; the wording is a function of the cause.
-/

namespace SqlMapping

/-- Where a row was required and there was none. -/
inductive MissingRow where
  /-- A query gave no row. -/
  | fetched
  /-- A statement affected no row of an entity. -/
  | affected (entity : String) (identifier : Value)

/-- The wording of a missing row. -/
def MissingRow.message : MissingRow → String
  | .fetched => "query returned no rows"
  | .affected entity identifier =>
    "no " ++ entity ++ " row with identifier " ++ identifier.literal

/-- Why a dotted path names no module that could be loaded. -/
inductive ModulePathFault where
  | empty
  | relative (name : String)
deriving DecidableEq

/-- The wording of an unusable module path. -/
def ModulePathFault.message : ModulePathFault → String
  | .empty => "Empty module name"
  | .relative name =>
    "the 'package' argument is required to perform a relative import for "
      ++ Text.quoteText name

/-- Why a number has no counterpart of another kind; `isDecimal` tells its own. -/
inductive NumberFault where
  | infinite (isDecimal : Bool)
  | missing (isDecimal : Bool)
  /-- An integer is too great for a floating-point number. -/
  | tooGreat
  /-- A span of time has too many days. -/
  | excessDays (days : Int)
deriving DecidableEq

/-- The wording of a number without a counterpart. -/
def NumberFault.message : NumberFault → String
  | .infinite true => "cannot convert Infinity to integer"
  | .infinite false => "cannot convert float infinity to integer"
  | .missing true => "cannot convert NaN to integer"
  | .missing false => "cannot convert float NaN to integer"
  | .tooGreat => "int too large to convert to float"
  | .excessDays days =>
    "days=" ++ toString days ++ "; must have magnitude <= "
      ++ toString Calendar.Duration.Counts.mostDays

/-- Why a value cannot be used where the operation needs another kind of value. -/
inductive KindMismatch where
  /-- There is no row to take a column from. -/
  | noRow
  /-- Members were expected of a value that has none. -/
  | noMembers (typeName : String)
  /-- A number was expected. -/
  | noNumber (typeName : String)
  /-- A patch was applied to an entity it does not belong to. -/
  | unrelatedPatch (patch entity : String)
  /-- A patch was applied to an entity of another backend. -/
  | otherBackend (patch patchBackend entity entityBackend : String)
  /-- A value that cannot be called was called. -/
  | notCallable (typeName : String)
  /-- A member was called without arguments that it needs. -/
  | missingArguments (member : String) (arguments : List String)
  /-- A member was called with more arguments than it takes. -/
  | excessArguments (member : String) (taken given : Nat)
  /-- A member was called with two values for one argument. -/
  | repeatedArgument (member argument : String)
  /-- A member was called with an argument that it does not have. -/
  | unexpectedArgument (member argument : String)
  /-- A limit of a field has no meaning for a value. -/
  | unusableLimit (cause : UnusableLimit)
  /-- A type was called without the arguments that it needs. -/
  | noBlank (type : TypeRef)
  /-- A number was expected that may have a fraction. -/
  | notReal (typeName : String)

/-- The wording of a limit that has no meaning for a value. -/
def UnusableLimit.message (cause : UnusableLimit) : String :=
  "Unable to apply constraint '" ++ cause.limit ++ "' to supplied value " ++ cause.value
    ++ ((cause.typeKind.map fun kind => " for schema of type '" ++ kind ++ "'").getD "")

/-- The wording of a type that cannot be called without arguments. -/
def blankMessage : TypeRef → String
  | .date | .datetime => "function missing required argument 'year' (pos 1)"
  | .uuid => "one of the hex, bytes, bytes_le, fields, or int arguments must be given"
  | .anything => "Any cannot be instantiated"
  | .optional _ => "Cannot instantiate typing.Union"
  | type => type.shortName ++ " cannot be instantiated"

/-- A noun in the number that a count asks for. -/
def plural (count : Nat) (noun : String) : String :=
  if count = 1 then noun else noun ++ "s"

/-- Texts enumerated in a sentence. -/
def enumeration : List String → String
  | [] => ""
  | [only] => only
  | [first, last] => first ++ " and " ++ last
  | first :: second :: third :: rest =>
    ", ".intercalate ((first :: second :: third :: rest).dropLast) ++ ", and "
      ++ (third :: rest).getLastD third

/-- The wording of a mismatch of kinds. -/
def KindMismatch.message : KindMismatch → String
  | .noRow => "'NoneType' object is not subscriptable"
  | .noMembers typeName => "'" ++ typeName ++ "' object is not iterable"
  | .noNumber typeName =>
    "int() argument must be a string, a bytes-like object or a real number, not '"
      ++ typeName ++ "'"
  | .unrelatedPatch patch entity => patch ++ " does not patch " ++ entity
  | .otherBackend patch patchBackend entity entityBackend =>
    patch ++ " is compiled for " ++ patchBackend ++ ", " ++ entity ++ " uses " ++ entityBackend
  | .notCallable typeName => "'" ++ typeName ++ "' object is not callable"
  | .missingArguments member arguments =>
    member ++ "() missing " ++ toString arguments.length ++ " required positional "
      ++ plural arguments.length "argument" ++ ": "
      ++ enumeration (arguments.map fun argument => "'" ++ argument ++ "'")
  | .excessArguments member taken given =>
    member ++ "() takes " ++ toString taken ++ " positional " ++ plural taken "argument"
      ++ " but " ++ toString given ++ (if given = 1 then " was" else " were") ++ " given"
  | .repeatedArgument member argument =>
    member ++ "() got multiple values for argument '" ++ argument ++ "'"
  | .unexpectedArgument member argument =>
    member ++ "() got an unexpected keyword argument '" ++ argument ++ "'"
  | .unusableLimit cause => cause.message
  | .noBlank type => blankMessage type
  | .notReal typeName => "must be real number, not " ++ typeName

/-- Why no class can be made of a name and of declared fields. -/
inductive FieldFault where
  /-- The name of the class has a null character. -/
  | nullName
  /-- A name with a leading underscore cannot have properties. -/
  | hiddenName (name : String)
  | twoDefaults
  /-- Another key is no text. -/
  | unusableKey
  /-- A type of this kind knows nothing of a property. -/
  | unsuited (property typeKind : String)
  /-- The name is that of a member of a class, and its first part is not free. -/
  | takenName (name path taken : String)
  /-- Nothing says how the values of a class are read. -/
  | unreadType (type : TypeRef)
  /-- A pattern cannot be read; the kinds of the readers around it are given. -/
  | unreadPattern (name : String) (readers : List String) (pattern : String)
      (cause : Text.PatternFault)
deriving DecidableEq

/-- A name without its leading underscores, or another one if nothing is left. -/
def FieldFault.visibleName (name : String) : String :=
  let rest := name.toList.dropWhile (· = '_')
  if rest.isEmpty then "my_field" else String.ofList rest

/-- The wording of what went wrong inside readers of some kinds, from the outermost one on. -/
def FieldFault.insideMessage (readers : List String) (cause : String) : String :=
  readers.foldr
    (fun reader inner => "Error building \"" ++ reader ++ "\" validator:\n  SchemaError: " ++ inner)
    cause

/-- The wording of a name or of fields that no class can be made of. -/
def FieldFault.message : FieldFault → String
  | .nullName => "type name must not contain null characters"
  | .hiddenName name =>
    "Fields must not use names with leading underscores; e.g., use "
      ++ Text.quoteText (visibleName name) ++ " instead of " ++ Text.quoteText name ++ "."
  | .twoDefaults => "cannot specify both default and default_factory"
  | .unusableKey =>
    "Invalid `validation_alias` type. it should be `str`, `AliasChoices`, or `AliasPath`"
  | .unsuited property typeKind =>
    "Unable to apply constraint '" ++ property ++ "' to schema of type '" ++ typeKind ++ "'"
  | .takenName name path taken =>
    "Field '" ++ name ++ "' conflicts with member <bound method BaseModel." ++ name
      ++ " of <class '" ++ path ++ "'>> of protected namespace '" ++ taken ++ "'."
  | .unreadType type => "Unable to generate pydantic-core schema for " ++ type.literal ++ "."
  | .unreadPattern name readers pattern cause =>
    insideMessage ["model", "model-fields"]
      ("Field \"" ++ name ++ "\":\n  SchemaError: "
        ++ insideMessage readers (cause.message pattern))

/-- Why an operation failed. -/
inductive Failure where
  /-- The driver raised an ordinary fault. -/
  | connection (name shown : String) (sql : Option String)
  | rowNotFound (cause : MissingRow) (sql : String)
  | multipleRows (sql : String)
  /-- A row does not fit what it is decoded into. -/
  | undecodable (issues : List Issue) (sql : String)
  /-- A fault that is not the driver's own. -/
  | raised (fault : Fault)
  /-- Data that does not fit a model or a type. -/
  | invalid (issues : List Issue)
  | refused (error : BuildError)
  | mismatch (cause : KindMismatch)
  /-- A row without any column. -/
  | emptyRow
  /-- An object or a class lacks a member. -/
  | missingMember (name : String)
  /-- A part that a class holds was assigned on one of its objects. -/
  | sharedMember (className member : String)
  /-- A computed member was assigned. -/
  | readOnlyMember (className member : String)
  /-- A name was assigned on a value that has no fields. -/
  | noMember (typeName member : String)
  /-- Nothing is held under a name. -/
  | unknownName (name : String)
  /-- A value was assigned to a field that the object lacks. -/
  | unknownField (className field : String)
  | modulePath (cause : ModulePathFault)
  | unusableField (fault : FieldFault)
  | call (error : Query.CallError)
  | unnamedColumn (fault : Query.NameFault)
  | settings (error : SettingsError)
  /-- A literal that is not read as an integer. -/
  | notAnInteger (literal : String) (fault : Text.IntegerFault)
  | number (fault : NumberFault)
  /-- A text that stands for no value of its kind. -/
  | unreadable (fault : WrittenFault)
  /-- The limit of branch points is out of the range of numbers. -/
  | limitOutOfRange
  /-- A number has too many digits to be written. -/
  | excessDigits
  /-- An operation on decimals has no result. -/
  | arithmetic (signal : Decimal.Signal)
  /-- A number was divided by zero, and one of the two is a floating-point number or none is. -/
  | zeroModulus (isFloat : Bool)

namespace Failure

/-- The failure that a fault becomes where it leaves the driver. -/
def ofFault (sql : Option String) (fault : Fault) : Failure :=
  match fault.kind with
  | .ordinary => .connection fault.name fault.shown sql
  | .interruption | .failure => .raised fault

/-- The failure of reading that has ended before the end of the data. -/
def ofStop : ReadingStop → Failure
  | .unusableLimit cause => .mismatch (.unusableLimit cause)
  | .noResult signal => .arithmetic signal
  | .zeroModulus isFloat => .zeroModulus isFloat
  | .notCallable typeName => .mismatch (.notCallable typeName)
  | .noBlank type => .mismatch (.noBlank type)
  | .notReal typeName => .mismatch (.notReal typeName)
  | .tooGreat => .number .tooGreat
  | .excessDays days => .number (.excessDays days)

/-- The failure that issues lead to; those with which reading has ended are the only ones. -/
def ofIssues (build : List Issue → Failure) (issues : List Issue) : Failure :=
  match Issue.final issues with
  | [] => build issues
  | first :: rest =>
    match first.kind with
    | .stop cause => ofStop cause
    | _ => build (first :: rest)

/-- Data that does not fit a model or a type. -/
def ofInvalid (issues : List Issue) : Failure := ofIssues .invalid issues

/-- The failure of binding a statement. -/
def ofBindError : BindError → Failure
  | .missingArgument name => .unknownName name
  | .missingField name => .missingMember name
  | .repeatedArgument member name => .mismatch (.repeatedArgument member name)

/-- The wording of a failure. -/
def message : Failure → String
  | .connection name shown _ => name ++ ": " ++ shown
  | .rowNotFound cause _ => cause.message
  | .multipleRows _ => "query returned more than one row"
  | .undecodable _ _ => "cannot decode row"
  | .raised fault => fault.text
  | .invalid _ => "validation failed"
  | .refused error => error.message
  | .mismatch cause => cause.message
  | .emptyRow => "tuple index out of range"
  | .missingMember name => name
  | .sharedMember className member =>
    "'" ++ member ++ "' is a ClassVar of `" ++ className
      ++ "` and cannot be set on an instance. If you want to set a value on the class, use `"
      ++ className ++ "." ++ member ++ " = value`."
  | .readOnlyMember className member =>
    "property '" ++ member ++ "' of '" ++ className ++ "' object has no setter"
  | .noMember typeName member =>
    "'" ++ typeName ++ "' object has no attribute '" ++ member ++ "'"
  | .unknownName name => name
  | .unknownField className field =>
    "\"" ++ className ++ "\" object has no field \"" ++ field ++ "\""
  | .modulePath cause => cause.message
  | .unusableField fault => fault.message
  | .call error => error.message
  | .unnamedColumn fault => fault.message
  | .settings error => error.message
  | .notAnInteger literal fault => SettingsError.integerMessage literal fault
  | .number fault => fault.message
  | .unreadable fault => fault.message
  | .limitOutOfRange => Query.ExpansionFault.rangeMessage
  | .excessDigits => Query.ExpansionFault.digitsMessage
  | .arithmetic signal => signal.message
  | .zeroModulus true => "float modulo"
  | .zeroModulus false => "integer modulo by zero"

/-- The statement that was being executed, where the failure names one. -/
def sql? : Failure → Option String
  | .connection _ _ sql => sql
  | .rowNotFound _ sql | .multipleRows sql | .undecodable _ sql => some sql
  | _ => none

end Failure

end SqlMapping
