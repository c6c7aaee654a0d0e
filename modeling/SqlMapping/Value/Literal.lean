import SqlMapping.Calendar.Moment
import SqlMapping.Text.Quoted
import SqlMapping.Value

/-!
# Literal and plain texts of values

Messages show a value by its literal text: texts are quoted, containers are bracketed and
their items are literals again.  The plain text of a value is its literal text, except that
texts, decimals, points in time and identifiers stand for themselves, and that records are
shown by their fields alone.
-/

namespace SqlMapping

namespace TypeRef

/-- The dotted path of a type that is a class. -/
def path? : TypeRef → Option String
  | .integer => some "builtins.int"
  | .text => some "builtins.str"
  | .float => some "builtins.float"
  | .boolean => some "builtins.bool"
  | .bytes => some "builtins.bytes"
  | .decimal => some "decimal.Decimal"
  | .datetime => some "datetime.datetime"
  | .date => some "datetime.date"
  | .time => some "datetime.time"
  | .uuid => some "uuid.UUID"
  | .anything => some "typing.Any"
  | .dictionary => some "builtins.dict"
  | .list => some "builtins.list"
  | .duration => some "datetime.timedelta"
  | .entity _ path | .foreign path => some path
  | .optional _ => none
  | .sequence _ => none
  | .mapping _ => none

/-- The types that are made of no other types and belong to no session. -/
def simple : List TypeRef :=
  [.integer, .text, .float, .boolean, .bytes, .decimal, .datetime, .date, .time, .uuid,
    .anything, .dictionary, .list, .duration]

/-- The path of a class as it is shown, which is just the name for a class known everywhere. -/
def shownPath (path : String) : String :=
  let everywhere := "builtins.".toList
  if everywhere.isPrefixOf path.toList then String.ofList (path.toList.drop everywhere.length)
  else path

/-- The name of a type inside a larger type. -/
def shortName : TypeRef → String
  | .integer => "int"
  | .text => "str"
  | .float => "float"
  | .boolean => "bool"
  | .bytes => "bytes"
  | .decimal => "decimal.Decimal"
  | .datetime => "datetime.datetime"
  | .date => "datetime.date"
  | .time => "datetime.time"
  | .uuid => "uuid.UUID"
  | .anything => "typing.Any"
  | .dictionary => "dict"
  | .list => "list"
  | .duration => "datetime.timedelta"
  | .entity _ path => path
  | .foreign path => shownPath path
  | .optional inner => "typing.Optional[" ++ inner.shortName ++ "]"
  | .sequence inner => "collections.abc.Sequence[" ++ inner.shortName ++ "]"
  | .mapping inner => "dict[str, " ++ inner.shortName ++ "]"

/-- The literal text of a type. -/
def literal : TypeRef → String
  | .anything => "typing.Any"
  | .optional inner => (TypeRef.optional inner).shortName
  | .sequence inner => (TypeRef.sequence inner).shortName
  | .mapping inner => (TypeRef.mapping inner).shortName
  | reference => "<class '" ++ reference.shortName ++ "'>"

end TypeRef

namespace WrittenKind

/-- A call with some arguments. -/
def call (name : String) (arguments : List String) : String :=
  name ++ "(" ++ ", ".intercalate arguments ++ ")"

/-- The argument that stands for a zone, if there is one. -/
def zoneArgument : Option Int → List String
  | none => []
  | some minutes =>
    if minutes = 0 then ["tzinfo=datetime.timezone.utc"]
    else
      let seconds := minutes * 60
      let days := if seconds < 0 then ["days=-1"] else []
      let rest := if seconds < 0 then seconds + (Calendar.Clock.daySeconds : Nat) else seconds
      let distance := call "datetime.timedelta" (days ++ ["seconds=" ++ toString rest])
      ["tzinfo=" ++ call "datetime.timezone" [distance]]

/-- The arguments that stand for a time of the day; zeros at the end are left out. -/
def clockArguments (clock : Calendar.Clock) : List String :=
  let small := [clock.second, clock.millionths]
  let shown := (small.reverse.dropWhile (· = 0)).reverse
  ([clock.hour, clock.minute] ++ shown).map (fun number => toString number)
    ++ zoneArgument clock.zone

/-- The arguments that stand for a date. -/
def dateArguments (date : Calendar.Date) : List String :=
  [date.year, date.month, date.day].map fun number => toString number

/-- The literal text of a value that is kept as its written text. -/
def literal (kind : WrittenKind) (content : String) : String :=
  let characters := content.toList
  match kind with
  | .decimal => "Decimal('" ++ content ++ "')"
  | .uuid => "UUID('" ++ content ++ "')"
  | .date =>
    call "datetime.date" (((Calendar.Date.read characters).map dateArguments).getD [])
  | .time =>
    call "datetime.time" (((Calendar.Clock.read characters).map clockArguments).getD [])
  | .datetime =>
    let arguments := (Calendar.Moment.readWritten characters).map fun moment =>
      dateArguments moment.date ++ clockArguments moment.clock
    call "datetime.datetime" (arguments.getD [])

/-- The plain text of a value that is kept as its written text. -/
def plain (kind : WrittenKind) (content : String) : String :=
  match kind with
  | .datetime => String.ofList (content.toList.map fun character =>
      if character = 'T' then ' ' else character)
  | _ => content

end WrittenKind

namespace Value

/-- The literal text of a span of time; parts that are zero are left out. -/
def literalDuration (span : Calendar.Duration) : String :=
  let shown := span.parts.map fun (name, count) => name ++ "=" ++ toString count
  WrittenKind.call "datetime.timedelta" (if shown.isEmpty then ["0"] else shown)

/-- The literal text of an optional name. -/
def literalName : Option String → String
  | some name => Text.quoteText name
  | none => "None"

mutual

/-- The literal text of a value. -/
def literal : Value → String
  | .null => "None"
  | .bool true => "True"
  | .bool false => "False"
  | .int value => toString value
  | .float value => value.text Decimal.plainStyle
  | .text value => Text.quoteText value
  | .bytes value => Text.quoteBytes value
  | .written kind content => kind.literal content
  | .duration span => literalDuration span
  | .type reference => reference.literal
  | .list items => "[" ++ ", ".intercalate (literals items) ++ "]"
  | .tuple items =>
    "(" ++ ", ".intercalate (literals items) ++ (if items.length = 1 then ",)" else ")")
  | .object entries => "\x7b" ++ ", ".intercalate (entryLiterals entries) ++ "\x7d"
  | .lookupOption name argumentType =>
    "GetterOption(name=" ++ literalName name ++ ", arg_type=" ++ literal argumentType ++ ")"
  | .insertOption name config =>
    "InsertableOption(name=" ++ literalName name ++ ", config=\x7b"
      ++ ", ".intercalate (entryLiterals config) ++ "\x7d)"
  | .classNamed name => name
  | .member name => name
  | .record className fields =>
    className ++ "(" ++ ", ".intercalate (fieldLiterals fields) ++ ")"

/-- The literal texts of a list of values. -/
def literals : List Value → List String
  | [] => []
  | value :: rest => literal value :: literals rest

/-- The literal texts of the entries of a mapping. -/
def entryLiterals : List (String × Value) → List String
  | [] => []
  | (key, value) :: rest => (Text.quoteText key ++ ": " ++ literal value) :: entryLiterals rest

/-- The literal texts of the fields of a record. -/
def fieldLiterals : List (String × Value) → List String
  | [] => []
  | (key, value) :: rest => (key ++ "=" ++ literal value) :: fieldLiterals rest

end

/-- The literal text of a list of texts. -/
def literalTexts (texts : List String) : String :=
  (ofTexts texts).literal

/-- The plain text of a value. -/
def plain : Value → String
  | .text content => content
  | .written kind content => kind.plain content
  | .duration span => span.text
  | .lookupOption name argumentType =>
    "name=" ++ literalName name ++ " arg_type=" ++ argumentType.literal
  | .insertOption name config =>
    "name=" ++ literalName name ++ " config=" ++ (Value.object config).literal
  | .record _ fields => " ".intercalate (fieldLiterals fields)
  | value => value.literal

/-- The name that a message gives to the type of a type. -/
def typeNameOfType : TypeRef → String
  | .anything => "_AnyMeta"
  | .optional _ => "_UnionGenericAlias"
  | .sequence _ | .mapping _ => "types.GenericAlias"
  | .entity _ _ => "ModelMetaclass"
  | _ => "type"

/-- The name that a message gives to the type of a value. -/
def typeName : Value → String
  | .null => "NoneType"
  | .bool _ => "bool"
  | .int _ => "int"
  | .float _ => "float"
  | .text _ => "str"
  | .bytes _ => "bytes"
  | .written .decimal _ => "decimal.Decimal"
  | .written .datetime _ => "datetime.datetime"
  | .written .date _ => "datetime.date"
  | .written .time _ => "datetime.time"
  | .written .uuid _ => "UUID"
  | .duration _ => "datetime.timedelta"
  | .type reference => typeNameOfType reference
  | .list _ => "list"
  | .tuple _ => "tuple"
  | .object _ => "dict"
  | .lookupOption _ _ => "GetterOption"
  | .insertOption _ _ => "InsertableOption"
  | .classNamed _ => "type"
  | .member _ => "function"
  | .record className _ => className

end Value

end SqlMapping
