import SqlMapping.Text.Case
import SqlMapping.Validation.ForeignLimit
import SqlMapping.Validation.Time

/-!
# Reading values as typed values

A value is read as a value of a declared type.  Reading is lenient unless it is strict: numbers
may be written, integers stand for truth values and the other way round, and texts stand for
bytes, decimals, dates and identifiers.  What cannot be read is an issue, and so is what does
not keep the limits of its field.
-/

namespace SqlMapping

/-- The letter case that texts are given. -/
inductive LetterCase where
  | upper
  | lower
deriving DecidableEq

/-- A text in a letter case. -/
def LetterCase.apply (letterCase : LetterCase) (content : String) : String :=
  match letterCase with
  | .upper => Text.upper content
  | .lower => Text.lower content

/-- How values are read. -/
structure ReadingStyle where
  /-- Whether values of another kind are refused. -/
  strict : Bool := false
  /-- Whether the white space around texts is dropped. -/
  stripText : Bool := false
  letterCase : Option LetterCase := none
  /-- The lengths of texts in fields that have no limits of their own. -/
  longestText : Option Nat := none
  shortestText : Option Nat := none
  /-- Whether texts may be written as numbers. -/
  textOfNumber : Bool := false
  /-- Whether numbers may be infinite or no numbers at all, if that has been said. -/
  infinite : Option Bool := none
  /-- How values of an entity class are read, by the identity of the class. -/
  entity : Nat → Value → Checked Value := fun _ _ => Checked.issue .notAnInstance

namespace ReadingStyle

/-- Whether a limit is one of length. -/
def isLongest : Limit → Bool
  | .longest _ => true
  | _ => false

/-- Whether a limit is one of length from below. -/
def isShortest : Limit → Bool
  | .shortest _ => true
  | _ => false

/-- The limits of a text: its field's own, or else those of the style. -/
def textLimits (style : ReadingStyle) (limits : List Limit) : List Limit :=
  (if limits.any isLongest then [] else (style.longestText.map Limit.longest).toList)
    ++ (if limits.any isShortest then [] else (style.shortestText.map Limit.shortest).toList)
    ++ limits

/-- The limits of a floating-point number, which may be infinite unless that is excluded. -/
def floatLimits (style : ReadingStyle) (limits : List Limit) : List Limit :=
  if style.infinite = some false then .infinite false :: limits else limits

/-- The limits of a decimal, which may be infinite just where that is allowed. -/
def decimalLimits (style : ReadingStyle) (limits : List Limit) : List Limit :=
  if style.infinite = some true then limits else .infinite false :: limits

/-- The style in which values are read that have a limit. -/
def limitedBy (style : ReadingStyle) : Limit → ReadingStyle
  | .infinite allowed => { style with infinite := some allowed }
  | .textual numbers => { style with textOfNumber := numbers }
  | _ => style

/-- Limits in an order in which those of length from below come first. -/
def shortestFirst (limits : List Limit) : List Limit :=
  limits.filter isShortest ++ limits.filter fun limit => !isShortest limit

/-- The limits of a list that a value is read as; a tuple is counted while it is read. -/
def listLimits (limits : List Limit) : Value → List Limit
  | .tuple _ => limits
  | _ => shortestFirst limits

end ReadingStyle

namespace Reading

/-- The text that a value is read as. -/
def textOf (style : ReadingStyle) (value : Value) : Checked String :=
  match value with
  | .text content => .ok content
  | _ =>
    if style.strict then Checked.issue .stringType
    else
      match value with
      | .int _ | .float _ | .written .decimal _ =>
        if style.textOfNumber then .ok value.plain else Checked.issue .stringType
      | _ => Checked.text value

/-- Read a text: its white space is dropped, its limits are looked at, and its case changed. -/
def text (style : ReadingStyle) (limits : List Limit) (value : Value) : Checked Value := do
  let content ← textOf style value
  let stripped := if style.stripText then Text.trimWhiteSpace content else content
  let _ ← Limit.check (style.textLimits limits) (.text stripped)
  return .text ((style.letterCase.map fun letterCase => letterCase.apply stripped).getD stripped)

/-- Read a text under a limit, with numbers in its place or as the style has it. -/
def textUnder (style : ReadingStyle) : Limit.TextReader := fun numbers limits value =>
  text { style with textOfNumber := numbers.getD style.textOfNumber } limits value

/-- Read bytes. -/
def bytes (strict : Bool) : Value → Checked Value
  | .bytes value => .ok (.bytes value)
  | .text content =>
    if strict then Checked.issue .bytesType else .ok (.bytes content.toUTF8.data.toList)
  | _ => Checked.issue .bytesType

/-- The value of a hexadecimal digit. -/
def hexValue? (character : Char) : Option Nat :=
  if character.isDigit then some (character.toNat - 48)
  else if 'a' ≤ character && character ≤ 'f' then some (character.toNat - 87)
  else none

/-- Put the marks between the groups of an identifier of 32 hexadecimal digits. -/
def groupDigits (digits : List Char) : List Char :=
  digits.take 8 ++ '-' :: (digits.drop 8).take 4 ++ '-' :: (digits.drop 12).take 4
    ++ '-' :: (digits.drop 16).take 4 ++ '-' :: digits.drop 20

/-- Read digits without marks, if the flag allows that, or in groups. -/
def identifierDigits (allowPlain : Bool) (characters : List Char) : Option (List Char) :=
  let body := characters.map Char.toLower
  let digits := body.filter (· ≠ '-')
  if digits.length = 32 && digits.all (fun digit => (hexValue? digit).isSome)
      && (body = groupDigits digits || (allowPlain && body = digits)) then
    some (groupDigits digits)
  else none

/-- Read an identifier: digits in groups or without marks, in braces, or after its scheme. -/
def writtenIdentifier (characters : List Char) : Option (List Char) :=
  let scheme := "urn:uuid:".toList
  if scheme.isPrefixOf characters then identifierDigits false (characters.drop scheme.length)
  else
    match characters with
    | '\x7b' :: rest =>
      if rest.getLast? = some '\x7d' then identifierDigits false rest.dropLast else none
    | _ => identifierDigits true characters

/-- The identifier of sixteen bytes. -/
def identifierOfBytes (content : List UInt8) : Option (List Char) :=
  if content.length = 16 then
    some (groupDigits (content.flatMap fun byte => Text.hexDigits 2 byte.toNat))
  else none

/-- Read an identifier from its text or its bytes. -/
def uuid (strict : Bool) (value : Value) : Checked Value :=
  let finish := orIssue .uuidParsing fun characters =>
    .written .uuid (String.ofList characters)
  match value with
  | .written .uuid _ => .ok value
  | _ =>
    if strict then Checked.issue .notAnInstance
    else
      match value, written? value with
      | .bytes content, some text =>
        finish ((text.bind writtenIdentifier).or (identifierOfBytes content))
      | _, some text => finish (text.bind writtenIdentifier)
      | _, none => Checked.issue .uuidType

/-- The items of a list; a strict reading takes no tuples. -/
def list (strict : Bool) : Value → Checked Value
  | .list items => .ok (.list items)
  | .tuple items => if strict then Checked.issue .listType else .ok (.list items)
  | _ => Checked.issue .listType

end Reading

/-- Read the items of a sequence, each by a reader. -/
def readSequence (read : Value → Checked Value) : Value → Checked Value
  | .list items => (Checked.items read 0 items).map .list
  | .tuple items => (Checked.items read 0 items).map .tuple
  | .text _ => Checked.issue .sequenceOfText
  | .bytes _ => Checked.issue .sequenceOfText
  | _ => Checked.issue .notAnInstance

/-- Read a sequence of anything, which texts and bytes are too. -/
def readAnySequence (value : Value) : Checked Value :=
  match value with
  | .list _ | .tuple _ | .text _ | .bytes _ => .ok value
  | _ => Checked.issue .notAnInstance

/-- Read the values of a mapping, each by a reader under its key. -/
def readMapping (read : Value → Checked Value) : Value → Checked Value
  | .object entries =>
    (Checked.all
      (entries.map fun (key, value) =>
        (Checked.within key (read value)).map fun checked => (key, checked))).map .object
  | _ => Checked.issue .dictType

namespace TypeRef

/-- The class in a type of whose values nothing says how they are read. -/
def unread? : TypeRef → Option TypeRef
  | .optional inner | .sequence inner | .mapping inner => inner.unread?
  | .foreign path => some (.foreign path)
  | _ => none

/-- Read a value as a value of a type, and hold it against limits that belong to the type. -/
def readOwn (style : ReadingStyle) (limits : List Limit) : TypeRef → Value → Checked Value
  | .text, value => Reading.text style limits value
  | .optional inner, value =>
    if value.isNull then .ok .null else inner.readOwn style limits value
  | .float, value =>
    (Reading.float style.strict value).bind
      (Limit.check (style.floatLimits (limits.map (Limit.mapBound (Reading.float true)))))
  | .integer, value =>
    (Reading.integer style.strict value).bind
      (Limit.check (limits.map (Limit.mapBound (Reading.integer false))))
  | .boolean, value => Reading.boolean style.strict value
  | .bytes, value =>
    (Reading.bytes style.strict value).bind (Limit.check (ReadingStyle.shortestFirst limits))
  | .decimal, value =>
    (Reading.decimal style.strict value).bind
      (Limit.check (style.decimalLimits (limits.map (Limit.mapBound (Reading.decimal false)))))
  | .datetime, value =>
    ((Reading.datetime style.strict value).bind
      (Limit.check (limits.map (Limit.mapBound (Reading.datetime false))))).bind Reading.held
  | .date, value =>
    ((Reading.date style.strict value).bind
      (Limit.check (limits.map (Limit.mapBound (Reading.date false))))).bind Reading.held
  | .time, value =>
    (Reading.time style.strict value).bind
      (Limit.check (limits.map (Limit.mapBound (Reading.time false))))
  | .uuid, value => Reading.uuid style.strict value
  | .anything, value => .ok value
  | .duration, value =>
    ((Reading.duration style.strict value).bind
      (Limit.check (limits.map (Limit.mapBound (Reading.duration false))))).bind
        Reading.heldSpan
  | .dictionary, value =>
    ((Checked.mapping value).map .object).bind (Limit.check (ReadingStyle.shortestFirst limits))
  | .list, value =>
    (Reading.list style.strict value).bind (Limit.check (ReadingStyle.listLimits limits value))
  | .sequence .anything, value => (readAnySequence value).bind (Limit.check limits)
  | .sequence inner, value =>
    (readSequence (inner.readOwn style []) value).bind (Limit.check limits)
  | .mapping inner, value =>
    (readMapping (inner.readOwn style []) value).bind (Limit.check limits)
  | .entity identity _, value =>
    match value with
    | .object _ => if style.strict then Checked.issue .modelType else style.entity identity value
    | _ => style.entity identity value
  | .foreign _, _ => Checked.issue .notAnInstance

/-- Read a value as a value of a type, and hold it against limits of any type. -/
def read (style : ReadingStyle) (limits : List Limit) (type : TypeRef) (value : Value) :
    Checked Value :=
  if type.isOptional && value.isNull then .ok .null
  else
    let laid := Limit.lay type limits
    (type.readOwn (laid.own.foldl ReadingStyle.limitedBy style) laid.own value).bind
      (Limit.holdAll (Reading.textUnder style) laid laid.foreign)

/-- What calling a type without arguments gives. -/
def blank (style : ReadingStyle) : TypeRef → Checked Value
  | .integer => .ok (.int 0)
  | .text => .ok (.text "")
  | .float => .ok (.float (Decimal.Binary64.ofInt 0))
  | .boolean => .ok (.bool false)
  | .bytes => .ok (.bytes [])
  | .decimal => .ok (.written .decimal "0")
  | .time => .ok (Reading.ofClock {})
  | .duration => .ok (.duration ⟨0⟩)
  | .dictionary => .ok (.object [])
  | .list => .ok (.list [])
  | .entity identity _ => Checked.final (style.entity identity (.object []))
  | type => Checked.stop (.noBlank type)

end TypeRef

/-- What calling a value without arguments gives; just types can be called. -/
def Value.called (style : ReadingStyle) : Value → Checked Value
  | .type reference => reference.blank style
  | value => Checked.stop (.notCallable value.typeName)

end SqlMapping
