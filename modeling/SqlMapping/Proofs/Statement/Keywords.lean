import SqlMapping.Proofs.Statement.Alignment

/-!
# Keywords that a text shows

A database takes a word outside quotes for a keyword if it reserves it, in whatever letter case
it is written.  A generated statement shows the keywords of its own template, and no others:
a name that the backend reserves is quoted wherever a statement mentions it.

The main statement gives the keywords of every statement of a table and of a patch.
-/

namespace SqlMapping

open Query

/-! ## Words outside quotes -/

/-- The word that was read when a text leaves it. -/
def endedWord : List Char → List String
  | [] => []
  | word => [String.ofList word]

/-- The words outside quotes, when `word` was just read, inside of quotes or outside. -/
def bareWords (mark : String) (quoted : Bool) (word : List Char) : List Char → List String
  | [] => endedWord word
  | character :: rest =>
    -- A mark inside quotes is written twice: it ends the quotes and opens them again.
    if mark.toList = [character] then endedWord word ++ bareWords mark (!quoted) [] rest
    else if !quoted && isIdentifierCharacter character then
      bareWords mark quoted (word ++ [character]) rest
    else endedWord word ++ bareWords mark quoted [] rest

namespace Backend

/-- Those of some words that a backend reserves. -/
def reservedAmong (backend : Backend) (words : List String) : List String :=
  words.filter fun word => backend.reserved.contains word

/-- The reserved words outside quotes, in upper case. -/
def bareKeywords (backend : Backend) (characters : List Char) : List String :=
  backend.reservedAmong ((bareWords backend.quoteMark false [] characters).map Text.upper)

theorem reservedAmong_append (backend : Backend) (left right : List String) :
    backend.reservedAmong (left ++ right) =
      backend.reservedAmong left ++ backend.reservedAmong right :=
  List.filter_append left right

/-- A backend that can tell its keywords from names in its quotes and from numbers. -/
structure TellsKeywords (backend : Backend) (mark : Char) : Prop
    extends backend.QuotesKeywords mark where
  numbers : ∃ style : PlaceholderStyle, backend.placeholder = style.text
  -- The digits of a numbered placeholder stand outside quotes.
  noNumber : ∀ word ∈ backend.reserved, word.toList.all Char.isDigit = false

theorem exists_tellsKeywords
    {backend : Backend}
    (standard : backend ∈ standardBackends) :
    ∃ mark, backend.TellsKeywords mark := by
  have noNumber :
      ∀ backend ∈ standardBackends, ∀ word ∈ backend.reserved,
        word.toList.all Char.isDigit = false := by
    decide +kernel
  rcases exists_quotesKeywords standard with ⟨mark, quotes⟩
  rcases exists_writesPlainly standard with ⟨_, plainly⟩
  exact ⟨mark, quotes, plainly.numbers, noNumber backend standard⟩

end Backend

/-- The statement shows those of its keywords that the backend reserves, and no others. -/
def Statement.ShowsKeywords
    (backend : Backend)
    (keywords : List String)
    (statement : Statement) :
    Prop :=
  backend.bareKeywords statement.sql.toList = backend.reservedAmong keywords

/-- A text that does not go on with a word of a text before it. -/
def BeginsNoWord (characters : List Char) : Prop :=
  ∀ character ∈ characters.head?, isIdentifierCharacter character = false

/-- A text without quote marks whose last character is not of a word. -/
def EndsNoWord (characters : List Char) : Prop :=
  (∀ character ∈ characters, ¬ IsQuoteMark character) ∧
    ∃ character ∈ characters.getLast?, isIdentifierCharacter character = false

instance (mark : Char) : Decidable (IsQuoteMark mark) :=
  inferInstanceAs (Decidable (_ ∨ _))

-- The instances are named, lest the search take one that goes through all characters.
instance (characters : List Char) : Decidable (BeginsNoWord characters) :=
  Option.decidableForallMem characters.head?

instance (characters : List Char) : Decidable (EndsNoWord characters) :=
  @instDecidableAnd _ _ (List.decidableBAll _ characters)
    (Option.decidableExistsMem characters.getLast?)

/-- The words of a text without quotes, in upper case. -/
def wordsOf (text : String) : List String :=
  (bareWords "" false [] text.toList).map Text.upper

/-- A text without quotes that has some words and goes on after the last of them. -/
def ReadsAs (text : String) (words : List String) : Prop :=
  EndsNoWord text.toList ∧ wordsOf text = words

instance (text : String) (words : List String) : Decidable (ReadsAs text words) :=
  inferInstanceAs (Decidable (_ ∧ _))

section Words

variable {mark : Char} {marks : String} {left right word : List Char}

theorem bareWords_of_beginsNoWord
    (apart : BeginsNoWord right)
    (word : List Char) :
    bareWords marks false word right = endedWord word ++ bareWords marks false [] right := by
  cases right with
  | nil => exact (List.append_nil _).symm
  | cons character rest =>
      have notWord : isIdentifierCharacter character = false := apart character rfl
      rw [bareWords, bareWords, notWord, Bool.and_false, if_neg Bool.false_ne_true,
        if_neg Bool.false_ne_true]
      split_ifs
      · rfl
      · rfl

/-- A text without quote marks is read alike whatever the mark is. -/
theorem bareWords_append
    (plain : ∀ character ∈ left, marks.toList ≠ [character])
    (apart : BeginsNoWord right)
    (word : List Char) :
    bareWords marks false word (left ++ right) =
      bareWords "" false word left ++ bareWords marks false [] right := by
  induction left generalizing word with
  | nil => exact bareWords_of_beginsNoWord apart word
  | cons character rest inductionHypothesis =>
      have notMark := plain character List.mem_cons_self
      have noneLater := inductionHypothesis fun other member =>
        plain other (List.mem_cons_of_mem character member)
      have noMark : "".toList ≠ [character] := (List.cons_ne_nil character []).symm
      rw [List.cons_append, bareWords, bareWords, if_neg notMark, if_neg noMark]
      split_ifs
      · exact noneLater _
      · rw [noneLater, List.append_assoc]

/-- A character that is neither a mark nor of a word is skipped. -/
theorem bareWords_skip
    {character : Char}
    (notMark : marks.toList ≠ [character])
    (notWord : isIdentifierCharacter character = false)
    (right : List Char) :
    bareWords marks false [] (character :: right) = bareWords marks false [] right := by
  rw [bareWords, if_neg notMark, notWord, Bool.and_false, if_neg Bool.false_ne_true]
  rfl

theorem bareWords_append_of_endsNoWord
    (notQuotes : ∀ character, ¬ IsQuoteMark character → marks.toList ≠ [character])
    (ends : EndsNoWord left)
    (right : List Char) :
    bareWords marks false [] (left ++ right) =
      bareWords "" false [] left ++ bareWords marks false [] right := by
  rcases ends with ⟨plain, last, isLast, notWord⟩
  rcases List.getLast?_eq_some_iff.1 isLast with ⟨others, rfl⟩
  have othersPlain : ∀ character ∈ others, ¬ IsQuoteMark character :=
    fun character member => plain character (List.mem_append_left [last] member)
  have lastPlain : ¬ IsQuoteMark last :=
    plain last (List.mem_append_right others (List.mem_singleton_self last))
  have apart : ∀ rest, BeginsNoWord (last :: rest) := by
    rintro rest character ⟨⟩
    exact notWord
  have noMark : ∀ character, "".toList ≠ [character] :=
    fun character => (List.cons_ne_nil character []).symm
  rw [List.append_assoc, List.singleton_append,
    bareWords_append (fun character member => notQuotes character (othersPlain character member))
      (apart right),
    bareWords_append (fun character _ => noMark character) (apart []),
    bareWords_skip (notQuotes last lastPlain) notWord, bareWords_skip (noMark last) notWord,
    List.append_assoc]
  rfl

/-- A run of word characters is read as a part of one word. -/
theorem bareWords_append_of_word
    (notQuotes : ∀ character ∈ left, marks.toList ≠ [character])
    (isWord : ∀ character ∈ left, isIdentifierCharacter character = true)
    (apart : BeginsNoWord right)
    (word : List Char) :
    bareWords marks false word (left ++ right) =
      endedWord (word ++ left) ++ bareWords marks false [] right := by
  induction left generalizing word with
  | nil =>
      rw [List.append_nil]
      exact bareWords_of_beginsNoWord apart word
  | cons character rest inductionHypothesis =>
      have notMark := notQuotes character List.mem_cons_self
      have here := isWord character List.mem_cons_self
      rw [List.cons_append, bareWords, if_neg notMark, here, if_pos (by rfl),
        inductionHypothesis
          (fun other member => notQuotes other (List.mem_cons_of_mem character member))
          (fun other member => isWord other (List.mem_cons_of_mem character member)),
        List.append_assoc, List.singleton_append]

/-- Inside quotes there are no words, up to the mark that ends them. -/
theorem bareWords_quoted
    (isMark : marks.toList = [mark])
    (absent : mark ∉ left)
    (right : List Char) :
    bareWords marks true [] (left ++ mark :: right) = bareWords marks false [] right := by
  induction left with
  | nil =>
      rw [List.nil_append, bareWords, if_pos isMark]
      rfl
  | cons character rest inductionHypothesis =>
      have notMark : marks.toList ≠ [character] := by
        rw [isMark]
        rintro ⟨⟩
        exact absent List.mem_cons_self
      rw [List.cons_append, bareWords, if_neg notMark, if_neg (by simp),
        inductionHypothesis fun member => absent (List.mem_cons_of_mem character member)]
      rfl

end Words

/-! ## Keywords in front of a text -/

theorem isIdentifierCharacter_of_isDigit
    {character : Char}
    (isDigit : character.isDigit = true) :
    isIdentifierCharacter character = true := by
  rw [isIdentifierCharacter, Char.isAlphanum, isDigit, Bool.or_true, Bool.true_or]

theorem toUpper_of_isDigit
    {character : Char}
    (isDigit : character.isDigit = true) :
    character.toUpper = character := by
  rw [Char.isDigit, Bool.and_eq_true, decide_eq_true_iff, decide_eq_true_iff] at isDigit
  rcases isDigit with ⟨-, high⟩
  have notBelow : ¬ 'a'.val ≤ '9'.val := by decide
  refine dif_neg ?_
  rintro ⟨low, -⟩
  exact notBelow (UInt32.le_trans low high)

namespace Backend.TellsKeywords

variable {backend : Backend} {mark : Char} {name : String} {right : List Char}

theorem ne_quoteMark
    (tells : backend.TellsKeywords mark)
    {character : Char}
    (plain : ¬ IsQuoteMark character) :
    backend.quoteMark.toList ≠ [character] := by
  rw [tells.quoteMark_eq]
  rintro ⟨⟩
  exact plain tells.isQuoteMark

/-- The keywords of a text without quote marks are those among its words. -/
theorem bareKeywords_append
    (tells : backend.TellsKeywords mark)
    {left : List Char}
    (plain : ∀ character ∈ left, ¬ IsQuoteMark character)
    (apart : BeginsNoWord right) :
    backend.bareKeywords (left ++ right) =
      backend.reservedAmong ((bareWords "" false [] left).map Text.upper)
        ++ backend.bareKeywords right := by
  rw [bareKeywords,
    bareWords_append (fun character member => tells.ne_quoteMark (plain character member)) apart,
    List.map_append, reservedAmong_append]
  rfl

theorem bareKeywords_append_of_endsNoWord
    (tells : backend.TellsKeywords mark)
    {left : List Char}
    (ends : EndsNoWord left)
    (right : List Char) :
    backend.bareKeywords (left ++ right) =
      backend.reservedAmong ((bareWords "" false [] left).map Text.upper)
        ++ backend.bareKeywords right := by
  rw [bareKeywords, bareWords_append_of_endsNoWord (fun _ => tells.ne_quoteMark) ends,
    List.map_append, reservedAmong_append]
  rfl

/-- What stands between quotes is no keyword. -/
theorem bareKeywords_enclose_append
    (tells : backend.TellsKeywords mark)
    (absent : mark ∉ name.toList)
    (right : List Char) :
    backend.bareKeywords ((backend.enclose name).toList ++ right) = backend.bareKeywords right := by
  rw [toList_enclose, tells.quoteMark_eq, doubleMarks_of_not_mem absent, bareKeywords,
    List.append_assoc, List.append_assoc, List.singleton_append, List.singleton_append, bareWords,
    if_pos tells.quoteMark_eq, Bool.not_false, bareWords_quoted tells.quoteMark_eq absent]
  rfl

/-- A word that is not reserved is no keyword. -/
theorem bareKeywords_word_append
    (tells : backend.TellsKeywords mark)
    {word : List Char}
    (isWord : ∀ character ∈ word, isIdentifierCharacter character = true)
    (notReserved : backend.isReserved (String.ofList word) = false)
    (apart : BeginsNoWord right) :
    backend.bareKeywords (word ++ right) = backend.bareKeywords right := by
  have notMark : ∀ character ∈ word, backend.quoteMark.toList ≠ [character] :=
    fun character member =>
      tells.ne_quoteMark (not_isQuoteMark_of_isIdentifierCharacter (isWord character member))
  have noKeyword : backend.reservedAmong ((endedWord word).map Text.upper) = [] := by
    cases word with
    | nil => rfl
    | cons first rest =>
        have onlyWord :
            (endedWord (first :: rest)).map Text.upper =
              [Text.upper (String.ofList (first :: rest))] := rfl
        rw [isReserved] at notReserved
        rw [onlyWord, reservedAmong, List.filter_singleton, notReserved]
        rfl
  rw [bareKeywords, bareWords_append_of_word notMark isWord apart, List.nil_append,
    List.map_append, reservedAmong_append, noKeyword]
  rfl

/-- A name that is emitted is no keyword: it is quoted if it is reserved. -/
theorem bareKeywords_quote_append
    (tells : backend.TellsKeywords mark)
    (identifier : isIdentifier name.toList = true)
    (apart : BeginsNoWord right) :
    backend.bareKeywords ((backend.quote name).toList ++ right) = backend.bareKeywords right := by
  rw [quote]
  split_ifs with reserved
  · exact tells.bareKeywords_enclose_append (tells.not_mem_identifier identifier) right
  · apply tells.bareKeywords_word_append _ _ apart
    · exact fun character member => isIdentifierCharacter_of_mem identifier member
    · rw [String.ofList_toList]
      exact Bool.of_not_eq_true reserved

theorem isReserved_of_isDigit
    (tells : backend.TellsKeywords mark)
    {digits : List Char}
    (isNumber : ∀ character ∈ digits, character.isDigit = true) :
    backend.isReserved (String.ofList digits) = false := by
  have isWord : ∀ character ∈ digits, isWordCharacter character = true :=
    fun character member =>
      isWordCharacter_of_isIdentifierCharacter
        (isIdentifierCharacter_of_isDigit (isNumber character member))
  have upper : Text.upper (String.ofList digits) = String.ofList digits := by
    rw [Text.upper, String.toList_ofList, upperCharacters_of_isWordCharacter isWord,
      List.map_congr_left fun character member => toUpper_of_isDigit (isNumber character member),
      List.map_id']
  rw [isReserved, upper, Bool.eq_false_iff]
  intro reserved
  have notNumber := tells.noNumber _ (List.contains_iff_mem.1 reserved)
  rw [String.toList_ofList, List.all_eq_true.2 isNumber] at notNumber
  cases notNumber

/-- A placeholder is no keyword. -/
theorem bareKeywords_placeholder_append
    (tells : backend.TellsKeywords mark)
    (used : Nat)
    (apart : BeginsNoWord right) :
    backend.bareKeywords ((backend.placeholder used).toList ++ right) =
      backend.bareKeywords right := by
  rcases tells.numbers with ⟨style, numbers⟩
  have skip :
      ∀ sign rest, ¬ IsQuoteMark sign → isIdentifierCharacter sign = false →
        backend.bareKeywords (sign :: rest) = backend.bareKeywords rest := by
    intro sign rest plain notWord
    rw [bareKeywords, bareWords_skip (tells.ne_quoteMark plain) notWord]
    rfl
  rw [numbers]
  cases style with
  | questionMark =>
      rw [PlaceholderStyle.toList_text_questionMark]
      exact skip '?' right (by decide) (by decide)
  | numbered =>
      have isNumber : ∀ character ∈ Nat.toDigits 10 (used + 1), character.isDigit = true :=
        fun _ member => PlaceholderStyle.isDigit_of_mem_position member
      rw [PlaceholderStyle.toList_text_numbered, List.cons_append,
        skip '$' _ (by decide) (by decide)]
      exact
        tells.bareKeywords_word_append
          (fun character member => isIdentifierCharacter_of_isDigit (isNumber character member))
          (tells.isReserved_of_isDigit isNumber) apart

end Backend.TellsKeywords

/-! ## Keywords of templates -/

namespace Template

variable {backend : Backend} {mark : Char} {first second template : Template}
variable {keywords others : List String}

/-- A template whose text shows those of some keywords that are reserved, whatever comes next. -/
def Shows (backend : Backend) (keywords : List String) (template : Template) : Prop :=
  ∀ (used : Nat) (rest : List Char), BeginsNoWord rest →
    backend.bareKeywords (template.characters backend used ++ rest) =
      backend.reservedAmong keywords ++ backend.bareKeywords rest

/-- A template that can follow a name. -/
def StandsOff (backend : Backend) (template : Template) : Prop :=
  ∀ (used : Nat) (rest : List Char), BeginsNoWord rest →
    BeginsNoWord (template.characters backend used ++ rest)

theorem standsOff_nil : StandsOff backend [] := fun _ _ apart => apart

theorem standsOff_word
    {text : String}
    (notEmpty : text.toList ≠ [])
    (apart : BeginsNoWord text.toList)
    (rest : Template) :
    StandsOff backend (.word text :: rest) := by
  intro used others _
  rw [characters_word, List.append_assoc]
  cases characters : text.toList with
  | nil => exact absurd characters notEmpty
  | cons character tail =>
      rw [characters] at apart
      exact apart

theorem shows_nil : Shows backend [] [] := fun _ _ _ => rfl

/-- A text at the end of a statement may end in a word. -/
theorem shows_word
    (text : String)
    (words : List String)
    (tells : backend.TellsKeywords mark)
    (plain : text.toList.all (fun character => ¬ IsQuoteMark character) = true)
    (reads : wordsOf text = words) :
    Shows backend words [.word text] := by
  intro used rest apart
  have unquoted : ∀ character ∈ text.toList, ¬ IsQuoteMark character := by
    simpa only [List.all_eq_true, decide_eq_true_eq] using plain
  rw [characters_word, characters_nil, List.append_nil, tells.bareKeywords_append unquoted apart]
  rw [← reads]
  rfl

namespace Shows

theorem word
    (shows : Shows backend keywords template)
    (text : String)
    (words : List String)
    (tells : backend.TellsKeywords mark)
    (reads : ReadsAs text words) :
    Shows backend (words ++ keywords) (.word text :: template) := by
  rcases reads with ⟨ends, isWords⟩
  intro used rest apart
  rw [characters_word, List.append_assoc, tells.bareKeywords_append_of_endsNoWord ends,
    shows used rest apart, Backend.reservedAmong_append, List.append_assoc, ← isWords]
  rfl

theorem identifier
    {name : String}
    (shows : Shows backend keywords template)
    (off : StandsOff backend template)
    (tells : backend.TellsKeywords mark)
    (isName : isIdentifier name.toList = true) :
    Shows backend keywords (.identifier name :: template) := by
  intro used rest apart
  rw [characters_identifier, List.append_assoc,
    tells.bareKeywords_quote_append isName (off used rest apart), shows used rest apart]

theorem label
    {name : String}
    (shows : Shows backend keywords template)
    (tells : backend.TellsKeywords mark)
    (absent : mark ∉ name.toList) :
    Shows backend keywords (.label name :: template) := by
  intro used rest apart
  rw [characters_label, List.append_assoc, tells.bareKeywords_enclose_append absent,
    shows used rest apart]

theorem placeholder
    (shows : Shows backend keywords template)
    (off : StandsOff backend template)
    (tells : backend.TellsKeywords mark) :
    Shows backend keywords (.placeholder :: template) := by
  intro used rest apart
  rw [characters_placeholder, List.append_assoc,
    tells.bareKeywords_placeholder_append used (off (used + 1) rest apart),
    shows (used + 1) rest apart]

/-- A test of a set shows what its parts show. -/
theorem membership_of_test
    {style : SetStyle}
    {column : String}
    (tests : backend.membership = style.test)
    (shows : Shows backend keywords (ofTest style column)) :
    Shows backend keywords [.membership column] := by
  intro used rest apart
  rw [characters_membership_of_test tests]
  exact shows used rest apart

theorem append
    (shows : Shows backend keywords first)
    (showsOthers : Shows backend others second)
    (off : StandsOff backend second) :
    Shows backend (keywords ++ others) (first ++ second) := by
  intro used rest apart
  rw [characters_append, List.append_assoc, shows used _ (off _ rest apart),
    showsOthers _ rest apart, Backend.reservedAmong_append, List.append_assoc]

/-- Templates in a row show their keywords one after the other. -/
theorem separated
    {α : Type}
    {items : List α}
    {template : α → Template}
    {keywords : α → List String}
    (tells : backend.TellsKeywords mark)
    (each : ∀ item ∈ items, Shows backend (keywords item) (template item)) :
    Shows backend (items.flatMap keywords) (Template.separated (items.map template)) := by
  induction items with
  | nil => exact shows_nil
  | cons item others inductionHypothesis =>
      have here := each item List.mem_cons_self
      have later := inductionHypothesis fun other member =>
        each other (List.mem_cons_of_mem item member)
      cases others with
      | nil =>
          rw [List.flatMap_singleton]
          exact here
      | cons second rest =>
          rw [List.flatMap_cons]
          exact
            here.append (later.word ", " [] tells (by decide))
              (standsOff_word (by decide) (by decide) _)

end Shows

end Template

theorem showsKeywords_ofTemplate
    {backend : Backend}
    {template : Template}
    {keywords : List String}
    (shows : template.Shows backend keywords)
    (params : List String) :
    (Statement.ofTemplate backend template params).ShowsKeywords backend keywords := by
  have alone := shows 0 [] fun _ member => by cases member
  have nothing : backend.bareKeywords [] = [] := rfl
  rwa [List.append_nil, nothing, List.append_nil, ← Template.toList_render] at alone

/-! ## Keywords of the parts of a statement -/

/-- A field that is selected under another name has an alias. -/
def Field.aliasKeywords (field : Field) : List String :=
  if field.isCustomType ∨ field.column ≠ field.name then ["AS"] else []

/-- The keywords of a select list: one for each alias. -/
def aliasKeywords (fields : List Field) : List String :=
  fields.flatMap Field.aliasKeywords

/-- The keywords of a statement that selects some fields, up to its table. -/
def selectKeywords (fields : List Field) : List String :=
  ["SELECT"] ++ aliasKeywords fields ++ ["FROM"]

/-- The words that test membership in a set. -/
def SetStyle.keywords : SetStyle → List String
  | .anyOf => ["ANY"]
  | .memberOf => ["MEMBER", "OF"]
  | .arrayRows => ["IN", "SELECT", "VALUE", "FROM", "JSON_EACH"]

/-- The words of the test that a lookup makes. -/
def LookupKind.keywords (style : SetStyle) : LookupKind → List String
  | .anyOf => style.keywords
  | .one | .optional | .many => []

/-- The keywords of an insert, which lists columns if it has any. -/
def TableSchema.insertKeywords (schema : TableSchema) : List String :=
  if schema.insertFields.isEmpty then ["INSERT", "INTO", "DEFAULT", "VALUES"]
  else ["INSERT", "INTO", "VALUES"]

/-- The keywords of what an insert returns: the identifier and the other generated fields. -/
def TableSchema.returningKeywords (schema : TableSchema) (backend : Backend) : List String :=
  if backend.supportsReturning then
    ["RETURNING"] ++ aliasKeywords (schema.identifier :: schema.otherDefaults)
  else []

/-- A table all of whose names are identifiers. -/
structure TableSchema.HasIdentifierNames (schema : TableSchema) : Prop where
  table : isIdentifier schema.table.toList = true
  identifier : schema.identifier.HasIdentifierNames
  fields : ∀ field ∈ schema.fields, field.HasIdentifierNames

/-- A patch all of whose names are identifiers. -/
structure PatchSchema.HasIdentifierNames (schema : PatchSchema) : Prop where
  targetTable : isIdentifier schema.targetTable.toList = true
  identifierColumn : isIdentifier schema.identifierColumn.toList = true
  fields :
    ∀ field ∈ schema.fields,
      isIdentifier field.name.toList = true ∧ isIdentifier field.column.toList = true

section Parts

variable {backend : Backend} {mark : Char} {fields : List Field} {columns : List String}
variable {keywords : List String} {template : Template}

theorem Field.shows_selectItem
    {field : Field}
    (tells : backend.TellsKeywords mark)
    (named : field.HasIdentifierNames) :
    field.selectItem.Shows backend field.aliasKeywords := by
  rcases named with ⟨isName, isColumn⟩
  have nothing : Template.Shows backend [] [] := Template.shows_nil
  have absent : mark ∉ (field.name ++ typeMarker).toList := by
    rw [String.toList_append, List.mem_append, not_or]
    constructor
    · exact tells.not_mem_identifier isName
    · rcases tells.isQuoteMark with rfl | rfl
      · decide
      · decide
  rw [selectItem, aliasKeywords]
  by_cases isCustom : field.isCustomType = true
  · have marked := (nothing.label tells absent).word " AS " ["AS"] tells (by decide)
    rw [if_pos isCustom, if_pos (Or.inl isCustom)]
    exact marked.identifier (Template.standsOff_word (by decide) (by decide) _) tells isColumn
  · by_cases isRenamed : field.column ≠ field.name
    · have renamed := nothing.identifier Template.standsOff_nil tells isName
      have aliased := renamed.word " AS " ["AS"] tells (by decide)
      rw [if_neg isCustom, if_pos isRenamed, if_pos (Or.inr isRenamed)]
      exact aliased.identifier (Template.standsOff_word (by decide) (by decide) _) tells isColumn
    · rw [if_neg isCustom, if_neg isRenamed, if_neg (not_or.2 ⟨isCustom, isRenamed⟩)]
      exact nothing.identifier Template.standsOff_nil tells isColumn

theorem shows_selectList
    (tells : backend.TellsKeywords mark)
    (named : ∀ field ∈ fields, field.HasIdentifierNames) :
    (selectList fields).Shows backend (aliasKeywords fields) := by
  apply Template.Shows.separated tells
  intro field member
  exact Field.shows_selectItem tells (named field member)

/-- A column and the placeholder of its value show no keyword. -/
theorem shows_equation
    {column : String}
    (tells : backend.TellsKeywords mark)
    (isName : isIdentifier column.toList = true) :
    Template.Shows backend [] [.identifier column, .word " = ", .placeholder] := by
  have sign := Template.shows_nil.placeholder Template.standsOff_nil tells
  have equals := sign.word " = " [] tells (by decide)
  exact equals.identifier (Template.standsOff_word (by decide) (by decide) _) tells isName

theorem shows_assignments
    (tells : backend.TellsKeywords mark)
    (named : ∀ column ∈ columns, isIdentifier column.toList = true) :
    (assignments columns).Shows backend [] := by
  have assigned :
      ∀ column ∈ columns,
        Template.Shows backend [] [.identifier column, .word " = ", .placeholder] :=
    fun column member => shows_equation tells (named column member)
  have shows := Template.Shows.separated tells assigned
  rwa [List.flatMap_eq_nil_iff.2 fun _ _ => rfl] at shows

/-- Restricting a statement to the row of a key adds one keyword. -/
theorem shows_restrict
    {key : String}
    (shows : template.Shows backend keywords)
    (tells : backend.TellsKeywords mark)
    (isName : isIdentifier key.toList = true) :
    Template.Shows backend (keywords ++ ["WHERE"])
      (template ++ [.word " WHERE ", .identifier key, .word " = ", .placeholder]) := by
  have compared := shows_equation tells isName
  exact
    shows.append (compared.word " WHERE " ["WHERE"] tells (by decide))
      (Template.standsOff_word (by decide) (by decide) _)

variable {schema : TableSchema}

theorem TableSchema.shows_selectFrom
    (tells : backend.TellsKeywords mark)
    (names : schema.HasIdentifierNames)
    (named : ∀ field ∈ fields, field.HasIdentifierNames) :
    (schema.selectFrom fields).Shows backend (selectKeywords fields) := by
  have table := Template.shows_nil.identifier Template.standsOff_nil tells names.table
  have origin := table.word " FROM " ["FROM"] tells (by decide)
  have selected :=
    (shows_selectList tells named).append origin (Template.standsOff_word (by decide) (by decide) _)
  exact selected.word "SELECT " ["SELECT"] tells (by decide)

theorem TableSchema.shows_paginatedTemplate
    (tells : backend.TellsKeywords mark)
    (names : schema.HasIdentifierNames) :
    schema.paginatedTemplate.Shows backend
      (selectKeywords schema.fields ++ ["LIMIT", "OFFSET"]) := by
  have last := Template.shows_nil.placeholder Template.standsOff_nil tells
  have skipped := last.word " OFFSET " ["OFFSET"] tells (by decide)
  have count := skipped.placeholder (Template.standsOff_word (by decide) (by decide) _) tells
  have page := count.word " LIMIT " ["LIMIT"] tells (by decide)
  exact
    (shows_selectFrom tells names names.fields).append page
      (Template.standsOff_word (by decide) (by decide) _)

theorem TableSchema.shows_updateTemplate
    (tells : backend.TellsKeywords mark)
    (names : schema.HasIdentifierNames)
    (named : ∀ column ∈ columns, isIdentifier column.toList = true) :
    (schema.updateTemplate columns).Shows backend ["UPDATE", "SET", "WHERE"] := by
  have assigned := (shows_assignments tells named).word " SET " ["SET"] tells (by decide)
  have target :=
    assigned.identifier (Template.standsOff_word (by decide) (by decide) _) tells names.table
  have written := target.word "UPDATE " ["UPDATE"] tells (by decide)
  exact shows_restrict written tells names.identifier.2

theorem TableSchema.shows_deleteTemplate
    (tells : backend.TellsKeywords mark)
    (names : schema.HasIdentifierNames) :
    schema.deleteTemplate.Shows backend ["DELETE", "FROM", "WHERE"] := by
  have table := Template.shows_nil.identifier Template.standsOff_nil tells names.table
  have deleted := table.word "DELETE FROM " ["DELETE", "FROM"] tells (by decide)
  exact shows_restrict deleted tells names.identifier.2

theorem SetStyle.readsAs_frame (style : SetStyle) :
    ReadsAs style.frame.1 style.keywords ∧ ReadsAs style.frame.2 [] := by
  cases style with
  | anyOf => decide
  | memberOf => decide
  | arrayRows => decide

theorem SetStyle.standsOff_frame
    {text : String}
    (style : SetStyle)
    (isFrame : text = style.frame.1 ∨ text = style.frame.2)
    (rest : Template) :
    Template.StandsOff backend (.word text :: rest) := by
  rcases isFrame with rfl | rfl
  · cases style with
    | anyOf => exact Template.standsOff_word (by decide) (by decide) _
    | memberOf => exact Template.standsOff_word (by decide) (by decide) _
    | arrayRows => exact Template.standsOff_word (by decide) (by decide) _
  · cases style with
    | anyOf => exact Template.standsOff_word (by decide) (by decide) _
    | memberOf => exact Template.standsOff_word (by decide) (by decide) _
    | arrayRows => exact Template.standsOff_word (by decide) (by decide) _

theorem TableSchema.shows_lookupCondition
    {field : Field}
    {style : SetStyle}
    (tells : backend.TellsKeywords mark)
    (tests : backend.membership = style.test)
    (named : field.HasIdentifierNames)
    (kind : LookupKind) :
    (lookupCondition kind field).Shows backend (kind.keywords style) := by
  have compared := shows_equation tells named.2
  rcases style.readsAs_frame with ⟨readsBefore, readsAfter⟩
  have closed := Template.shows_nil.word style.frame.2 [] tells readsAfter
  have sign := closed.placeholder (style.standsOff_frame (Or.inr rfl) _) tells
  have tested := sign.word style.frame.1 style.keywords tells readsBefore
  have searched := tested.identifier (style.standsOff_frame (Or.inl rfl) _) tells named.2
  cases kind with
  | one => exact compared
  | optional => exact compared
  | many => exact compared
  | anyOf =>
      rw [List.append_nil, List.append_nil] at searched
      exact .membership_of_test tests searched

theorem TableSchema.shows_lookupTemplate
    {field : Field}
    {style : SetStyle}
    (tells : backend.TellsKeywords mark)
    (tests : backend.membership = style.test)
    (names : schema.HasIdentifierNames)
    (isField : field ∈ schema.fields)
    (kind : LookupKind) :
    (schema.lookupTemplate kind field).Shows backend
      (selectKeywords schema.fields ++ ["WHERE"] ++ kind.keywords style) := by
  have condition := shows_lookupCondition tells tests (names.fields field isField) kind
  have restricted := condition.word " WHERE " ["WHERE"] tells (by decide)
  rw [List.append_assoc]
  exact
    (shows_selectFrom tells names names.fields).append restricted
      (Template.standsOff_word (by decide) (by decide) _)

theorem TableSchema.shows_insertTemplate
    (tells : backend.TellsKeywords mark)
    (names : schema.HasIdentifierNames) :
    schema.insertTemplate.Shows backend schema.insertKeywords := by
  have columnsNamed : ∀ field ∈ schema.insertFields, isIdentifier field.column.toList = true :=
    fun field member => (names.fields field (List.mem_of_mem_filter member)).2
  cases inserted : schema.insertFields with
  | nil =>
      have defaults :=
        Template.shows_word " DEFAULT VALUES" ["DEFAULT", "VALUES"] tells (by decide) (by decide)
      have target :=
        defaults.identifier (Template.standsOff_word (by decide) (by decide) _) tells names.table
      rw [insertTemplate, insertKeywords, inserted]
      exact target.word "INSERT INTO " ["INSERT", "INTO"] tells (by decide)
  | cons first others =>
      have listed : ∀ field ∈ schema.insertFields,
          Template.Shows backend [] [.identifier field.column] :=
        fun field member =>
          Template.shows_nil.identifier Template.standsOff_nil tells (columnsNamed field member)
      have bound : ∀ field ∈ schema.insertFields, Template.Shows backend [] [.placeholder] :=
        fun _ _ => Template.shows_nil.placeholder Template.standsOff_nil tells
      have columns := Template.Shows.separated tells listed
      have signs := Template.Shows.separated tells bound
      rw [List.flatMap_eq_nil_iff.2 fun _ _ => rfl] at columns signs
      have values := signs.word ") VALUES (" ["VALUES"] tells (by decide)
      have closed := Template.shows_nil.word ")" [] tells (by decide)
      have row := columns.append values (Template.standsOff_word (by decide) (by decide) _)
      have written := row.append closed (Template.standsOff_word (by decide) (by decide) _)
      have target :=
        (written.word " (" [] tells (by decide)).identifier
          (Template.standsOff_word (by decide) (by decide) _) tells names.table
      have listedKeywords : schema.insertKeywords = ["INSERT", "INTO", "VALUES"] := by
        rw [insertKeywords, inserted]
        rfl
      rw [insertTemplate_of_cons inserted, ← inserted, listedKeywords]
      exact target.word "INSERT INTO " ["INSERT", "INTO"] tells (by decide)

end Parts

/-! ## Statements of a table and of a patch -/

/--
The keywords of a table's statements.  A select list adds one for each alias, and nothing else
depends on the fields but whether an insert lists any.
-/
structure TableSchema.ShowsKeywords
    (schema : TableSchema)
    (backend : Backend)
    (plan : TablePlan) :
    Prop where
  get : plan.get.ShowsKeywords backend (selectKeywords schema.fields ++ ["WHERE"])
  all : plan.all.ShowsKeywords backend (selectKeywords schema.fields)
  paginated :
    plan.paginated.ShowsKeywords backend (selectKeywords schema.fields ++ ["LIMIT", "OFFSET"])
  update : ∀ statement ∈ plan.update, statement.ShowsKeywords backend ["UPDATE", "SET", "WHERE"]
  delete :
    ∀ statement ∈ plan.delete, statement.ShowsKeywords backend ["DELETE", "FROM", "WHERE"]
  setters :
    ∀ setter ∈ plan.setters, setter.statement.ShowsKeywords backend ["UPDATE", "SET", "WHERE"]
  getters :
    ∃ style : SetStyle,
      backend.membership = style.test ∧
        ∀ getter ∈ plan.getters,
          getter.statement.ShowsKeywords backend
            (selectKeywords schema.fields ++ ["WHERE"] ++ getter.kind.keywords style)
  insert :
    ∀ insert ∈ plan.insert,
      insert.statement.ShowsKeywords backend
        (schema.insertKeywords ++ schema.returningKeywords backend)
  lastInsertId :
    ∀ insert ∈ plan.insert, ∀ statement ∈ insert.lastInsertId,
      statement.ShowsKeywords backend ["SELECT"]
  fetchDefaults :
    ∀ insert ∈ plan.insert, ∀ statement ∈ insert.fetchDefaults,
      statement.ShowsKeywords backend (selectKeywords schema.otherDefaults ++ ["WHERE"])

namespace TableSchema

variable {schema : TableSchema} {backend : Backend} {mark : Char}

theorem showsKeywords_insertPlan
    {plan : InsertPlan}
    (tells : backend.TellsKeywords mark)
    (names : schema.HasIdentifierNames)
    (planned : schema.insertPlan backend = .ok plan) :
    plan.statement.ShowsKeywords backend
      (schema.insertKeywords ++ schema.returningKeywords backend) := by
  have inserted := shows_insertTemplate tells names
  by_cases returning : backend.supportsReturning = true
  · have returnedNamed :
        ∀ field ∈ schema.identifier :: schema.otherDefaults, field.HasIdentifierNames :=
      List.forall_mem_cons.2
        ⟨names.identifier, fun field isDefault =>
          names.fields field (mem_fields_of_mem_otherDefaults isDefault)⟩
    have returned :=
      (shows_selectList tells returnedNamed).word " RETURNING " ["RETURNING"] tells (by decide)
    rw [eq_of_insertPlan_of_returning returning planned, returningKeywords, if_pos returning]
    exact
      showsKeywords_ofTemplate
        (inserted.append returned (Template.standsOff_word (by decide) (by decide) _)) _
  · rw [eq_of_insertPlan (Bool.of_not_eq_true returning) planned, returningKeywords,
      if_neg returning, List.append_nil]
    exact showsKeywords_ofTemplate inserted _

theorem showsKeywords_lastInsertId
    {plan : InsertPlan}
    (standard : backend ∈ standardBackends)
    (planned : schema.insertPlan backend = .ok plan)
    {statement : Statement}
    (isQuery : plan.lastInsertId = some statement) :
    statement.ShowsKeywords backend ["SELECT"] := by
  have each :
      ∀ backend ∈ standardBackends, ∀ sql ∈ backend.lastInsertId,
        backend.bareKeywords sql.toList = backend.reservedAmong ["SELECT"] := by
    decide +kernel
  by_cases returning : backend.supportsReturning = true
  · rw [eq_of_insertPlan_of_returning returning planned] at isQuery
    cases isQuery
  · rw [eq_of_insertPlan (Bool.of_not_eq_true returning) planned] at isQuery
    dsimp only at isQuery
    split_ifs at isQuery
    · rcases Option.map_eq_some_iff.1 isQuery with ⟨sql, isSql, rfl⟩
      exact each backend standard sql isSql

theorem showsKeywords_of_compile
    {plan : TablePlan}
    (standard : backend ∈ standardBackends)
    (names : schema.HasIdentifierNames)
    (compiled : (schema.compile backend).outcome = .ok plan) :
    schema.ShowsKeywords backend plan := by
  rcases Backend.exists_tellsKeywords standard with ⟨mark, tells⟩
  have isPlan := eq_of_compile compiled
  have selected : (schema.selectFrom schema.fields).Shows backend (selectKeywords schema.fields) :=
    shows_selectFrom tells names names.fields
  constructor
  case get =>
    rw [isPlan]
    exact showsKeywords_ofTemplate (shows_restrict selected tells names.identifier.2) _
  case all =>
    rw [isPlan]
    exact showsKeywords_ofTemplate selected _
  case paginated =>
    rw [isPlan]
    exact showsKeywords_ofTemplate (shows_paginatedTemplate tells names) _
  case update =>
    intro statement isUpdate
    rw [isPlan] at isUpdate
    dsimp only [update?] at isUpdate
    split_ifs at isUpdate
    · cases isUpdate
    · rw [← Option.some.inj isUpdate]
      apply showsKeywords_ofTemplate
      apply shows_updateTemplate tells names
      intro column member
      rcases List.mem_map.1 member with ⟨field, isField, rfl⟩
      exact (names.fields field (List.mem_of_mem_filter isField)).2
  case delete =>
    intro statement isDelete
    rw [isPlan] at isDelete
    dsimp only at isDelete
    split_ifs at isDelete
    · rw [← Option.some.inj isDelete]
      exact showsKeywords_ofTemplate (shows_deleteTemplate tells names) _
    · cases isDelete
  case setters =>
    intro setter member
    rw [isPlan] at member
    rcases List.mem_filterMap.1 member with ⟨field, isField, named⟩
    rcases Option.map_eq_some_iff.1 named with ⟨name, -, rfl⟩
    apply showsKeywords_ofTemplate
    apply shows_updateTemplate tells names
    intro column isColumn
    rw [List.mem_singleton.1 isColumn]
    exact (names.fields field isField).2
  case getters =>
    rcases Backend.exists_writesPlainly standard with ⟨_, plainly⟩
    rcases plainly.tests with ⟨style, tests⟩
    refine ⟨style, tests, fun getter member => ?_⟩
    rw [isPlan] at member
    rcases List.mem_map.1 member with ⟨⟨field, kind, spec⟩, lookup, rfl⟩
    have isField := mem_fields_of_mem_lookups lookup
    exact showsKeywords_ofTemplate (shows_lookupTemplate tells tests names isField kind) _
  case insert =>
    intro insert inserted
    exact showsKeywords_insertPlan tells names (insertPlan_of_compile compiled inserted)
  case lastInsertId =>
    intro insert inserted statement isQuery
    exact showsKeywords_lastInsertId standard (insertPlan_of_compile compiled inserted) isQuery
  case fetchDefaults =>
    intro insert inserted statement fetched
    have planned := insertPlan_of_compile compiled inserted
    have defaultsNamed : ∀ field ∈ schema.otherDefaults, field.HasIdentifierNames :=
      fun field isDefault => names.fields field (mem_fields_of_mem_otherDefaults isDefault)
    rw [(fetchDefaults_of_insertPlan planned fetched).2]
    exact
      showsKeywords_ofTemplate
        (shows_restrict (shows_selectFrom tells names defaultsNamed) tells names.identifier.2) _

end TableSchema

theorem PatchSchema.shows_template
    {schema : PatchSchema}
    {backend : Backend}
    {mark : Char}
    (tells : backend.TellsKeywords mark)
    (names : schema.HasIdentifierNames) :
    schema.template.Shows backend ["UPDATE", "SET", "WHERE"] := by
  have columnsNamed :
      ∀ column ∈ schema.fields.map PatchField.column, isIdentifier column.toList = true := by
    intro column member
    rcases List.mem_map.1 member with ⟨field, isField, rfl⟩
    exact (names.fields field isField).2
  have assigned := (shows_assignments tells columnsNamed).word " SET " ["SET"] tells (by decide)
  have target :=
    assigned.identifier (Template.standsOff_word (by decide) (by decide) _) tells
      names.targetTable
  exact shows_restrict (target.word "UPDATE " ["UPDATE"] tells (by decide)) tells
    names.identifierColumn

/--
Whatever identifiers the names of a table or of a patch are, the reserved words that its
statements show outside quotes are the keywords of the statements themselves.
-/
theorem showsKeywords_compile
    {backend : Backend}
    (standard : backend ∈ standardBackends) :
    (∀ schema : TableSchema, schema.HasIdentifierNames →
      ∃ plan : TablePlan,
        (schema.compile backend).outcome = .ok plan ∧ schema.ShowsKeywords backend plan) ∧
      ∀ schema : PatchSchema, schema.HasIdentifierNames → schema.fields ≠ [] →
        ∃ plan : PatchPlan,
          (schema.compile backend).outcome = .ok plan ∧
            plan.statement.ShowsKeywords backend ["UPDATE", "SET", "WHERE"] := by
  constructor
  · intro schema names
    rcases schema.exists_compile (TableSchema.able_of_standard standard) with ⟨plan, compiled⟩
    exact ⟨plan, compiled, TableSchema.showsKeywords_of_compile standard names compiled⟩
  · intro schema names notEmpty
    rcases PatchSchema.exists_compile notEmpty backend with ⟨plan, compiled, isStatement⟩
    rcases Backend.exists_tellsKeywords standard with ⟨mark, tells⟩
    refine ⟨plan, compiled, ?_⟩
    rw [isStatement]
    exact showsKeywords_ofTemplate (PatchSchema.shows_template tells names) _

theorem showsKeywords_compile_orders :
    (Backend.mysql ∈ standardBackends ∧
        TableSchema.orders.HasIdentifierNames ∧
          orderPatch.HasIdentifierNames ∧ orderPatch.fields ≠ []) ∧
      (∃ plan : TablePlan,
          (TableSchema.orders.compile .mysql).outcome = .ok plan ∧
            TableSchema.orders.ShowsKeywords .mysql plan) ∧
        ∃ plan : PatchPlan,
          (orderPatch.compile .mysql).outcome = .ok plan ∧
            plan.statement.ShowsKeywords .mysql ["UPDATE", "SET", "WHERE"] := by
  have standard : Backend.mysql ∈ standardBackends := List.mem_cons_of_mem _ List.mem_cons_self
  have ordersNamed : TableSchema.orders.HasIdentifierNames :=
    ⟨by decide +kernel, by decide +kernel, by decide +kernel⟩
  have patchNamed : orderPatch.HasIdentifierNames :=
    ⟨by decide +kernel, by decide +kernel, by decide +kernel⟩
  have notEmpty : orderPatch.fields ≠ [] := List.cons_ne_nil _ _
  have shown := showsKeywords_compile standard
  exact
    ⟨⟨standard, ordersNamed, patchNamed, notEmpty⟩, shown.1 TableSchema.orders ordersNamed,
      shown.2 orderPatch patchNamed notEmpty⟩

end SqlMapping
