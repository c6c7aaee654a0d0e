import SqlMapping.Proofs.Query.Calls
import SqlMapping.Proofs.Statement.OutputNames

/-!
# Implicit aliases

An alias may follow a column without the word AS.  It is found unless what precedes it ends in the
letters of AND, OR, NOT or IS, since an expression may go on behind these words.  The letters are
looked for at the end of the text and not at the end of a word, so that a column such as `color`
loses its alias.

The main statement compares both spellings of an alias for every column.
-/

namespace SqlMapping

open Query

/-- The words of which none is an alias, although not every backend reserves them. -/
def truthWords : List String := ["TRUE", "FALSE"]

namespace Backend

/-- An identifier that a backend does not reserve, and that is no truth value. -/
structure TakesAsAlias (backend : Backend) (name : String) : Prop where
  isIdentifier : isIdentifier name.toList = true
  notReserved : backend.isReserved name = false
  notTruth : Text.upper name ∉ truthWords

variable {backend : Backend} {name : String}

theorem TakesAsAlias.writesBare (taken : backend.TakesAsAlias name) : backend.WritesBare name :=
  ⟨isName_of_isIdentifier taken.isIdentifier, taken.notReserved⟩

end Backend

namespace Query

open Text

/-- Whether a name ends in the letters of a word behind which an expression goes on. -/
def EndsLikeConnective (name : String) : Prop :=
  ∃ word ∈ connectives, word.toList <:+ (Text.upper name).toList

instance (name : String) : Decidable (EndsLikeConnective name) :=
  inferInstanceAs (Decidable (∃ word ∈ connectives, word.toList <:+ (Text.upper name).toList))

variable {front : List Char} {word name : String}

/-- The end of a text does not reach beyond a character that it does not have. -/
theorem suffix_append_cons_iff
    {characters rest : List Char}
    {mark : Char}
    (absent : mark ∉ characters) :
    characters <:+ front ++ mark :: rest ↔ characters <:+ rest := by
  constructor
  · rintro ⟨before, equal⟩
    rcases List.append_eq_append_iff.1 equal with ⟨more, -, whole⟩ | ⟨more, -, split⟩
    · exact absurd (by rw [whole]; simp) absent
    · cases more with
      | nil => exact absurd (by rw [List.nil_append] at split; rw [← split]; simp) absent
      | cons first others =>
          rw [List.cons_append, List.cons.injEq] at split
          exact ⟨others, split.2.symm⟩
  · exact fun isSuffix => isSuffix.trans ⟨front ++ [mark], by simp⟩

/-- Whether the word behind a text is a word of its own, since a blank or a colon precedes it. -/
def IsWordBoundary (front : List Char) : Prop :=
  ∀ last ∈ front.getLast?, last = ' ' ∨ last = ':'

/-- A connective at the end of a text is one at the end of its last word. -/
theorem suffix_upperCharacters_iff
    (boundary : IsWordBoundary front)
    (word : String)
    {keyword : String}
    (isKeyword : keyword ∈ connectives) :
    keyword.toList <:+ upperCharacters (front ++ word.toList) ↔
      keyword.toList <:+ (Text.upper word).toList := by
  rw [Text.upper, String.toList_ofList]
  rcases List.eq_nil_or_concat' front with rfl | ⟨before, mark, rfl⟩
  · rfl
  · have isMark := boundary mark (by simp)
    have upperMark : upperCharacters [mark] = [mark] ∧ mark ∉ keyword.toList := by
      have apart : ∀ keyword ∈ connectives, ' ' ∉ keyword.toList ∧ ':' ∉ keyword.toList := by
        decide
      rcases isMark with rfl | rfl
      · exact ⟨rfl, (apart keyword isKeyword).1⟩
      · exact ⟨rfl, (apart keyword isKeyword).2⟩
    rw [upperCharacters_append, upperCharacters_append, upperMark.1, List.append_assoc,
      List.singleton_append]
    exact suffix_append_cons_iff upperMark.2

/-- A text expects an operand if its last word ends like a connective. -/
theorem expectsOperand_append_iff
    (isWord : isName word.toList = true)
    (boundary : IsWordBoundary front)
    (trimmed : trimBlanks (front ++ word.toList) = front ++ word.toList) :
    expectsOperand (front ++ word.toList) = true ↔ EndsLikeConnective word := by
  have notOperator : (front ++ word.toList).getLast?.any operators.contains = false := by
    have noWord : operators.any isWordCharacter = false := by decide
    rw [List.getLast?_append_of_ne_nil front (Written.bare isWord).ne_nil, Option.any_eq_false]
    intro last isLast
    rw [← Bool.not_eq_true, List.contains_iff_mem]
    intro isOperator
    exact
      List.any_eq_false.1 noWord last isOperator
        (isWordCharacter_of_isName isWord (List.mem_of_getLast? isLast))
  rw [expectsOperand, notOperator, Bool.false_or, trimmed, List.any_eq_true, EndsLikeConnective]
  refine exists_congr fun keyword => and_congr_right fun isKeyword => ?_
  rw [List.isSuffixOf_iff_suffix, suffix_upperCharacters_iff boundary word isKeyword]

/-- The last of two words is taken for an alias unless the first one ends like a connective. -/
theorem implicitAlias?_append
    (isWord : isName word.toList = true)
    (isNameHere : isName name.toList = true)
    (boundary : IsWordBoundary front)
    (trimmed : trimBlanks (front ++ word.toList) = front ++ word.toList) :
    implicitAlias? (front ++ (word.toList ++ ' ' :: name.toList)) =
      if isIdentifier name.toList = true ∧ Text.upper name ∉ notAliases
          ∧ ¬ EndsLikeConnective word then
        some name.toList
      else none := by
  have expects := expectsOperand_append_iff isWord boundary trimmed
  have isSplit :
      front ++ (word.toList ++ ' ' :: name.toList) =
        ((front ++ word.toList) ++ [' ']) ++ name.toList := by
    simp
  have stops : ∀ last ∈ ((front ++ word.toList) ++ [' ']).getLast?, isBlank last = true := by
    intro last isLast
    rw [List.getLast?_concat] at isLast
    cases isLast
    decide
  have head : dropWhileEnd isBlank ((front ++ word.toList) ++ [' ']) = front ++ word.toList := by
    rw [dropWhileEnd_append isBlank_of_mem_space]
    exact dropWhileEnd_of_getLast? fun _ isLast => ((Written.bare isWord).ends_append _ isLast).1
  have somethingBefore : (front ++ word.toList).isEmpty = false := by
    rw [List.isEmpty_eq_false_iff]
    exact fun nothing => (Written.bare isWord).ne_nil (List.append_eq_nil_iff.1 nothing).2
  rw [implicitAlias?, isSplit, tail?_append_run (.of_isName isNameHere) stops, head]
  by_cases identifier : isIdentifier name.toList = true
  · rw [if_pos ⟨identifier, by simp⟩]
    dsimp only
    rw [trimmed, somethingBefore, Bool.or_false, ← Text.upper]
    simp only [Bool.or_eq_true, List.contains_iff_mem, expects, identifier, true_and]
    by_cases loses : Text.upper name ∈ notAliases ∨ EndsLikeConnective word
    · rw [if_pos loses, if_neg (not_and_or.2 (loses.imp not_not.2 not_not.2))]
    · rw [if_neg loses, if_pos (not_or.1 loses)]
  · rw [if_neg fun found => identifier found.1, if_neg fun found => identifier found.1]

/-! ## Columns with an alias -/

/-- Texts that are scanned one after the other have no other words than both of them. -/
theorem not_is_append
    {left right : List Char}
    {keyword : String}
    (closed : IsClosed left)
    (separate : Separated left right)
    (inLeft : ∀ word ∈ topLevelWords left, word.is keyword = false)
    (inRight : ∀ word ∈ topLevelWords right, word.is keyword = false) :
    ∀ word ∈ topLevelWords (left ++ right), word.is keyword = false := by
  intro word member
  rw [topLevelWords_append closed separate, List.mem_append, List.mem_map] at member
  rcases member with isLeft | ⟨unshifted, isRight, rfl⟩
  · exact inLeft word isLeft
  · rw [Word.is_shift]
    exact inRight unshifted isRight

theorem not_is_blank_cons
    {text : List Char}
    {keyword : String}
    (inText : ∀ word ∈ topLevelWords text, word.is keyword = false) :
    ∀ word ∈ topLevelWords (' ' :: text), word.is keyword = false := by
  refine
    not_is_append isClosed_blank (separated_append_blank [] text) (fun word member => ?_) inText
  rw [topLevelWords_of_isBlank isBlank_of_mem_space] at member
  cases member

theorem not_is_of_isName
    (isNameHere : isName name.toList = true)
    {keyword : String}
    (other : name.toList.map Char.toUpper ≠ keyword.toList) :
    ∀ word ∈ topLevelWords name.toList, word.is keyword = false := fun _ member =>
  (Written.bare isNameHere).is_eq_false_of_mem other member

/-- Two words with a blank between them. -/
def spaced (first second : String) : List Char :=
  first.toList ++ ' ' :: second.toList

theorem isUnaliased_spaced
    (isWord : isName word.toList = true)
    (isNameHere : isName name.toList = true)
    (wordOther : word.toList.map Char.toUpper ≠ "AS".toList)
    (nameOther : name.toList.map Char.toUpper ≠ "AS".toList) :
    IsUnaliased (spaced word name) := by
  have hasNoAs : ∀ found ∈ topLevelWords (spaced word name), found.is "AS" = false :=
    not_is_append (scan_of_isName isWord).1 (separated_blank_cons _ _)
      (not_is_of_isName isWord wordOther)
      (not_is_blank_cons (not_is_of_isName isNameHere nameOther))
  have isSplit : spaced word name = (word.toList ++ [' ']) ++ name.toList := by simp [spaced]
  rw [isSplit] at hasNoAs ⊢
  exact .of_written (.bare isNameHere) hasNoAs

/-- Two words have none of the characters by which PostgreSQL names an expression. -/
theorem not_mem_spaced
    (isWord : isName word.toList = true)
    (isNameHere : isName name.toList = true)
    {character : Char}
    (other : isWordCharacter character = false)
    (visible : character ≠ ' ') :
    character ∉ spaced word name := by
  rw [spaced, List.mem_append, List.mem_cons]
  rintro (inWord | isSpace | inName)
  · rw [isWordCharacter_of_isName isWord inWord] at other
    cases other
  · exact visible isSpace
  · rw [isWordCharacter_of_isName isNameHere inName] at other
    cases other

/-- Two words that are an expression are not named by the second one. -/
theorem expressionName_spaced_ne
    (isWord : isName word.toList = true)
    (isNameHere : isName name.toList = true)
    (other : name.toList.map Char.toUpper ≠ "CASE".toList)
    (postgres : Bool)
    (fuel : Nat) :
    expressionName postgres (fuel + 1) (spaced word name) ≠ .ok name.toList := by
  have noQualifier : ∀ qualifier ∈ ([] : List (List Char)), ∃ own, Component own qualifier := by
    simp
  have ends :
      ∀ character ∈ (' ' :: name.toList).head?,
        isWordCharacter character = false ∧ character ≠ '.' := by
    intro character isFirst
    cases isFirst
    decide
  have notColumn : plainColumn? (spaced word name) = none := by
    have isNone :=
      plainColumn?_joinDots_append noQualifier (.bare isWord) ends (by simp [atEnd])
    rwa [List.nil_append, joinDots, List.intercalate_singleton] at isNone
  have noCast :
      castPosition? 0 ((spaced word name).zip (topLevel {} (spaced word name))) = none := by
    refine castPosition?_eq_none (fun member => ?_) 0
    exact not_mem_spaced isWord isNameHere (by decide) (by decide) (List.of_mem_zip member).1
  have noCall : call? (spaced word name) = none :=
    call?_eq_none (not_mem_spaced isWord isNameHere (by decide) (by decide))
  rw [expressionName, notColumn]
  cases postgres with
  | false =>
      intro equal
      have lengths := congrArg List.length (Except.ok.inj equal)
      simp [spaced] at lengths
      omega
  | true =>
      simp only [Bool.not_true, Bool.false_eq_true, if_false, noCast, noCall]
      intro equal
      have isName := Except.ok.inj equal
      split_ifs at isName
      · exact other (by rw [← isName]; decide)
      · rw [← isName] at isNameHere
        exact absurd isNameHere (by decide)

/-- Every standard backend reserves AS, CASE and, the truth values aside, what is no alias. -/
theorem mem_reserved_of_mem_standardBackends
    {backend : Backend}
    (standard : backend ∈ standardBackends) :
    "AS" ∈ backend.reserved ∧ "CASE" ∈ backend.reserved ∧
      ∀ keyword ∈ notAliases, keyword ∈ truthWords ∨ keyword ∈ backend.reserved := by
  have reserves :
      ∀ backend ∈ standardBackends,
        "AS" ∈ backend.reserved ∧ "CASE" ∈ backend.reserved ∧
          ∀ keyword ∈ notAliases, keyword ∈ truthWords ∨ keyword ∈ backend.reserved := by
    decide +kernel
  exact reserves backend standard

/-! ## Both spellings of an alias -/

section Aliased

variable {backend : Backend} {column : String}

/-- An alias behind AS names any column. -/
theorem itemName_as
    (standard : backend ∈ standardBackends)
    (isColumn : backend.WritesBare column)
    (isAlias : backend.TakesAsAlias name)
    (dialect : Option String) :
    itemName dialect (column ++ " AS " ++ name) = .ok name := by
  have bare := isAlias.writesBare
  have notAs := bare.map_toUpper_ne (mem_reserved_of_mem_standardBackends standard).1
  have found :=
    (Written.bare bare.isName).itemNameOf_append notAs
      ((scan_of_isName isColumn.isName).1.append isClosed_blank)
      (separated_append_blank column.toList ("AS ".toList ++ name.toList))
      (namesExpressions dialect)
  have characters :
      (column ++ " AS " ++ name).toList =
        (column.toList ++ [' ']) ++ ("AS ".toList ++ name.toList) := by
    simp
  rw [itemName, characters, found, dropMarker_of_isName bare.isName, Outcome.map_ok,
    String.ofList_toList]

/-- An alias behind a blank is found unless the column ends like a connective. -/
theorem implicitAlias?_spaced
    (standard : backend ∈ standardBackends)
    (isColumn : backend.WritesBare column)
    (isAlias : backend.TakesAsAlias name) :
    implicitAlias? (spaced column name) =
      if EndsLikeConnective column then none else some name.toList := by
  have bare := isAlias.writesBare
  have notReservedWord : Text.upper name ∉ notAliases := by
    intro isOther
    rcases (mem_reserved_of_mem_standardBackends standard).2.2 _ isOther with isTruth | isReserved
    · exact isAlias.notTruth isTruth
    · exact bare.upper_not_mem isReserved
  have trimmed := (Written.bare isColumn.isName).trimBlanks_eq
  have boundary : IsWordBoundary [] := by simp [IsWordBoundary]
  have found := implicitAlias?_append isColumn.isName bare.isName boundary trimmed
  simpa [spaced, isAlias.isIdentifier, notReservedWord] using found

end Aliased

/--
An alias names its column with or without the word AS, unless the column ends in the letters of AND,
OR, NOT or IS: then the alias is only found behind AS.
-/
theorem itemName_implicitAlias_iff
    {backend : Backend}
    (standard : backend ∈ standardBackends)
    {column name : String}
    (isColumn : backend.WritesBare column)
    (isAlias : backend.TakesAsAlias name) :
    itemName (some backend.name) (column ++ " AS " ++ name) = .ok name ∧
      (itemName (some backend.name) (column ++ " " ++ name) =
          itemName (some backend.name) (column ++ " AS " ++ name) ↔
        ¬ EndsLikeConnective column) := by
  rcases mem_reserved_of_mem_standardBackends standard with ⟨reservesAs, reservesCase, -⟩
  have bare := isAlias.writesBare
  have explicitName := itemName_as standard isColumn isAlias (some backend.name)
  have tail := implicitAlias?_spaced standard isColumn isAlias
  have unaliased :=
    isUnaliased_spaced isColumn.isName bare.isName (isColumn.map_toUpper_ne reservesAs)
      (bare.map_toUpper_ne reservesAs)
  have characters : (column ++ " " ++ name).toList = spaced column name := by
    simp [spaced]
  refine ⟨explicitName, ?_⟩
  rw [explicitName, itemName, characters]
  by_cases endsLike : EndsLikeConnective column
  -- Without an alias the name is the whole text or a fixed one, neither of which is the alias.
  · rw [if_pos endsLike] at tail
    rw [unaliased.itemNameOf_of_expression tail]
    refine iff_of_false (fun equal => ?_) (not_not.2 endsLike)
    rcases Outcome.map_eq_ok_iff.1 equal with ⟨found, isFound, same⟩
    have isWhole : found = name.toList := by rw [← same, String.toList_ofList]
    rw [isWhole] at isFound
    exact
      expressionName_spaced_ne isColumn.isName bare.isName (bare.map_toUpper_ne reservesCase) _ _
        isFound
  · rw [if_neg endsLike] at tail
    rw [unaliased.itemNameOf_of_implicitAlias? tail, Outcome.map_ok,
      nameOf_of_isName bare.isName, String.ofList_toList]
    exact iff_of_true rfl endsLike

/-- A column is named by its alias. -/
theorem itemName_title :
    (Backend.sqlite ∈ standardBackends ∧ Backend.sqlite.WritesBare "title" ∧
        Backend.sqlite.TakesAsAlias "label" ∧ ¬ EndsLikeConnective "title") ∧
      itemName (some "sqlite") "title label" = .ok "label" := by
  have standard : Backend.sqlite ∈ standardBackends := by simp [standardBackends]
  have isColumn : Backend.sqlite.WritesBare "title" := ⟨by decide, by decide +kernel⟩
  have isAlias : Backend.sqlite.TakesAsAlias "label" :=
    ⟨by decide, by decide +kernel, by decide +kernel⟩
  have notConnective : ¬ EndsLikeConnective "title" := by decide +kernel
  rcases itemName_implicitAlias_iff standard isColumn isAlias with ⟨explicitName, same⟩
  exact
    ⟨⟨standard, isColumn, isAlias, notConnective⟩, (same.2 notConnective).trans explicitName⟩

/-- The letters of OR at the end of a column hide its alias. -/
theorem itemName_color :
    (Backend.sqlite ∈ standardBackends ∧ Backend.sqlite.TakesAsAlias "color" ∧
        Backend.sqlite.TakesAsAlias "x") ∧
      itemName (some "sqlite") "color AS x" = .ok "x" ∧
        itemName (some "sqlite") "color x" = .ok "color x" := by
  have standard : Backend.sqlite ∈ standardBackends := by simp [standardBackends]
  refine ⟨⟨standard, ⟨by decide, ?_, ?_⟩, by decide, ?_, ?_⟩, ?_, ?_⟩
  all_goals decide +kernel

end Query

end SqlMapping
