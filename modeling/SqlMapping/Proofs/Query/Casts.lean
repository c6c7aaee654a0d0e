import SqlMapping.Proofs.Query.Aliases

/-!
# Casts

PostgreSQL names a cast after its operand, in both spellings: with CAST and with a cast operator.
A type name of several words is taken apart in the second spelling, though, since the alias of an
item is looked for before a cast is: its last word is taken for an alias of what precedes it.

The main statement says for every column and every type name when both spellings have the name of
the column.
-/

namespace SqlMapping.Query

open Text

/-- A type name: some words of which none is AS. -/
structure IsTypeName (words : List String) : Prop where
  notEmpty : words ≠ []
  isName : ∀ word ∈ words, isName word.toList = true
  notAs : ∀ word ∈ words, word.toList.map Char.toUpper ≠ "AS".toList

/-- The last of the words of a type name, if it is taken for an alias of the cast. -/
structure IsTakenForAlias (words : List String) (last : String) : Prop where
  precedes : ∃ front before, words = front ++ [before, last] ∧ ¬ EndsLikeConnective before
  isIdentifier : isIdentifier last.toList = true
  notReserved : Text.upper last ∉ notAliases

variable {qualifiers words : List String} {name : String}

/-! ## Joined texts -/

theorem mem_intercalate
    {mark character : Char}
    {texts : List (List Char)}
    (member : character ∈ [mark].intercalate texts) :
    character = mark ∨ ∃ text ∈ texts, character ∈ text := by
  induction texts with
  | nil => simp at member
  | cons first rest inductionHypothesis =>
      cases rest with
      | nil =>
          rw [List.intercalate_singleton] at member
          exact Or.inr ⟨first, List.mem_cons_self, member⟩
      | cons second others =>
          rw [List.intercalate_cons_cons, List.mem_append, List.mem_append, List.mem_singleton]
            at member
          rcases member with (inFirst | isMark) | later
          · exact Or.inr ⟨first, List.mem_cons_self, inFirst⟩
          · exact Or.inl isMark
          · refine (inductionHypothesis later).imp_right ?_
            rintro ⟨text, isText, inText⟩
            exact ⟨text, List.mem_cons_of_mem first isText, inText⟩

/-- The words of a type name with blanks between them. -/
def typeText (words : List String) : List Char :=
  (" ".intercalate words).toList

theorem typeText_eq (words : List String) :
    typeText words = [' '].intercalate (words.map String.toList) :=
  String.toList_intercalate

theorem typeText_concat (notEmpty : words ≠ []) (last : String) :
    typeText (words ++ [last]) = typeText words ++ ' ' :: last.toList := by
  rw [typeText, String.intercalate_append_of_ne_nil notEmpty (by simp),
    String.intercalate_singleton, typeText]
  simp

/-- A type name ends with its last word. -/
theorem exists_typeText_eq (init : List String) (last : String) :
    ∃ front : List Char,
      typeText (init ++ [last]) = front ++ last.toList ∧
        ∀ character ∈ front.getLast?, character = ' ' := by
  rcases exists_intercalate_eq ' ' (init.map String.toList) last.toList with
    ⟨front, equal, isJoined, -⟩
  exact ⟨front, by rw [typeText_eq, List.map_append, List.map_singleton, equal], isJoined⟩

namespace IsTypeName

theorem isWordCharacter_of_mem
    (isType : IsTypeName words)
    {character : Char}
    (member : character ∈ typeText words) :
    character = ' ' ∨ isWordCharacter character = true := by
  rw [typeText_eq] at member
  refine (mem_intercalate member).imp_right ?_
  rintro ⟨text, isText, inText⟩
  rcases List.mem_map.1 isText with ⟨word, isWord, rfl⟩
  exact isWordCharacter_of_isName (isType.isName word isWord) inText

/-- A type name leaves nothing open. -/
theorem not_isStructural
    (isType : IsTypeName words)
    {character : Char}
    (member : character ∈ typeText words) :
    ¬ IsStructural character := by
  rcases isType.isWordCharacter_of_mem member with rfl | continues
  · exact not_isStructural_of_isBlank (by decide)
  · exact not_isStructural_of_isWordCharacter continues

/-- No word of a type name is AS. -/
theorem not_is_as (isType : IsTypeName words) :
    ∀ word ∈ topLevelWords (typeText words), word.is "AS" = false := by
  have isName := isType.isName
  have notAs := isType.notAs
  clear isType
  rw [typeText_eq]
  induction words with
  | nil => simp
  | cons first rest inductionHypothesis =>
      rw [List.forall_mem_cons] at isName notAs
      have here := not_is_of_isName isName.1 notAs.1
      cases rest with
      | nil => simpa using here
      | cons second others =>
          have later := inductionHypothesis isName.2 notAs.2
          rw [List.map_cons, List.map_cons, List.intercalate_cons_cons, List.append_assoc]
          rw [List.map_cons] at later
          exact
            not_is_append (scan_of_isName isName.1).1 (separated_blank_cons _ _) here
              (not_is_blank_cons later)

end IsTypeName

/-! ## Operands -/

/-- The words of a column with dots between them. -/
def columnText (qualifiers : List String) (name : String) : List Char :=
  (".".intercalate (qualifiers ++ [name])).toList

theorem columnText_eq (qualifiers : List String) (name : String) :
    columnText qualifiers name = joinDots (qualifiers.map String.toList ++ [name.toList]) := by
  rw [columnText, String.toList_intercalate, List.map_append, List.map_singleton]
  rfl

/-- A column of words that PostgreSQL does not reserve. -/
structure IsBareColumn (qualifiers : List String) (name : String) : Prop where
  writesBare : ∀ component ∈ qualifiers ++ [name], Backend.postgres.WritesBare component

namespace IsBareColumn

theorem isName (column : IsBareColumn qualifiers name) : isName name.toList = true :=
  (column.writesBare name (by simp)).isName

theorem components (column : IsBareColumn qualifiers name) :
    ∀ qualifier ∈ qualifiers.map String.toList, ∃ own, Component own qualifier := by
  intro qualifier member
  rcases List.mem_map.1 member with ⟨component, isQualifier, rfl⟩
  have bare := column.writesBare component (List.mem_append_left [name] isQualifier)
  exact ⟨component.toList, .bare bare.isName⟩

theorem component (column : IsBareColumn qualifiers name) :
    Component name.toList name.toList :=
  .bare column.isName

theorem unreserved (column : IsBareColumn qualifiers name) :
    ∀ first ∈ (qualifiers.map String.toList ++ [name.toList]).head?,
      ∀ keyword ∈ scannerWords, first.map Char.toUpper ≠ keyword.toList := by
  intro first isFirst keyword isKeyword
  have member := List.mem_of_mem_head? isFirst
  rw [← List.map_singleton, ← List.map_append, List.mem_map] at member
  rcases member with ⟨component, isComponent, rfl⟩
  have reserves : ∀ keyword ∈ scannerWords, keyword ∈ Backend.postgres.reserved := by decide
  exact (column.writesBare component isComponent).map_toUpper_ne (reserves keyword isKeyword)

theorem isClosed (column : IsBareColumn qualifiers name) :
    IsClosed (columnText qualifiers name) := by
  rw [columnText_eq]
  exact isClosed_joinDots column.components column.component

theorem trimBlanks_eq (column : IsBareColumn qualifiers name) :
    trimBlanks (columnText qualifiers name) = columnText qualifiers name := by
  rw [columnText_eq]
  exact trimBlanks_joinDots column.components column.component

theorem not_is_as (column : IsBareColumn qualifiers name) :
    ∀ word ∈ topLevelWords (columnText qualifiers name), word.is "AS" = false := by
  rw [columnText_eq]
  intro word member
  exact
    is_eq_false_of_mem_joinDots column.components column.component column.unreserved member
      (by decide)

theorem isWordCharacter_of_mem
    (column : IsBareColumn qualifiers name)
    {character : Char}
    (member : character ∈ columnText qualifiers name) :
    character = '.' ∨ isWordCharacter character = true := by
  rw [columnText_eq] at member
  refine (mem_intercalate member).imp_right ?_
  rintro ⟨text, isText, inText⟩
  rw [← List.map_singleton, ← List.map_append, List.mem_map] at isText
  rcases isText with ⟨component, isComponent, rfl⟩
  exact isWordCharacter_of_isName (column.writesBare component isComponent).isName inText

theorem not_isStructural
    (column : IsBareColumn qualifiers name)
    {character : Char}
    (member : character ∈ columnText qualifiers name) :
    ¬ IsStructural character := by
  rcases column.isWordCharacter_of_mem member with rfl | continues
  · simp [IsStructural, closingMark?]
  · exact not_isStructural_of_isWordCharacter continues

/-- A column begins with a character that is no blank. -/
theorem isBlank_of_mem_head?
    (column : IsBareColumn qualifiers name)
    (rest : List Char) :
    ∀ first ∈ (columnText qualifiers name ++ rest).head?, isBlank first = false := by
  rw [columnText_eq]
  exact joinDots_begins column.components column.component rest

/-- The operand of a cast is named like a column. -/
theorem expressionName_eq
    (column : IsBareColumn qualifiers name)
    (postgres : Bool)
    {fuel : Nat}
    (enough : 0 < fuel) :
    expressionName postgres fuel (columnText qualifiers name) = .ok name.toList := by
  obtain ⟨less, rfl⟩ : ∃ less, fuel = less + 1 := ⟨fuel - 1, by omega⟩
  rw [expressionName, columnText_eq, plainColumn?_joinDots column.components column.component]
  dsimp only
  rw [nameOf_of_isName column.isName]

end IsBareColumn

/-! ## Cast operators -/

/-- A cast with an operator. -/
def operatorCast (qualifiers : List String) (name : String) (words : List String) : List Char :=
  columnText qualifiers name ++ ("::".toList ++ typeText words)

/-- A cast with an operator is named after its operand, unless it has an alias. -/
theorem expressionName_operatorCast
    (column : IsBareColumn qualifiers name)
    (words : List String)
    {fuel : Nat}
    (enough : 1 < fuel) :
    expressionName true fuel (operatorCast qualifiers name words) = .ok name.toList := by
  obtain ⟨less, rfl⟩ : ∃ less, fuel = less + 1 := ⟨fuel - 1, by omega⟩
  have ends :
      ∀ character ∈ ("::".toList ++ typeText words).head?,
        isWordCharacter character = false ∧ character ≠ '.' := by
    intro character isFirst
    cases isFirst
    decide
  have notColumn : plainColumn? (operatorCast qualifiers name words) = none := by
    rw [operatorCast, columnText_eq]
    exact plainColumn?_joinDots_append column.components column.component ends (by simp [atEnd])
  have noColon : ':' ∉ columnText qualifiers name := by
    intro member
    rcases column.isWordCharacter_of_mem member with isDot | continues
    · exact absurd isDot (by decide)
    · exact absurd continues (by decide)
  have isCast :
      castPosition? 0 ((operatorCast qualifiers name words).zip
          (topLevel {} (operatorCast qualifiers name words))) =
        some (columnText qualifiers name).length :=
    castPosition?_marked column.isClosed noColon (typeText words)
  have operand :
      (operatorCast qualifiers name words).take (columnText qualifiers name).length =
        columnText qualifiers name :=
    List.take_left
  rw [expressionName, notColumn]
  simp only [Bool.not_true, Bool.false_eq_true, if_false, isCast, operand, column.trimBlanks_eq]
  exact column.expressionName_eq true (Nat.lt_of_succ_lt_succ enough)

theorem isUnaliased_operatorCast
    (column : IsBareColumn qualifiers name)
    (isType : IsTypeName words) :
    IsUnaliased (operatorCast qualifiers name words) := by
  have colonsClosed : IsClosed "::".toList := rfl
  have noWord : ∀ word ∈ topLevelWords "::".toList, word.is "AS" = false := by decide +kernel
  have notAs : ∀ word ∈ topLevelWords (operatorCast qualifiers name words),
      word.is "AS" = false := by
    refine
      not_is_append column.isClosed (Or.inr fun first isFirst => ?_) column.not_is_as
        (not_is_append colonsClosed (Or.inl fun last isLast => ?_) noWord isType.not_is_as)
    · cases isFirst
      decide
    · cases isLast
      decide +kernel
  rcases List.eq_nil_or_concat' words with rfl | ⟨init, last, rfl⟩
  · exact absurd rfl isType.notEmpty
  · rcases exists_typeText_eq init last with ⟨front, equal, -⟩
    rw [operatorCast, equal, ← List.append_assoc, ← List.append_assoc] at notAs ⊢
    exact .of_written (.bare (isType.isName last (by simp))) notAs

/-- A single word behind an operator is no alias, since no blank precedes it. -/
theorem implicitAlias?_of_single
    (qualifiers : List String)
    (name : String)
    {word : String}
    (isName : isName word.toList = true) :
    implicitAlias? (operatorCast qualifiers name [word]) = none := by
  have noBlank : "::".toList.any isBlank = false := by decide
  have bare :=
    (IsBareRun.of_isName isName).append fun character member =>
      Bool.eq_false_iff.2 (List.any_eq_false.1 noBlank character member)
  have single : typeText [word] = word.toList := by simp [typeText]
  rw [implicitAlias?, operatorCast, single,
    tail?_append_eq_none bare (Or.inr ⟨':', by simp, by decide⟩)]

/-- The last of several words of a type name is an alias, unless what precedes it needs another. -/
theorem implicitAlias?_of_several
    (column : IsBareColumn qualifiers name)
    {front : List String}
    {before last : String}
    (isType : IsTypeName (front ++ [before, last])) :
    implicitAlias? (operatorCast qualifiers name (front ++ [before, last])) =
      if isIdentifier last.toList = true ∧ Text.upper last ∉ notAliases
          ∧ ¬ EndsLikeConnective before then
        some last.toList
      else none := by
  have beforeName := isType.isName before (by simp)
  have lastName := isType.isName last (by simp)
  rcases exists_typeText_eq front before with ⟨start, equal, isJoined⟩
  have isSplit :
      operatorCast qualifiers name (front ++ [before, last]) =
        (columnText qualifiers name ++ ("::".toList ++ start))
          ++ (before.toList ++ ' ' :: last.toList) := by
    have words : front ++ [before, last] = (front ++ [before]) ++ [last] := by simp
    rw [operatorCast, words, typeText_concat (by simp), equal]
    simp only [List.append_assoc]
  have boundary : IsWordBoundary (columnText qualifiers name ++ ("::".toList ++ start)) := by
    intro character isLast
    rw [List.getLast?_append, List.getLast?_append] at isLast
    cases ending : start.getLast? with
    | none =>
        rw [ending] at isLast
        cases isLast
        exact Or.inr rfl
    | some final =>
        rw [ending] at isLast
        cases isLast
        exact Or.inl (isJoined character ending)
  have trimmed :
      trimBlanks ((columnText qualifiers name ++ ("::".toList ++ start)) ++ before.toList) =
        (columnText qualifiers name ++ ("::".toList ++ start)) ++ before.toList := by
    refine trimBlanks_of_ends (fun first isFirst => ?_) fun final isFinal => ?_
    · rw [List.append_assoc] at isFirst
      exact column.isBlank_of_mem_head? _ first isFirst
    · exact ((Written.bare beforeName).ends_append _ isFinal).1
  rw [isSplit]
  exact implicitAlias?_append beforeName lastName boundary trimmed

theorem IsTakenForAlias.getLast?_eq
    {last : String}
    (taken : IsTakenForAlias words last) :
    words.getLast? = some last := by
  rcases taken.precedes with ⟨front, before, rfl, -⟩
  simp

/-- The alias of a cast with an operator is the last word of its type, or there is none. -/
theorem implicitAlias?_operatorCast
    (column : IsBareColumn qualifiers name)
    (isType : IsTypeName words) :
    (∃ last, IsTakenForAlias words last ∧
        implicitAlias? (operatorCast qualifiers name words) = some last.toList) ∨
      (∀ last, ¬ IsTakenForAlias words last) ∧
        implicitAlias? (operatorCast qualifiers name words) = none := by
  rcases List.eq_nil_or_concat' words with rfl | ⟨init, last, rfl⟩
  · exact absurd rfl isType.notEmpty
  · rcases List.eq_nil_or_concat' init with rfl | ⟨front, before, rfl⟩
    · refine Or.inr ⟨fun other taken => ?_, ?_⟩
      · rcases taken.precedes with ⟨front, before, equal, -⟩
        have lengths := congrArg List.length equal
        simp at lengths
      · exact implicitAlias?_of_single qualifiers name (isType.isName last (by simp))
    · have isSplit : (front ++ [before]) ++ [last] = front ++ [before, last] := by simp
      rw [isSplit] at isType ⊢
      rw [implicitAlias?_of_several column isType]
      split_ifs with taken
      · exact Or.inl ⟨last, ⟨⟨front, before, rfl, taken.2.2⟩, taken.1, taken.2.1⟩, rfl⟩
      · refine Or.inr ⟨fun other isTaken => taken ?_, rfl⟩
        rcases isTaken.precedes with ⟨others, own, equal, notConnective⟩
        obtain ⟨-, rfl, rfl⟩ : front = others ∧ before = own ∧ last = other := by
          have reversed := congrArg List.reverse equal
          simp only [List.reverse_append, List.reverse_cons, List.reverse_nil, List.nil_append,
            List.cons_append, List.cons.injEq, List.reverse_inj] at reversed
          exact ⟨reversed.2.2, reversed.2.1, reversed.1⟩
        exact ⟨isTaken.isIdentifier, isTaken.notReserved, notConnective⟩

/-! ## Calls of CAST -/

/-- A call of CAST. -/
def castCall (qualifiers : List String) (name : String) (words : List String) : List Char :=
  "CAST(".toList ++ (columnText qualifiers name ++ (" AS ".toList ++ typeText words) ++ [')'])

/-- The operand and the type name of a cast, without a parenthesis. -/
theorem not_isStructural_inside
    (column : IsBareColumn qualifiers name)
    (isType : IsTypeName words) :
    ∀ character ∈ columnText qualifiers name ++ (" AS ".toList ++ typeText words),
      ¬ IsStructural character := by
  intro character member
  rcases List.mem_append.1 member with inColumn | later
  · exact column.not_isStructural inColumn
  · rcases List.mem_append.1 later with inWord | inType
    · have plain :
          (" AS ".toList.all fun character => character = ' ' || isWordCharacter character) =
            true := by
        decide
      have isPlain := List.all_eq_true.1 plain character inWord
      rw [Bool.or_eq_true, decide_eq_true_eq] at isPlain
      rcases isPlain with rfl | continues
      · exact not_isStructural_of_isBlank (by decide)
      · exact not_isStructural_of_isWordCharacter continues
    · exact isType.not_isStructural inType

theorem isCall_castCall
    (column : IsBareColumn qualifiers name)
    (isType : IsTypeName words) :
    IsCall (castCall qualifiers name words) "CAST".toList []
      (columnText qualifiers name ++ (" AS ".toList ++ typeText words) ++ [')']) where
  item_eq := rfl
  isFunction := by decide
  isBlank_of_mem := by simp
  isHidden := by
    have noParenthesis :
        ')' ∉ columnText qualifiers name ++ (" AS ".toList ++ typeText words) := fun member =>
      not_isStructural_inside column isType ')' member (Or.inr (Or.inr rfl))
    have hidden := (hidden_of_not_closed ⟨1, none⟩ (by decide) noParenthesis).1
    intro entry member
    rw [marked_append, List.mem_append] at member
    rcases member with isInside | isClosing
    · exact hidden entry isInside
    · rw [marked_cons, marked_nil, List.mem_singleton] at isClosing
      subst isClosing
      simp [ScanState.sees]

/-- The operand of a cast stands before the first word AS. -/
theorem beforeAs?_inside (column : IsBareColumn qualifiers name) (words : List String) :
    beforeAs? (columnText qualifiers name ++ (" AS ".toList ++ typeText words)) =
      some (columnText qualifiers name ++ [' ']) := by
  have noOther :
      (topLevelWords (columnText qualifiers name)).find? (fun word => word.is "AS") = none := by
    rw [List.find?_eq_none]
    intro word member
    rw [column.not_is_as word member]
    exact Bool.false_ne_true
  have operand :
      (columnText qualifiers name ++ (" AS ".toList ++ typeText words)).take
          ((columnText qualifiers name).length + 1) =
        columnText qualifiers name ++ [' '] := by
    rw [List.take_append, List.take_of_length_le (Nat.le_succ _)]
    simp
  rw [beforeAs?, topLevelWords_alias column.isClosed, List.find?_append, noOther]
  simpa [Word.is] using operand

theorem expressionName_castCall
    (column : IsBareColumn qualifiers name)
    (isType : IsTypeName words)
    {fuel : Nat}
    (enough : 1 < fuel) :
    expressionName true fuel (castCall qualifiers name words) = .ok name.toList := by
  obtain ⟨less, rfl⟩ : ∃ less, fuel = less + 1 := ⟨fuel - 1, by omega⟩
  have call := isCall_castCall column isType
  have notCast :
      castPosition? 0 ((castCall qualifiers name words).zip
        (topLevel {} (castCall qualifiers name words))) = none :=
    call.castPosition?_eq_none
  have isCast : "CAST".toList.map Char.toUpper = "CAST".toList := by decide
  have inside (characters : List Char) :
      beforeLastParenthesis? (characters ++ [')']) = some characters := by
    simp [beforeLastParenthesis?]
  have operand :
      trimBlanks (columnText qualifiers name ++ [' ']) = columnText qualifiers name := by
    rw [trimBlanks_append_right isBlank_of_mem_space, column.trimBlanks_eq]
  rw [expressionName, call.plainColumn?_eq_none]
  simp only [Bool.not_true, Bool.false_eq_true, if_false, notCast, call.call?_eq, isCast, if_true,
    inside, beforeAs?_inside column words, operand]
  exact column.expressionName_eq true (Nat.lt_of_succ_lt_succ enough)

/-- A call of CAST has no alias. -/
theorem itemNameOf_castCall
    (column : IsBareColumn qualifiers name)
    (isType : IsTypeName words) :
    itemNameOf true (castCall qualifiers name words) = .ok name.toList := by
  have call := isCall_castCall column isType
  have bare : IsBareRun [')'] :=
    ⟨by simp, List.forall_mem_singleton.2 (by decide), by simp [IsQuoteMark]⟩
  have isSplit :
      castCall qualifiers name words =
        ("CAST(".toList ++ (columnText qualifiers name ++ (" AS ".toList ++ typeText words)))
          ++ [')'] := by
    simp [castCall]
  have isLast : ')' ∈ (castCall qualifiers name words).getLast? := by
    rw [isSplit, List.getLast?_concat]
    rfl
  have notAliased : implicitAlias? (castCall qualifiers name words) = none := by
    rw [implicitAlias?, isSplit,
      tail?_append_eq_none bare (Or.inr ⟨')', List.mem_cons_self, by decide⟩)]
  have unaliased : IsUnaliased (castCall qualifiers name words) :=
    ⟨not_star_of_getLast? isLast (by decide), call.filter_is_eq_nil (by decide)⟩
  rw [unaliased.itemNameOf_of_expression notAliased]
  exact expressionName_castCall column isType (by simp [castCall])

/--
PostgreSQL names a cast after its operand if it is written with CAST, and if it is written with an
operator unless the last word of the type is taken for an alias and differs from the operand.
-/
theorem itemName_cast_iff
    (column : IsBareColumn qualifiers name)
    (isType : IsTypeName words) :
    itemName (some "postgres")
          ("CAST(" ++ ".".intercalate (qualifiers ++ [name]) ++ " AS " ++ " ".intercalate words
            ++ ")") =
        .ok name ∧
      (itemName (some "postgres")
            (".".intercalate (qualifiers ++ [name]) ++ "::" ++ " ".intercalate words) =
          .ok name ↔
        ∀ last, IsTakenForAlias words last → last = name) := by
  have callText :
      ("CAST(" ++ ".".intercalate (qualifiers ++ [name]) ++ " AS " ++ " ".intercalate words
        ++ ")").toList = castCall qualifiers name words := by
    simp only [String.toList_append, castCall, columnText, typeText, List.append_assoc]
    rfl
  have operatorText :
      (".".intercalate (qualifiers ++ [name]) ++ "::" ++ " ".intercalate words).toList =
        operatorCast qualifiers name words := by
    simp only [String.toList_append, operatorCast, columnText, typeText, List.append_assoc]
  have isPostgres : namesExpressions (some "postgres") = true := rfl
  have unaliased := isUnaliased_operatorCast column isType
  constructor
  · rw [itemName, callText, isPostgres, itemNameOf_castCall column isType, Outcome.map_ok,
      String.ofList_toList]
  · rw [itemName, operatorText, isPostgres]
    -- The cast is only looked for where no alias has been found.
    rcases implicitAlias?_operatorCast column isType with
      ⟨last, isTaken, found⟩ | ⟨notTaken, nothing⟩
    · have lastNamed := nameOf_of_isName (isName_of_isIdentifier isTaken.isIdentifier)
      rw [unaliased.itemNameOf_of_implicitAlias? found, Outcome.map_ok, lastNamed,
        String.ofList_toList, Except.ok.injEq]
      constructor
      · intro same other otherTaken
        have isLast := otherTaken.getLast?_eq
        rw [isTaken.getLast?_eq] at isLast
        exact (Option.some.inj isLast).symm.trans same
      · exact fun same => same last isTaken
    · have enough : 1 < (operatorCast qualifiers name words).length + 1 := by
        have colons : "::".toList.length = 2 := rfl
        rw [operatorCast, List.length_append, List.length_append, colons]
        omega
      rw [unaliased.itemNameOf_of_expression nothing,
        expressionName_operatorCast column words enough, Outcome.map_ok, String.ofList_toList]
      exact iff_of_true rfl fun last isTaken => absurd isTaken (notTaken last)

/-- A qualified column is named in both spellings, where the type name has a single word. -/
theorem itemName_cast_text :
    (IsBareColumn ["u"] "total" ∧ IsTypeName ["text"]) ∧
      itemName (some "postgres") "CAST(u.total AS text)" = .ok "total" ∧
        itemName (some "postgres") "u.total::text" = .ok "total" := by
  have column : IsBareColumn ["u"] "total" := by
    constructor
    rw [List.singleton_append, List.forall_mem_cons, List.forall_mem_singleton]
    exact ⟨⟨by decide, by decide +kernel⟩, by decide, by decide +kernel⟩
  have isType : IsTypeName ["text"] := ⟨by decide, by decide, by decide⟩
  have notTaken : ∀ last, IsTakenForAlias ["text"] last → last = "total" := by
    intro last isTaken
    rcases isTaken.precedes with ⟨front, before, equal, -⟩
    have lengths := congrArg List.length equal
    simp at lengths
  rcases itemName_cast_iff column isType with ⟨called, operated⟩
  exact ⟨⟨column, isType⟩, called, operated.2 notTaken⟩

/-- The last word of a type name takes the place of the operand behind a cast operator. -/
theorem itemName_cast_doublePrecision :
    (IsBareColumn [] "x" ∧ IsTypeName ["double", "precision"]) ∧
      itemName (some "postgres") "CAST(x AS double precision)" = .ok "x" ∧
        itemName (some "postgres") "x::double precision" = .ok "precision" := by
  refine ⟨⟨⟨?_⟩, by decide, by decide, by decide⟩, ?_, ?_⟩
  · rw [List.nil_append, List.forall_mem_singleton]
    exact ⟨by decide, by decide +kernel⟩
  · decide +kernel
  · decide +kernel

end SqlMapping.Query
