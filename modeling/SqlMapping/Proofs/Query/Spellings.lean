import SqlMapping.Backend
import SqlMapping.Proofs.Outcome
import SqlMapping.Proofs.Query.Tails

/-!
# Spelled names

A name is spelled bare, if it is an identifier that means nothing to the scanner, or between
quote marks that do not occur in it.  Whatever stands between quote marks is hidden from the
scanner, with the marks inside doubled.

The main statements say that a spelled name is a select item of its own, that an alias may be
put behind any select item, and that both items have the name that was spelled.
-/

namespace SqlMapping.Query

open Text

/-- The words by which the scanner takes a select list apart. -/
def scannerWords : List String := ["DISTINCT", "ALL", "FROM", "AS"]

/-- A way to write a name. -/
inductive Spelling : (name text : List Char) → Prop
  | bare {name : List Char} :
      isIdentifier name = true →
        (∀ keyword ∈ scannerWords, name.map Char.toUpper ≠ keyword.toList) →
          Spelling name name
  | quoted {name : List Char} {mark : Char} :
      IsQuoteMark mark → mark ∉ name → Spelling name (mark :: (name ++ [mark]))

variable {name text head : List Char} {mark : Char}

/-- Nothing is doubled where the mark does not occur. -/
theorem doubleMarks_of_not_mem
    (absent : mark ∉ name) :
    Backend.doubleMarks [mark] name = name := by
  induction name with
  | nil => exact Backend.doubleMarks_nil mark
  | cons character rest inductionHypothesis =>
      rw [List.mem_cons, not_or] at absent
      rw [Backend.doubleMarks_cons, if_neg absent.1, inductionHypothesis absent.2]
      rfl

/-! ## Spelled names as items -/

/-- The words of an item with an alias: those of the item, AS, and those of the alias. -/
theorem topLevelWords_alias
    (closed : IsClosed head)
    (text : List Char) :
    topLevelWords (head ++ (" AS ".toList ++ text)) =
      topLevelWords head
        ++ ⟨head.length + 1, head.length + 3, "AS".toList⟩
          :: (topLevelWords text).map (Word.shift (head.length + 4)) := by
  have wordClosed : IsClosed " AS ".toList := rfl
  have keyword : topLevelWords " AS ".toList = [⟨1, 3, "AS".toList⟩] := by decide +kernel
  have front : Separated head (" AS ".toList ++ text) := separated_blank_cons head _
  have back : Separated " AS ".toList text := separated_append_blank " AS".toList text
  have wordLength : " AS ".toList.length = 4 := rfl
  rw [topLevelWords_append closed front, topLevelWords_append wordClosed back, keyword, wordLength,
    List.map_append, List.map_map, List.map_singleton]
  simp only [Function.comp_def, Word.shift_shift, List.singleton_append]
  congr 2
  · rw [Word.shift]
    simp [Nat.add_comm]
  · simp [Nat.add_comm]

/-- An item with an alias begins with DISTINCT or ALL only if the item does without it. -/
theorem startsWithQuantifier_of_alias
    (closed : IsClosed head)
    (starts : StartsWithQuantifier (head ++ (" AS ".toList ++ text))) :
    StartsWithQuantifier head := by
  rcases starts with ⟨word, isFirst, keyword, blank⟩
  rw [topLevelWords_alias closed] at isFirst
  cases headWords : topLevelWords head with
  | nil =>
      rw [headWords] at isFirst
      cases isFirst
      cases keyword
  | cons first others =>
      rw [headWords] at isFirst
      obtain rfl : first = word := Option.some.inj isFirst
      refine ⟨first, by rw [headWords]; rfl, keyword, ?_⟩
      intro character member
      refine blank character ?_
      rw [List.take_append]
      exact List.mem_append_left _ member

namespace Spelling

/-- A spelled name is a written one. -/
theorem written (spelling : Spelling name text) : Written name text := by
  cases spelling with
  | bare identifier unreserved => exact .bare (isName_of_isIdentifier identifier)
  | quoted isMark absent => exact .quoted (closingMark?_of_isQuoteMark isMark) absent

/-- A spelled name has no comma that the scanner sees. -/
theorem hasNoComma (spelling : Spelling name text) : HasNoComma text := by
  intro member
  cases spelling with
  | bare identifier unreserved =>
      have inText : ',' ∈ name := by
        have mapped := List.mem_map_of_mem (f := Prod.fst) member
        rwa [map_fst_marked] at mapped
      exact not_mem_of_isIdentifier identifier (by decide) inText
  | quoted isMark absent =>
      cases (scan_enclosed (closingMark?_of_isQuoteMark isMark) absent).2 (',', true) member

/-- A spelled name is none of the words that the scanner looks for. -/
theorem map_toUpper_ne
    (spelling : Spelling name text)
    {keyword : String}
    (isKeyword : keyword ∈ scannerWords) :
    text.map Char.toUpper ≠ keyword.toList := by
  cases spelling with
  | bare identifier unreserved => exact unreserved keyword isKeyword
  | quoted isMark absent =>
      have beginsOtherwise :
          ∀ keyword ∈ scannerWords,
            keyword.toList.head? ≠ some '"' ∧ keyword.toList.head? ≠ some '\x60' := by
        decide
      intro equal
      have begins := congrArg List.head? equal
      rcases isMark with rfl | rfl
      · exact (beginsOtherwise keyword isKeyword).1 begins.symm
      · exact (beginsOtherwise keyword isKeyword).2 begins.symm

theorem is_eq_false_of_mem
    (spelling : Spelling name text)
    {word : Word}
    (member : word ∈ topLevelWords text)
    {keyword : String}
    (isKeyword : keyword ∈ scannerWords) :
    word.is keyword = false :=
  spelling.written.is_eq_false_of_mem (spelling.map_toUpper_ne isKeyword) member

/-- A spelled name is a select item of its own. -/
theorem isSelectItem (spelling : Spelling name text) : IsSelectItem text where
  isClosed := spelling.written.isClosed
  hasNoComma := spelling.hasNoComma
  hasNoFrom word member := spelling.is_eq_false_of_mem member (by decide)
  notQuantified := by
    rintro ⟨word, isFirst, keyword, -⟩
    have member : word ∈ topLevelWords text := List.mem_of_mem_head? isFirst
    have notDistinct : word.is "DISTINCT" = false :=
      spelling.is_eq_false_of_mem member (by decide)
    have notAll : word.is "ALL" = false := spelling.is_eq_false_of_mem member (by decide)
    rw [notDistinct, notAll] at keyword
    cases keyword

/-- An item with an alias has the name that the alias spells. -/
theorem itemNameOf_alias
    (spelling : Spelling name text)
    (closed : IsClosed head)
    (postgres : Bool) :
    itemNameOf postgres (head ++ (" AS ".toList ++ text)) =
      .ok (dropMarker typeMarker.toList name) := by
  have named :=
    spelling.written.itemNameOf_append (spelling.map_toUpper_ne (by decide))
      (closed.append isClosed_blank) (separated_append_blank head _) postgres
  rwa [List.append_assoc] at named

/-- An item with an alias is a select item if it is one without. -/
theorem isSelectItem_alias
    (spelling : Spelling name text)
    (isItem : IsSelectItem head) :
    IsSelectItem (head ++ (" AS ".toList ++ text)) := by
  have wordClosed : IsClosed " AS ".toList := rfl
  have words := topLevelWords_alias isItem.isClosed text
  constructor
  · exact isItem.isClosed.append (wordClosed.append spelling.written.isClosed)
  · rw [HasNoComma, isItem.isClosed.marked_append, wordClosed.marked_append, List.mem_append,
      List.mem_append, not_or, not_or]
    exact ⟨isItem.hasNoComma, by decide, spelling.hasNoComma⟩
  · intro word member
    rw [words, List.mem_append, List.mem_cons, List.mem_map] at member
    rcases member with inHead | rfl | ⟨unshifted, inText, rfl⟩
    · exact isItem.hasNoFrom word inHead
    · rfl
    · exact spelling.is_eq_false_of_mem inText (by decide)
  · exact fun starts => isItem.notQuantified (startsWithQuantifier_of_alias isItem.isClosed starts)

/-- A spelled name is a column of that name. -/
theorem plainColumn?_eq
    (spelling : Spelling name text)
    (named : name ≠ []) :
    plainColumn? text = some text := by
  have taken : takeIdentifier text = some (text, []) := by
    cases spelling with
    | bare identifier unreserved =>
        cases name with
        | nil => cases identifier
        | cons first rest =>
            have isRun : ∀ character ∈ rest, isWordCharacter character = true := by
              intro character member
              exact
                isWordCharacter_of_isIdentifierCharacter
                  (isIdentifierCharacter_of_mem identifier (List.mem_cons_of_mem first member))
            have nothing :
                ∀ character ∈ ([] : List Char).head?, isWordCharacter character = false := by
              simp
            have taken :=
              takeIdentifier_word (isWordStart_of_isIdentifier identifier) isRun nothing
            rwa [List.append_nil] at taken
    | @quoted mark isMark absent =>
        have notEmpty : name.isEmpty = false := by simpa using named
        rw [takeIdentifier, if_pos (isQuoteMark_iff.2 isMark)]
        simp only [takeWhile_ne_mark absent, dropWhile_ne_mark absent, notEmpty]
        rfl
  rw [plainColumn?, lastComponent?, taken]
  rfl

/-- A spelled name has no alias. -/
theorem tail?_eq_none (spelling : Spelling name text) : tail? text = none := by
  cases spelling with
  | bare identifier unreserved =>
      have bare := IsBareRun.of_isName (isName_of_isIdentifier identifier)
      exact tail?_append_eq_none bare (Or.inl rfl)
  | quoted isMark absent =>
      have joined : ∀ last ∈ ([] : List Char).getLast?, isBlank last = false := by simp
      exact tail?_append_enclosed isMark absent joined

theorem isUnaliased (spelling : Spelling name text) : IsUnaliased text := by
  have hasNoAs : ∀ word ∈ topLevelWords ([] ++ text), word.is "AS" = false :=
    fun word member => spelling.is_eq_false_of_mem member (by decide)
  exact IsUnaliased.of_written spelling.written hasNoAs

/-- A column has the name that was spelled. -/
theorem itemNameOf_column
    (spelling : Spelling name text)
    (named : name ≠ [])
    (postgres : Bool) :
    itemNameOf postgres text = .ok (dropMarker typeMarker.toList name) := by
  have notAliased : implicitAlias? text = none := by
    rw [implicitAlias?, spelling.tail?_eq_none]
  rw [spelling.isUnaliased.itemNameOf_of_expression notAliased, expressionName,
    spelling.plainColumn?_eq named]
  dsimp only
  rw [nameOf, spelling.written.unquote_eq]

end Spelling

/-! ## Named items -/

/-- An item that every dialect reads back as a name. -/
structure IsItemNamed (name item : List Char) : Prop where
  isSelectItem : IsSelectItem item
  isTrimmed : trimBlanks item = item
  notEmpty : item ≠ []
  itemNameOf_eq : ∀ postgres, itemNameOf postgres item = .ok name

namespace Spelling

/-- A column is named by what it spells. -/
theorem isItemNamed_column
    (spelling : Spelling name text)
    (named : name ≠ []) :
    IsItemNamed (dropMarker typeMarker.toList name) text where
  isSelectItem := spelling.isSelectItem
  isTrimmed := spelling.written.trimBlanks_eq
  notEmpty := spelling.written.ne_nil
  itemNameOf_eq := spelling.itemNameOf_column named

/-- A column with an alias is named by what the alias spells. -/
theorem isItemNamed_alias
    {column : List Char}
    (columnSpelling : Spelling column head)
    (spelling : Spelling name text) :
    IsItemNamed (dropMarker typeMarker.toList name) (head ++ (" AS ".toList ++ text)) := by
  constructor
  · exact spelling.isSelectItem_alias columnSpelling.isSelectItem
  · refine trimBlanks_of_ends (fun _ isFirst => ?_) fun last isLast => ?_
    · exact columnSpelling.written.begins_append _ isFirst
    · rw [← List.append_assoc] at isLast
      exact (spelling.written.ends_append _ isLast).1
  · exact fun empty => columnSpelling.written.ne_nil (List.append_eq_nil_iff.1 empty).1
  · exact spelling.itemNameOf_alias columnSpelling.written.isClosed

end Spelling

/-- A statement whose items are named is read back as their names. -/
theorem outputNames_of_isItemNamed
    {α : Type}
    {entries : List α}
    {nameOf itemOf : α → List Char}
    (named : ∀ entry ∈ entries, IsItemNamed (nameOf entry) (itemOf entry))
    {rest : List Char}
    (ends : ∀ first ∈ rest.head?, isWordCharacter first = false)
    {sql : String}
    (written :
      sql.toList =
        "SELECT".toList
          ++ (' ' :: (joinItems (entries.map itemOf) ++ [' ']) ++ ("FROM".toList ++ rest)))
    (dialect : Option String) :
    outputNames dialect sql =
      .ok (some (entries.map fun entry => String.ofList (nameOf entry))) := by
  have isItem : ∀ item ∈ entries.map itemOf, IsSelectItem item := by
    intro item member
    rcases List.mem_map.1 member with ⟨entry, isEntry, rfl⟩
    exact (named entry isEntry).isSelectItem
  have trimmed : (entries.map itemOf).map trimBlanks = entries.map itemOf := by
    rw [List.map_map]
    exact List.map_congr_left fun entry isEntry => (named entry isEntry).isTrimmed
  have full : (entries.map itemOf).filter (fun item => !item.isEmpty) = entries.map itemOf := by
    rw [List.filter_eq_self]
    intro item member
    rcases List.mem_map.1 member with ⟨entry, isEntry, rfl⟩
    simpa using (named entry isEntry).notEmpty
  have read :
      ((entries.map itemOf).mapM fun item =>
          (itemNameOf (namesExpressions dialect) item).map String.ofList) =
        .ok (entries.map fun entry => String.ofList (nameOf entry)) := by
    rw [Outcome.mapM_eq_ok_iff, List.forall₂_map_left_iff, List.forall₂_map_right_iff,
      List.forall₂_same]
    intro entry isEntry
    rw [(named entry isEntry).itemNameOf_eq, Outcome.map_ok]
  rw [outputNames_select isItem ends written, trimmed, full, read, Outcome.map_ok]

end SqlMapping.Query
