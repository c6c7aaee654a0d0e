import SqlMapping.Proofs.Query.Quantifiers

/-!
# Entries of select lists

An entry of a select list is a column, whose components are joined by dots, or any expression that
leaves no quote and no parenthesis open, followed by AS and an alias.  Names may stand in quotes;
expressions may hold subqueries, texts and further words AS.

The main statement says that the output names of a statement are those of its entries, in order,
whatever the expressions hold and whatever follows the list.
-/

namespace SqlMapping.Query

open Text Outcome

variable {name text item : List Char} {qualifiers : List (List Char)}

/-- A component of a column as it is written. -/
inductive Component : (name text : List Char) → Prop
  | bare {name : List Char} : isName name = true → Component name name
  | quoted {name : List Char} {mark : Char} :
      IsQuoteMark mark → name ≠ [] → mark ∉ name → Component name (mark :: (name ++ [mark]))

/-- Components joined by dots. -/
def joinDots (components : List (List Char)) : List Char :=
  ['.'].intercalate components

/--
An entry of a select list as it is written, with the name that it gives.  The first component of a
column is none of the words DISTINCT, ALL, FROM and AS, and the alias of an expression is not AS.
-/
inductive Entry : (name item : List Char) → Prop
  | column {qualifiers : List (List Char)} {name text : List Char} :
      (∀ qualifier ∈ qualifiers, ∃ own, Component own qualifier) → Component name text →
        (∀ first ∈ (qualifiers ++ [text]).head?, ∀ keyword ∈ scannerWords,
          first.map Char.toUpper ≠ keyword.toList) →
          Entry name (joinDots (qualifiers ++ [text]))
  | aliased {expression name text : List Char} :
      IsClosed expression → Written name text → text.map Char.toUpper ≠ "AS".toList →
        Entry name (expression ++ (" AS ".toList ++ text))

/-- An entry without a comma and a word FROM at its top level. -/
structure IsListed (name item : List Char) : Prop where
  entry : Entry name item
  hasNoComma : HasNoComma item
  hasNoFrom : ∀ word ∈ topLevelWords item, word.is "FROM" = false

/-! ## Components -/

namespace Component

theorem written (component : Component name text) : Written name text := by
  cases component with
  | bare isName => exact .bare isName
  | quoted isMark named absent => exact .quoted (closingMark?_of_isQuoteMark isMark) absent

/-- A component that is joined to another one is no word. -/
theorem wordsFrom_joined (component : Component name text) (position : Nat) :
    wordsFrom position true (marked {} text) = [] := by
  cases component with
  | bare isName => exact wordsFrom_of_isName isName position true
  | quoted isMark named absent =>
      exact
        wordsFrom_of_hidden (scan_enclosed (closingMark?_of_isQuoteMark isMark) absent).2 position
          true

/-- A component is the identifier that a text begins with. -/
theorem takeIdentifier_append
    (component : Component name text)
    {rest : List Char}
    (ends : ∀ character ∈ rest.head?, isWordCharacter character = false) :
    takeIdentifier (text ++ rest) = some (text, rest) := by
  cases component with
  | bare isName =>
      cases name with
      | nil => cases isName
      | cons first run =>
          have isRun : ∀ character ∈ run, isWordCharacter character = true := fun _ member =>
            isWordCharacter_of_isName isName (List.mem_cons_of_mem first member)
          exact takeIdentifier_word ((Bool.and_eq_true _ _).mp isName).1 isRun ends
  | @quoted mark isMark named absent =>
      have notEmpty : name.isEmpty = false := by simpa using named
      rw [List.cons_append, List.append_assoc, takeIdentifier, if_pos (isQuoteMark_iff.2 isMark)]
      simp only [List.singleton_append, takeWhile_ne_mark absent, dropWhile_ne_mark absent,
        notEmpty]
      rfl

/-- A text in which only dots precede its last component does not end with an implicit alias. -/
theorem tail?_append
    (component : Component name text)
    {front : List Char}
    (isJoined : ∀ last ∈ front.getLast?, last = '.') :
    tail? (front ++ text) = none := by
  cases component with
  | bare isName =>
      have bare := IsBareRun.of_isName isName
      rcases List.eq_nil_or_concat' front with rfl | ⟨before, dot, rfl⟩
      · exact tail?_append_eq_none bare (Or.inl rfl)
      · obtain rfl : dot = '.' := isJoined dot (by simp)
        have dotVisible : ∀ character ∈ ['.'], isBlank character = false :=
          List.forall_mem_singleton.2 (by decide)
        rw [List.append_assoc]
        -- The word that the name ends has the dot in it.
        exact
          tail?_append_eq_none (bare.append dotVisible)
            (Or.inr ⟨'.', List.mem_cons_self, by decide⟩)
  | quoted isMark named absent =>
      refine tail?_append_enclosed isMark absent fun last isLast => ?_
      rw [isJoined last isLast]
      decide

end Component

/-! ## Columns -/

theorem joinDots_cons
    (qualifier : List Char)
    (qualifiers : List (List Char))
    (text : List Char) :
    joinDots (qualifier :: qualifiers ++ [text]) =
      qualifier ++ '.' :: joinDots (qualifiers ++ [text]) := by
  cases qualifiers with
  | nil => simp [joinDots, List.intercalate]
  | cons second rest => simp [joinDots, List.intercalate_cons_cons]

/-- A column leaves no quote open. -/
theorem isClosed_joinDots
    (components : ∀ qualifier ∈ qualifiers, ∃ own, Component own qualifier)
    (component : Component name text) :
    IsClosed (joinDots (qualifiers ++ [text])) := by
  induction qualifiers with
  | nil =>
      rw [List.nil_append, joinDots, List.intercalate_singleton]
      exact component.written.isClosed
  | cons qualifier rest inductionHypothesis =>
      rcases components qualifier List.mem_cons_self with ⟨own, first⟩
      have dotClosed : IsClosed ['.'] := rfl
      rw [joinDots_cons]
      exact
        first.written.isClosed.append (dotClosed.append (inductionHypothesis fun other member =>
          components other (List.mem_cons_of_mem qualifier member)))

/-- The words of a column are those of its first component. -/
theorem wordsFrom_joinDots
    (components : ∀ qualifier ∈ qualifiers, ∃ own, Component own qualifier)
    (component : Component name text)
    (position : Nat)
    (joined : Bool) :
    ∃ own first : List Char,
      Component own first ∧ first ∈ (qualifiers ++ [text]).head? ∧
        wordsFrom position joined (marked {} (joinDots (qualifiers ++ [text]))) =
          wordsFrom position joined (marked {} first) := by
  induction qualifiers generalizing position joined with
  | nil =>
      refine ⟨name, text, component, rfl, ?_⟩
      rw [List.nil_append, joinDots, List.intercalate_singleton]
  | cons qualifier rest inductionHypothesis =>
      rcases components qualifier List.mem_cons_self with ⟨own, first⟩
      refine ⟨own, qualifier, first, rfl, ?_⟩
      have later (position : Nat) :
          wordsFrom position true (marked {} (joinDots (rest ++ [text]))) = [] := by
        rcases inductionHypothesis
            (fun other member => components other (List.mem_cons_of_mem qualifier member))
            position true with
          ⟨_, _, second, -, words⟩
        rw [words, second.wordsFrom_joined]
      have separate :
          ∀ entry ∈ (marked {} ('.' :: joinDots (rest ++ [text]))).head?,
            isWordCharacter entry.1 = false := by
        intro entry isNext
        cases isNext
        decide
      have dotSeen : ({} : ScanState).next '.' = {} := rfl
      rw [joinDots_cons, first.written.isClosed.marked_append, wordsFrom_append (Or.inr separate),
        marked_cons, wordsFrom_cons_of_not_start (by decide), dotSeen]
      have joins : joinsWord '.' = true := by decide +kernel
      rw [joins, later, List.append_nil]

/-- The last of some joined texts follows the mark between them, if it is not the only one. -/
theorem exists_intercalate_eq (mark : Char) (texts : List (List Char)) (text : List Char) :
    ∃ front : List Char,
      [mark].intercalate (texts ++ [text]) = front ++ text ∧
        (∀ last ∈ front.getLast?, last = mark) ∧ texts.length ≤ front.length := by
  induction texts with
  | nil => exact ⟨[], by simp, by simp, by simp⟩
  | cons first rest inductionHypothesis =>
      rcases inductionHypothesis with ⟨front, equal, isJoined, isLong⟩
      refine ⟨first ++ mark :: front, ?_, ?_, ?_⟩
      · rw [List.cons_append, List.intercalate_cons_of_ne_nil (by simp), equal]
        simp
      · intro last isLast
        rw [List.getLast?_append, List.getLast?_cons] at isLast
        cases isLast
        cases ending : front.getLast? with
        | none => rfl
        | some last => exact isJoined last ending
      · simp only [List.length_cons, List.length_append]
        omega

/-- The last component of a column follows a dot, if it is not the only one. -/
theorem exists_joinDots_eq (qualifiers : List (List Char)) (text : List Char) :
    ∃ front : List Char,
      joinDots (qualifiers ++ [text]) = front ++ text ∧
        (∀ last ∈ front.getLast?, last = '.') ∧ qualifiers.length ≤ front.length :=
  exists_intercalate_eq '.' qualifiers text

theorem length_lt_joinDots_append
    (qualifiers : List (List Char))
    (text rest : List Char) :
    qualifiers.length < (joinDots (qualifiers ++ [text]) ++ rest).length + 1 := by
  rcases exists_joinDots_eq qualifiers text with ⟨front, equal, -, isLong⟩
  simp only [equal, List.length_append]
  omega

/-- A column is named after its last component, if nothing follows it. -/
theorem lastComponent?_joinDots_append
    (components : ∀ qualifier ∈ qualifiers, ∃ own, Component own qualifier)
    (component : Component name text)
    {rest : List Char}
    (ends : ∀ character ∈ rest.head?, isWordCharacter character = false ∧ character ≠ '.')
    {fuel : Nat}
    (enough : qualifiers.length < fuel) :
    lastComponent? fuel (joinDots (qualifiers ++ [text]) ++ rest) =
      if atEnd rest then some text else none := by
  induction qualifiers generalizing fuel with
  | nil =>
      obtain ⟨others, rfl⟩ : ∃ others, fuel = others + 1 := ⟨fuel - 1, by simp at enough; omega⟩
      have taken :=
        component.takeIdentifier_append fun character isNext => (ends character isNext).1
      rw [List.nil_append, joinDots, List.intercalate_singleton, lastComponent?, taken]
      dsimp only
      split_ifs
      · rfl
      · split
        · exact absurd rfl (ends '.' rfl).2
        · rfl
  | cons qualifier others inductionHypothesis =>
      obtain ⟨less, rfl⟩ : ∃ less, fuel = less + 1 := ⟨fuel - 1, by simp at enough; omega⟩
      rcases components qualifier List.mem_cons_self with ⟨own, first⟩
      have dotEnds :
          ∀ character ∈ ('.' :: (joinDots (others ++ [text]) ++ rest)).head?,
            isWordCharacter character = false := by
        intro character isNext
        cases isNext
        decide
      have goesOn : atEnd ('.' :: (joinDots (others ++ [text]) ++ rest)) = false := by simp [atEnd]
      rw [joinDots_cons, List.append_assoc, List.cons_append, lastComponent?,
        first.takeIdentifier_append dotEnds]
      dsimp only
      rw [goesOn, if_neg Bool.false_ne_true]
      exact
        inductionHypothesis
          (fun other member => components other (List.mem_cons_of_mem qualifier member))
          (by simpa using enough)

/-- A column is named after its last component. -/
theorem plainColumn?_joinDots
    (components : ∀ qualifier ∈ qualifiers, ∃ own, Component own qualifier)
    (component : Component name text) :
    plainColumn? (joinDots (qualifiers ++ [text])) = some text := by
  have nothing :
      ∀ character ∈ ([] : List Char).head?,
        isWordCharacter character = false ∧ character ≠ '.' := by
    simp
  have enough := length_lt_joinDots_append qualifiers text []
  have isLast := lastComponent?_joinDots_append components component nothing enough
  rwa [List.append_nil] at isLast

/-- A column that something follows is no column. -/
theorem plainColumn?_joinDots_append
    (components : ∀ qualifier ∈ qualifiers, ∃ own, Component own qualifier)
    (component : Component name text)
    {rest : List Char}
    (ends : ∀ character ∈ rest.head?, isWordCharacter character = false ∧ character ≠ '.')
    (goesOn : atEnd rest = false) :
    plainColumn? (joinDots (qualifiers ++ [text]) ++ rest) = none := by
  have enough := length_lt_joinDots_append qualifiers text rest
  rw [plainColumn?, lastComponent?_joinDots_append components component ends enough, goesOn,
    if_neg Bool.false_ne_true]

/-- The words of a column are none that the scanner looks for. -/
theorem is_eq_false_of_mem_joinDots
    (components : ∀ qualifier ∈ qualifiers, ∃ own, Component own qualifier)
    (component : Component name text)
    (unreserved :
      ∀ first ∈ (qualifiers ++ [text]).head?, ∀ keyword ∈ scannerWords,
        first.map Char.toUpper ≠ keyword.toList)
    {word : Word}
    (member : word ∈ topLevelWords (joinDots (qualifiers ++ [text])))
    {keyword : String}
    (isKeyword : keyword ∈ scannerWords) :
    word.is keyword = false := by
  rcases wordsFrom_joinDots components component 0 false with ⟨own, first, head, isFirst, words⟩
  have inFirst : word ∈ topLevelWords first := by
    rw [topLevelWords]
    exact words ▸ member
  exact head.written.is_eq_false_of_mem (unreserved first isFirst keyword isKeyword) inFirst

/-- A column begins with no blank. -/
theorem joinDots_begins
    (components : ∀ qualifier ∈ qualifiers, ∃ own, Component own qualifier)
    (component : Component name text)
    (rest : List Char) :
    ∀ first ∈ (joinDots (qualifiers ++ [text]) ++ rest).head?, isBlank first = false := by
  intro first isFirst
  cases qualifiers with
  | nil =>
      rw [List.nil_append, joinDots, List.intercalate_singleton] at isFirst
      exact component.written.begins_append rest isFirst
  | cons qualifier others =>
      rcases components qualifier List.mem_cons_self with ⟨own, head⟩
      rw [joinDots_cons, List.append_assoc] at isFirst
      exact head.written.begins_append _ isFirst

/-- A column has no blanks around it. -/
theorem trimBlanks_joinDots
    (components : ∀ qualifier ∈ qualifiers, ∃ own, Component own qualifier)
    (component : Component name text) :
    trimBlanks (joinDots (qualifiers ++ [text])) = joinDots (qualifiers ++ [text]) := by
  have begins := joinDots_begins components component []
  rw [List.append_nil] at begins
  refine trimBlanks_of_ends begins fun last isLast => ?_
  rcases exists_joinDots_eq qualifiers text with ⟨front, equal, -⟩
  rw [equal] at isLast
  exact (component.written.ends_append front isLast).1

/-! ## Entries as items -/

/-- What an entry is read back as: after trimming, every dialect finds its name. -/
structure IsReadAs (name item : List Char) : Prop where
  isClosed : IsClosed item
  isVisible : trimBlanks item ≠ []
  itemNameOf_eq (postgres : Bool) :
    itemNameOf postgres (trimBlanks item) = .ok (dropMarker typeMarker.toList name)

/-- The scanner sees no AS in a column. -/
theorem isUnaliased_joinDots
    (components : ∀ qualifier ∈ qualifiers, ∃ own, Component own qualifier)
    (component : Component name text)
    (unreserved :
      ∀ first ∈ (qualifiers ++ [text]).head?, ∀ keyword ∈ scannerWords,
        first.map Char.toUpper ≠ keyword.toList) :
    IsUnaliased (joinDots (qualifiers ++ [text])) := by
  have hasNoAs :
      ∀ word ∈ topLevelWords (joinDots (qualifiers ++ [text])), word.is "AS" = false :=
    fun word member =>
      is_eq_false_of_mem_joinDots components component unreserved member (by decide)
  rcases exists_joinDots_eq qualifiers text with ⟨front, equal, -⟩
  rw [equal] at hasNoAs ⊢
  exact .of_written component.written hasNoAs

/-- A column has the name of its last component. -/
theorem isReadAs_joinDots
    (components : ∀ qualifier ∈ qualifiers, ∃ own, Component own qualifier)
    (component : Component name text)
    (unreserved :
      ∀ first ∈ (qualifiers ++ [text]).head?, ∀ keyword ∈ scannerWords,
        first.map Char.toUpper ≠ keyword.toList) :
    IsReadAs name (joinDots (qualifiers ++ [text])) := by
  have trimmed := trimBlanks_joinDots components component
  have unaliased := isUnaliased_joinDots components component unreserved
  rcases exists_joinDots_eq qualifiers text with ⟨front, equal, isJoined, -⟩
  have notAliased : implicitAlias? (joinDots (qualifiers ++ [text])) = none := by
    rw [implicitAlias?, equal, component.tail?_append isJoined]
  constructor
  case isClosed => exact isClosed_joinDots components component
  case isVisible =>
    rw [trimmed]
    intro nothing
    have isColumn := plainColumn?_joinDots components component
    rw [nothing] at isColumn
    cases isColumn
  case itemNameOf_eq =>
    intro postgres
    rw [trimmed, unaliased.itemNameOf_of_expression notAliased, expressionName,
      plainColumn?_joinDots components component]
    dsimp only
    rw [nameOf, component.written.unquote_eq]

/-- An expression with an alias has the name of the alias. -/
theorem isReadAs_aliased
    {expression : List Char}
    (closed : IsClosed expression)
    (written : Written name text)
    (notAs : text.map Char.toUpper ≠ "AS".toList) :
    IsReadAs name (expression ++ (" AS ".toList ++ text)) := by
  -- Blanks in front go, the one before AS with them if there is nothing else.
  rcases exists_blanks_append (expression ++ [' ']) with ⟨gap, front, isSplit, gapBlank, begins⟩
  have item :
      expression ++ (" AS ".toList ++ text) = gap ++ (front ++ ("AS ".toList ++ text)) := by
    calc
      expression ++ (" AS ".toList ++ text) = (expression ++ [' ']) ++ ("AS ".toList ++ text) := by
        rw [List.append_assoc]
        rfl
      _ = gap ++ (front ++ ("AS ".toList ++ text)) := by rw [isSplit, List.append_assoc]
  have frontClosed : IsClosed front := by
    have whole : IsClosed (gap ++ front) := isSplit ▸ closed.append isClosed_blank
    exact whole.of_append (isClosed_of_isBlank gapBlank)
  have wordClosed : IsClosed "AS ".toList := rfl
  have separate : Separated front ("AS ".toList ++ text) := by
    refine Or.inl fun last isLast => ?_
    have same := congrArg List.getLast? isSplit
    rw [List.getLast?_append, List.getLast?_append, Option.mem_def.1 isLast] at same
    obtain rfl : ' ' = last := Option.some.inj same
    decide +kernel
  have trimmed :
      trimBlanks (expression ++ (" AS ".toList ++ text)) = front ++ ("AS ".toList ++ text) := by
    rw [item, trimBlanks_append_left gapBlank]
    refine trimBlanks_of_ends (fun first isFirst => ?_) fun last isLast => ?_
    · cases front with
      | nil =>
          cases isFirst
          decide
      | cons head rest => exact begins first isFirst
    · rw [← List.append_assoc] at isLast
      exact (written.ends_append _ isLast).1
  constructor
  case isClosed =>
    rw [item]
    exact
      (isClosed_of_isBlank gapBlank).append
        (frontClosed.append (wordClosed.append written.isClosed))
  case isVisible =>
    rw [trimmed]
    intro nothing
    cases (List.append_eq_nil_iff.1 nothing).2
  case itemNameOf_eq =>
    intro postgres
    rw [trimmed]
    exact written.itemNameOf_append notAs frontClosed separate postgres

theorem Entry.isReadAs (entry : Entry name item) : IsReadAs name item := by
  cases entry with
  | column components component unreserved =>
      exact isReadAs_joinDots components component unreserved
  | aliased closed written notAs => exact isReadAs_aliased closed written notAs

/-! ## Lists of entries -/

variable {entries : List (List Char × List Char)}

/-- A list of entries is taken apart into items with their names, in order. -/
theorem mapM_splitItems
    (listed : ∀ entry ∈ entries, IsListed entry.1 entry.2)
    {front back : List Char}
    (frontBlank : ∀ character ∈ front, isBlank character = true)
    (backBlank : ∀ character ∈ back, isBlank character = true)
    (postgres : Bool) :
    ((splitItems (front ++ (joinItems (entries.map Prod.snd) ++ back))).mapM fun item =>
        (itemNameOf postgres item).map String.ofList) =
      .ok (entries.map fun entry => outputName (String.ofList entry.1)) := by
  have isPiece : ∀ item ∈ entries.map Prod.snd, IsClosed item ∧ HasNoComma item := by
    intro item member
    rcases List.mem_map.1 member with ⟨entry, isEntry, rfl⟩
    exact ⟨(listed entry isEntry).entry.isReadAs.isClosed, (listed entry isEntry).hasNoComma⟩
  have full :
      ((entries.map Prod.snd).map trimBlanks).filter (fun item => !item.isEmpty) =
        (entries.map Prod.snd).map trimBlanks := by
    rw [List.filter_eq_self]
    intro item member
    rw [List.map_map] at member
    rcases List.mem_map.1 member with ⟨entry, isEntry, rfl⟩
    simpa using (listed entry isEntry).entry.isReadAs.isVisible
  rw [splitItems_joinItems isPiece (isClosed_of_isBlank frontBlank) frontBlank backBlank, full,
    List.map_map, mapM_eq_ok_iff, List.forall₂_map_left_iff, List.forall₂_map_right_iff,
    List.forall₂_same]
  intro entry isEntry
  rw [Function.comp_apply, (listed entry isEntry).entry.isReadAs.itemNameOf_eq, map_ok, outputName,
    String.toList_ofList]

theorem not_is_from_of_mem
    (listed : ∀ entry ∈ entries, IsListed entry.1 entry.2) :
    ∀ word ∈ topLevelWords (joinItems (entries.map Prod.snd)), word.is "FROM" = false := by
  intro word member
  have closed : ∀ item ∈ entries.map Prod.snd, IsClosed item := by
    intro item isItem
    rcases List.mem_map.1 isItem with ⟨entry, isEntry, rfl⟩
    exact (listed entry isEntry).entry.isReadAs.isClosed
  rcases exists_item_of_mem_topLevelWords closed member with ⟨item, isItem, own, isOwn, same⟩
  rcases List.mem_map.1 isItem with ⟨entry, isEntry, rfl⟩
  have isOther := (listed entry isEntry).hasNoFrom own isOwn
  rwa [Word.is, same] at isOther

theorem isClosed_joinItems_of_isListed
    (listed : ∀ entry ∈ entries, IsListed entry.1 entry.2) :
    IsClosed (joinItems (entries.map Prod.snd)) := by
  refine isClosed_joinItems fun item isItem => ?_
  rcases List.mem_map.1 isItem with ⟨entry, isEntry, rfl⟩
  exact (listed entry isEntry).entry.isReadAs.isClosed

/-- A statement whose select list has been found is read back as the names of its entries. -/
theorem outputNames_of_selectListOf
    (listed : ∀ entry ∈ entries, IsListed entry.1 entry.2)
    {front back characters : List Char}
    (frontBlank : ∀ character ∈ front, isBlank character = true)
    (backBlank : ∀ character ∈ back, isBlank character = true)
    (found :
      selectListOf characters = some (front ++ (joinItems (entries.map Prod.snd) ++ back)))
    (dialect : Option String) :
    outputNames dialect (String.ofList characters) =
      .ok (some (entries.map fun entry => outputName (String.ofList entry.1))) := by
  rw [outputNames, String.toList_ofList, found]
  dsimp only
  rw [mapM_splitItems listed frontBlank backBlank, map_ok]

/-- A statement is read back as the names of its entries after DISTINCT or ALL. -/
theorem outputNames_quantified
    (listed : ∀ entry ∈ entries, IsListed entry.1 entry.2)
    {gap quantifier front : List Char}
    (gapBlank : ∀ character ∈ gap, isBlank character = true)
    (gapNotEmpty : gap ≠ [])
    (isQuantifier : IsQuantifier quantifier)
    (frontBlank : ∀ character ∈ front, isBlank character = true)
    (begins :
      ∀ first ∈ (front ++ (joinItems (entries.map Prod.snd) ++ [' '])).head?,
        isWordCharacter first = false)
    (rest : List Char)
    (dialect : Option String) :
    outputNames dialect
        (String.ofList
          ("SELECT".toList
            ++ (gap ++ (quantifier ++ ((front ++ (joinItems (entries.map Prod.snd) ++ [' ']))
              ++ ("FROM".toList ++ ' ' :: rest)))))) =
      .ok (some (entries.map fun entry => outputName (String.ofList entry.1))) := by
  have ends : ∀ first ∈ (' ' :: rest).head?, isWordCharacter first = false := by
    intro first isFirst
    cases isFirst
    decide
  have frontClosed := isClosed_of_isBlank frontBlank
  have noFrom :
      ∀ word ∈ topLevelWords (front ++ joinItems (entries.map Prod.snd)),
        word.is "FROM" = false := by
    intro word member
    rw [topLevelWords_append frontClosed (separated_of_isBlank frontBlank _),
      topLevelWords_of_isBlank frontBlank, List.nil_append] at member
    rcases List.mem_map.1 member with ⟨unshifted, inList, rfl⟩
    rw [Word.is_shift, not_is_from_of_mem listed unshifted inList]
  refine outputNames_of_selectListOf listed frontBlank isBlank_of_mem_space ?_ dialect
  have isSplit :
      front ++ (joinItems (entries.map Prod.snd) ++ [' ']) =
        (front ++ joinItems (entries.map Prod.snd)) ++ [' '] :=
    (List.append_assoc _ _ _).symm
  rw [isSplit] at begins ⊢
  exact
    selectListOf_quantified gapBlank gapNotEmpty isQuantifier begins
      (frontClosed.append (isClosed_joinItems_of_isListed listed)) noFrom ends

/-- An entry that begins with DISTINCT or ALL gives the same name without this word. -/
theorem IsListed.exists_append
    (listed : IsListed name item)
    (starts : StartsWithQuantifier item) :
    ∃ gap quantifier rest : List Char,
      item = gap ++ (quantifier ++ rest) ∧
        (∀ character ∈ gap, isBlank character = true) ∧
          IsQuantifier quantifier ∧
            (∀ first ∈ rest.head?, isWordCharacter first = false) ∧ IsListed name rest := by
  rcases listed with ⟨entry, hasNoComma, hasNoFrom⟩
  cases entry with
  | column components component unreserved =>
      rcases starts with ⟨word, isFirst, keyword, -⟩
      have isOther {keyword : String} (isKeyword : keyword ∈ scannerWords) :
          word.is keyword = false :=
        is_eq_false_of_mem_joinDots components component unreserved
          (List.mem_of_mem_head? isFirst) isKeyword
      rw [isOther (by decide), isOther (by decide)] at keyword
      cases keyword
  | @aliased expression _ text closed written notAs =>
      rcases (startsWithQuantifier_of_alias closed starts).exists_append closed with
        ⟨gap, quantifier, operand, rfl, gapBlank, isQuantifier, begins, operandClosed⟩
      have frontClosed : IsClosed (gap ++ quantifier) :=
        (isClosed_of_isBlank gapBlank).append (scan_of_isName isQuantifier.isName).1
      have beginsAlso :
          ∀ first ∈ (operand ++ (" AS ".toList ++ text)).head?, isWordCharacter first = false := by
        intro first isFirst
        cases operand with
        | nil =>
            cases isFirst
            decide
        | cons head others => exact begins first isFirst
      have isSplit :
          gap ++ (quantifier ++ operand) ++ (" AS ".toList ++ text) =
            (gap ++ quantifier) ++ (operand ++ (" AS ".toList ++ text)) := by
        simp only [List.append_assoc]
      rw [isSplit] at hasNoComma hasNoFrom
      refine
        ⟨gap, quantifier, operand ++ (" AS ".toList ++ text), by rw [isSplit, List.append_assoc],
          gapBlank, isQuantifier, beginsAlso, .aliased operandClosed written notAs, ?_, ?_⟩
      · intro member
        refine hasNoComma ?_
        rw [frontClosed.marked_append]
        exact List.mem_append_right _ member
      · intro word member
        rw [topLevelWords_append frontClosed (Or.inr beginsAlso)] at hasNoFrom
        have isOther :=
          hasNoFrom (word.shift (gap ++ quantifier).length)
            (List.mem_append_right _ (List.mem_map_of_mem member))
        rwa [Word.is_shift] at isOther

theorem joinItems_append_cons (front item : List Char) (others : List (List Char)) :
    joinItems ((front ++ item) :: others) = front ++ joinItems (item :: others) := by
  cases others with
  | nil => simp [joinItems]
  | cons second rest => rw [joinItems_cons_cons, joinItems_cons_cons, List.append_assoc]

/-- A list that begins with DISTINCT or ALL loses this word to SELECT, but no name. -/
theorem outputNames_of_startsWithQuantifier
    (listed : ∀ entry ∈ entries, IsListed entry.1 entry.2)
    (starts : StartsWithQuantifier (joinItems (entries.map Prod.snd)))
    (rest : List Char)
    (dialect : Option String) :
    outputNames dialect
        (String.ofList
          ("SELECT ".toList
            ++ (joinItems (entries.map Prod.snd) ++ (" FROM ".toList ++ rest)))) =
      .ok (some (entries.map fun entry => outputName (String.ofList entry.1))) := by
  cases entries with
  | nil =>
      rcases starts with ⟨word, isFirst, -⟩
      rw [List.map_nil, joinItems, List.intercalate_nil, topLevelWords_nil] at isFirst
      cases isFirst
  | cons first others =>
      have firstListed := listed first List.mem_cons_self
      have firstStarts : StartsWithQuantifier first.2 := by
        by_contra notStarts
        exact
          not_startsWithQuantifier_joinItems firstListed.entry.isReadAs.isClosed notStarts starts
      rcases firstListed.exists_append firstStarts with
        ⟨gap, quantifier, operand, split, gapBlank, isQuantifier, begins, operandListed⟩
      have othersListed : ∀ entry ∈ (first.1, operand) :: others, IsListed entry.1 entry.2 :=
        List.forall_mem_cons.2
          ⟨operandListed, fun entry member => listed entry (List.mem_cons_of_mem first member)⟩
      have gapAlsoBlank : ∀ character ∈ ' ' :: gap, isBlank character = true :=
        List.forall_mem_cons.2 ⟨by decide, gapBlank⟩
      have beginsAlso :
          ∀ head ∈ ([] ++ (joinItems (((first.1, operand) :: others).map Prod.snd)
            ++ [' '])).head?, isWordCharacter head = false := by
        intro head isHead
        cases operand with
        | nil => exact absurd rfl operandListed.entry.isReadAs.isVisible
        | cons own more =>
            have isFirst :
                joinItems ((own :: more) :: others.map Prod.snd) =
                  own :: joinItems (more :: others.map Prod.snd) :=
              joinItems_append_cons [own] more (others.map Prod.snd)
            refine begins head ?_
            rwa [List.nil_append, List.map_cons, isFirst] at isHead
      have characters :
          "SELECT ".toList
              ++ (joinItems ((first :: others).map Prod.snd) ++ (" FROM ".toList ++ rest)) =
            "SELECT".toList
              ++ ((' ' :: gap) ++ (quantifier
                ++ (([] ++ (joinItems (((first.1, operand) :: others).map Prod.snd) ++ [' ']))
                  ++ ("FROM".toList ++ ' ' :: rest)))) := by
        rw [List.map_cons, split, joinItems_append_cons, joinItems_append_cons]
        simp
      rw [characters]
      exact
        outputNames_quantified othersListed gapAlsoBlank (by simp) isQuantifier (by simp) beginsAlso
          rest dialect

/--
The output names of a statement are those of the entries of its select list, in order, whatever
the expressions hide from the scanner and whatever follows the word FROM.
-/
theorem outputNames_of_isListed
    (listed : ∀ entry ∈ entries, IsListed entry.1 entry.2)
    {quantifier : List Char}
    (isQuantifier :
      quantifier = [] ∨ ∃ word, IsQuantifier word ∧ quantifier = word ++ [' '])
    (rest : List Char)
    (dialect : Option String) :
    outputNames dialect
        (String.ofList
          ("SELECT ".toList
            ++ (quantifier
              ++ (joinItems (entries.map Prod.snd) ++ (" FROM ".toList ++ rest))))) =
      .ok (some (entries.map fun entry => outputName (String.ofList entry.1))) := by
  have ends : ∀ first ∈ (' ' :: rest).head?, isWordCharacter first = false := by
    intro first isFirst
    cases isFirst
    decide
  rcases isQuantifier with rfl | ⟨word, isWord, rfl⟩
  · rw [List.nil_append]
    by_cases starts : StartsWithQuantifier (joinItems (entries.map Prod.snd))
    · exact outputNames_of_startsWithQuantifier listed starts rest dialect
    · have found :=
        selectListOf_select (isClosed_joinItems_of_isListed listed) (not_is_from_of_mem listed)
          starts ends
      have characters :
          "SELECT ".toList ++ (joinItems (entries.map Prod.snd) ++ (" FROM ".toList ++ rest)) =
            "SELECT".toList
              ++ (' ' :: (joinItems (entries.map Prod.snd) ++ [' '])
                ++ ("FROM".toList ++ ' ' :: rest)) := by
        simp
      rw [characters]
      exact
        outputNames_of_selectListOf listed isBlank_of_mem_space isBlank_of_mem_space found dialect
  · have begins :
        ∀ first ∈ ([' '] ++ (joinItems (entries.map Prod.snd) ++ [' '])).head?,
          isWordCharacter first = false := by
      intro first isFirst
      cases isFirst
      decide
    have characters :
        "SELECT ".toList
            ++ ((word ++ [' '])
              ++ (joinItems (entries.map Prod.snd) ++ (" FROM ".toList ++ rest))) =
          "SELECT".toList
            ++ ([' '] ++ (word ++ (([' '] ++ (joinItems (entries.map Prod.snd) ++ [' ']))
              ++ ("FROM".toList ++ ' ' :: rest)))) := by
      simp
    rw [characters]
    exact
      outputNames_quantified listed isBlank_of_mem_space (by simp) isWord isBlank_of_mem_space
        begins rest dialect

/-- A qualified column, a subquery and a text, with an alias that looks like more of the list. -/
def countEntries : List (List Char × List Char) :=
  [("id".toList, "u.\"id\"".toList),
    ("n".toList, "(SELECT count(*) FROM notes, tags AS t) AS n".toList),
    ("b, c AS".toList, " 'a FROM (' AS [b, c AS]".toList)]

theorem isListed_countEntries : ∀ entry ∈ countEntries, IsListed entry.1 entry.2 := by
  have qualified : ∀ qualifier ∈ ["u".toList], ∃ own, Component own qualifier :=
    List.forall_mem_singleton.2 ⟨"u".toList, .bare rfl⟩
  have identifier : Component "id".toList "\"id\"".toList :=
    .quoted (Or.inl rfl) (by decide) (by decide)
  have counts : IsClosed "(SELECT count(*) FROM notes, tags AS t)".toList := rfl
  have literal : IsClosed " 'a FROM ('".toList := rfl
  have enclosed : Written "b, c AS".toList "[b, c AS]".toList := .quoted rfl (by decide)
  rw [countEntries, List.forall_mem_cons, List.forall_mem_cons, List.forall_mem_singleton]
  refine ⟨⟨?_, ?_, ?_⟩, ⟨?_, ?_, ?_⟩, ⟨?_, ?_, ?_⟩⟩
  · exact .column qualified identifier (by decide)
  · decide
  · decide +kernel
  · exact .aliased counts (.bare rfl) (by decide)
  · decide
  · decide +kernel
  · exact .aliased literal enclosed (by decide)
  · decide
  · decide +kernel

/-- A statement is read back as its columns and aliases. -/
theorem outputNames_countEntries :
    (∀ entry ∈ countEntries, IsListed entry.1 entry.2) ∧
      outputNames (some "postgres")
          ("SELECT DISTINCT u.\"id\", (SELECT count(*) FROM notes, tags AS t) AS n,  'a FROM (' AS "
            ++ "[b, c AS] FROM users AS u") =
        .ok (some ["id", "n", "b, c AS"]) := by
  refine ⟨isListed_countEntries, ?_⟩
  have isDistinct : IsQuantifier "DISTINCT".toList := ⟨rfl, Or.inl rfl⟩
  exact
    outputNames_of_isListed isListed_countEntries (Or.inr ⟨_, isDistinct, rfl⟩)
      "users AS u".toList (some "postgres")

end SqlMapping.Query
